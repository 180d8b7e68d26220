import MockIssuer.Proofs.FrameRules

/-!
# Fleets

Any number of harnesses, hosts, mock servers and plain servers in one world. They join when they
like, act in any order, and the world around them changes too: its settings, its files outside the
working areas to come, the ports of others. Whatever has happened, no port, working area or entry
module is held twice (`Reachable.sound`).
-/
namespace MockIssuer

/-- One of those who act in a world. -/
inductive Party where
  | harness (harness : Harness)
  | host (host : AppHost)
  | mock (mock : MockServer)
  | server (server : BackgroundServer)

namespace Party

def holdings : Party → Holdings
  | .harness one => one.holdings
  | .host one => one.holdings
  | .mock one => one.holdings
  | .server one => one.holdings

/-- Making one of them, in a world that is left as another. -/
inductive Joins (world : World) : Party → World → Prop where
  | harness (service : Raw) (harness : Harness) (after : World)
    (h : Harness.new service world = (.ok harness, after)) : Joins world (.harness harness) after
  | host (entryModule appName : String) (host : Option String) :
    Joins world (.host { entryModule := entryModule, appName := appName, host := host }) world
  | mock (port : ℤ) (host : Option String) :
    Joins world (.mock (.new world.environment port host)) world
  | server (name : String) (port : ℤ) (host : Option String) :
    Joins world (.server (.new world.environment name port host)) world

/-- An act of one of them. -/
inductive Act (world : World) : Party → Party → World → Prop where
  | harness (harness after : Harness) (world' : World)
    (h : Harness.Act harness world after world') :
    Act world (.harness harness) (.harness after) world'
  | host (host after : AppHost) (world' : World) (h : AppHost.Act host world after world') :
    Act world (.host host) (.host after) world'
  | mock (mock after : MockServer) (world' : World) (h : MockServer.Act mock world after world') :
    Act world (.mock mock) (.mock after) world'
  | server (server after : BackgroundServer) (world' : World)
    (h : BackgroundServer.Act server world after world') :
    Act world (.server server) (.server after) world'

end Party

/-- A change of the world that is no act in it: it binds no port, makes no working area and loads no
module. -/
structure World.Changes (world after : World) : Prop where
  sound : after.Sound
  bound : after.bound = world.bound
  areas : after.areas = world.areas
  entries : after.entries = world.entries
  modules : after.modules = world.modules

/-- All who act in a world. -/
structure Fleet where
  world : World
  parties : List Party

namespace Fleet

/-- One step: someone joins, someone acts, or the world changes. -/
inductive Step : Fleet → Fleet → Prop where
  | join (world after : World) (parties : List Party) (party : Party)
    (h : party.Joins world after) : Step ⟨world, parties⟩ ⟨after, party :: parties⟩
  | act (world world' : World) (front back : List Party) (party after : Party)
    (h : Party.Act world party after world') :
    Step ⟨world, front ++ party :: back⟩ ⟨world', front ++ after :: back⟩
  | change (world after : World) (parties : List Party) (h : world.Changes after) :
    Step ⟨world, parties⟩ ⟨after, parties⟩

/-- A fleet that steps lead to from a sound world in which nobody is. -/
def Reachable (fleet : Fleet) : Prop :=
  ∃ world : World, world.Sound ∧ Relation.ReflTransGen Step ⟨world, []⟩ fleet

/-- All that is held by some parties. -/
def holdingsOf : List Party → Holdings
  | [] => .empty
  | party :: rest => party.holdings ++ holdingsOf rest

lemma holdingsOf_append (front back : List Party) :
    holdingsOf (front ++ back) = holdingsOf front ++ holdingsOf back := by
  induction front with
  | nil => rfl
  | cons party rest ih =>
    rw [List.cons_append, holdingsOf, ih, holdingsOf, Holdings.append_assoc]

/-- What holds of a fleet at any time: its world is sound, nothing is held twice in it, and its
harnesses are in order. -/
structure IsSound (fleet : Fleet) : Prop where
  world : fleet.world.Sound
  held : (holdingsOf fleet.parties).Held fleet.world
  harnesses : ∀ harness, .harness harness ∈ fleet.parties → harness.Consistent

end Fleet

lemma Harness.new_world (service : Raw) (world : World) :
    ∃ generated, (Harness.new service world).2 = { world with generated := generated } := by
  unfold Harness.new
  split
  · exact ⟨world.generated, rfl⟩
  · exact ⟨_, rfl⟩

namespace Party
open Holdings (Preserves)
variable {world world' : World} {party after : Party}

/-- Who joins holds nothing yet. -/
lemma Joins.preserves (hs : world.Sound) (h : party.Joins world world') :
    Preserves .empty world party.holdings world' := by
  cases h with
  | harness service harness _ hnew =>
    obtain ⟨config, keys, -, rfl⟩ := Harness.new_ok (congrArg Prod.fst hnew)
    obtain ⟨generated, hworld⟩ := Harness.new_world service world
    rw [hnew] at hworld
    obtain rfl : world' = { world with generated := generated } := hworld
    exact .of_rebinds ⟨hs.files, hs.modules, hs.entries⟩ rfl rfl rfl (Holdings.rebinds_refl _ rfl)
  | host => exact .of_empty hs
  | mock => exact .refl hs
  | server => exact .refl hs

lemma Joins.consistent {harness : Harness} (h : (Party.harness harness).Joins world world') :
    harness.Consistent := by
  cases h with
  | harness service _ _ hnew => exact Harness.consistent_of_new (congrArg Prod.fst hnew)

lemma Act.preserves (hc : ∀ harness, party = .harness harness → harness.Consistent)
    (hs : world.Sound) (h : Act world party after world') :
    Preserves party.holdings world after.holdings world' := by
  cases h with
  | harness harness after _ ha => exact ha.preserves (hc harness rfl) hs
  | host host after _ ha => exact ha.preserves hs
  | mock mock after _ ha => exact ha.preserves hs
  | server server after _ ha => exact ha.preserves hs

lemma Act.consistent (hc : ∀ harness, party = .harness harness → harness.Consistent)
    (h : Act world party after world') :
    ∀ harness, after = .harness harness → harness.Consistent := by
  rintro harness rfl
  cases h with
  | harness before _ _ ha => exact (hc before rfl).act ha

end Party

namespace Fleet
open Holdings (Preserves)
variable {fleet after : Fleet}

/-- Every step keeps the invariant. -/
theorem IsSound.step (hf : fleet.IsSound) (h : Step fleet after) : after.IsSound := by
  cases h with
  | join world last parties party hjoins =>
    have hp := (hjoins.preserves hf.world).append_right (holdingsOf parties)
    refine ⟨hp.sound, ?_, fun harness hmem => ?_⟩
    · have hheld := hp.frame .empty
      rw [Holdings.append_empty, Holdings.append_empty] at hheld
      exact hheld hf.held
    · rcases List.mem_cons.1 hmem with rfl | hmem
      · exact hjoins.consistent
      · exact hf.harnesses harness hmem
  | act world last front back party made hact =>
    have hc : ∀ harness, party = .harness harness → harness.Consistent := by
      rintro harness rfl
      exact hf.harnesses harness (by simp)
    have hp := ((hact.preserves hc hf.world).append_right (holdingsOf back)).append_left
      (holdingsOf front)
    refine ⟨hp.sound, ?_, fun harness hmem => ?_⟩
    · have hheld := hp.frame .empty
      rw [Holdings.append_empty, Holdings.append_empty] at hheld
      have hbefore := hf.held
      rw [holdingsOf_append, holdingsOf] at hbefore ⊢
      exact hheld hbefore
    · rcases List.mem_append.1 hmem with hfront | hmem
      · exact hf.harnesses harness (List.mem_append_left _ hfront)
      · rcases List.mem_cons.1 hmem with rfl | hback
        · exact hact.consistent hc harness rfl
        · exact hf.harnesses harness (List.mem_append_right _ (List.mem_cons_of_mem _ hback))
  | change world last parties hchange =>
    have hp : Preserves (holdingsOf parties) world (holdingsOf parties) last :=
      .of_rebinds hchange.sound hchange.areas hchange.entries hchange.modules
        (Holdings.rebinds_refl _ hchange.bound)
    refine ⟨hp.sound, ?_, hf.harnesses⟩
    have hheld := hp.frame .empty
    rw [Holdings.append_empty] at hheld
    exact hheld hf.held

/-- The invariant holds of every fleet that there can be. -/
theorem Reachable.sound (h : fleet.Reachable) : fleet.IsSound := by
  obtain ⟨world, hs, hsteps⟩ := h
  have hstart : IsSound ⟨world, []⟩ := by
    refine ⟨hs, ⟨List.nodup_nil, fun port hport => ?_, fun footprint hf => ?_, List.Pairwise.nil⟩,
      fun harness hmem => ?_⟩
    · cases hport
    · cases hf
    · cases hmem
  induction hsteps with
  | refl => exact hstart
  | tail _ hstep ih => exact ih.step hstep

end Fleet

end MockIssuer
