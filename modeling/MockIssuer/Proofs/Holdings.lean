import MockIssuer.Proofs.HostStart

/-!
# Who holds what

Servers hold ports, and hosts have an entry module and a working area. Holdings are held in a world
if nothing in them is held twice and the world knows it all. An operation changes the holdings of
one object; it is sound if, whatever else is held, all is held again afterwards (`Preserves`). Such
operations can be put one after the other and done beside anything.
-/
namespace MockIssuer

/-- The entry module and the working area of a host. -/
structure Footprint where
  entry : Option ℕ
  area : Option Location

/-- Ports, and what hosts have besides. -/
structure Holdings where
  ports : List ℕ
  footprints : List Footprint

instance : Append Holdings where
  append first second := ⟨first.ports ++ second.ports, first.footprints ++ second.footprints⟩

/-- Nothing at all. -/
def Holdings.empty : Holdings := ⟨[], []⟩

namespace Footprint

/-- Whether a module belongs to a footprint. -/
def loads (footprint : Footprint) (module : LoadedModule) : Bool :=
  AppHost.isLoadedBy footprint.entry footprint.area module

lemma loads_iff {footprint : Footprint} {module : LoadedModule} :
    footprint.loads module = true ↔ (∃ number ∈ footprint.entry, module.name = .entry number) ∨
      ∃ area ∈ footprint.area, module.isBelow area = true := by
  simp [loads, AppHost.isLoadedBy, Option.any_eq_true]

/-- Entry modules and working areas that a world has made. -/
structure Known (world : World) (footprint : Footprint) : Prop where
  entry : ∀ number ∈ footprint.entry, number ≤ world.entries
  area : ∀ area ∈ footprint.area, ∃ number ≤ world.areas, area = AppHost.areaOf number

/-- Footprints of two hosts: neither has anything of the other, and no module belongs to both. -/
structure Apart (world : World) (first second : Footprint) : Prop where
  entry : ∀ number ∈ first.entry, number ∉ second.entry
  area : ∀ area ∈ first.area, area ∉ second.area
  modules : ∀ module ∈ world.modules, first.loads module = true → second.loads module = false

lemma Apart.symm {world : World} {first second : Footprint} (h : Apart world first second) :
    Apart world second first where
  entry number hs hf := h.entry number hf hs
  area area hs hf := h.area area hf hs
  modules module hm hs := by
    by_contra hf
    have hnot := h.modules module hm (by simpa using hf)
    rw [hs] at hnot
    cases hnot

end Footprint

namespace Holdings
variable {held after others : Holdings} {world world' : World}

lemma ports_append (first second : Holdings) :
    (first ++ second).ports = first.ports ++ second.ports := rfl

lemma footprints_append (first second : Holdings) :
    (first ++ second).footprints = first.footprints ++ second.footprints := rfl

lemma append_empty (held : Holdings) : held ++ empty = held := by
  change Holdings.mk _ _ = held
  simp only [empty, List.append_nil]

lemma append_assoc (first second third : Holdings) :
    first ++ second ++ third = first ++ (second ++ third) := by
  change Holdings.mk _ _ = Holdings.mk _ _
  simp only [ports_append, footprints_append, List.append_assoc]

/-- What is held by someone: each port by one server, each footprint by one host. -/
structure Held (world : World) (holdings : Holdings) : Prop where
  nodup : holdings.ports.Nodup
  bound : ∀ port ∈ holdings.ports, port ∈ world.bound
  known : ∀ footprint ∈ holdings.footprints, footprint.Known world
  apart : holdings.footprints.Pairwise (Footprint.Apart world)

lemma Held.of_perm (h : held.Held world) (hp : held.ports.Perm others.ports)
    (hf : held.footprints.Perm others.footprints) : others.Held world where
  nodup := hp.nodup_iff.1 h.nodup
  bound port hport := h.bound port (hp.mem_iff.2 hport)
  known footprint hfoot := h.known footprint (hf.mem_iff.2 hfoot)
  apart := (hf.pairwise_iff Footprint.Apart.symm).1 h.apart

lemma Held.right (h : (held ++ others).Held world) : others.Held world where
  nodup := (List.nodup_append.1 h.nodup).2.1
  bound port hport := h.bound port (List.mem_append_right _ hport)
  known footprint hfoot := h.known footprint (List.mem_append_right _ hfoot)
  apart := (List.pairwise_append.1 h.apart).2.1

/-- An operation on an object that held `held` and holds `after` then, done in a sound world: the
world stays sound, and what others hold is held beside it as before. -/
structure Preserves (held : Holdings) (world : World) (after : Holdings) (world' : World) :
    Prop where
  sound : world'.Sound
  frame : ∀ others, (held ++ others).Held world → (after ++ others).Held world'

namespace Preserves

lemma refl (hs : world.Sound) : Preserves held world held world := ⟨hs, fun _ h => h⟩

lemma trans {last : Holdings} {world'' : World} (h : Preserves held world after world')
    (hh : Preserves after world' last world'') : Preserves held world last world'' :=
  ⟨hh.sound, fun others hheld => hh.frame others (h.frame others hheld)⟩

lemma append_right (h : Preserves held world after world') (more : Holdings) :
    Preserves (held ++ more) world (after ++ more) world' := by
  refine ⟨h.sound, fun others hheld => ?_⟩
  rw [append_assoc] at hheld ⊢
  exact h.frame _ hheld

lemma append_left (h : Preserves held world after world') (more : Holdings) :
    Preserves (more ++ held) world (more ++ after) world' := by
  refine ⟨h.sound, fun others hheld => ?_⟩
  have hfront : (held ++ (more ++ others)).Held world := by
    refine hheld.of_perm ?_ ?_
    · simpa only [ports_append, List.append_assoc] using List.perm_append_comm_assoc _ _ _
    · simpa only [footprints_append, List.append_assoc] using List.perm_append_comm_assoc _ _ _
  refine (h.frame _ hfront).of_perm ?_ ?_
  · simpa only [ports_append, List.append_assoc] using List.perm_append_comm_assoc _ _ _
  · simpa only [footprints_append, List.append_assoc] using List.perm_append_comm_assoc _ _ _

lemma drop (hs : world.Sound) (held : Holdings) : Preserves held world empty world :=
  ⟨hs, fun _ hheld => hheld.right⟩

end Preserves

/-- Ports are handed over: whatever others hold beside the first ones stays beside the others. -/
def Rebinds (ports : List ℕ) (world : World) (ports' : List ℕ) (world' : World) : Prop :=
  ∀ others : List ℕ, (ports ++ others).Nodup → (∀ port ∈ ports ++ others, port ∈ world.bound) →
    (ports' ++ others).Nodup ∧ ∀ port ∈ ports' ++ others, port ∈ world'.bound

lemma rebinds_refl (ports : List ℕ) (hb : world'.bound = world.bound) :
    Rebinds ports world ports world' := by
  intro others hn hall
  rw [hb]
  exact ⟨hn, hall⟩

lemma rebinds_bind {port : ℕ} (hp : port ∉ world.bound)
    (hb : world'.bound = world.bound ++ [port]) :
    Rebinds [] world [port] world' := by
  intro others hn hall
  rw [List.nil_append] at hn hall
  refine ⟨List.nodup_cons.2 ⟨fun hmem => hp (hall port hmem), hn⟩, fun other ho => ?_⟩
  rw [hb]
  rcases List.mem_cons.1 ho with rfl | ho
  · exact List.mem_append_right _ (List.mem_singleton_self _)
  · exact List.mem_append_left _ (hall other ho)

lemma rebinds_release {ports : List ℕ} (hb : world'.bound = (world.releaseAll ports).bound) :
    Rebinds ports world [] world' := by
  intro others hn hall
  obtain ⟨-, hothers, hapart⟩ := List.nodup_append.1 hn
  refine ⟨hothers, fun other ho => ?_⟩
  rw [hb, World.mem_bound_releaseAll]
  exact ⟨hall other (List.mem_append_right _ ho), fun hp => hapart other hp other ho rfl⟩

namespace Preserves

lemma of_rebinds {ports ports' : List ℕ} {footprints : List Footprint} (hs : world'.Sound)
    (ha : world'.areas = world.areas) (he : world'.entries = world.entries)
    (hm : world'.modules = world.modules) (hr : Rebinds ports world ports' world') :
    Preserves ⟨ports, footprints⟩ world ⟨ports', footprints⟩ world' := by
  refine ⟨hs, fun others h => ?_⟩
  obtain ⟨hnodup, hbound⟩ := hr others.ports h.nodup h.bound
  refine ⟨hnodup, hbound, fun footprint hf => ?_, h.apart.imp fun {first second} hap => ?_⟩
  · have hknown := h.known footprint hf
    exact ⟨by rw [he]; exact hknown.entry, by rw [ha]; exact hknown.area⟩
  · exact ⟨hap.entry, hap.area, by rw [hm]; exact hap.modules⟩

lemma of_empty (hs : world.Sound) : Preserves empty world ⟨[], [⟨none, none⟩]⟩ world := by
  refine ⟨hs, fun others h => ?_⟩
  refine ⟨h.nodup, h.bound, fun footprint hf => ?_,
    List.pairwise_cons.2 ⟨fun other _ => ?_, h.apart⟩⟩
  · rcases List.mem_cons.1 hf with rfl | hf
    · exact ⟨fun number hn => (by cases hn), fun area ha => (by cases ha)⟩
    · exact h.known footprint hf
  · refine ⟨fun number hn => (by cases hn), fun area ha => (by cases ha), fun module _ hl => ?_⟩
    rcases Footprint.loads_iff.1 hl with ⟨_, hn, -⟩ | ⟨_, ha, -⟩
    · cases hn
    · cases ha

lemma of_sameState (hs : world.Sound) (h : world.SameState world') :
    Preserves held world held world' := by
  obtain ⟨log, rfl⟩ := h
  exact of_rebinds ⟨hs.files, hs.modules, hs.entries⟩ rfl rfl rfl (rebinds_refl _ rfl)

lemma sameState (h : Preserves held world after world') {last : World}
    (hs : world'.SameState last) : Preserves held world after last :=
  h.trans (of_sameState h.sound hs)

lemma emit (h : Preserves held world after world') (level : Log.Level) (name : String)
    (fields : Json.Fields) : Preserves held world after (world'.emit level name fields) :=
  h.sameState ((World.SameState.refl world').emit level name fields)

end Preserves

/-- A module that was not there before: one under its own name, or a new entry module in a new
working area. -/
inductive IsNew (world : World) (module : LoadedModule) : Prop where
  | sibling (text : String) (hn : module.name = .named text)
  | entry (number area : ℕ) (hn : module.name = .entry number) (hnumber : world.entries < number)
    (harea : world.areas < area) (hb : module.isBelow (AppHost.areaOf area) = true)

/-- What an operation of a host may do: its footprint becomes less or gets what is new, and modules
go or are new. -/
structure Moves (before : Footprint) (world : World) (after : Footprint) (world' : World) :
    Prop where
  sound : world'.Sound
  areas : world.areas ≤ world'.areas
  entries : world.entries ≤ world'.entries
  entry : ∀ number ∈ after.entry, number ∈ before.entry ∨
    world.entries < number ∧ number ≤ world'.entries
  area : ∀ area ∈ after.area, area ∈ before.area ∨
    ∃ number, world.areas < number ∧ number ≤ world'.areas ∧ area = AppHost.areaOf number
  modules : ∀ module ∈ world'.modules, module ∈ world.modules ∨ IsNew world module

/-- A new module belongs to a known footprint through its working area only, and has a name of its
own. -/
lemma IsNew.of_loads {module : LoadedModule} {footprint : Footprint} (h : IsNew world module)
    (hk : footprint.Known world) (hl : footprint.loads module = true) :
    (∃ text, module.name = .named text) ∧ ∃ area ∈ footprint.area, module.isBelow area = true := by
  cases h with
  | sibling text hn =>
    refine ⟨⟨text, hn⟩, ?_⟩
    rcases Footprint.loads_iff.1 hl with ⟨number, -, hname⟩ | harea
    · rw [hn] at hname
      cases hname
    · exact harea
  | entry number area hn hnumber harea hb =>
    exfalso
    rcases Footprint.loads_iff.1 hl with ⟨other, ho, hname⟩ | ⟨other, ho, hbelow⟩
    · obtain rfl : number = other := by
        rw [hn] at hname
        injection hname
      have hle := hk.entry number ho
      omega
    · obtain ⟨known, hle, rfl⟩ := hk.area other ho
      have heq := LoadedModule.eq_of_isBelow hb hbelow
      omega

namespace Moves
variable {before made : Footprint}

lemma refl (hs : world.Sound) : Moves before world before world :=
  ⟨hs, le_rfl, le_rfl, fun _ hn => Or.inl hn, fun _ ha => Or.inl ha, fun _ hm => Or.inl hm⟩

lemma mono (h : Moves before world made world') {less : Footprint} {last : World}
    (hs : last.Sound) (ha : last.areas = world'.areas) (he : last.entries = world'.entries)
    (hm : ∀ module ∈ last.modules, module ∈ world'.modules)
    (hentry : ∀ number ∈ less.entry, number ∈ made.entry)
    (harea : ∀ area ∈ less.area, area ∈ made.area) : Moves before world less last := by
  refine ⟨hs, by rw [ha]; exact h.areas, by rw [he]; exact h.entries, fun number hn => ?_,
    fun area ho => ?_, fun module hmodule => h.modules module (hm module hmodule)⟩
  · rw [he]
    exact h.entry number (hentry number hn)
  · rw [ha]
    exact h.area area (harea area ho)

lemma known_of_known (h : Moves before world made world') {footprint : Footprint}
    (hk : footprint.Known world) : footprint.Known world' where
  entry number hn := (hk.entry number hn).trans h.entries
  area area ha := by
    obtain ⟨number, hle, he⟩ := hk.area area ha
    exact ⟨number, hle.trans h.areas, he⟩

lemma known (h : Moves before world made world') (hk : before.Known world) : made.Known world' where
  entry number hn := by
    rcases h.entry number hn with ho | ⟨-, hle⟩
    · exact (hk.entry number ho).trans h.entries
    · exact hle
  area area ha := by
    rcases h.area area ha with ho | ⟨number, -, hle, he⟩
    · obtain ⟨number, hle, he⟩ := hk.area area ho
      exact ⟨number, hle.trans h.areas, he⟩
    · exact ⟨number, hle, he⟩

lemma apart_of_known (h : Moves before world made world') {first second : Footprint}
    (hf : first.Known world) (hs : second.Known world) (hap : first.Apart world second) :
    first.Apart world' second := by
  refine ⟨hap.entry, hap.area, fun module hm hl => ?_⟩
  rcases h.modules module hm with hold | hnew
  · exact hap.modules module hold hl
  · by_contra hother
    rw [Bool.not_eq_false] at hother
    obtain ⟨-, area, ha, hb⟩ := hnew.of_loads hf hl
    obtain ⟨-, area', ha', hb'⟩ := hnew.of_loads hs hother
    obtain ⟨number, -, rfl⟩ := hf.area area ha
    obtain ⟨number', -, rfl⟩ := hs.area area' ha'
    obtain rfl := LoadedModule.eq_of_isBelow hb hb'
    exact hap.area _ ha ha'

lemma apart (h : Moves before world made world') (hs : world.Sound) {other : Footprint}
    (hb : before.Known world) (ho : other.Known world) (hap : before.Apart world other) :
    made.Apart world' other := by
  refine ⟨fun number hn hno => ?_, fun area ha hao => ?_, fun module hm hl => ?_⟩
  · rcases h.entry number hn with hold | ⟨hlt, -⟩
    · exact hap.entry number hold hno
    · have hle := ho.entry number hno
      omega
  · rcases h.area area ha with hold | ⟨number, hlt, -, rfl⟩
    · exact hap.area area hold hao
    · obtain ⟨known, hle, he⟩ := ho.area _ hao
      have heq := AppHost.areaOf_injective he
      omega
  · by_contra hother
    rw [Bool.not_eq_false] at hother
    rcases h.modules module hm with hold | hnew
    · -- An old module of the new footprint is one of the old footprint.
      refine absurd hother ?_
      rw [Bool.not_eq_true]
      refine hap.modules module hold (Footprint.loads_iff.2 ?_)
      rcases Footprint.loads_iff.1 hl with ⟨number, hn, hname⟩ | ⟨area, ha, hbelow⟩
      · rcases h.entry number hn with hentry | ⟨hlt, -⟩
        · exact Or.inl ⟨number, hentry, hname⟩
        · have hle := hs.entries module hold number hname
          omega
      · rcases h.area area ha with harea | ⟨number, hlt, -, rfl⟩
        · exact Or.inr ⟨area, harea, hbelow⟩
        · have hle := hs.modules module hold number hbelow
          omega
    · obtain ⟨⟨text, hname⟩, area', ha', hb'⟩ := hnew.of_loads ho hother
      obtain ⟨known, hle, rfl⟩ := ho.area area' ha'
      rcases Footprint.loads_iff.1 hl with ⟨number, -, hentry⟩ | ⟨area, ha, hbelow⟩
      · rw [hname] at hentry
        cases hentry
      · rcases h.area area ha with harea | ⟨number, hlt, -, rfl⟩
        · obtain ⟨number, -, rfl⟩ := hb.area area harea
          obtain rfl := LoadedModule.eq_of_isBelow hbelow hb'
          exact hap.area _ harea ha'
        · have heq := LoadedModule.eq_of_isBelow hbelow hb'
          omega

/-- An operation of a host preserves what others hold. -/
theorem preserves (h : Moves before world made world') (hs : world.Sound) {ports ports' : List ℕ}
    (hr : Rebinds ports world ports' world') :
    Preserves ⟨ports, [before]⟩ world ⟨ports', [made]⟩ world' := by
  refine ⟨h.sound, fun others hheld => ?_⟩
  obtain ⟨hnodup, hbound⟩ := hr others.ports hheld.nodup hheld.bound
  obtain ⟨hfirst, hrest⟩ := List.pairwise_cons.1 hheld.apart
  have hknown : before.Known world := hheld.known before List.mem_cons_self
  have hothers (footprint : Footprint) (hf : footprint ∈ others.footprints) :
      footprint.Known world := hheld.known footprint (List.mem_cons_of_mem _ hf)
  refine ⟨hnodup, hbound, fun footprint hf => ?_, List.pairwise_cons.2 ⟨fun other ho => ?_, ?_⟩⟩
  · rcases List.mem_cons.1 hf with rfl | hf
    · exact h.known hknown
    · exact h.known_of_known (hothers footprint hf)
  · exact h.apart hs hknown (hothers other ho) (hfirst other ho)
  · exact hrest.imp_of_mem fun hf hsecond hap =>
      h.apart_of_known (hothers _ hf) (hothers _ hsecond) hap

end Moves

end Holdings

end MockIssuer
