import Mathlib
import MockIssuer.Server.Mock

/-!
# Using a mock server

What can be done to a mock server besides starting and stopping it: stubs are registered and
requests are answered, in any order and in any world. Only a registration changes the table, and
only for its own method and path, so a stub stays in force until its method and path are registered
again (`find?_of_uses`).
-/
namespace MockIssuer.MockServer

/-- One use of a mock server. The stubs that it may register satisfy `allowed`. -/
inductive Use (allowed : Stub → Prop) : MockServer → MockServer → Prop where
  | register (mock : MockServer) (stub : Stub) (world : World) (h : allowed stub) :
    Use allowed mock (mock.register stub world).1
  | registerFields (mock : MockServer) (fields : Raw.Fields) (world : World)
    (h : ∀ stub, Stub.ofFields fields = .ok stub → allowed stub) :
    Use allowed mock (mock.registerFields fields world).self
  | resetRequests (mock : MockServer) : Use allowed mock mock.resetRequests
  | respond (mock : MockServer) (method path query : String) (world : World) :
    Use allowed mock (mock.respond method path query world).self
  | handle (mock : MockServer) (request : Http.Request) (world : World) :
    Use allowed mock (mock.handle request world).2.1

/-- Any number of uses. -/
abbrev Uses (allowed : Stub → Prop) : MockServer → MockServer → Prop :=
  Relation.ReflTransGen (Use allowed)

lemma respond_self (mock : MockServer) (method path query : String) (world : World) :
    (mock.respond method path query world).self.server = mock.server ∧
      (mock.respond method path query world).self.stubs = mock.stubs := by
  unfold respond
  simp only
  split <;> exact ⟨rfl, rfl⟩

lemma handle_self (mock : MockServer) (request : Http.Request) (world : World) :
    (mock.handle request world).2.1.server = mock.server ∧
      (mock.handle request world).2.1.stubs = mock.stubs := by
  unfold handle
  split
  · exact ⟨rfl, rfl⟩
  · exact ⟨rfl, rfl⟩
  · exact ⟨rfl, rfl⟩
  · exact respond_self mock _ _ _ world

lemma registerFields_self (mock : MockServer) (fields : Raw.Fields) (world : World) :
    (mock.registerFields fields world).self.server = mock.server ∧
      ((mock.registerFields fields world).self.stubs = mock.stubs ∨
        ∃ stub, Stub.ofFields fields = .ok stub ∧
          (mock.registerFields fields world).self.stubs = mock.stubs.register stub) := by
  unfold registerFields
  cases Stub.ofFields fields with
  | error violations => exact ⟨rfl, Or.inl rfl⟩
  | ok stub => exact ⟨rfl, Or.inr ⟨stub, rfl, rfl⟩⟩

/-- A use leaves the server itself alone, and adds at most one stub to the table. -/
lemma Use.cases_stubs {allowed : Stub → Prop} {mock after : MockServer}
    (h : Use allowed mock after) :
    after.server = mock.server ∧
      (after.stubs = mock.stubs ∨
        ∃ stub, allowed stub ∧ after.stubs = mock.stubs.register stub) := by
  cases h with
  | register stub world hs => exact ⟨rfl, Or.inr ⟨stub, hs, rfl⟩⟩
  | registerFields fields world hs =>
    rcases registerFields_self mock fields world with ⟨hserver, hstubs | ⟨stub, hf, hstubs⟩⟩
    · exact ⟨hserver, Or.inl hstubs⟩
    · exact ⟨hserver, Or.inr ⟨stub, hs stub hf, hstubs⟩⟩
  | resetRequests => exact ⟨rfl, Or.inl rfl⟩
  | respond method path query world =>
    obtain ⟨hserver, hstubs⟩ := respond_self mock method path query world
    exact ⟨hserver, Or.inl hstubs⟩
  | handle request world =>
    obtain ⟨hserver, hstubs⟩ := handle_self mock request world
    exact ⟨hserver, Or.inl hstubs⟩

/-- The stub for a method and a path stays in force while no other is registered for them. -/
theorem find?_of_uses {method path : String} {mock after : MockServer}
    (h : Uses (fun stub => stub.isFor method path = false) mock after) :
    after.stubs.find? method path = mock.stubs.find? method path := by
  induction h with
  | refl => rfl
  | tail _ hstep ih =>
    rcases hstep.cases_stubs with ⟨-, hstubs | ⟨stub, hother, hstubs⟩⟩
    · rw [hstubs, ih]
    · rw [hstubs, StubTable.find?_register, hother, ← ih]
      rfl

end MockIssuer.MockServer
