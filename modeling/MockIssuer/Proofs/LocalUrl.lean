import MockIssuer.Http.Url
import MockIssuer.Proofs.BaseUrls

/-!
# Addresses on this machine

The base URL of a server is text without blanks that ends in the digits of its port. So endpoints at
that address are the address and a fixed path behind it, and reading the path of such a URL gives
back what was put behind the port.
-/
namespace MockIssuer

namespace Http

lemma isDigit_of_mem_natText {n : ℕ} {c : Char} (hc : c ∈ Number.natText n) : c.isDigit = true :=
  Nat.isDigit_of_mem_toDigits (by omega) (by omega) hc

lemma toList_localUrl (port : ℕ) : (localUrl port).toList =
    'h' :: 't' :: 't' :: 'p' :: ':' :: '/' :: '/' ::
      (['l', 'o', 'c', 'a', 'l', 'h', 'o', 's', 't', ':'] ++ Number.natText port) := by
  unfold localUrl
  rw [String.toList_append, String.toList_ofList, String.toList_ofList]
  rfl

lemma isDropped_localUrl {port : ℕ} {c : Char} (hc : c ∈ (localUrl port).toList) :
    isDropped c = false := by
  rw [toList_localUrl, ← List.cons_append, ← List.cons_append, ← List.cons_append,
    ← List.cons_append, ← List.cons_append, ← List.cons_append, ← List.cons_append] at hc
  rcases List.mem_append.mp hc with hc | hc
  · have hall : ∀ d ∈ ['h', 't', 't', 'p', ':', '/', '/', 'l', 'o', 'c', 'a', 'l', 'h', 'o', 's',
        't', ':'], isDropped d = false := by simp [isDropped]
    exact hall c hc
  · have hdigit := isDigit_of_mem_natText hc
    simp only [isDropped, Bool.or_eq_false_iff, beq_eq_false_iff_ne]
    refine ⟨⟨?_, ?_⟩, ?_⟩ <;> rintro rfl <;> exact absurd hdigit (by decide)

lemma pathOf_localUrl (port : ℕ) {path : List Char} (hd : ∀ c ∈ path, isDropped c = false)
    (hp : ∀ c ∈ path, c ≠ '?' ∧ c ≠ '#') :
    pathOf ((localUrl port).toList ++ '/' :: path) = '/' :: path := by
  have hshown : (((localUrl port).toList ++ '/' :: path).dropWhile (·.toNat ≤ 0x20)).filter
      (!isDropped ·) = (localUrl port).toList ++ '/' :: path := by
    have hfirst : ((localUrl port).toList ++ '/' :: path).dropWhile (·.toNat ≤ 0x20) =
        (localUrl port).toList ++ '/' :: path := by
      rw [toList_localUrl, List.cons_append, List.dropWhile_cons_of_neg (by decide)]
    rw [hfirst, List.filter_eq_self]
    intro c hc
    rw [Bool.not_eq_true']
    rcases List.mem_append.mp hc with hc | hc
    · exact isDropped_localUrl hc
    rcases List.mem_cons.mp hc with rfl | hc
    · decide
    · exact hd c hc
  have hscheme : afterScheme ((localUrl port).toList ++ '/' :: path) = '/' :: '/' ::
      (['l', 'o', 'c', 'a', 'l', 'h', 'o', 's', 't', ':'] ++
        (Number.natText port ++ '/' :: path)) := by
    rw [toList_localUrl, afterScheme, List.span_eq_takeWhile_dropWhile]
    simp [isSchemeChar]
  have hauthority : (['l', 'o', 'c', 'a', 'l', 'h', 'o', 's', 't', ':'] ++
      (Number.natText port ++ '/' :: path)).dropWhile (!endsAuthority ·) = '/' :: path := by
    have hstart : ∀ c ∈ ['l', 'o', 'c', 'a', 'l', 'h', 'o', 's', 't', ':'],
        (!endsAuthority c) = true := by simp [endsAuthority]
    have hport : ∀ c ∈ Number.natText port, (!endsAuthority c) = true := by
      intro c hc
      have hdigit := isDigit_of_mem_natText hc
      simp only [endsAuthority, Bool.not_eq_true', Bool.or_eq_false_iff, beq_eq_false_iff_ne]
      refine ⟨⟨?_, ?_⟩, ?_⟩ <;> rintro rfl <;> exact absurd hdigit (by decide)
    rw [List.dropWhile_append_of_pos hstart, List.dropWhile_append_of_pos hport]
    simp [endsAuthority]
  have hpath : ('/' :: path).takeWhile (fun c => c != '?' && c != '#') = '/' :: path := by
    rw [List.takeWhile_eq_self_iff]
    intro c hc
    rcases List.mem_cons.mp hc with rfl | hc
    · decide
    · obtain ⟨hq, hh⟩ := hp c hc
      simp [hq, hh]
  simp only [pathOf, hshown, hscheme, afterAuthority, hauthority, hpath]

end Http

namespace Endpoints

/-- The address ends in a digit, so there are no slashes to take away. -/
lemma isBase_localUrl (port : ℕ) : IsBase (localUrl port) := by
  intro hlast
  have hne : Number.natText port ≠ [] := Nat.toDigits_ne_nil
  rw [localUrl, String.toList_append, String.toList_ofList, String.toList_ofList,
    List.getLast?_append_of_ne_nil _ hne] at hlast
  exact absurd (Http.isDigit_of_mem_natText (List.mem_of_getLast? hlast)) (by decide)

lemma resolve_localUrl {service : Service} {port : ℕ} {endpoints : Endpoints}
    (h : resolve service (localUrl port) = .ok endpoints) :
    endpoints = below (localUrl port) := by
  cases service with
  | xsuaa =>
    rw [(resolve_eq_ok_iff.1 h).2, stripSlashes_of_isBase (isBase_localUrl port)]
  | ias => cases h

/-- The key set of a server on this machine is at the path of the key set. -/
lemma pathOf_jwksUri (port : ℕ) :
    String.ofList (Http.pathOf (below (localUrl port)).jwksUri.toList) = tokenKeysPath := by
  have hpath : tokenKeysPath.toList =
      '/' :: ['t', 'o', 'k', 'e', 'n', '_', 'k', 'e', 'y', 's'] := by
    decide +kernel
  have hjwks : (below (localUrl port)).jwksUri.toList =
      (localUrl port).toList ++ tokenKeysPath.toList := String.toList_append
  rw [hjwks, hpath, Http.pathOf_localUrl port (by simp [Http.isDropped]) (by simp), ← hpath,
    String.ofList_toList]

end Endpoints

end MockIssuer
