/-!
# Bytes and big-endian numbers

Numbers as runs of bytes, most significant first, in a width that is given or in the least width
that holds them.
-/
namespace MockIssuer

abbrev Bytes := List UInt8

namespace Bytes

/-- The last `width` bytes of a number. -/
def ofNat : Nat → Nat → Bytes
  | 0, _ => []
  | width + 1, n => ofNat width (n / 256) ++ [(n % 256).toUInt8]

/-- The number that the bytes stand for. -/
def toNat (bytes : Bytes) : Nat :=
  bytes.foldl (fun n b => 256 * n + b.toNat) 0

/-- The least width, at least one, that holds a number. -/
def width (n : Nat) : Nat := n.log2 / 8 + 1

@[simp] theorem length_ofNat (width n : Nat) : (ofNat width n).length = width := by
  induction width generalizing n with
  | zero => rfl
  | succ width ih => simp [ofNat, ih]

theorem toNat_append_singleton (bytes : Bytes) (b : UInt8) :
    toNat (bytes ++ [b]) = 256 * toNat bytes + b.toNat := by
  simp [toNat]

/-- The bytes of an ASCII text. -/
def ofAscii (text : String) : Bytes :=
  text.toList.map fun c => c.toNat.toUInt8

/-- The characters whose code points are the bytes. -/
def toChars (bytes : Bytes) : List Char :=
  bytes.map fun b => Char.ofNat b.toNat

end Bytes

end MockIssuer
