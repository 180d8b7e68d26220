/-!
# Blank characters and trimming

Two sets of blank characters are in use. `isWhite` is the Unicode property White_Space. `isBlank`
adds the four information separators U+001C to U+001F. Trimming removes a maximal run of such
characters at each end.
-/
namespace MockIssuer.Text

/-- The characters with the property White_Space. -/
def isWhite (c : Char) : Bool :=
  let code := c.toNat
  (0x09 ≤ code && code ≤ 0x0d) || code == 0x20 || code == 0x85 || code == 0xa0 || code == 0x1680 ||
    (0x2000 ≤ code && code ≤ 0x200a) || code == 0x2028 || code == 0x2029 || code == 0x202f ||
    code == 0x205f || code == 0x3000

/-- White space and the information separators. -/
def isBlank (c : Char) : Bool :=
  isWhite c || (0x1c ≤ c.toNat && c.toNat ≤ 0x1f)

/-- The text without its last characters that satisfy `p`. -/
def dropRightWhile (p : Char → Bool) (text : List Char) : List Char :=
  (text.reverse.dropWhile p).reverse

/-- The text without its first and last characters that satisfy `p`. -/
def trim (p : Char → Bool) (text : List Char) : List Char :=
  dropRightWhile p (text.dropWhile p)

/-- A text of blank characters only, such as the empty one. -/
def isBlankText (text : List Char) : Bool :=
  text.all isBlank

@[simp] theorem dropRightWhile_nil (p : Char → Bool) : dropRightWhile p [] = [] := rfl

@[simp] theorem dropRightWhile_append_singleton_of_pos {p : Char → Bool} {text : List Char}
    {c : Char} (h : p c = true) : dropRightWhile p (text ++ [c]) = dropRightWhile p text := by
  simp [dropRightWhile, h]

@[simp] theorem dropRightWhile_append_singleton_of_neg {p : Char → Bool} {text : List Char}
    {c : Char} (h : p c = false) : dropRightWhile p (text ++ [c]) = text ++ [c] := by
  simp [dropRightWhile, h]

end MockIssuer.Text
