import MockIssuer.Encoding.Bytes

/-!
# Base64

Three bytes as four characters of one of two alphabets, with or without padding. Reading is strict:
it takes exactly the texts that writing produces, so bits that no byte uses must be zero.
-/
namespace MockIssuer.Base64

/-- The last two characters of an alphabet. -/
structure Alphabet where
  plus : Char
  slash : Char

def Alphabet.standard : Alphabet := ⟨'+', '/'⟩

/-- The alphabet for URLs and file names. -/
def Alphabet.url : Alphabet := ⟨'-', '_'⟩

/-- The character of six bits. -/
def character (alphabet : Alphabet) (n : Nat) : Char :=
  if n < 26 then Char.ofNat (0x41 + n)
  else if n < 52 then Char.ofNat (0x47 + n)
  else if n < 62 then Char.ofNat (n - 4)
  else if n = 62 then alphabet.plus
  else alphabet.slash

/-- The six bits of a character. -/
def value? (alphabet : Alphabet) (c : Char) : Option Nat :=
  if 'A' ≤ c ∧ c ≤ 'Z' then some (c.toNat - 0x41)
  else if 'a' ≤ c ∧ c ≤ 'z' then some (c.toNat - 0x47)
  else if '0' ≤ c ∧ c ≤ '9' then some (c.toNat + 4)
  else if c = alphabet.plus then some 62
  else if c = alphabet.slash then some 63
  else none

/-- The text of some bytes, without padding. -/
def encodeBare (alphabet : Alphabet) : Bytes → List Char
  | [] => []
  | [a] =>
    let n := a.toNat * 16
    [character alphabet (n / 64), character alphabet (n % 64)]
  | [a, b] =>
    let n := (a.toNat * 256 + b.toNat) * 4
    [character alphabet (n / 4096), character alphabet (n / 64 % 64), character alphabet (n % 64)]
  | a :: b :: c :: rest =>
    let n := (a.toNat * 256 + b.toNat) * 256 + c.toNat
    character alphabet (n / 262144) :: character alphabet (n / 4096 % 64) ::
      character alphabet (n / 64 % 64) :: character alphabet (n % 64) :: encodeBare alphabet rest

/-- The text of some bytes, padded to a multiple of four characters. -/
def encode (alphabet : Alphabet) (bytes : Bytes) : List Char :=
  let text := encodeBare alphabet bytes
  text ++ List.replicate ((4 - text.length % 4) % 4) '='

/-- The bytes of a text without padding. -/
def decodeBare? (alphabet : Alphabet) : List Char → Option Bytes
  | [] => some []
  | [_] => none
  | [a, b] => do
    let n := (← value? alphabet a) * 64 + (← value? alphabet b)
    if n % 16 = 0 then some [(n / 16).toUInt8] else none
  | [a, b, c] => do
    let n := ((← value? alphabet a) * 64 + (← value? alphabet b)) * 64 + (← value? alphabet c)
    if n % 4 = 0 then some [(n / 1024).toUInt8, (n / 4 % 256).toUInt8] else none
  | a :: b :: c :: d :: rest => do
    let n := (((← value? alphabet a) * 64 + (← value? alphabet b)) * 64 + (← value? alphabet c)) * 64
      + (← value? alphabet d)
    let bytes ← decodeBare? alphabet rest
    some ((n / 65536).toUInt8 :: (n / 256 % 256).toUInt8 :: (n % 256).toUInt8 :: bytes)

/-- The text without the padding at its end, of which there are at most two characters. -/
def dropPadding : List Char → List Char
  | [] => []
  | ['='] => []
  | ['=', '='] => []
  | c :: rest => c :: dropPadding rest

/-- The bytes of a padded text. -/
def decode? (alphabet : Alphabet) (text : List Char) : Option Bytes :=
  if text.length % 4 = 0 then decodeBare? alphabet (dropPadding text) else none

end MockIssuer.Base64
