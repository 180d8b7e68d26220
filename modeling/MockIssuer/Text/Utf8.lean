import MockIssuer.Encoding.Bytes

/-!
# UTF-8

Characters as one to four bytes. Reading is total: every maximal part of an invalid sequence
becomes one replacement character. Only shortest forms of scalar values are valid, so the second
byte after E0, ED, F0 and F4 has a narrower range than other continuation bytes.
-/
namespace MockIssuer.Text

def encodeChar (c : Char) : Bytes :=
  let n := c.toNat
  if n < 0x80 then [n.toUInt8]
  else if n < 0x800 then [(0xc0 + n / 64).toUInt8, (0x80 + n % 64).toUInt8]
  else if n < 0x10000 then
    [(0xe0 + n / 4096).toUInt8, (0x80 + n / 64 % 64).toUInt8, (0x80 + n % 64).toUInt8]
  else
    [(0xf0 + n / 262144).toUInt8, (0x80 + n / 4096 % 64).toUInt8, (0x80 + n / 64 % 64).toUInt8,
      (0x80 + n % 64).toUInt8]

/-- The bytes of a text. -/
def encodeUtf8 (text : List Char) : Bytes :=
  text.flatMap encodeChar

@[simp] theorem encodeUtf8_append (a b : List Char) :
    encodeUtf8 (a ++ b) = encodeUtf8 a ++ encodeUtf8 b :=
  List.flatMap_append

def replacement : Char := Char.ofNat 0xfffd

def isContinuation (b : UInt8) : Bool :=
  0x80 ≤ b && b ≤ 0xbf

/-- Whether `b` may follow the first byte of a sequence. -/
def isSecond (first b : UInt8) : Bool :=
  isContinuation b &&
    (first != 0xe0 || 0xa0 ≤ b) && (first != 0xed || b ≤ 0x9f) &&
    (first != 0xf0 || 0x90 ≤ b) && (first != 0xf4 || b ≤ 0x8f)

/-- How many bytes follow the first byte of a sequence, and the bits that the first byte brings. -/
def lead? (first : UInt8) : Option (Nat × Nat) :=
  if first < 0x80 then some (0, first.toNat)
  else if 0xc2 ≤ first && first ≤ 0xdf then some (1, first.toNat - 0xc0)
  else if 0xe0 ≤ first && first ≤ 0xef then some (2, first.toNat - 0xe0)
  else if 0xf0 ≤ first && first ≤ 0xf4 then some (3, first.toNat - 0xf0)
  else none

/-- The valid bytes of the sequence that `first` opens, at most `count` of them. -/
def followers (first : UInt8) (count : Nat) (rest : Bytes) : Bytes :=
  match count, rest with
  | count + 1, b :: rest =>
    if isSecond first b then b :: (rest.take count).takeWhile isContinuation else []
  | _, _ => []

/-- The six low bits of each following byte behind the bits of the first. -/
def joinBits (bits : Nat) (tail : Bytes) : Char :=
  Char.ofNat (tail.foldl (fun n b => 64 * n + (b.toNat - 0x80)) bits)

/-- Reads UTF-8 after the first `skip` bytes. -/
def decodeSkipping (skip : Nat) (bytes : Bytes) : List Char :=
  match skip, bytes with
  | _, [] => []
  | skip + 1, _ :: rest => decodeSkipping skip rest
  | 0, first :: rest =>
    match lead? first with
    | none => replacement :: decodeSkipping 0 rest
    | some (count, bits) =>
      let tail := followers first count rest
      (if tail.length = count then joinBits bits tail else replacement) ::
        decodeSkipping tail.length rest

/-- Reads UTF-8, with a replacement character for each invalid part. -/
def decodeUtf8 (bytes : Bytes) : List Char :=
  decodeSkipping 0 bytes

end MockIssuer.Text
