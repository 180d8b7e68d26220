import MockIssuer.Encoding.Bytes

/-!
# Distinguished encoding

Tagged elements with a length and contents. Writers build an element from its contents; readers
take one off the front of some bytes and answer the rest. A length or a number has one form only,
the shortest, and readers refuse all others.
-/
namespace MockIssuer.Der

def integerTag : UInt8 := 0x02
def bitStringTag : UInt8 := 0x03
def octetStringTag : UInt8 := 0x04
def nullTag : UInt8 := 0x05
def objectIdTag : UInt8 := 0x06
def sequenceTag : UInt8 := 0x30

/-- The length in front of contents: one byte below 128, else a count of bytes and the bytes. -/
def lengthBytes (n : Nat) : Bytes :=
  if n < 0x80 then [n.toUInt8]
  else
    let width := Bytes.width n
    (0x80 + width).toUInt8 :: Bytes.ofNat width n

def element (tag : UInt8) (contents : Bytes) : Bytes :=
  tag :: lengthBytes contents.length ++ contents

/-- The contents of a natural number, with a zero in front where the sign bit would be set. -/
def naturalContents (n : Nat) : Bytes :=
  Bytes.ofNat ((n.log2 + 1) / 8 + 1) n

def natural (n : Nat) : Bytes :=
  element integerTag (naturalContents n)

def sequence (contents : List Bytes) : Bytes :=
  element sequenceTag contents.flatten

def octetString (contents : Bytes) : Bytes :=
  element octetStringTag contents

/-- A bit string of whole bytes. -/
def bitString (contents : Bytes) : Bytes :=
  element bitStringTag (0 :: contents)

def objectId (contents : Bytes) : Bytes :=
  element objectIdTag contents

def null : Bytes :=
  element nullTag []

/-- The length at the front, and the rest. -/
def readLength? : Bytes → Option (Nat × Bytes)
  | [] => none
  | first :: rest =>
    if first < 0x80 then some (first.toNat, rest)
    else
      let width := first.toNat - 0x80
      let n := Bytes.toNat (rest.take width)
      if lengthBytes n = first :: rest.take width then some (n, rest.drop width) else none

/-- The tag and the contents of the element at the front, and the rest. -/
def readElement? : Bytes → Option (UInt8 × Bytes × Bytes)
  | [] => none
  | tag :: rest =>
    match readLength? rest with
    | some (n, rest) =>
      if n ≤ rest.length then some (tag, rest.take n, rest.drop n) else none
    | none => none

/-- The contents of an element with a given tag at the front, and the rest. -/
def readTagged? (tag : UInt8) (bytes : Bytes) : Option (Bytes × Bytes) :=
  match readElement? bytes with
  | some (found, contents, rest) => if found = tag then some (contents, rest) else none
  | none => none

/-- The contents of an element with a given tag that is all there is. -/
def readWhole? (tag : UInt8) (bytes : Bytes) : Option Bytes :=
  match readTagged? tag bytes with
  | some (contents, []) => some contents
  | _ => none

/-- The natural number at the front, and the rest. -/
def readNatural? (bytes : Bytes) : Option (Nat × Bytes) :=
  match readTagged? integerTag bytes with
  | some (contents, rest) =>
    let n := Bytes.toNat contents
    if naturalContents n = contents then some (n, rest) else none
  | none => none

/-- As many natural numbers as asked for, and nothing else. -/
def readNaturals? : Nat → Bytes → Option (List Nat)
  | 0, bytes => if bytes.isEmpty then some [] else none
  | count + 1, bytes => do
    let (n, rest) ← readNatural? bytes
    let others ← readNaturals? count rest
    some (n :: others)

/-- Whether the bytes are a run of elements with one tag. -/
def areAllTagged (tag : UInt8) : Nat → Bytes → Bool
  | _, [] => true
  | 0, _ => false
  | fuel + 1, bytes =>
    match readTagged? tag bytes with
    | some (_, rest) => areAllTagged tag fuel rest
    | none => false

end MockIssuer.Der
