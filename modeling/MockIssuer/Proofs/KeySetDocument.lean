import MockIssuer.KeySet
import MockIssuer.Proofs.Base64
import MockIssuer.Proofs.JsonText

/-!
# Reading the published key set

The document is a template in which two texts are put as they are, the second one also where its
mark stands in the first. A key id of plain characters leaves a document with one entry, which names
the key id with that mark replaced (`parse?_documentOf_namedKeyId`); a key id that does not hold the
mark is named itself (`parse?_documentOf`).
-/
namespace MockIssuer.KeySet

/-- A text whose characters stand for themselves in a JSON string. -/
def IsPlain (text : List Char) : Prop :=
  ∀ c ∈ text, c ≠ '"' ∧ c ≠ '\\' ∧ 0x20 ≤ c.toNat

lemma IsPlain.flatMap_escapeChar {text : List Char} (hp : IsPlain text) :
    text.flatMap (Json.escapeChar false) = text := by
  induction text with
  | nil => rfl
  | cons c rest ih =>
    obtain ⟨hq, hb, hc⟩ := hp c List.mem_cons_self
    have he : Json.escapeChar false c = [c] := by
      have h1 : c ≠ '\n' := by
        rintro rfl
        exact absurd hc (by decide)
      have h2 : c ≠ '\r' := by
        rintro rfl
        exact absurd hc (by decide)
      have h3 : c ≠ '\t' := by
        rintro rfl
        exact absurd hc (by decide)
      have h4 : c.toNat ≠ 8 := by omega
      have h5 : c.toNat ≠ 12 := by omega
      have h6 : ¬ c.toNat < 0x20 := by omega
      simp [Json.escapeChar, hq, hb, h1, h2, h3, h4, h5, h6]
    rw [List.flatMap_cons, he, ih fun d hd => hp d (List.mem_cons_of_mem c hd)]
    rfl

section Replace
variable {old new : List Char}

lemma replace_self_append (hn : old ≠ []) (rest : List Char) :
    replace old new (old ++ rest) = new ++ replace old new rest := by
  have hskip (skipped : List Char) :
      replaceFrom old new skipped.length (skipped ++ rest) = replaceFrom old new 0 rest := by
    induction skipped with
    | nil => rfl
    | cons c skipped ih => simpa [replaceFrom] using ih
  obtain ⟨c, tail, rfl⟩ := List.exists_cons_of_ne_nil hn
  have hp : (c :: tail).isPrefixOf (c :: (tail ++ rest)) = true := by simp
  rw [List.cons_append, replace, replaceFrom, if_pos hp]
  simp only [List.length_cons, Nat.add_sub_cancel, hskip]
  rfl

/-- What is looked for does not reach over a character that is not in it. -/
lemma isPrefixOf_append_cons {c : Char} (hc : c ∉ old) (text rest : List Char) :
    old.isPrefixOf (text ++ c :: rest) = old.isPrefixOf text := by
  rw [Bool.eq_iff_iff, List.isPrefixOf_iff_prefix, List.isPrefixOf_iff_prefix]
  constructor
  · intro h
    have hmore : text ++ [c] <+: text ++ c :: rest := by simp
    rcases List.prefix_or_prefix_of_prefix h hmore with hh | hh
    · rcases List.prefix_concat_iff.mp hh with rfl | hh
      · simp at hc
      · exact hh
    · exact absurd (hh.subset (by simp)) hc
  · exact fun h => h.trans (List.prefix_append _ _)

lemma replaceFrom_append_cons {c : Char} (hc : c ∉ old) (rest : List Char) {skip : ℕ}
    {text : List Char} (hs : skip ≤ text.length) :
    replaceFrom old new skip (text ++ c :: rest) =
      replaceFrom old new skip text ++ replaceFrom old new 0 (c :: rest) := by
  induction text generalizing skip with
  | nil =>
    obtain rfl : skip = 0 := by simpa using hs
    simp [replaceFrom]
  | cons d text ih =>
    cases skip with
    | succ skip =>
      rw [List.cons_append, replaceFrom, replaceFrom]
      exact ih (by simpa using hs)
    | zero =>
      have hsame := isPrefixOf_append_cons hc (d :: text) rest
      rw [List.cons_append] at hsame
      rw [List.cons_append, replaceFrom, replaceFrom, hsame]
      by_cases hp : old.isPrefixOf (d :: text) = true
      · have hlength := (List.isPrefixOf_iff_prefix.1 hp).length_le
        rw [List.length_cons] at hlength
        rw [if_pos hp, if_pos hp, ih (by omega), List.append_assoc]
      · rw [if_neg hp, if_neg hp, ih (by omega), List.cons_append]

lemma replace_append_cons {c : Char} (hc : c ∉ old) (text rest : List Char) :
    replace old new (text ++ c :: rest) = replace old new text ++ replace old new (c :: rest) :=
  replaceFrom_append_cons hc rest (Nat.zero_le _)

lemma replace_eq_self {text : List Char} (ht : ¬ old <:+: text) : replace old new text = text := by
  induction text with
  | nil => rfl
  | cons d text ih =>
    have htail : ¬ old <:+: text := fun h => ht (h.trans (List.suffix_cons d text).isInfix)
    have hp : ¬ old.isPrefixOf (d :: text) = true :=
      fun h => ht (List.isPrefixOf_iff_prefix.1 h).isInfix
    rw [replace, replaceFrom, if_neg hp]
    exact congrArg (d :: ·) (ih htail)

lemma IsPlain.replaceFrom {text : List Char} (ht : IsPlain text) (hn : IsPlain new) (skip : ℕ) :
    IsPlain (replaceFrom old new skip text) := by
  induction text generalizing skip with
  | nil => exact fun c hc => by simp [KeySet.replaceFrom] at hc
  | cons d text ih =>
    have htail : IsPlain text := fun c hc => ht c (List.mem_cons_of_mem d hc)
    cases skip with
    | succ skip =>
      rw [KeySet.replaceFrom]
      exact ih htail skip
    | zero =>
      rw [KeySet.replaceFrom]
      split_ifs
      · intro c hc
        rcases List.mem_append.1 hc with hc | hc
        · exact hn c hc
        · exact ih htail _ c hc
      · intro c hc
        rcases List.mem_cons.1 hc with rfl | hc
        · exact ht c List.mem_cons_self
        · exact ih htail 0 c hc

lemma IsPlain.replace {text : List Char} (ht : IsPlain text) (hn : IsPlain new) :
    IsPlain (replace old new text) := ht.replaceFrom hn 0

lemma replace_append {c : Char} {tail text : List Char} (ht : c ∉ text) (rest : List Char) :
    replace (c :: tail) new (text ++ rest) = text ++ replace (c :: tail) new rest := by
  induction text with
  | nil => rfl
  | cons d text ih =>
    simp only [List.mem_cons, not_or] at ht
    have hp : (c :: tail).isPrefixOf (d :: (text ++ rest)) = false := by
      simp [List.isPrefixOf, ht.1]
    rw [List.cons_append, replace, replaceFrom, hp]
    exact congrArg (d :: ·) (ih ht.2)

end Replace

/-- A field of the entry as it stands in the document. -/
def fieldText (name value : String) : List Char :=
  Json.stringText false name.toList ++ [':', ' '] ++ Json.stringText false value.toList

/-- The line break between two fields of the entry. -/
def margin : List Char := ['\n', ' ', ' ', ' ', ' ', ' ', ' ']

/-- The document in front of the key id. -/
def beforeKeyId : String :=
  "\x7b\n  \"keys\": [\n    \x7b\n      \"kty\": \"RSA\",\n      \"use\": \"sig\",\n" ++
  "      \"kid\": \""

/-- The document between the key id and the public key. -/
def betweenMarks : String :=
  "\",\n      \"alg\": \"RS256\",\n      \"value\": \"-----BEGIN PUBLIC KEY-----\\n"

/-- The document behind the public key. -/
def afterPublicKey : String :=
  "\\n-----END PUBLIC KEY-----\"\n    \x7d\n  ]\n\x7d\n"

lemma toList_beforeKeyId : beforeKeyId.toList =
    ['{', '\n', ' ', ' '] ++ Json.stringText false "keys".toList ++
    [':', ' ', '[', '\n', ' ', ' ', ' ', ' '] ++ '{' :: margin ++ fieldText "kty" "RSA" ++
    ',' :: margin ++ fieldText "use" "sig" ++
    ',' :: margin ++ Json.stringText false "kid".toList ++ [':', ' ', '"'] := by
  rfl

lemma toList_betweenMarks : betweenMarks.toList =
    '"' :: ',' :: margin ++ fieldText "alg" "RS256" ++
    ',' :: margin ++ Json.stringText false "value".toList ++ [':', ' ', '"'] ++
    "-----BEGIN PUBLIC KEY-----\n".toList.flatMap (Json.escapeChar false) := by
  rfl

lemma toList_afterPublicKey : afterPublicKey.toList =
    "\n-----END PUBLIC KEY-----".toList.flatMap (Json.escapeChar false) ++
    ['"', '\n', ' ', ' ', ' ', ' ', '}', '\n', ' ', ' ', ']', '\n', '}', '\n'] := by
  rfl

lemma template_eq : template =
    beforeKeyId ++ keyIdMark ++ betweenMarks ++ publicKeyMark ++ afterPublicKey := by
  decide +kernel

/-- A key id as the document names it, with the public key in place of its mark. -/
def namedKeyId (keyId publicKey : String) : String :=
  String.ofList (replace publicKeyMark.toList publicKey.toList keyId.toList)

lemma namedKeyId_eq_self {keyId : String} (hk : ¬ publicKeyMark.toList <:+: keyId.toList)
    (publicKey : String) : namedKeyId keyId publicKey = keyId := by
  rw [namedKeyId, replace_eq_self hk, String.ofList_toList]

/-- The key id as it is named and the public key stand in the document as they are. -/
theorem documentOf_eq (keyId publicKey : String) :
    (documentOf keyId publicKey).toList = beforeKeyId.toList ++
      ((namedKeyId keyId publicKey).toList ++
        (betweenMarks.toList ++ (publicKey.toList ++ afterPublicKey.toList))) := by
  have hkid : keyIdMark.toList = '$' :: "kid".toList := by rfl
  have hpub : publicKeyMark.toList = '$' :: "public_key".toList := by rfl
  have hbefore : '$' ∉ beforeKeyId.toList := by
    rw [toList_beforeKeyId]
    decide
  have hbetween : '$' ∉ betweenMarks.toList := by
    rw [toList_betweenMarks]
    decide
  have hend (tail new : List Char) :
      replace ('$' :: tail) new afterPublicKey.toList = afterPublicKey.toList := by
    have hafter : '$' ∉ afterPublicKey.toList := by
      rw [toList_afterPublicKey]
      decide
    exact replace_eq_self fun h => hafter (h.subset List.mem_cons_self)
  have hother : replace keyIdMark.toList keyId.toList
      (publicKeyMark.toList ++ afterPublicKey.toList) =
        publicKeyMark.toList ++ afterPublicKey.toList := by
    have hno : ¬ keyIdMark.toList <:+: publicKeyMark.toList := by decide
    have hb : '\\' ∉ keyIdMark.toList := by decide
    obtain ⟨rest, hrest⟩ : ∃ rest, afterPublicKey.toList = '\\' :: rest :=
      ⟨_, toList_afterPublicKey⟩
    rw [hrest, replace_append_cons hb, replace_eq_self hno, ← hrest, hkid, hend]
  have hfirst : replace keyIdMark.toList keyId.toList template.toList = beforeKeyId.toList ++
      (keyId.toList ++
        (betweenMarks.toList ++ (publicKeyMark.toList ++ afterPublicKey.toList))) := by
    rw [template_eq]
    simp only [String.toList_append, List.append_assoc]
    rw [hkid, replace_append hbefore, ← hkid, replace_self_append (by rw [hkid]; simp), hkid,
      replace_append hbetween, ← hkid, hother]
  obtain ⟨rest, hrest⟩ : ∃ rest, betweenMarks.toList = '"' :: rest := ⟨_, toList_betweenMarks⟩
  have hq : '"' ∉ publicKeyMark.toList := by decide
  rw [documentOf, namedKeyId, String.toList_ofList, String.toList_ofList, hfirst, hpub,
    replace_append hbefore, ← hpub, hrest, List.cons_append, replace_append_cons hq,
    ← List.cons_append, ← hrest, hpub, replace_append hbetween, ← hpub,
    replace_self_append (by rw [hpub]; simp), hpub, hend]

/-- A public key between its two lines. -/
def armoured (publicKey : String) : String :=
  "-----BEGIN PUBLIC KEY-----\n" ++ publicKey ++ "\n-----END PUBLIC KEY-----"

/-- The entry of a key id and the text of a public key. -/
def entryOf (keyId publicKey : String) : Json :=
  .object [("kty", .string "RSA"), ("use", .string "sig"), ("kid", .string keyId),
    ("alg", .string "RS256"), ("value", .string (armoured publicKey))]

/-- The fields of the entry, from the first name on. -/
def entryFieldsText (keyId publicKey : String) : List Char :=
  fieldText "kty" "RSA" ++ ',' :: (margin ++ (fieldText "use" "sig" ++ ',' :: (margin ++
    (fieldText "kid" keyId ++ ',' :: (margin ++ (fieldText "alg" "RS256" ++ ',' :: (margin ++
      (fieldText "value" (armoured publicKey) ++ ['\n', ' ', ' ', ' ', ' ', '}']))))))))

/-- The entry as it stands in the document. -/
def entryText (keyId publicKey : String) : List Char :=
  '{' :: margin ++ entryFieldsText keyId publicKey

/-- The field of the document that holds its entry, from its name on. -/
def keysFieldText (entry : List Char) : List Char :=
  Json.stringText false "keys".toList ++
    [':', ' ', '[', '\n', ' ', ' ', ' ', ' '] ++ entry ++ ['\n', ' ', ' ', ']', '\n', '}', '\n']

/-- The document around its entry. -/
def documentText (entry : List Char) : List Char :=
  '{' :: '\n' :: ' ' :: ' ' :: keysFieldText entry

lemma toList_documentOf {keyId publicKey : String} (hkp : IsPlain keyId.toList)
    (hpp : IsPlain publicKey.toList) : (documentOf keyId publicKey).toList =
      documentText (entryText (namedKeyId keyId publicKey) publicKey) := by
  have hnamed : IsPlain (namedKeyId keyId publicKey).toList := by
    rw [namedKeyId, String.toList_ofList]
    exact hkp.replace hpp
  have hkid : fieldText "kid" (namedKeyId keyId publicKey) =
      Json.stringText false "kid".toList ++ [':', ' ', '"'] ++
        (namedKeyId keyId publicKey).toList ++ ['"'] := by
    simp [fieldText, Json.stringText, hnamed.flatMap_escapeChar]
  have hvalue : fieldText "value" (armoured publicKey) =
      Json.stringText false "value".toList ++ [':', ' ', '"'] ++
      "-----BEGIN PUBLIC KEY-----\n".toList.flatMap (Json.escapeChar false) ++ publicKey.toList ++
      "\n-----END PUBLIC KEY-----".toList.flatMap (Json.escapeChar false) ++ ['"'] := by
    have hlist : (armoured publicKey).toList = "-----BEGIN PUBLIC KEY-----\n".toList ++
        publicKey.toList ++ "\n-----END PUBLIC KEY-----".toList := by
      unfold armoured
      rw [String.toList_append, String.toList_append]
    rw [fieldText, Json.stringText, Json.stringText, hlist, List.flatMap_append,
      List.flatMap_append, hpp.flatMap_escapeChar]
    generalize "-----BEGIN PUBLIC KEY-----\n".toList.flatMap _ = opening
    generalize "\n-----END PUBLIC KEY-----".toList.flatMap _ = closing
    simp
  rw [documentOf_eq, toList_beforeKeyId, toList_betweenMarks, toList_afterPublicKey, documentText,
    keysFieldText, entryText, entryFieldsText, hkid, hvalue]
  simp only [List.append_assoc, List.cons_append, List.nil_append]

lemma skipSpace_margin (text : List Char) :
    Json.skipSpace (margin ++ text) = Json.skipSpace text := by
  simp [margin, Json.skipSpace]

lemma readFields_fieldText (name value : String) (known : Json.Fields) (fuel : ℕ)
    (rest : List Char) :
    Json.readFields (fuel + 2) known (fieldText name value ++ rest) =
      Json.readMoreFields (fuel + 1) (Json.upsert name (.string value) known) rest := by
  have hs : Json.skipSpace (' ' :: (Json.stringText false value.toList ++ rest)) =
      Json.stringText false value.toList ++ rest := by
    simp [Json.skipSpace, Json.stringText]
  have hread := Json.readValue_stringText fuel false value.toList rest
  rw [← hs, String.ofList_toList] at hread
  have hh := Json.readFields_field false name known hread
  simpa only [fieldText, List.append_assoc, List.cons_append, List.nil_append] using hh

lemma readFields_fieldText_comma (name value next item : String) (known : Json.Fields) (fuel : ℕ)
    (rest : List Char) :
    Json.readFields (fuel + 2) known
        (fieldText name value ++ (',' :: (margin ++ (fieldText next item ++ rest)))) =
      Json.readFields (fuel + 1) (Json.upsert name (.string value) known)
        (fieldText next item ++ rest) := by
  have hq : Json.skipSpace (fieldText next item ++ rest) = fieldText next item ++ rest :=
    Json.skipSpace_quote _
  rw [readFields_fieldText, Json.readMoreFields_comma, skipSpace_margin, hq]

lemma readFields_entryFieldsText (keyId publicKey : String) (fuel : ℕ) (rest : List Char) :
    Json.readFields (fuel + 6) [] (entryFieldsText keyId publicKey ++ rest) =
      some ((entryOf keyId publicKey).fields, rest) := by
  have hb (known : Json.Fields) : Json.readMoreFields (fuel + 1) known
      ('\n' :: ' ' :: ' ' :: ' ' :: ' ' :: '}' :: rest) = some (known, rest) := by
    simp [Json.readMoreFields, Json.skipSpace]
  simp only [entryFieldsText, List.append_assoc, List.cons_append, List.nil_append]
  rw [readFields_fieldText_comma, readFields_fieldText_comma, readFields_fieldText_comma,
    readFields_fieldText_comma, readFields_fieldText, hb]
  simp [Json.upsert, entryOf, Json.fields]

lemma readValue_entryText (keyId publicKey : String) (fuel : ℕ) (rest : List Char) :
    Json.readValue (fuel + 7) (entryText keyId publicKey ++ rest) =
      some (entryOf keyId publicKey, rest) := by
  have hq : Json.skipSpace (entryFieldsText keyId publicKey ++ rest) =
      entryFieldsText keyId publicKey ++ rest := Json.skipSpace_quote _
  simp only [entryText, List.cons_append, List.append_assoc, Json.readValue, skipSpace_margin, hq]
  split
  · next hb => simp [entryFieldsText, fieldText, Json.stringText] at hb
  · rw [readFields_entryFieldsText]
    rfl

lemma readFields_keysFieldText (keyId publicKey : String) (fuel : ℕ) :
    Json.readFields (fuel + 10) [] (keysFieldText (entryText keyId publicKey)) =
      some ([("keys", .array [entryOf keyId publicKey])], ['\n']) := by
  set tail : List Char := ['\n', ' ', ' ', ']', '\n', '}', '\n'] with htail
  have hitems : Json.readItems (fuel + 8) (entryText keyId publicKey ++ tail) =
      some ([entryOf keyId publicKey], ['\n', '}', '\n']) := by
    simp [Json.readItems, readValue_entryText, Json.skipSpace, htail]
  have hs : Json.skipSpace ('\n' :: ' ' :: ' ' :: ' ' :: ' ' ::
      (entryText keyId publicKey ++ tail)) = entryText keyId publicKey ++ tail := by
    simp [Json.skipSpace, entryText]
  have harray : Json.readValue (fuel + 9)
      ('[' :: '\n' :: ' ' :: ' ' :: ' ' :: ' ' :: (entryText keyId publicKey ++ tail)) =
        some (.array [entryOf keyId publicKey], ['\n', '}', '\n']) := by
    simp only [Json.readValue, hs]
    split
    · next hb => simp [entryText] at hb
    · rw [hitems]
      rfl
  have hb (text : List Char) : Json.skipSpace (' ' :: '[' :: text) = '[' :: text := by
    simp [Json.skipSpace]
  have he (known : Json.Fields) :
      Json.readMoreFields (fuel + 9) known ['\n', '}', '\n'] = some (known, ['\n']) := by
    simp [Json.readMoreFields, Json.skipSpace]
  rw [← hb] at harray
  have hh := Json.readFields_field false "keys" [] harray
  rw [he, Json.upsert] at hh
  simpa only [keysFieldText, htail, List.append_assoc, List.cons_append, List.nil_append] using hh

/-- The document of a key id of plain characters has one entry, for the key id as it is named. -/
theorem parse?_documentOf_namedKeyId {keyId publicKey : String} (hkp : IsPlain keyId.toList)
    (hpp : IsPlain publicKey.toList) :
    Json.parse? (documentOf keyId publicKey).toList =
      some (.object [("keys", .array [entryOf (namedKeyId keyId publicKey) publicKey])]) := by
  rw [toList_documentOf hkp hpp]
  generalize namedKeyId keyId publicKey = keyId
  obtain ⟨fuel, hfuel⟩ :
      ∃ fuel, (documentText (entryText keyId publicKey)).length + 1 = fuel + 11 := by
    have hlen : 10 ≤ (documentText (entryText keyId publicKey)).length := by
      simp only [documentText, keysFieldText, List.length_append, List.length_cons]
      omega
    exact ⟨(documentText (entryText keyId publicKey)).length - 10, by omega⟩
  have hobject (text : List Char) : Json.skipSpace ('{' :: text) = '{' :: text := by
    simp [Json.skipSpace]
  have hkeys : Json.skipSpace ('\n' :: ' ' :: ' ' :: keysFieldText (entryText keyId publicKey)) =
      keysFieldText (entryText keyId publicKey) := by
    simp only [keysFieldText, Json.stringText, List.cons_append]
    simp [Json.skipSpace]
  have hdocument : Json.readValue (fuel + 11) (documentText (entryText keyId publicKey)) =
      some (.object [("keys", .array [entryOf keyId publicKey])], ['\n']) := by
    simp only [documentText, Json.readValue, hkeys]
    split
    · next hb => simp [keysFieldText, Json.stringText] at hb
    · rw [readFields_keysFieldText]
      rfl
  have hspace : Json.skipSpace (documentText (entryText keyId publicKey)) =
      documentText (entryText keyId publicKey) := hobject _
  rw [Json.parse?, hfuel, hspace, hdocument]
  rfl

/-- The document of a key id of plain characters without the mark has one entry, for the key id. -/
theorem parse?_documentOf {keyId publicKey : String}
    (hk : ¬ publicKeyMark.toList <:+: keyId.toList) (hkp : IsPlain keyId.toList)
    (hpp : IsPlain publicKey.toList) :
    Json.parse? (documentOf keyId publicKey).toList =
      some (.object [("keys", .array [entryOf keyId publicKey])]) := by
  rw [parse?_documentOf_namedKeyId hkp hpp, namedKeyId_eq_self hk]

end MockIssuer.KeySet
