import AccountManager.Proofs.Assertion

/-!
# The texts of assertions

Which texts are read as assertions, and as which. A text is cut at its last tilde, and the statement
behind that at its points; none of these marks can stand in base64, so there is one way to cut it,
and what is signed is the statement as it stands in the text and not as it is understood.
-/

namespace AccountManager.Assertion

open Json

/-! ### Parts -/

/-- Whether a part of a statement is the canonical form of some bytes, which holds no mark. -/
structure Writes (part : String) (bytes : Bytes) : Prop where
  written : part = Base64Url.encode bytes
  canonical : Base64Url.Canonical part
  noTilde : '~' ∉ part.toList
  noPoint : '.' ∉ part.toList

/-- Whether a part of a statement is a document of a record. -/
def Documents {α : Type} (shape : Shape α) (part : String) (record : α) : Prop :=
  ∃ bytes, Writes part bytes ∧ shape.read bytes = .ok record

theorem decode_eq_ok_iff_writes {part : String} {bytes : Bytes} :
    Base64Url.decode part = .ok bytes ↔ Writes part bytes := by
  rw [Base64Url.decode_eq_ok_iff]
  constructor
  · rintro rfl
    have hmarks := Base64Url.not_mem_encodeList bytes
    rw [← String.toList_ofList (l := Base64Url.encodeList bytes)] at hmarks
    exact ⟨rfl, Base64Url.canonical_iff.2 ⟨bytes, rfl⟩, hmarks.1, hmarks.2⟩
  · exact Writes.written

theorem decodePart_eq_ok_iff {α : Type} {shape : Shape α} {part : List Char} {record : α} :
    decodePart shape part = .ok record ↔ Documents shape (String.ofList part) record := by
  unfold decodePart Documents
  simp only [← decode_eq_ok_iff_writes]
  cases Base64Url.decode (String.ofList part) with
  | error error => simp
  | ok bytes =>
    cases hread : shape.read bytes with
    | error error => simp [Except.mapError, hread]
    | ok read => simp [Except.mapError, hread]

theorem Documents.clear {α : Type} {shape : Shape α} {part : String} {record : α}
    (h : Documents shape part record) : '~' ∉ part.toList ∧ '.' ∉ part.toList := by
  obtain ⟨bytes, hwrites, -⟩ := h
  exact ⟨hwrites.noTilde, hwrites.noPoint⟩

/-- A text in four parts is those parts joined by their marks. -/
theorem of_parts?_eq_some {text certificate header payload signature : List Char}
    (hparts : parts? text = some (certificate, header, payload, signature)) :
    text = certificate ++ '~' :: ((header ++ '.' :: payload) ++ '.' :: signature) := by
  obtain ⟨⟨before, statement⟩, hcertificate, hparts⟩ := Option.bind_eq_some_iff.1 hparts
  obtain ⟨⟨signed, last⟩, hsignature, hparts⟩ := Option.bind_eq_some_iff.1 hparts
  obtain ⟨⟨first, middle⟩, hheader, hparts⟩ := Option.bind_eq_some_iff.1 hparts
  cases hparts
  rw [(Text.of_splitLast?_eq_some hcertificate).1, (Text.of_splitLast?_eq_some hsignature).1,
    (Text.of_splitFirst?_eq_some hheader).1]

/-! ### Whole texts -/

/-- How the text of an assertion is put together: a certificate that may be any text, and a
statement of three parts, of which the first two are what is signed. -/
structure Spells (text : String) (assertion : Assertion) (header payload signature : String) :
    Prop where
  joined : text = assertion.certificate ++ "~" ++ header ++ "." ++ payload ++ "." ++ signature
  signed : assertion.signedText = header ++ "." ++ payload
  header : Documents AssertionHeader.shape header assertion.header
  payload : Documents AssertionPayload.shape payload assertion.payload
  signature : Writes signature assertion.signature

variable {text other header payload signature : String} {assertion : Assertion}

theorem spells_of_parse (hparse : parse text = .ok assertion) :
    ∃ header payload signature, Spells text assertion header payload signature := by
  unfold parse at hparse
  split at hparse
  · cases hparse
  · rename_i certificate headerPart payloadPart signaturePart hparts
    obtain ⟨header, hheader, hparse⟩ := of_bind_eq_ok hparse
    obtain ⟨payload, hpayload, hparse⟩ := of_bind_eq_ok hparse
    split at hparse
    · cases hparse
    · rename_i signature hsignature
      cases hparse
      refine ⟨String.ofList headerPart, String.ofList payloadPart, String.ofList signaturePart,
        ?_, ?_, decodePart_eq_ok_iff.1 hheader, decodePart_eq_ok_iff.1 hpayload,
        decode_eq_ok_iff_writes.1 hsignature⟩
      · rw [← String.toList_inj, of_parts?_eq_some hparts]
        simp
      · rw [← String.toList_inj]
        simp

theorem Spells.parse (h : Spells text assertion header payload signature) :
    Assertion.parse text = .ok assertion := by
  have htext : text.toList = assertion.certificate.toList ++
      '~' :: ((header.toList ++ '.' :: payload.toList) ++ '.' :: signature.toList) := by
    rw [h.joined]
    simp
  have hheader : decodePart AssertionHeader.shape header.toList = .ok assertion.header :=
    decodePart_eq_ok_iff.2 (String.ofList_toList.symm ▸ h.header)
  have hpayload : decodePart AssertionPayload.shape payload.toList = .ok assertion.payload :=
    decodePart_eq_ok_iff.2 (String.ofList_toList.symm ▸ h.payload)
  have hsignature : Base64Url.decode signature = .ok assertion.signature :=
    decode_eq_ok_iff_writes.2 h.signature
  have hsigned : String.ofList (header.toList ++ '.' :: payload.toList) = assertion.signedText := by
    rw [h.signed, ← String.toList_inj]
    simp
  unfold Assertion.parse
  rw [htext, parts?_joined _ h.header.clear h.payload.clear
    ⟨h.signature.noTilde, h.signature.noPoint⟩]
  simp only [hheader, hpayload, String.ofList_toList, hsignature, hsigned]
  rfl

/-- What was read tells the text it was read from. -/
theorem Spells.text_eq (h : Spells text assertion header payload signature) :
    text = assertion.certificate ++ "~" ++ assertion.signedText ++ "." ++
      Base64Url.encode assertion.signature := by
  rw [h.joined, h.signed, h.signature.written]
  simp only [String.append_assoc]

/-- A text is read as an assertion exactly if it is put together like one, and as the one that it
is put together from. Its signature is checked over the statement as it stands there, and no other
text is read as the same assertion. -/
theorem texts_are_read_exactly (text : String) :
    (∀ assertion, parse text = .ok assertion ↔
      ∃ header payload signature, Spells text assertion header payload signature) ∧
    (∀ assertion header payload signature, Spells text assertion header payload signature →
      ∀ key, assertion.verify key = (assertion.header.alg = algorithm &&
        key.verify (Utf8.encode (header ++ "." ++ payload)) assertion.signature)) ∧
    ∀ other assertion, parse text = .ok assertion → parse other = .ok assertion →
      other = text := by
  refine ⟨fun assertion => ⟨spells_of_parse, ?_⟩, ?_, fun other assertion hparse hother => ?_⟩
  · rintro ⟨header, payload, signature, hspells⟩
    exact hspells.parse
  · intro assertion header payload signature hspells key
    rw [verify, hspells.signed]
  · obtain ⟨_, _, _, hspells⟩ := spells_of_parse hparse
    obtain ⟨_, _, _, hotherSpells⟩ := spells_of_parse hother
    rw [hspells.text_eq, hotherSpells.text_eq]

/-- A certificate may look like an assertion itself. -/
theorem nested_text_is_read :
    ∃ text assertion header payload signature,
      parse text = .ok assertion ∧ Spells text assertion header payload signature ∧
        assertion.certificate = "a~b.c.d" ∧
        (∀ key, assertion.verify key =
          key.verify (Utf8.encode (header ++ "." ++ payload)) assertion.signature) ∧
        ∀ other, parse other = .ok assertion → other = text := by
  have hparse := parse_build "a~b.c.d" ⟨List.replicate 32 1⟩ "https://example.com" 300000
  obtain ⟨hreads, hverifies, halone⟩ :=
    texts_are_read_exactly (build "a~b.c.d" ⟨List.replicate 32 1⟩ "https://example.com" 300000)
  obtain ⟨header, payload, signature, hspells⟩ := (hreads _).1 hparse
  exact ⟨_, _, header, payload, signature, hparse, hspells, rfl,
    hverifies _ header payload signature hspells, fun other => halone other _ hparse⟩

end AccountManager.Assertion
