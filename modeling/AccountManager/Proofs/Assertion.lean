import AccountManager.Assertion
import AccountManager.Proofs.Json.Record
import AccountManager.Proofs.Text.Base64Url

/-!
# Reading back an assertion

An assertion that was built is taken apart into what it was built from: the last tilde ends the
certificate, whatever that holds, because what follows it is made of base64 and points.
-/

namespace AccountManager

open Json

/-! ### The two documents -/

namespace AssertionHeader

def entries (header : AssertionHeader) : List (Entry AssertionHeader) :=
  [{ field := ⟨"alg", .text, true, fun value header => { header with alg := value }⟩
     data := header.alg
     written := writtenText header.alg
     value := .text header.alg
     hvalue := rfl
     hwritten := scansTo_text header.alg }]

theorem fits_entries (header : AssertionHeader) : shape.Fits header.entries where
  known entry hentry := by
    obtain rfl := List.mem_singleton.1 hentry
    rfl
  distinct := List.nodup_singleton _
  complete field hfield _ := by
    obtain rfl := List.mem_singleton.1 hfield
    exact List.mem_singleton_self _

theorem read_write (header : AssertionHeader) :
    shape.read (Utf8.encode header.write) = .ok header := by
  rw [write, Utf8.encode_ofList]
  exact header.fits_entries.read

end AssertionHeader

namespace AssertionPayload

def entries (payload : AssertionPayload) : List (Entry AssertionPayload) :=
  [{ field := ⟨"aud", .text, true, fun value payload => { payload with aud := value }⟩
     data := payload.aud
     written := writtenText payload.aud
     value := .text payload.aud
     hvalue := rfl
     hwritten := scansTo_text payload.aud },
   { field := ⟨"exp", .word "u64", true, fun value payload => { payload with exp := value }⟩
     data := payload.exp
     written := writtenWord payload.exp
     value := .number (.unsigned payload.exp)
     hvalue := rfl
     hwritten := scansTo_word payload.exp }]

theorem fits_entries (payload : AssertionPayload) : shape.Fits payload.entries where
  known entry hentry := by
    simp only [entries, List.mem_cons, List.not_mem_nil, or_false] at hentry
    rcases hentry with rfl | rfl <;> rfl
  distinct := (show ["aud", "exp"].Nodup by decide)
  complete field hfield _ := by
    simp only [shape, List.mem_cons, List.not_mem_nil, or_false] at hfield
    rcases hfield with rfl | rfl
    · exact List.mem_cons_self
    · exact List.mem_cons_of_mem _ List.mem_cons_self

theorem read_write (payload : AssertionPayload) :
    shape.read (Utf8.encode payload.write) = .ok payload := by
  rw [write, Utf8.encode_ofList]
  exact payload.fits_entries.read

end AssertionPayload

namespace Assertion

/-! ### The parts -/

def partOf (document : String) : List Char := Base64Url.encodeList (Utf8.encode document)

theorem not_mem_partOf (document : String) :
    '~' ∉ partOf document ∧ '.' ∉ partOf document :=
  Base64Url.not_mem_encodeList (Utf8.encode document)

theorem decodePart_partOf {α : Type} (shape : Shape α) (document : String) {record : α}
    (hread : shape.read (Utf8.encode document) = .ok record) :
    decodePart shape (partOf document) = .ok record := by
  have hdecode := Base64Url.decode_encode (Utf8.encode document)
  unfold decodePart partOf
  rw [← Base64Url.encode, hdecode]
  simp only [hread]
  rfl

/-- What is taken from a text that was joined from parts without the marks. -/
theorem parts?_joined (certificate : List Char) {header payload signature : List Char}
    (hheader : '~' ∉ header ∧ '.' ∉ header) (hpayload : '~' ∉ payload ∧ '.' ∉ payload)
    (hsignature : '~' ∉ signature ∧ '.' ∉ signature) :
    parts? (certificate ++ '~' :: ((header ++ '.' :: payload) ++ '.' :: signature)) =
      some (certificate, header, payload, signature) := by
  have hstatement : '~' ∉ (header ++ '.' :: payload) ++ '.' :: signature := by
    simp [hheader.1, hpayload.1, hsignature.1]
  unfold parts?
  rw [Text.splitLast?_append hstatement, Option.bind_eq_bind, Option.bind_some]
  dsimp only
  rw [Text.splitLast?_append hsignature.2, Option.bind_some]
  dsimp only
  rw [Text.splitFirst?_append hheader.2, Option.bind_some]

/-- An assertion that was built is read back. -/
theorem parse_build (certificate : String) (pair : KeyPair) (audience : String) (expiry : UInt64) :
    parse (build certificate pair audience expiry) =
      .ok ⟨certificate, ⟨algorithm⟩, ⟨audience, expiry⟩, signedTextOf audience expiry,
        pair.sign (Utf8.encode (signedTextOf audience expiry))⟩ := by
  have hheader := AssertionHeader.read_write ⟨algorithm⟩
  have hpayload := AssertionPayload.read_write ⟨audience, expiry⟩
  generalize hsignature : pair.sign (Utf8.encode (signedTextOf audience expiry)) = signature
  have hsigned : (signedTextOf audience expiry).toList =
      partOf (AssertionHeader.write ⟨algorithm⟩) ++
        '.' :: partOf (AssertionPayload.write ⟨audience, expiry⟩) := by
    simp [signedTextOf, encodePart, partOf, Base64Url.encode]
  have htext : (build certificate pair audience expiry).toList =
      certificate.toList ++ '~' :: ((partOf (AssertionHeader.write ⟨algorithm⟩) ++
        '.' :: partOf (AssertionPayload.write ⟨audience, expiry⟩)) ++
        '.' :: Base64Url.encodeList signature) := by
    change (certificate ++ "~" ++ signedTextOf audience expiry ++ "." ++
      Base64Url.encode (pair.sign (Utf8.encode (signedTextOf audience expiry)))).toList = _
    rw [hsignature, ← hsigned]
    simp [Base64Url.encode]
  have hsignatureRead : Base64Url.decode (String.ofList (Base64Url.encodeList signature)) =
      .ok signature := Base64Url.decode_encode signature
  unfold parse
  rw [htext, parts?_joined certificate.toList (not_mem_partOf _) (not_mem_partOf _)
    (Base64Url.not_mem_encodeList signature)]
  simp only [decodePart_partOf _ _ hheader, decodePart_partOf _ _ hpayload, hsignatureRead,
    ← hsigned, String.ofList_toList]
  rfl

theorem verify_signed (certificate : String) (payload : AssertionPayload) (signed : String)
    (signature : Bytes) (key : PublicKey) :
    verify ⟨certificate, ⟨algorithm⟩, payload, signed, signature⟩ key =
      key.verify (Utf8.encode signed) signature := by
  rfl

/-! ### The way there and back -/

/-- Whatever an assertion is built from comes back when it is read. If the public half of the pair
accepts what the pair signs, it accepts the assertion. -/
theorem built_assertions_are_read_back (certificate : String) (pair : KeyPair) (audience : String)
    (expiry : UInt64) :
    ∃ assertion, parse (build certificate pair audience expiry) = .ok assertion ∧
      assertion.certificate = certificate ∧ assertion.header.alg = "EdDSA" ∧
      assertion.payload.aud = audience ∧ assertion.payload.exp = expiry ∧
      (pair.publicKey.verify (Utf8.encode assertion.signedText)
          (pair.sign (Utf8.encode assertion.signedText)) = true →
        assertion.verify pair.publicKey = true) := by
  refine ⟨_, parse_build certificate pair audience expiry, rfl, rfl, rfl, rfl, fun haccepted => ?_⟩
  rw [verify_signed]
  exact haccepted

/-- A signature over a statement, worked out for one key. -/
theorem accepts_statement :
    (KeyPair.publicKey ⟨List.replicate 32 1⟩).verify
      (Utf8.encode (signedTextOf "https://example.com" 120000))
      (KeyPair.sign ⟨List.replicate 32 1⟩
        (Utf8.encode (signedTextOf "https://example.com" 120000))) = true := by
  decide +kernel

/-- A certificate with tildes and points in it comes back, and the assertion is accepted. -/
theorem awkward_certificate_is_read_back :
    ∃ assertion,
      parse (build "a~b.c.d~" ⟨List.replicate 32 1⟩ "https://example.com" 120000) =
        .ok assertion ∧
      assertion.certificate = "a~b.c.d~" ∧ assertion.payload = ⟨"https://example.com", 120000⟩ ∧
      assertion.verify (KeyPair.publicKey ⟨List.replicate 32 1⟩) = true := by
  obtain ⟨assertion, hparse, hcertificate, -, haudience, hexpiry, hverify⟩ :=
    built_assertions_are_read_back "a~b.c.d~" ⟨List.replicate 32 1⟩ "https://example.com" 120000
  obtain rfl := Except.ok.inj ((parse_build _ _ _ _).symm.trans hparse)
  exact ⟨_, hparse, hcertificate, rfl, hverify accepts_statement⟩

end Assertion

end AccountManager
