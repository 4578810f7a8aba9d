import AccountManager.KeyPair
import AccountManager.Proofs.Json.Record
import AccountManager.Proofs.Results
import AccountManager.Proofs.Text.Base64Url

/-!
# The documents of public keys

Which documents are read as public keys, and as which. A key is its bytes and not the point they
stand for, and there is one base64 text for some bytes: so a key tells the text it was read from,
also where several texts stand for one point.
-/

namespace AccountManager

open Json

/-! ### Bytes of points -/

namespace Ed25519

theorem length_littleEndian (size value : Nat) : (littleEndian size value).length = size := by
  induction size generalizing value with
  | zero => rfl
  | succ size ih => rw [littleEndian, List.length_cons, ih]

theorem length_publicBytes (secret : Bytes) : (publicBytes secret).length = 32 :=
  length_littleEndian 32 _

end Ed25519

namespace PublicKey

variable {text other : String} {key otherKey : PublicKey} {sent otherSent : Sent}

/-! ### The two fields -/

namespace Sent

def entries (sent : Sent) : List (Entry Sent) :=
  [{ field := ⟨"algorithm", .text, true, fun value sent => { sent with algorithm := value }⟩
     data := sent.algorithm
     written := writtenText sent.algorithm
     value := .text sent.algorithm
     hvalue := rfl
     hwritten := scansTo_text sent.algorithm },
   { field := ⟨"publicKey", .text, true, fun value sent => { sent with publicKey := value }⟩
     data := sent.publicKey
     written := writtenText sent.publicKey
     value := .text sent.publicKey
     hvalue := rfl
     hwritten := scansTo_text sent.publicKey }]

theorem fits_entries (sent : Sent) : shape.Fits sent.entries where
  known entry hentry := by
    simp only [entries, List.mem_cons, List.not_mem_nil, or_false] at hentry
    rcases hentry with rfl | rfl <;> rfl
  distinct := (show ["algorithm", "publicKey"].Nodup by decide)
  complete field hfield _ := by
    simp only [shape, List.mem_cons, List.not_mem_nil, or_false] at hfield
    rcases hfield with rfl | rfl
    · exact List.mem_cons_self
    · exact List.mem_cons_of_mem _ List.mem_cons_self

/-- Whether what a document holds is a key: the one algorithm there is, and the canonical text of
thirty-two bytes that stand for a point. -/
structure Presents (sent : Sent) (key : PublicKey) : Prop where
  algorithm : sent.algorithm = "EdDSA"
  canonical : Base64Url.Canonical sent.publicKey
  text : sent.publicKey = Base64Url.encode key.bytes
  length : key.bytes.length = 32
  point : (Ed25519.Point.decode? key.bytes).isSome = true

end Sent

theorem readText_write (key : PublicKey) :
    Sent.shape.readText key.write = .ok ⟨algorithm, key.text⟩ := by
  rw [Shape.readText, write, Utf8.encode_ofList]
  exact (Sent.fits_entries ⟨algorithm, key.text⟩).read

theorem ofBytes_eq_ok_iff {bytes : Bytes} :
    ofBytes bytes = .ok key ↔
      key.bytes = bytes ∧ bytes.length = 32 ∧ (Ed25519.Point.decode? bytes).isSome = true := by
  unfold ofBytes
  split
  · rename_i hlength
    exact ⟨nofun, fun h => absurd h.2.1 hlength⟩
  · rename_i hlength
    split
    · rename_i hpoint
      rw [Option.isNone_iff_eq_none] at hpoint
      exact ⟨nofun, fun h => by simp [hpoint] at h⟩
    · rename_i hpoint
      rw [Bool.not_eq_true, Option.isNone_eq_false_iff] at hpoint
      constructor
      · rintro ⟨⟩
        exact ⟨rfl, Decidable.of_not_not hlength, hpoint⟩
      · rintro ⟨rfl, -, -⟩
        rfl

theorem ofSent_eq_ok_iff : ofSent sent = .ok key ↔ sent.Presents key := by
  unfold ofSent
  split
  · rename_i halgorithm
    exact ⟨nofun, fun h => absurd h.algorithm halgorithm⟩
  · rename_i halgorithm
    split
    · rename_i error hdecode
      refine ⟨nofun, fun h => ?_⟩
      rw [Base64Url.decode_eq_ok_iff.2 h.text] at hdecode
      cases hdecode
    · rename_i bytes hdecode
      rw [Base64Url.decode_eq_ok_iff] at hdecode
      rw [ofBytes_eq_ok_iff]
      constructor
      · rintro ⟨rfl, hlength, hpoint⟩
        exact ⟨Decidable.of_not_not halgorithm, Base64Url.canonical_iff.2 ⟨_, hdecode⟩, hdecode,
          hlength, hpoint⟩
      · intro h
        obtain rfl : key.bytes = bytes := Base64Url.encode_injective (h.text.symm.trans hdecode)
        exact ⟨rfl, h.length, h.point⟩

/-- A document is read exactly if it presents a key, and as that key. -/
theorem read_eq_ok_iff :
    read text = .ok key ↔ ∃ sent, Sent.shape.readText text = .ok sent ∧ sent.Presents key := by
  unfold read
  split
  · rename_i error hread
    simp [hread]
  · rename_i sent hread
    rw [mapError_eq_ok_iff, ofSent_eq_ok_iff, hread]
    constructor
    · intro h
      exact ⟨sent, rfl, h⟩
    · rintro ⟨_, ⟨⟩, h⟩
      exact h

/-! ### The way there and back -/

theorem presents_of_point (hlength : key.bytes.length = 32)
    (hpoint : (Ed25519.Point.decode? key.bytes).isSome = true) :
    Sent.Presents ⟨algorithm, key.text⟩ key where
  algorithm := rfl
  canonical := Base64Url.canonical_iff.2 ⟨key.bytes, rfl⟩
  text := rfl
  length := hlength
  point := hpoint

theorem read_write (hlength : key.bytes.length = 32)
    (hpoint : (Ed25519.Point.decode? key.bytes).isSome = true) : read key.write = .ok key :=
  read_eq_ok_iff.2 ⟨_, readText_write key, presents_of_point hlength hpoint⟩

theorem Sent.Presents.eq (h : sent.Presents key) : sent = ⟨"EdDSA", key.text⟩ := by
  obtain ⟨name, shown⟩ := sent
  obtain rfl : name = "EdDSA" := h.algorithm
  exact congrArg _ h.text

theorem Sent.Presents.inj (h : sent.Presents key) (hother : otherSent.Presents otherKey) :
    key = otherKey ↔ sent.publicKey = otherSent.publicKey := by
  rw [h.text, hother.text, Base64Url.encode_injective.eq_iff]
  constructor
  · rintro rfl
    rfl
  · intro hbytes
    cases key
    cases otherKey
    exact congrArg PublicKey.mk hbytes

theorem presents_of_read (hread : read text = .ok key)
    (hsent : Sent.shape.readText text = .ok sent) : sent.Presents key := by
  obtain ⟨other, hother, hpresents⟩ := read_eq_ok_iff.1 hread
  rw [hsent] at hother
  exact Except.ok.inj hother ▸ hpresents

/-- A document is read as a key exactly if it holds the name of the algorithm and the canonical text
of the thirty-two bytes of a point. The key is written with that same text and read back, and two
documents are read as one key exactly if their texts of the key are the same, whatever points these
stand for. Every pair whose public bytes are those of a point has a public half that is read
back. -/
theorem keys_are_read_exactly :
    (∀ text key, read text = .ok key ↔
      ∃ sent, Sent.shape.readText text = .ok sent ∧ sent.Presents key) ∧
    (∀ text key sent, read text = .ok key → Sent.shape.readText text = .ok sent →
      read key.write = .ok key ∧ Sent.shape.readText key.write = .ok sent) ∧
    (∀ text other key otherKey sent otherSent,
      read text = .ok key → Sent.shape.readText text = .ok sent →
      read other = .ok otherKey → Sent.shape.readText other = .ok otherSent →
      (key = otherKey ↔ sent.publicKey = otherSent.publicKey)) ∧
    ∀ pair : KeyPair, (Ed25519.Point.decode? pair.publicKey.bytes).isSome = true →
      read pair.publicKey.write = .ok pair.publicKey := by
  refine ⟨fun text key => read_eq_ok_iff, ?_, ?_, ?_⟩
  · intro text key sent hread hsent
    have hpresents := presents_of_read hread hsent
    refine ⟨read_write hpresents.length hpresents.point, ?_⟩
    rw [readText_write, hpresents.eq]
    rfl
  · intro text other key otherKey sent otherSent hread hsent hother hotherSent
    exact (presents_of_read hread hsent).inj (presents_of_read hother hotherSent)
  · intro pair hpoint
    exact read_write (Ed25519.length_publicBytes pair.seed) hpoint

/-- The public half of a pair, worked out for one of them. -/
theorem generated_point :
    (Ed25519.Point.decode? (KeyPair.publicKey ⟨List.replicate 32 1⟩).bytes).isSome = true := by
  decide +kernel

/-- A document of the neutral point, with its second coordinate reduced. -/
def reducedNeutral : String :=
  "\x7b\"publicKey\":\"AQAAAAAAAAAAAAAAAAAAAAAAAAAAAAAAAAAAAAAAAAA\",\"algorithm\":\"EdDSA\"\x7d"

/-- Another document of the neutral point, with the prime added to its second coordinate. -/
def unreducedNeutral : String := "[\"EdDSA\", \"7v_______________________________________38\"]"

/-- Two texts of one point are two keys, whatever form the documents have. -/
theorem one_point_has_two_keys :
    ∃ key otherKey, read reducedNeutral = .ok key ∧ read unreducedNeutral = .ok otherKey ∧
      Ed25519.Point.decode? key.bytes = Ed25519.Point.decode? otherKey.bytes ∧ key ≠ otherKey ∧
      read key.write = .ok key ∧ read otherKey.write = .ok otherKey ∧
      Sent.shape.readText otherKey.write =
        .ok ⟨"EdDSA", "7v_______________________________________38"⟩ ∧
      read (KeyPair.publicKey ⟨List.replicate 32 1⟩).write =
        .ok (KeyPair.publicKey ⟨List.replicate 32 1⟩) := by
  have hread : read reducedNeutral = .ok ⟨1 :: List.replicate 31 0⟩ := by decide +kernel
  have hsent : Sent.shape.readText reducedNeutral =
      .ok ⟨"EdDSA", "AQAAAAAAAAAAAAAAAAAAAAAAAAAAAAAAAAAAAAAAAAA"⟩ := by decide +kernel
  have hother : read unreducedNeutral = .ok ⟨0xEE :: List.replicate 30 0xFF ++ [0x7F]⟩ := by
    decide +kernel
  have hotherSent : Sent.shape.readText unreducedNeutral =
      .ok ⟨"EdDSA", "7v_______________________________________38"⟩ := by decide +kernel
  obtain ⟨-, hback, hone, hpair⟩ := keys_are_read_exactly
  obtain ⟨hwritten, -⟩ := hback _ _ _ hread hsent
  obtain ⟨hotherWritten, hotherText⟩ := hback _ _ _ hother hotherSent
  refine ⟨_, _, hread, hother, by decide +kernel, ?_, hwritten, hotherWritten, hotherText,
    hpair _ generated_point⟩
  rw [Ne, hone _ _ _ _ _ _ hread hsent hother hotherSent]
  decide

end PublicKey

end AccountManager
