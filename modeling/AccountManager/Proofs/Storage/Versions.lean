import AccountManager.Proofs.Json.Language
import AccountManager.Storage.Credentials

/-!
# Versions of the stored document

The version of an envelope is judged before its content. Only version one is read; any other integer
is reported as the version it is, as far as it can be told apart, and a document without an integer
there is malformed.
-/

namespace AccountManager.Storage

open Json

/-- Whether an error tells that the stored bytes could not be understood. -/
def StorageError.IsSerialization : StorageError → Prop
  | .malformed _ => True
  | .noVersion => True
  | .blob _ => False
  | .unsupportedVersion _ => False

namespace Envelope

variable {bytes : Bytes} {document : Value} {record : CredentialRecord}

/-- Whether some bytes are an object of a version: the last member of that name is this integer,
written without sign, fraction and exponent, and it fits 64 bits. -/
def HasVersion (bytes : Bytes) (version : Nat) : Prop :=
  ∃ numeral, HasMember bytes "version" (.number numeral) ∧ numeral.Plain version ∧
    version < UInt64.size

/-- Whether some bytes are an object whose account data, as last given, are those of a record. -/
def HasAccount (bytes : Bytes) (record : CredentialRecord) : Prop :=
  ∃ form data, HasMember bytes "accountData" form ∧ form.value? = some data ∧
    CredentialRecord.shape.ofValue data = .ok record

theorem HasVersion.unique {version other : Nat} (h : HasVersion bytes version)
    (hother : HasVersion bytes other) : version = other := by
  obtain ⟨numeral, hmember, hplain, -⟩ := h
  obtain ⟨otherNumeral, hotherMember, hotherPlain, -⟩ := hother
  cases hmember.unique hotherMember
  exact hplain.digits.symm.trans hotherPlain.digits

theorem version_eq_some_iff (hread : Value.read bytes = .ok document) {word : UInt64} :
    (document.member? "version").bind Value.unsigned? = some word ↔
      HasVersion bytes word.toNat := by
  rw [Option.bind_eq_some_iff]
  constructor
  · rintro ⟨value, hvalue, hword⟩
    obtain ⟨form, hmember, hform⟩ := (member?_eq_some_iff hread).1 hvalue
    obtain rfl : value = .number (.unsigned word) := by
      cases value with
      | number number =>
        cases number with
        | unsigned other =>
          cases hword
          rfl
        | negative other | float other => cases hword
      | null | bool | text | array | object => cases hword
    obtain ⟨numeral, rfl, hnumeral⟩ := of_value?_eq_number hform
    exact ⟨numeral, hmember, value_eq_unsigned_iff.1 hnumeral, word.toNat_lt⟩
  · rintro ⟨numeral, hmember, hplain, -⟩
    refine ⟨.number (.unsigned word), (member?_eq_some_iff hread).2 ⟨_, hmember, ?_⟩, rfl⟩
    rw [Form.value?, value_eq_unsigned_iff.2 hplain]
    rfl

theorem HasVersion.exists_word {version : Nat} (h : HasVersion bytes version) :
    ∃ word : UInt64, word.toNat = version := by
  obtain ⟨_, _, _, hfits⟩ := h
  exact ⟨UInt64.ofNat version, UInt64.toNat_ofNat_of_lt' hfits⟩

/-! ### Reading -/

/-- The content is looked at only in an envelope of version one. -/
theorem read_of_version (hread : Value.read bytes = .ok document) {version : Nat}
    (h : HasVersion bytes version) :
    read bytes =
      if version = 1 then account document
      else .error (.unsupportedVersion (min version (UInt32.size - 1))) := by
  obtain ⟨word, rfl⟩ := h.exists_word
  have hone : min word.toNat greatestVersion = Envelope.version ↔ word.toNat = 1 := by
    show min word.toNat 4294967295 = 1 ↔ word.toNat = 1
    omega
  rw [read, hread]
  simp only [(version_eq_some_iff hread).2 h, hone]
  rfl

theorem read_of_no_version (hread : Value.read bytes = .ok document)
    (hnone : ∀ version, ¬ HasVersion bytes version) : read bytes = .error .noVersion := by
  have hversion : (document.member? "version").bind Value.unsigned? = none := by
    cases hversion : (document.member? "version").bind Value.unsigned? with
    | none => rfl
    | some word => exact absurd ((version_eq_some_iff hread).1 hversion) (hnone word.toNat)
  rw [read, hread]
  simp only [hversion]

theorem account_eq_ok_iff (hread : Value.read bytes = .ok document) :
    account document = .ok record ↔ HasAccount bytes record := by
  constructor
  · intro haccount
    unfold account at haccount
    split at haccount
    · cases haccount
    · rename_i data hdata
      obtain ⟨form, hmember, hform⟩ := (member?_eq_some_iff hread).1 hdata
      split at haccount
      · rename_i found hfound
        cases haccount
        exact ⟨form, data, hmember, hform, hfound⟩
      · cases haccount
  · rintro ⟨form, data, hmember, hform, hrecord⟩
    rw [account, (member?_eq_some_iff hread).2 ⟨form, hmember, hform⟩]
    simp only [hrecord]

theorem isSerialization_of_account {error : StorageError}
    (haccount : account document = .error error) : error.IsSerialization := by
  unfold account at haccount
  split at haccount
  · cases haccount
    trivial
  · split at haccount
    · cases haccount
    · cases haccount
      trivial

/-- A record comes out of bytes of version one only. -/
theorem of_read_eq_ok (hread : read bytes = .ok record) :
    HasVersion bytes 1 ∧ HasAccount bytes record := by
  cases hdocument : Value.read bytes with
  | error error =>
    rw [read, hdocument] at hread
    cases hread
  | ok document =>
    by_cases hversion : ∃ version, HasVersion bytes version
    · obtain ⟨version, hversion⟩ := hversion
      rw [read_of_version hdocument hversion] at hread
      split at hread
      · rename_i hone
        exact ⟨hone ▸ hversion, (account_eq_ok_iff hdocument).1 hread⟩
      · cases hread
    · rw [read_of_no_version hdocument (fun version h => hversion ⟨version, h⟩)] at hread
      cases hread

/-- Bytes that are no document, or have no version, are malformed. A version other than one is
reported, whatever the content is; at version one the record is what the account data are read as,
and an envelope without such data is malformed. So no store gives a record out of an envelope of
another version. -/
theorem versions_are_judged_first (bytes : Bytes) :
    ((∀ document, Value.read bytes ≠ .ok document) →
      ∃ error, read bytes = .error error ∧ error.IsSerialization) ∧
    (∀ document, Value.read bytes = .ok document →
      (∀ version, HasVersion bytes version → version ≠ 1 →
        read bytes = .error (.unsupportedVersion (min version (UInt32.size - 1)))) ∧
      ((∀ version, ¬ HasVersion bytes version) →
        ∃ error, read bytes = .error error ∧ error.IsSerialization) ∧
      (HasVersion bytes 1 →
        (∀ record, read bytes = .ok record ↔ HasAccount bytes record) ∧
        ((∀ record, ¬ HasAccount bytes record) →
          ∃ error, read bytes = .error error ∧ error.IsSerialization))) ∧
    ∀ (β : Type) [BlobStore β] (store : BlobCredentials β) (record : CredentialRecord),
      BlobStore.read store.blobs store.name = .ok (some bytes) → store.get = .ok (some record) →
      HasAccount bytes record ∧ ∀ version, HasVersion bytes version ↔ version = 1 := by
  refine ⟨?_, ?_, ?_⟩
  · intro hnone
    cases hread : Value.read bytes with
    | ok document => exact absurd hread (hnone document)
    | error error =>
      refine ⟨.malformed error, ?_, trivial⟩
      rw [read, hread]
  · intro document hread
    refine ⟨?_, ?_, ?_⟩
    · intro version hversion hother
      rw [read_of_version hread hversion, if_neg hother]
    · intro hnone
      exact ⟨.noVersion, read_of_no_version hread hnone, trivial⟩
    · intro hone
      have haccount : read bytes = account document := by
        rw [read_of_version hread hone, if_pos rfl]
      rw [haccount]
      refine ⟨fun record => account_eq_ok_iff hread, ?_⟩
      intro hnone
      cases hresult : account document with
      | ok record => exact absurd ((account_eq_ok_iff hread).1 hresult) (hnone record)
      | error error => exact ⟨error, rfl, isSerialization_of_account hresult⟩
  · intro β _ store record hblob hget
    rw [BlobCredentials.get, hblob] at hget
    obtain ⟨found, hread, hfound⟩ := map_eq_ok_iff.1 hget
    cases hfound
    obtain ⟨hone, haccount⟩ := of_read_eq_ok hread
    refine ⟨haccount, fun version => ⟨fun hversion => hversion.unique hone, ?_⟩⟩
    rintro rfl
    exact hone

/-- An envelope of version one to which a version was added that has the same lower 32 bits. -/
def relabelled : Bytes :=
  Utf8.encode "\x7b\"version\":1,\"accountData\":\x7b\x7d,\"\\u0076ersion\":4294967297\x7d"

/-- An envelope whose version was set right behind its account data. -/
def corrected : Bytes :=
  Utf8.encode "\x7b\"version\":2,\"accountData\":\x7b\"kA\":\"11\"\x7d, \"version\" : 1\x7d"

def fractional : Bytes := Utf8.encode "\x7b\"version\":1.0,\"accountData\":\x7b\x7d\x7d"

theorem layouts_are_told_apart :
    (∃ error, read (Utf8.encode "version 1") = .error error ∧ error.IsSerialization) ∧
    (∃ error, read fractional = .error error ∧ error.IsSerialization) ∧
    read relabelled = .error (.unsupportedVersion 4294967295) ∧
    read corrected = .ok { kA := some "11" } ∧
    ∀ version, HasVersion corrected version ↔ version = 1 := by
  have hgarbage : (Value.read (Utf8.encode "version 1")).toOption.isNone := by decide +kernel
  have hfractional : (Value.read fractional).toOption.map
      (fun document => (document.member? "version").bind Value.unsigned?) = some none := by
    decide +kernel
  have hrelabelled : (Value.read relabelled).toOption.map
      (fun document => (document.member? "version").bind Value.unsigned?) =
        some (some 4294967297) := by
    decide +kernel
  have hcorrected : (Value.read corrected).toOption.map
      (fun document => ((document.member? "version").bind Value.unsigned?,
        (account document).toOption)) = some (some 1, some { kA := some "11" }) := by
    decide +kernel
  obtain ⟨document, hdocument, hversion⟩ := Option.map_eq_some_iff.1 hcorrected
  obtain ⟨hversion, haccount⟩ := Prod.mk.inj hversion
  have hread := of_toOption_eq_some hdocument
  have hone := (version_eq_some_iff hread).1 hversion
  obtain ⟨-, hjudged, hstored⟩ := versions_are_judged_first corrected
  obtain ⟨-, -, hat⟩ := hjudged document hread
  have hrecord : read corrected = .ok { kA := some "11" } :=
    ((hat hone).1 _).2 ((account_eq_ok_iff hread).1 (of_toOption_eq_some haccount))
  refine ⟨(versions_are_judged_first _).1 ?_, ?_, ?_, hrecord, ?_⟩
  · intro document hdocument
    rw [hdocument] at hgarbage
    cases hgarbage
  · obtain ⟨document, hdocument, hnone⟩ := Option.map_eq_some_iff.1 hfractional
    have hread := of_toOption_eq_some hdocument
    refine ((versions_are_judged_first fractional).2.1 document hread).2.1 ?_
    intro version hversion
    obtain ⟨word, rfl⟩ := hversion.exists_word
    rw [(version_eq_some_iff hread).2 hversion] at hnone
    cases hnone
  · obtain ⟨document, hdocument, hversion⟩ := Option.map_eq_some_iff.1 hrelabelled
    have hread := of_toOption_eq_some hdocument
    exact ((versions_are_judged_first relabelled).2.1 document hread).1 4294967297
      ((version_eq_some_iff hread).1 hversion) (by decide)
  · have hget : BlobCredentials.get (BlobCredentials.mk (MemoryBlobs.mk [("user", corrected)])
        "user") = .ok (some { kA := some "11" }) := by
      change (read corrected).map some = _
      rw [hrecord]
      rfl
    exact (hstored MemoryBlobs _ _ rfl hget).2

end Envelope

end AccountManager.Storage
