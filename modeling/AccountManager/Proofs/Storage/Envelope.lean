import AccountManager.Proofs.Json.Record
import AccountManager.Storage.Envelope

/-!
# Reading back a stored record

Every record that is stored in an envelope is read back as it was, whatever its texts hold and
whichever of its fields are missing.
-/

namespace AccountManager

open Json

namespace CredentialRecord

/-- The entry of a field that is written because it is there, if it is. -/
def optionEntries (name : String) (store : Option String → CredentialRecord → CredentialRecord)
    (value : Option String) : List (Entry CredentialRecord) :=
  value.toList.map fun text =>
    { field := ⟨name, .optionalText, false, store⟩
      data := some text
      written := writtenText text
      value := .text text
      hvalue := rfl
      hwritten := scansTo_text text }

/-- The entry of a field that is always written. -/
def flagEntry (name : String) (store : Bool → CredentialRecord → CredentialRecord) (flag : Bool) :
    Entry CredentialRecord where
  field := ⟨name, .flag, false, store⟩
  data := flag
  written := writtenFlag flag
  value := .bool flag
  hvalue := rfl
  hwritten := scansTo_flag flag

def entries (record : CredentialRecord) : List (Entry CredentialRecord) :=
  optionEntries "email" (fun value record => { record with email := value }) record.email ++
  optionEntries "uid" (fun value record => { record with uid := value }) record.uid ++
  optionEntries "sessionToken" (fun value record => { record with sessionToken := value })
    record.sessionToken ++
  optionEntries "keyFetchToken" (fun value record => { record with keyFetchToken := value })
    record.keyFetchToken ++
  optionEntries "unwrapBKey" (fun value record => { record with unwrapBKey := value })
    record.unwrapBKey ++
  optionEntries "kA" (fun value record => { record with kA := value }) record.kA ++
  optionEntries "kB" (fun value record => { record with kB := value }) record.kB ++
  [flagEntry "isVerified" (fun value record => { record with isVerified := value })
    record.isVerified] ++
  optionEntries "assertion" (fun value record => { record with assertion := value })
    record.assertion

section

variable {name : String} {store : Option String → CredentialRecord → CredentialRecord}
  {value : Option String}

theorem writtenOption_eq :
    writtenOption name value =
      (optionEntries name store value).map fun entry => (entry.name, entry.written) := by
  cases value <;> rfl

theorem field_of_mem_optionEntries {entry : Entry CredentialRecord}
    (hentry : entry ∈ optionEntries name store value) :
    entry.field = ⟨name, .optionalText, false, store⟩ := by
  obtain ⟨text, -, rfl⟩ := List.mem_map.1 hentry
  rfl

theorem optionEntries_sublist :
    ((optionEntries name store value).map Entry.name).Sublist [name] := by
  cases value with
  | none => exact List.nil_sublist _
  | some text => exact .refl _

/-- A field that was missing stays as it is in a record without it. -/
theorem foldl_optionEntries {record : CredentialRecord} (hrecord : store none record = record) :
    (optionEntries name store value).foldl Entry.put record = store value record := by
  cases value with
  | none => exact hrecord.symm
  | some text => rfl

end

theorem written_eq (record : CredentialRecord) :
    record.written = Entry.writtenAll record.entries := by
  rw [written, Entry.writtenAll, entries]
  simp only [List.map_append, ← writtenOption_eq]
  rfl

theorem mem_shape_of_mem_entries {record : CredentialRecord} {entry : Entry CredentialRecord}
    (hentry : entry ∈ record.entries) : shape.field? entry.name = some entry.field := by
  simp only [entries, List.mem_append, List.mem_singleton] at hentry
  rcases hentry with (((((((h | h) | h) | h) | h) | h) | h) | rfl) | h
  iterate 7
    rw [Entry.name, field_of_mem_optionEntries h]
    rfl
  · rfl
  · rw [Entry.name, field_of_mem_optionEntries h]
    rfl

theorem entries_sublist (record : CredentialRecord) :
    (record.entries.map Entry.name).Sublist (shape.fields.map Field.name) := by
  simp only [entries, List.map_append]
  exact (((((((optionEntries_sublist.append optionEntries_sublist).append
    optionEntries_sublist).append optionEntries_sublist).append optionEntries_sublist).append
    optionEntries_sublist).append optionEntries_sublist).append (.refl ["isVerified"])).append
    optionEntries_sublist

theorem fits_entries (record : CredentialRecord) : shape.Fits record.entries where
  known _ hentry := mem_shape_of_mem_entries hentry
  distinct := (entries_sublist record).nodup (by decide)
  complete field hfield hrequired := by
    have hoptional : ∀ field ∈ shape.fields, field.required = false := by
      intro field hfield
      simp only [shape, List.mem_cons, List.not_mem_nil, or_false] at hfield
      rcases hfield with rfl | rfl | rfl | rfl | rfl | rfl | rfl | rfl | rfl <;> rfl
    rw [hoptional field hfield] at hrequired
    exact absurd hrequired Bool.false_ne_true

theorem foldl_entries (record : CredentialRecord) :
    record.entries.foldl Entry.put shape.blank = record := by
  unfold entries shape
  simp (disch := rfl) only [List.foldl_append, foldl_optionEntries]
  exact (foldl_optionEntries rfl).trans rfl

theorem shape_independent : shape.Independent := by
  intro left hleft right hright hname leftData rightData record
  simp only [shape, List.mem_cons, List.not_mem_nil, or_false] at hleft hright
  rcases hleft with rfl | rfl | rfl | rfl | rfl | rfl | rfl | rfl | rfl <;>
    rcases hright with rfl | rfl | rfl | rfl | rfl | rfl | rfl | rfl | rfl <;>
    first | rfl | exact absurd rfl hname

theorem scansTo_written (record : CredentialRecord) :
    ScansTo (Utf8.encodeList record.written) fun node =>
      node.Holds 1 (objectOf (record.entries.map Entry.held)) := by
  rw [written_eq]
  exact Entry.scansTo_objectOf record.entries

theorem ofValue_entries (record : CredentialRecord) :
    shape.ofValue (objectOf (record.entries.map Entry.held)) = .ok record := by
  rw [record.fits_entries.ofValue shape_independent, foldl_entries]

end CredentialRecord

/-! ### The envelope -/

namespace Storage.Envelope

/-- The value of the document that stores a record. -/
def valueOf (record : CredentialRecord) : Value :=
  objectOf [("version", .number (.unsigned 1)),
    ("accountData", objectOf (record.entries.map Entry.held))]

theorem valueOf_eq (record : CredentialRecord) :
    valueOf record = .object [("accountData", objectOf (record.entries.map Entry.held)),
      ("version", .number (.unsigned 1))] := by
  have hbefore : "accountData" < "version" := by decide
  rw [valueOf, objectOf]
  simp only [List.foldl_cons, List.foldl_nil, Value.insert, if_pos hbefore]

theorem scansTo_write (record : CredentialRecord) :
    ScansTo (write record) fun node => node.Holds 2 (valueOf record) := by
  have hscans := @scansTo_objectOf
    [⟨"version", writtenWord 1, .number (.unsigned 1)⟩,
      ⟨"accountData", record.written, objectOf (record.entries.map Entry.held)⟩] 1 (by
    intro member hmember
    simp only [List.mem_cons, List.not_mem_nil, or_false] at hmember
    rcases hmember with rfl | rfl
    · intro fuel offset tail hfuel htail
      obtain ⟨node, hscan, hholds⟩ := scansTo_word 1 fuel offset tail hfuel htail
      exact ⟨node, hscan, hholds.mono (Nat.zero_le 1)⟩
    · exact record.scansTo_written)
  rw [write, Utf8.encode_ofList]
  exact hscans

theorem read_of_value {bytes : Bytes} {data : Value} {record : CredentialRecord}
    (hread : Value.read bytes =
      .ok (.object [("accountData", data), ("version", .number (.unsigned 1))]))
    (hdata : CredentialRecord.shape.ofValue data = .ok record) : read bytes = .ok record := by
  rw [read, hread]
  change account (.object [("accountData", data), ("version", .number (.unsigned 1))]) = .ok record
  have hmember : (Value.object [("accountData", data),
      ("version", .number (.unsigned 1))]).member? "accountData" = some data := rfl
  simp only [account, hmember, hdata]

/-- A record that was stored is read back. -/
theorem read_write (record : CredentialRecord) : read (write record) = .ok record := by
  have hread := Value.read_of_scansTo (by decide) (scansTo_write record)
  rw [valueOf_eq] at hread
  exact read_of_value hread record.ofValue_entries

end Storage.Envelope

end AccountManager
