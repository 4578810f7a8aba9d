import AccountManager.Json.Shape
import AccountManager.Proofs.Json.Scan
import Mathlib.Data.List.Nodup

/-!
# Reading back a record that was written

A record that was written field by field is read back, from the document and from the value of the
document. The value keeps its members in the order of their names, so there the fields are stored in
another order, which makes no difference if no field touches another one.
-/

namespace AccountManager.Json

open Utf8

variable {α : Type}

/-- A field together with data for it, as it is written and as it is held. -/
structure Entry (α : Type) where
  field : Field α
  data : field.kind.Data
  written : List Char
  value : Value
  hvalue : field.kind.ofValue value = .ok data
  hwritten : ScansTo (encodeList written) fun node => node.Holds 0 value

namespace Entry

def name (entry : Entry α) : String := entry.field.name

def member (entry : Entry α) : Member := ⟨entry.name, entry.written, entry.value⟩

/-- The member of an object value that the entry becomes. -/
def held (entry : Entry α) : String × Value := (entry.name, entry.value)

/-- Puts the data of an entry into a record. -/
def put (record : α) (entry : Entry α) : α := entry.field.store entry.data record

def writtenAll (entries : List (Entry α)) : List Char :=
  writtenObject (entries.map fun entry => (entry.name, entry.written))

theorem scansTo_writtenAll (entries : List (Entry α)) :
    ScansTo (encodeList (writtenAll entries)) fun node => ∃ start scanned,
      node = .object start scanned ∧ scanned.Hold 0 (entries.map held) := by
  have hscans := @scansTo_object (entries.map member) 0 (by
    intro other hother
    obtain ⟨entry, hentry, rfl⟩ := List.mem_map.1 hother
    exact entry.hwritten)
  rw [List.map_map, List.map_map] at hscans
  exact hscans

theorem scansTo_objectOf (entries : List (Entry α)) :
    ScansTo (encodeList (writtenAll entries)) fun node =>
      node.Holds 1 (objectOf (entries.map held)) := by
  have hscans := @Json.scansTo_objectOf (entries.map member) 0 (by
    intro other hother
    obtain ⟨entry, hentry, rfl⟩ := List.mem_map.1 hother
    exact entry.hwritten)
  rw [List.map_map, List.map_map] at hscans
  exact hscans

end Entry

/-- Whether some entries make up a record: each stands for a field of the shape, no field is there
twice, and none is missing that has to be there. -/
structure Shape.Fits (shape : Shape α) (entries : List (Entry α)) : Prop where
  known : ∀ entry ∈ entries, shape.field? entry.name = some entry.field
  distinct : (entries.map Entry.name).Nodup
  complete : ∀ field ∈ shape.fields, field.required = true → field.name ∈ entries.map Entry.name

namespace Shape

variable {shape : Shape α} {entries : List (Entry α)}

theorem missing?_eq_none {seen : List String}
    (hseen : ∀ field ∈ shape.fields, field.required = true → field.name ∈ seen) :
    shape.missing? seen = none := by
  rw [missing?, Option.map_eq_none_iff, List.find?_eq_none]
  intro field hfield hwanted
  rw [Bool.and_eq_true, Bool.not_eq_true'] at hwanted
  have hmem := List.contains_iff_mem.2 (hseen field hfield hwanted.1)
  rw [hwanted.2] at hmem
  exact Bool.false_ne_true hmem

private theorem contains_eq_false {names seen : List String} {name : String}
    (hdistinct : (names ++ ([name] ++ seen)).Nodup) : seen.contains name = false := by
  have hafter := (List.nodup_append.1 hdistinct).2.1
  rw [List.singleton_append, List.nodup_cons] at hafter
  rw [← Bool.not_eq_true, List.contains_iff_mem]
  exact hafter.1

/-! ### From the document -/

theorem ofMembers_of_hold {depth : Nat} {members : Members}
    (hhold : members.Hold depth (entries.map Entry.held))
    (hknown : ∀ entry ∈ entries, shape.field? entry.name = some entry.field) (record : α)
    (seen : List String) (hdistinct : ((entries.map Entry.name).reverse ++ seen).Nodup)
    (hcomplete : shape.missing? ((entries.map Entry.name).reverse ++ seen) = none) :
    shape.ofMembers record seen members = .ok (entries.foldl Entry.put record) := by
  induction entries generalizing members record seen with
  | nil =>
    cases hhold with
    | close stop =>
      have hnone : shape.missing? seen = none := hcomplete
      simp only [ofMembers, hnone, List.foldl_nil]
  | cons entry rest ih =>
    cases hhold with
    | cons refusal hname hnode hrest =>
      rw [List.map_cons, List.reverse_cons, List.append_assoc] at hdistinct hcomplete
      have hnew := contains_eq_false hdistinct
      rw [ofMembers, hname]
      simp only [bind, Except.bind, hknown entry List.mem_cons_self, hnew, Bool.false_eq_true,
        if_false]
      rw [hnode.ofNode entry.field.kind entry.data entry.hvalue, List.foldl_cons]
      exact ih hrest (fun other hother => hknown other (List.mem_cons_of_mem entry hother)) _ _
        hdistinct hcomplete

theorem Fits.ofMembers (hfits : shape.Fits entries) {depth : Nat} {members : Members}
    (hhold : members.Hold depth (entries.map Entry.held)) :
    shape.ofMembers shape.blank [] members = .ok (entries.foldl Entry.put shape.blank) := by
  refine ofMembers_of_hold hhold hfits.known shape.blank [] ?_ ?_
  · rw [List.append_nil, List.nodup_reverse]
    exact hfits.distinct
  · apply missing?_eq_none
    intro field hfield hrequired
    rw [List.append_nil, List.mem_reverse]
    exact hfits.complete field hfield hrequired

/-! ### From the value -/

theorem ofMemberValues_held
    (hknown : ∀ entry ∈ entries, shape.field? entry.name = some entry.field) (record : α)
    (seen : List String) (hdistinct : ((entries.map Entry.name).reverse ++ seen).Nodup)
    (hcomplete : shape.missing? ((entries.map Entry.name).reverse ++ seen) = none) :
    shape.ofMemberValues record seen (entries.map Entry.held) =
      .ok (entries.foldl Entry.put record) := by
  induction entries generalizing record seen with
  | nil =>
    have hnone : shape.missing? seen = none := hcomplete
    simp only [List.map_nil, ofMemberValues, hnone, List.foldl_nil]
  | cons entry rest ih =>
    rw [List.map_cons, List.reverse_cons, List.append_assoc] at hdistinct hcomplete
    have hnew := contains_eq_false hdistinct
    rw [List.map_cons, Entry.held, ofMemberValues, hknown entry List.mem_cons_self]
    simp only [hnew, Bool.false_eq_true, if_false]
    rw [entry.hvalue, List.foldl_cons]
    exact ih (fun other hother => hknown other (List.mem_cons_of_mem entry hother)) _ _ hdistinct
      hcomplete

/-- Whether it makes no difference which of two fields is stored first. -/
def Independent (shape : Shape α) : Prop :=
  ∀ left ∈ shape.fields, ∀ right ∈ shape.fields, left.name ≠ right.name →
    ∀ (leftData : left.kind.Data) (rightData : right.kind.Data) (record : α),
      right.store rightData (left.store leftData record) =
        left.store leftData (right.store rightData record)

theorem exists_insert_held {entry : Entry α} {others : List (Entry α)}
    (hnew : entry.name ∉ others.map Entry.name) :
    ∃ placed : List (Entry α), placed.Perm (entry :: others) ∧
      Value.insert entry.name entry.value (others.map Entry.held) = placed.map Entry.held := by
  induction others with
  | nil => exact ⟨[entry], .refl _, rfl⟩
  | cons other rest ih =>
    rw [List.map_cons, List.mem_cons, not_or] at hnew
    obtain ⟨placed, hplaced, hinsert⟩ := ih hnew.2
    rw [List.map_cons, Entry.held, Value.insert]
    by_cases hbefore : entry.name < other.name
    · exact ⟨entry :: other :: rest, .refl _, by rw [if_pos hbefore]; rfl⟩
    · refine ⟨other :: placed, (hplaced.cons other).trans (.swap entry other rest), ?_⟩
      rw [if_neg hbefore, if_neg hnew.1, hinsert]
      rfl

theorem exists_foldl_insert {seen : List (Entry α)}
    (hdistinct : ((entries.map Entry.name).reverse ++ seen.map Entry.name).Nodup) :
    ∃ placed : List (Entry α), placed.Perm (entries ++ seen) ∧
      (entries.map Entry.held).foldl (fun seen member => Value.insert member.1 member.2 seen)
        (seen.map Entry.held) = placed.map Entry.held := by
  induction entries generalizing seen with
  | nil => exact ⟨seen, .refl _, rfl⟩
  | cons entry rest ih =>
    rw [List.map_cons, List.reverse_cons, List.append_assoc] at hdistinct
    have hnew : entry.name ∉ seen.map Entry.name := by
      rw [← List.contains_iff_mem, contains_eq_false hdistinct]
      exact Bool.false_ne_true
    obtain ⟨among, hamong, hinsert⟩ := exists_insert_held hnew
    obtain ⟨placed, hplaced, hfold⟩ := @ih among (by
      refine (List.Perm.nodup_iff ?_).2 hdistinct
      exact (hamong.map Entry.name).append_left _)
    refine ⟨placed, hplaced.trans ((hamong.append_left rest).trans List.perm_middle), ?_⟩
    rw [List.map_cons, List.foldl_cons, Entry.held, hinsert, hfold]

theorem Fits.perm (hfits : shape.Fits entries) {others : List (Entry α)}
    (hperm : others.Perm entries) : shape.Fits others where
  known entry hentry := hfits.known entry (hperm.mem_iff.1 hentry)
  distinct := (hperm.map Entry.name).nodup_iff.2 hfits.distinct
  complete field hfield hrequired :=
    (hperm.map Entry.name).mem_iff.2 (hfits.complete field hfield hrequired)

/-- Entries of independent fields make the same record in any order. -/
theorem Fits.foldl_put (hfits : shape.Fits entries) (hindependent : shape.Independent)
    {others : List (Entry α)} (hperm : others.Perm entries) (record : α) :
    others.foldl Entry.put record = entries.foldl Entry.put record := by
  have hmem {entry : Entry α} (hentry : entry ∈ entries) : entry.field ∈ shape.fields :=
    List.mem_of_find?_eq_some (hfits.known entry hentry)
  refine hperm.foldl_eq' (fun left hleft right hright record => ?_) record
  replace hleft := hperm.mem_iff.1 hleft
  replace hright := hperm.mem_iff.1 hright
  by_cases hname : left.name = right.name
  · rw [List.inj_on_of_nodup_map hfits.distinct hleft hright hname]
  · exact hindependent left.field (hmem hleft) right.field (hmem hright) hname left.data
      right.data record

theorem Fits.ofValue (hfits : shape.Fits entries) (hindependent : shape.Independent) :
    shape.ofValue (objectOf (entries.map Entry.held)) =
      .ok (entries.foldl Entry.put shape.blank) := by
  obtain ⟨placed, hplaced, hfold⟩ := @exists_foldl_insert α entries [] (by
    rw [List.map_nil, List.append_nil, List.nodup_reverse]
    exact hfits.distinct)
  rw [List.append_nil] at hplaced
  rw [List.map_nil] at hfold
  rw [objectOf, hfold, Shape.ofValue, ← hfits.foldl_put hindependent hplaced]
  have hfitsPlaced := hfits.perm hplaced
  refine ofMemberValues_held hfitsPlaced.known shape.blank [] ?_ ?_
  · rw [List.append_nil, List.nodup_reverse]
    exact hfitsPlaced.distinct
  · apply missing?_eq_none
    intro field hfield hrequired
    rw [List.append_nil, List.mem_reverse]
    exact hfitsPlaced.complete field hfield hrequired

end Shape

/-! ### Whole documents -/

theorem scan_of_scansTo {bytes : Bytes} {P : Node → Prop} (hscans : ScansTo bytes P) :
    ∃ node, Document.scan bytes = ⟨node, none⟩ ∧ P node := by
  obtain ⟨node, hscan, hnode⟩ := hscans (2 * bytes.length + 2) 0 [] (by omega) trivial
  rw [List.append_nil] at hscan
  refine ⟨node, ?_, hnode⟩
  rw [Document.scan, hscan]
  rfl

/-- Every value that nests less deep than the limit is read from a document that holds it. -/
theorem Value.read_of_scansTo {bytes : Bytes} {depth : Nat} {value : Value}
    (hdepth : depth < depthLimit) (hscans : ScansTo bytes fun node => node.Holds depth value) :
    Value.read bytes = .ok value := by
  obtain ⟨node, hscan, hholds⟩ := scan_of_scansTo hscans
  have hvalue : (Document.mk node none).toValue = .ok value := by
    rw [Document.toValue, hholds.toValue _ (Nat.le_sub_one_of_lt hdepth)]
    rfl
  rw [Value.read, hscan, hvalue]

/-- A record is read from the document it was written as. -/
theorem Shape.Fits.read {shape : Shape α} {entries : List (Entry α)} (hfits : shape.Fits entries) :
    shape.read (encodeList (Entry.writtenAll entries)) =
      .ok (entries.foldl Entry.put shape.blank) := by
  obtain ⟨node, hscan, start, scanned, rfl, hhold⟩ :=
    scan_of_scansTo (Entry.scansTo_writtenAll entries)
  have hdocument : shape.ofDocument ⟨.object start scanned, none⟩ =
      .ok (entries.foldl Entry.put shape.blank) := by
    rw [Shape.ofDocument]
    simp only [hfits.ofMembers hhold]
    rfl
  rw [Shape.read, hscan, hdocument]

end AccountManager.Json
