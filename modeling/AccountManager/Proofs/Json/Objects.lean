import AccountManager.Json.Shape
import AccountManager.Proofs.Json.Language
import AccountManager.Proofs.Json.Record
import Mathlib.Data.List.Nodup

/-!
# Which objects are read as which records

An object whose names are distinct says of every field of a record what it holds, or leaves it as
it was. If no field touches another one, this is all that can be said of the record that is read:
neither the order of the members matters nor what else stands among them.
-/

namespace AccountManager.Json

variable {α : Type}

/-! ### One member -/

/-- Whether a value in a document is data of a kind, and which. -/
def Form.Gives : Form → (kind : Kind) → kind.Data → Prop
  | .text content, .text, value => value = content
  | .null, .optionalText, value => value = none
  | .text content, .optionalText, value => value = some content
  | .bool flag, .flag, value => value = flag
  | .number numeral, .word _, value => numeral.Plain value.toNat
  | _, _, _ => False

theorem wordOf_eq_ok_iff {description : String} {number : Number} {word : UInt64} :
    Kind.wordOf description number = .ok word ↔ number = .unsigned word := by
  cases number with
  | unsigned value => simp [Kind.wordOf]
  | negative value | float value => simp [Kind.wordOf]

theorem ofNode_eq_ok_iff {node : Node} {form : Form} (hform : node.form? = some form) (kind : Kind)
    {data : kind.Data} : kind.ofNode node = .ok data ↔ form.Gives kind data := by
  cases node with
  | null stop =>
    cases hform
    cases kind <;> simp [Kind.ofNode, Form.Gives, eq_comm]
  | bool flag stop =>
    cases hform
    cases kind <;> simp [Kind.ofNode, Form.Gives, eq_comm]
  | number numeral stop =>
    cases hform
    cases kind with
    | word description =>
      rw [Form.Gives, ← value_eq_unsigned_iff, ← @numberAt_eq_ok_iff numeral stop, Kind.ofNode]
      cases numberAt numeral stop with
      | error fault => simp
      | ok number => simp [mapError_eq_ok_iff, wordOf_eq_ok_iff]
    | text | optionalText | flag => simp [Kind.ofNode, Form.Gives]
  | text inside =>
    obtain ⟨read, hread, rfl⟩ := Option.map_eq_some_iff.1 hform
    have hread := of_toOption_eq_some hread
    cases kind <;> simp [Kind.ofNode, Form.Gives, hread, Except.map, eq_comm]
  | array start items =>
    obtain ⟨forms, -, rfl⟩ := Option.map_eq_some_iff.1 hform
    cases kind <;> simp [Kind.ofNode, Form.Gives]
  | object start members =>
    obtain ⟨forms, -, rfl⟩ := Option.map_eq_some_iff.1 hform
    cases kind <;> simp [Kind.ofNode, Form.Gives]
  | broken gap => cases hform

theorem Form.Gives.unique {form : Form} {kind : Kind} {data other : kind.Data}
    (h : form.Gives kind data) (hother : form.Gives kind other) : data = other := by
  cases kind <;> cases form <;> first
    | exact h.elim
    | exact Eq.trans h (Eq.symm hother)
    | exact UInt64.toNat_inj.1 (Eq.trans (Eq.symm h.digits) hother.digits)

mutual

theorem pass_of_form {node : Node} {form : Form} (hform : node.form? = some form) :
    node.pass = .ok () := by
  cases node with
  | null | bool | number => rfl
  | text inside =>
    obtain ⟨⟨content, after⟩, hread, -⟩ := Option.map_eq_some_iff.1 hform
    rw [Node.pass, (of_readText_eq_ok (of_toOption_eq_some hread)).1]
    rfl
  | array start items =>
    obtain ⟨forms, hforms, -⟩ := Option.map_eq_some_iff.1 hform
    exact pass_of_items hforms
  | object start members =>
    obtain ⟨forms, hforms, -⟩ := Option.map_eq_some_iff.1 hform
    exact pass_of_members hforms
  | broken gap => cases hform

theorem pass_of_items {nodes : Items} {items : List Form} (hforms : nodes.forms? = some items) :
    nodes.pass = .ok () := by
  cases nodes with
  | close stop => rfl
  | broken gap => cases hforms
  | cons start item rest =>
    obtain ⟨form, forms, hform, hrest, -⟩ := of_items_cons hforms
    rw [Items.pass, pass_of_form hform]
    exact pass_of_items hrest

theorem pass_of_members {nodes : Members} {members : List (String × Form)}
    (hforms : nodes.forms? = some members) : nodes.pass = .ok () := by
  cases nodes with
  | close stop => rfl
  | broken gap => cases hforms
  | cons name refusal value rest =>
    obtain ⟨text, after, form, forms, hname, hform, hrest, -⟩ := of_members_cons hforms
    rw [Members.pass, (of_readText_eq_ok hname).1]
    change (value.pass >>= fun _ => rest.pass) = _
    rw [pass_of_form hform]
    exact pass_of_members hrest

end

/-! ### Fields and what records hold for them -/

/-- A field, and what a record holds for it. -/
structure Slot (α : Type) where
  field : Field α
  held : α → field.kind.Data

/-- What the members of an object say of a value: one of the name gives it, and without one it is
the default. -/
structure Stated (members : List (String × Form)) (name : String) (kind : Kind)
    (default value : kind.Data) : Prop where
  given : ∀ form, (name, form) ∈ members → form.Gives kind value
  missing : name ∉ members.map Prod.fst → value = default

/-- Whether some slots are the fields of a shape: none of them has to be there, none touches another
one, and a record is what they hold. -/
structure Shape.Consists (shape : Shape α) (slots : List (Slot α)) : Prop where
  fields : shape.fields = slots.map Slot.field
  distinct : (slots.map fun slot => slot.field.name).Nodup
  optional : ∀ slot ∈ slots, slot.field.required = false
  held_store : ∀ slot ∈ slots, ∀ data record, slot.held (slot.field.store data record) = data
  held_store_of_ne : ∀ slot ∈ slots, ∀ other ∈ slots, slot.field.name ≠ other.field.name →
    ∀ data record, slot.held (other.field.store data record) = slot.held record
  ext : ∀ left right, (∀ slot ∈ slots, slot.held left = slot.held right) → left = right

/-- Whether a record is what an object makes of another one. -/
def Overrides (slots : List (Slot α)) (members : List (String × Form)) (base record : α) : Prop :=
  ∀ slot ∈ slots,
    Stated members slot.field.name slot.field.kind (slot.held base) (slot.held record)

section

variable {shape : Shape α} {slots : List (Slot α)} {slot : Slot α} {base record : α}
  {name : String} {form : Form} {members : List (String × Form)}

theorem stated_of_not_mem {kind : Kind} {default value : kind.Data}
    (hname : name ∉ members.map Prod.fst) :
    Stated members name kind default value ↔ value = default := by
  refine ⟨fun h => h.missing hname, fun hdefault => ⟨fun form hform => ?_, fun _ => hdefault⟩⟩
  exact absurd (List.mem_map_of_mem hform) hname

theorem stated_cons_self {kind : Kind} {default value : kind.Data}
    (hname : name ∉ members.map Prod.fst) :
    Stated ((name, form) :: members) name kind default value ↔ form.Gives kind value := by
  refine ⟨fun h => h.given form List.mem_cons_self, fun hgives => ⟨fun other hother => ?_, ?_⟩⟩
  · rcases List.mem_cons.1 hother with hfirst | hrest
    · cases hfirst
      exact hgives
    · exact absurd (List.mem_map_of_mem hrest) hname
  · exact fun hnone => absurd List.mem_cons_self hnone

theorem stated_congr {kind : Kind} {default value : kind.Data} {others : List (String × Form)}
    (hsame : ∀ form, (name, form) ∈ others ↔ (name, form) ∈ members) :
    Stated others name kind default value ↔ Stated members name kind default value := by
  have hname : name ∈ others.map Prod.fst ↔ name ∈ members.map Prod.fst := by simp [hsame]
  constructor
  · exact fun h => ⟨fun form hform => h.given form ((hsame form).2 hform),
      fun hnone => h.missing (mt hname.1 hnone)⟩
  · exact fun h => ⟨fun form hform => h.given form ((hsame form).1 hform),
      fun hnone => h.missing (mt hname.2 hnone)⟩

theorem stated_cons_of_ne {kind : Kind} {default value : kind.Data} {other : String}
    (hother : name ≠ other) :
    Stated ((other, form) :: members) name kind default value ↔
      Stated members name kind default value :=
  stated_congr fun found => by simp [hother]

theorem overrides_nil (hconsists : shape.Consists slots) :
    Overrides slots [] base record ↔ base = record := by
  constructor
  · intro h
    refine hconsists.ext base record fun slot hslot => ?_
    exact ((stated_of_not_mem List.not_mem_nil).1 (h slot hslot)).symm
  · rintro rfl slot -
    exact (stated_of_not_mem List.not_mem_nil).2 rfl

theorem overrides_cons_unknown (hunknown : ∀ slot ∈ slots, slot.field.name ≠ name) :
    Overrides slots ((name, form) :: members) base record ↔ Overrides slots members base record :=
  forall₂_congr fun slot hslot => stated_cons_of_ne (hunknown slot hslot)

theorem overrides_cons_known (hconsists : shape.Consists slots) (hslot : slot ∈ slots)
    (hnew : slot.field.name ∉ members.map Prod.fst) :
    Overrides slots ((slot.field.name, form) :: members) base record ↔
      ∃ data, form.Gives slot.field.kind data ∧
        Overrides slots members (slot.field.store data base) record := by
  have hsame {other : Slot α} (hother : other ∈ slots)
      (hname : other.field.name = slot.field.name) : other = slot :=
    List.inj_on_of_nodup_map hconsists.distinct hother hslot hname
  constructor
  · intro h
    refine ⟨slot.held record, (stated_cons_self hnew).1 (h slot hslot), fun other hother => ?_⟩
    by_cases hname : other.field.name = slot.field.name
    · obtain rfl := hsame hother hname
      exact (stated_of_not_mem hnew).2 (hconsists.held_store other hother _ base).symm
    · rw [hconsists.held_store_of_ne other hother slot hslot hname]
      exact (stated_cons_of_ne hname).1 (h other hother)
  · rintro ⟨data, hgives, h⟩ other hother
    by_cases hname : other.field.name = slot.field.name
    · obtain rfl := hsame hother hname
      have hheld := (stated_of_not_mem hnew).1 (h other hother)
      rw [hconsists.held_store other hother] at hheld
      rw [stated_cons_self hnew, hheld]
      exact hgives
    · have hstated := h other hother
      rw [hconsists.held_store_of_ne other hother slot hslot hname] at hstated
      exact (stated_cons_of_ne hname).2 hstated

/-- Members that are no fields, and the order of those that are, make no difference. -/
theorem overrides_congr {others : List (String × Form)}
    (hsame : ∀ slot ∈ slots, ∀ form, (slot.field.name, form) ∈ others ↔
      (slot.field.name, form) ∈ members) :
    Overrides slots others base record ↔ Overrides slots members base record :=
  forall₂_congr fun slot hslot => stated_congr (hsame slot hslot)

/-- What an object makes of a record is determined by it. -/
theorem Overrides.unique (hconsists : shape.Consists slots) {other : α}
    (h : Overrides slots members base record) (hother : Overrides slots members base other) :
    record = other := by
  refine hconsists.ext record other fun slot hslot => ?_
  by_cases hname : slot.field.name ∈ members.map Prod.fst
  · obtain ⟨⟨name, form⟩, hform, rfl⟩ := List.mem_map.1 hname
    exact ((h slot hslot).given form hform).unique ((hother slot hslot).given form hform)
  · rw [(h slot hslot).missing hname, (hother slot hslot).missing hname]

end

/-- Whether every member that is a field holds data for it. -/
def Shape.Typed (shape : Shape α) (members : List (String × Form)) : Prop :=
  ∀ name form field, (name, form) ∈ members → shape.field? name = some field →
    ∃ data, form.Gives field.kind data

/-! ### Whole objects -/

section

variable {shape : Shape α} {slots : List (Slot α)} {base record : α}
  {members : List (String × Form)}

theorem exists_slot (hconsists : shape.Consists slots) {name : String} {field : Field α}
    (hfield : shape.field? name = some field) :
    ∃ slot ∈ slots, slot.field = field ∧ field.name = name := by
  have hname : field.name = name := by simpa using List.find?_some hfield
  have hmem := List.mem_of_find?_eq_some hfield
  rw [hconsists.fields] at hmem
  obtain ⟨slot, hslot, rfl⟩ := List.mem_map.1 hmem
  exact ⟨slot, hslot, rfl, hname⟩

theorem name_ne_of_field?_eq_none (hconsists : shape.Consists slots) {name : String}
    (hnone : shape.field? name = none) : ∀ slot ∈ slots, slot.field.name ≠ name := by
  rw [Shape.field?, hconsists.fields, List.find?_eq_none] at hnone
  intro slot hslot
  simpa using hnone slot.field (List.mem_map_of_mem hslot)

theorem not_required (hconsists : shape.Consists slots) {field : Field α}
    (hfield : field ∈ shape.fields) : ¬ field.required = true := by
  rw [hconsists.fields] at hfield
  obtain ⟨slot, hslot, rfl⟩ := List.mem_map.1 hfield
  rw [hconsists.optional slot hslot]
  exact Bool.false_ne_true

/-- An object makes something of a record exactly if its members hold data for their fields. -/
theorem exists_overrides_iff (hconsists : shape.Consists slots)
    (hdistinct : (members.map Prod.fst).Nodup) :
    (∃ record, Overrides slots members base record) ↔ shape.Typed members := by
  constructor
  · rintro ⟨record, h⟩ name form field hform hfield
    obtain ⟨slot, hslot, rfl, rfl⟩ := exists_slot hconsists hfield
    exact ⟨slot.held record, (h slot hslot).given form hform⟩
  · intro htyped
    induction members generalizing base with
    | nil => exact ⟨base, (overrides_nil hconsists).2 rfl⟩
    | cons member members ih =>
      obtain ⟨name, form⟩ := member
      obtain ⟨hnew, hothers⟩ := List.nodup_cons.1 hdistinct
      have hrest {base : α} := @ih base hothers fun other found field hfound =>
        htyped other found field (List.mem_cons_of_mem _ hfound)
      cases hfield : shape.field? name with
      | none =>
        obtain ⟨record, h⟩ := @hrest base
        have hunknown := name_ne_of_field?_eq_none hconsists hfield
        exact ⟨record, (overrides_cons_unknown hunknown).2 h⟩
      | some field =>
        obtain ⟨data, hgives⟩ := htyped name form field List.mem_cons_self hfield
        obtain ⟨slot, hslot, rfl, rfl⟩ := exists_slot hconsists hfield
        obtain ⟨record, h⟩ := @hrest (slot.field.store data base)
        exact ⟨record, (overrides_cons_known hconsists hslot hnew).2 ⟨data, hgives, h⟩⟩

theorem ofMembers_cons {name after : Cursor} {text : String} {refusal : Nat} {value : Node}
    {rest : Members} {seen : List String} (hname : readText name = .ok (text, after)) :
    shape.ofMembers base seen (.cons name refusal value rest) =
      match shape.field? text with
      | none => value.pass >>= fun _ => shape.ofMembers base seen rest
      | some field =>
        if seen.contains text then .error ⟨.duplicateField text, refusal⟩
        else field.kind.ofNode value >>= fun data =>
          shape.ofMembers (field.store data base) (text :: seen) rest := by
  rw [Shape.ofMembers, hname]
  rfl

/-- What is read from the members of an object is what they make of the record at hand. -/
theorem ofMembers_eq_ok_iff (hconsists : shape.Consists slots) {nodes : Members}
    {seen : List String} (hforms : nodes.forms? = some members)
    (hdistinct : (members.map Prod.fst).Nodup)
    (hseen : ∀ name ∈ members.map Prod.fst, name ∉ seen) :
    shape.ofMembers base seen nodes = .ok record ↔ Overrides slots members base record := by
  -- The names read so far are not among the members that are left, so nothing is refused as read
  -- twice; the record at hand already holds what was said by those members.
  induction members generalizing nodes seen base with
  | nil =>
    cases nodes with
    | broken gap => cases hforms
    | cons name refusal value rest =>
      obtain ⟨_, _, _, _, -, -, -, hcons⟩ := of_members_cons hforms
      cases hcons
    | close stop =>
      have hnone : shape.missing? seen = none :=
        Shape.missing?_eq_none fun field hfield hrequired =>
          absurd hrequired (not_required hconsists hfield)
      simp only [Shape.ofMembers, hnone, Except.ok.injEq, overrides_nil hconsists]
  | cons member members ih =>
    cases nodes with
    | broken gap | close stop => cases hforms
    | cons name refusal value rest =>
      obtain ⟨text, after, form, forms, hname, hform, hrest, hmember⟩ := of_members_cons hforms
      cases hmember
      obtain ⟨hnew, hothers⟩ := List.nodup_cons.1 hdistinct
      have hlater : ∀ name ∈ members.map Prod.fst, name ∉ seen := fun name hname =>
        hseen name (List.mem_cons_of_mem _ hname)
      rw [ofMembers_cons hname]
      cases hfield : shape.field? text with
      | none =>
        rw [overrides_cons_unknown (name_ne_of_field?_eq_none hconsists hfield),
          ← ih hrest hothers hlater, pass_of_form hform]
        rfl
      | some field =>
        obtain ⟨slot, hslot, rfl, rfl⟩ := exists_slot hconsists hfield
        have hfirst : seen.contains slot.field.name = false := by
          simpa using hseen slot.field.name List.mem_cons_self
        simp only [hfirst, Bool.false_eq_true, if_false]
        rw [overrides_cons_known hconsists hslot hnew, bind_eq_ok_iff]
        refine exists_congr fun data => and_congr (ofNode_eq_ok_iff hform _)
          (ih hrest hothers fun other hother => ?_)
        rw [List.mem_cons, not_or]
        exact ⟨fun hsame => hnew (hsame ▸ hother), hlater other hother⟩

theorem ofDocument_object (shape : Shape α) (start : Nat) (nodes : Members) :
    shape.ofDocument ⟨.object start nodes, none⟩ = shape.ofMembers shape.blank [] nodes := by
  rw [Shape.ofDocument]
  dsimp only
  cases shape.ofMembers shape.blank [] nodes <;> rfl

theorem read_eq_ok_iff_ofDocument {bytes : Bytes} :
    shape.read bytes = .ok record ↔ shape.ofDocument (Document.scan bytes) = .ok record := by
  unfold Shape.read
  cases shape.ofDocument (Document.scan bytes) <;> simp

/-- An object with distinct names is read as the record that it makes of the blank one, if there is
such a record. Bytes with an escape for half a character in a member that is passed over spell no
object, although they may be read. -/
theorem read_object_eq_ok_iff (hconsists : shape.Consists slots) {bytes : Bytes}
    (hspells : SpellsDocument bytes (.object members)) (hdistinct : (members.map Prod.fst).Nodup) :
    shape.read bytes = .ok record ↔ Overrides slots members shape.blank record := by
  obtain ⟨node, hscan, hform⟩ := hspells.scan
  obtain ⟨start, nodes, rfl, hforms⟩ : ∃ start nodes, node = .object start nodes ∧
      nodes.forms? = some members := by
    cases node with
    | object start nodes =>
      obtain ⟨forms, hforms, hobject⟩ := Option.map_eq_some_iff.1 hform
      cases hobject
      exact ⟨start, nodes, rfl, hforms⟩
    | _ => simp [Node.form?] at hform
  rw [read_eq_ok_iff_ofDocument, hscan, ofDocument_object]
  exact ofMembers_eq_ok_iff hconsists hforms hdistinct fun _ _ => List.not_mem_nil

/-! ### Written objects -/

/-- The member that a slot is written as; a text that may be missing and is missing is left out. -/
def Slot.entry? : Slot α → α → Option (Entry α)
  | ⟨⟨name, .text, required, store⟩, held⟩, record =>
    some {
      field := ⟨name, .text, required, store⟩
      data := held record
      written := writtenText (held record)
      value := .text (held record)
      hvalue := rfl
      hwritten := scansTo_text (held record) }
  | ⟨⟨name, .optionalText, required, store⟩, held⟩, record =>
    (held record).map fun text => {
      field := ⟨name, .optionalText, required, store⟩
      data := some text
      written := writtenText text
      value := .text text
      hvalue := rfl
      hwritten := scansTo_text text }
  | ⟨⟨name, .flag, required, store⟩, held⟩, record =>
    some {
      field := ⟨name, .flag, required, store⟩
      data := held record
      written := writtenFlag (held record)
      value := .bool (held record)
      hvalue := rfl
      hwritten := scansTo_flag (held record) }
  | ⟨⟨name, .word description, required, store⟩, held⟩, record =>
    some {
      field := ⟨name, .word description, required, store⟩
      data := held record
      written := writtenWord (held record)
      value := .number (.unsigned (held record))
      hvalue := rfl
      hwritten := scansTo_word (held record) }

def entriesOf (slots : List (Slot α)) (record : α) : List (Entry α) :=
  slots.filterMap fun slot => slot.entry? record

theorem field_of_entry? {slot : Slot α} {entry : Entry α}
    (hentry : slot.entry? record = some entry) : entry.field = slot.field := by
  obtain ⟨⟨name, kind, required, store⟩, held⟩ := slot
  cases kind with
  | optionalText =>
    obtain ⟨text, -, rfl⟩ := Option.map_eq_some_iff.1 hentry
    rfl
  | text | flag | word =>
    cases hentry
    rfl

theorem field?_of_mem (hconsists : shape.Consists slots) {slot : Slot α} (hslot : slot ∈ slots) :
    shape.field? slot.field.name = some slot.field := by
  cases hfield : shape.field? slot.field.name with
  | none => exact absurd rfl (name_ne_of_field?_eq_none hconsists hfield slot hslot)
  | some field =>
    obtain ⟨other, hother, rfl, hname⟩ := exists_slot hconsists hfield
    rw [List.inj_on_of_nodup_map hconsists.distinct hother hslot hname]

theorem fits_entriesOf (hconsists : shape.Consists slots) (record : α) :
    shape.Fits (entriesOf slots record) where
  known entry hentry := by
    obtain ⟨slot, hslot, hentry⟩ := List.mem_filterMap.1 hentry
    rw [Entry.name, field_of_entry? hentry]
    exact field?_of_mem hconsists hslot
  distinct := by
    rw [List.Nodup, List.pairwise_map, entriesOf, List.pairwise_filterMap]
    refine (List.pairwise_map.1 hconsists.distinct).imp ?_
    intro slot other hne entry hentry otherEntry hother
    rw [Entry.name, Entry.name, field_of_entry? hentry, field_of_entry? hother]
    exact hne
  complete field hfield hrequired := absurd hrequired (not_required hconsists hfield)

end

end AccountManager.Json
