import AccountManager.Proofs.Json.Sound

/-!
# Which bytes are read as which data

Bytes are read as a value exactly if they spell a document that does not nest too deep and whose
numbers are in range, and then they spell that document only. Of a name that an object has several
times the last member counts.
-/

namespace AccountManager.Json

/-! ### The data of a form -/

mutual

/-- The data of a document, if its numbers are in range. -/
def Form.value? : Form → Option Value
  | .null => some .null
  | .bool value => some (.bool value)
  | .number numeral => numeral.value.toOption.map .number
  | .text content => some (.text content)
  | .array items => (valuesOf? items).map .array
  | .object members => (membersOf? [] members).map .object

def valuesOf? : List Form → Option (List Value)
  | [] => some []
  | item :: rest => do
    let value ← item.value?
    let values ← valuesOf? rest
    some (value :: values)

def membersOf? (seen : List (String × Value)) :
    List (String × Form) → Option (List (String × Value))
  | [] => some seen
  | (name, member) :: rest => do
    let value ← member.value?
    membersOf? (Value.insert name value seen) rest

end

mutual

/-- Whether arrays and objects nest no deeper than this. -/
def Form.Nests (depth : Nat) : Form → Prop
  | .array items => ∃ inner, depth = inner + 1 ∧ ItemsNest inner items
  | .object members => ∃ inner, depth = inner + 1 ∧ MembersNest inner members
  | _ => True

def ItemsNest (depth : Nat) : List Form → Prop
  | [] => True
  | item :: rest => item.Nests depth ∧ ItemsNest depth rest

def MembersNest (depth : Nat) : List (String × Form) → Prop
  | [] => True
  | (_, member) :: rest => member.Nests depth ∧ MembersNest depth rest

end

/-! ### From trees to data -/

theorem numberAt_eq_ok_iff {numeral : Numeral} {stop : Nat} {number : Number} :
    numberAt numeral stop = .ok number ↔ numeral.value = .ok number := by
  unfold numberAt
  split
  · rename_i other hvalue
    rw [hvalue, Except.ok.injEq, Except.ok.injEq]
  · rename_i left hvalue
    rw [hvalue]
    exact ⟨nofun, nofun⟩

mutual

/-- A tree holds data exactly if it shows a document that holds them. -/
theorem toValue_eq_ok_iff (node : Node) {depth : Nat} {value : Value} :
    node.toValue depth = .ok value ↔
      ∃ form, node.form? = some form ∧ form.Nests depth ∧ form.value? = some value := by
  cases node with
  | null stop => simp [Node.toValue, Node.form?, Form.Nests, Form.value?]
  | bool flag stop => simp [Node.toValue, Node.form?, Form.Nests, Form.value?]
  | number numeral stop =>
    simp [Node.toValue, Node.form?, Form.Nests, Form.value?, map_eq_ok_iff, numberAt_eq_ok_iff,
      toOption_eq_some_iff]
  | text inside =>
    rw [Node.toValue, map_eq_ok_iff]
    constructor
    · rintro ⟨read, hread, rfl⟩
      refine ⟨.text read.1, ?_, trivial, rfl⟩
      rw [Node.form?, hread]
      rfl
    · rintro ⟨form, hform, -, hvalue⟩
      obtain ⟨read, hread, rfl⟩ := Option.map_eq_some_iff.1 hform
      exact ⟨read, of_toOption_eq_some hread, Option.some.inj hvalue⟩
  | array start items =>
    cases depth with
    | zero => simp [Node.toValue, Node.form?, Form.Nests]
    | succ depth =>
      rw [Node.toValue, map_eq_ok_iff]
      constructor
      · rintro ⟨values, hvalues, rfl⟩
        obtain ⟨forms, hforms, hnest, hvalues⟩ := (toValues_eq_ok_iff items).1 hvalues
        refine ⟨.array forms, ?_, ⟨depth, rfl, hnest⟩, ?_⟩
        · rw [Node.form?, hforms]
          rfl
        · rw [Form.value?, hvalues]
          rfl
      · rintro ⟨form, hform, hnest, hvalue⟩
        obtain ⟨forms, hforms, rfl⟩ := Option.map_eq_some_iff.1 hform
        obtain ⟨_, ⟨⟩, hnest⟩ := hnest
        obtain ⟨values, hvalues, rfl⟩ := Option.map_eq_some_iff.1 hvalue
        exact ⟨values, (toValues_eq_ok_iff items).2 ⟨forms, hforms, hnest, hvalues⟩, rfl⟩
  | object start members =>
    cases depth with
    | zero => simp [Node.toValue, Node.form?, Form.Nests]
    | succ depth =>
      rw [Node.toValue, map_eq_ok_iff]
      constructor
      · rintro ⟨values, hvalues, rfl⟩
        obtain ⟨forms, hforms, hnest, hvalues⟩ := (toMembers_eq_ok_iff members).1 hvalues
        refine ⟨.object forms, ?_, ⟨depth, rfl, hnest⟩, ?_⟩
        · rw [Node.form?, hforms]
          rfl
        · rw [Form.value?, hvalues]
          rfl
      · rintro ⟨form, hform, hnest, hvalue⟩
        obtain ⟨forms, hforms, rfl⟩ := Option.map_eq_some_iff.1 hform
        obtain ⟨_, ⟨⟩, hnest⟩ := hnest
        obtain ⟨values, hvalues, rfl⟩ := Option.map_eq_some_iff.1 hvalue
        exact ⟨values, (toMembers_eq_ok_iff members).2 ⟨forms, hforms, hnest, hvalues⟩, rfl⟩
  | broken gap => simp [Node.toValue, Node.form?]

theorem toValues_eq_ok_iff (nodes : Items) {depth : Nat} {values : List Value} :
    nodes.toValues depth = .ok values ↔
      ∃ items, nodes.forms? = some items ∧ ItemsNest depth items ∧
        valuesOf? items = some values := by
  cases nodes with
  | close stop => simp [Items.toValues, Items.forms?, ItemsNest, valuesOf?]
  | broken gap => simp [Items.toValues, Items.forms?]
  | cons start item rest =>
    constructor
    · intro hread
      obtain ⟨value, hvalue, hread⟩ := of_bind_eq_ok hread
      obtain ⟨others, hothers, hread⟩ := of_bind_eq_ok hread
      cases hread
      obtain ⟨form, hform, hnests, hmeans⟩ := (toValue_eq_ok_iff item).1 hvalue
      obtain ⟨forms, hforms, hnest, hmean⟩ := (toValues_eq_ok_iff rest).1 hothers
      refine ⟨form :: forms, ?_, ⟨hnests, hnest⟩, ?_⟩
      · rw [Items.forms?, hform, hforms]
        rfl
      · rw [valuesOf?, hmeans, hmean]
        rfl
    · rintro ⟨items, hshown, hnest, hmean⟩
      obtain ⟨form, forms, hform, hforms, rfl⟩ := of_items_cons hshown
      obtain ⟨value, hmeans, hvalues⟩ := Option.bind_eq_some_iff.1 hmean
      obtain ⟨others, hothers, hvalues⟩ := Option.bind_eq_some_iff.1 hvalues
      obtain rfl := Option.some.inj hvalues
      rw [Items.toValues, (toValue_eq_ok_iff item).2 ⟨form, hform, hnest.1, hmeans⟩,
        (toValues_eq_ok_iff rest).2 ⟨forms, hforms, hnest.2, hothers⟩]
      rfl

theorem toMembers_eq_ok_iff (nodes : Members) {depth : Nat} {seen values : List (String × Value)} :
    nodes.toMembers depth seen = .ok values ↔
      ∃ members, nodes.forms? = some members ∧ MembersNest depth members ∧
        membersOf? seen members = some values := by
  cases nodes with
  | close stop => simp [Members.toMembers, Members.forms?, MembersNest, membersOf?]
  | broken gap => simp [Members.toMembers, Members.forms?]
  | cons name refusal value rest =>
    constructor
    · intro hread
      obtain ⟨read, hname, hread⟩ := of_bind_eq_ok hread
      obtain ⟨held, hheld, hread⟩ := of_bind_eq_ok hread
      obtain ⟨form, hform, hnests, hmeans⟩ := (toValue_eq_ok_iff value).1 hheld
      obtain ⟨forms, hforms, hnest, hmean⟩ := (toMembers_eq_ok_iff rest).1 hread
      refine ⟨(read.1, form) :: forms, ?_, ⟨hnests, hnest⟩, ?_⟩
      · rw [Members.forms?, hname, hform, hforms]
        rfl
      · rw [membersOf?, hmeans]
        exact hmean
    · rintro ⟨members, hshown, hnest, hmean⟩
      obtain ⟨text, after, form, forms, hname, hform, hforms, rfl⟩ := of_members_cons hshown
      obtain ⟨held, hmeans, hmean⟩ := Option.bind_eq_some_iff.1 hmean
      rw [Members.toMembers, hname]
      change (value.toValue depth).bind (fun held => rest.toMembers depth _) = _
      rw [(toValue_eq_ok_iff value).2 ⟨form, hform, hnest.1, hmeans⟩]
      exact (toMembers_eq_ok_iff rest).2 ⟨forms, hforms, hnest.2, hmean⟩

end

/-! ### Whole documents -/

section

variable {bytes : Bytes} {form other : Form}

theorem SpellsDocument.scan (h : SpellsDocument bytes form) :
    ∃ node, Document.scan bytes = ⟨node, none⟩ ∧ node.form? = some form := by
  obtain ⟨before, content, behind, hbytes, hbefore, hspells, hbehind⟩ := h
  have hends : EndsNumber behind := by
    rw [← List.append_nil behind]
    exact hbehind.endsNumber trivial
  have hfuel : content.length < 2 * bytes.length + 2 := by
    rw [hbytes]
    simp only [List.length_append]
    omega
  obtain ⟨node, after, hscan, hafter, hform⟩ :=
    @(scans (2 * bytes.length + 2)).1 content before behind form ⟨0, bytes⟩ hspells hfuel hbefore
      hends hbytes
  have hskip : after.skipBlanks.rest = [] := by
    rw [skipBlanks_eq hbehind (show StartsSolid [] from trivial) (by rw [hafter, List.append_nil])]
  refine ⟨node, ?_, hform⟩
  rw [Document.scan, hscan]
  simp only [hskip, List.isEmpty_nil, if_true]

theorem spellsDocument_of_scan {node : Node} (hscan : Document.scan bytes = ⟨node, none⟩)
    (hform : node.form? = some form) : SpellsDocument bytes form := by
  unfold Document.scan at hscan
  cases hvalue : scanValue (2 * bytes.length + 2) ⟨0, bytes⟩ with
  | mk root stop =>
    rw [hvalue] at hscan
    have hroot : root = node := by
      cases stop with
      | error gap => exact congrArg Document.root hscan
      | ok after =>
        dsimp only at hscan
        split at hscan
        · exact congrArg Document.root hscan
        · cases hscan
    rw [hroot] at hvalue
    obtain ⟨before, content, after, rfl, hbytes, hbefore, hspells⟩ :=
      (shows (2 * bytes.length + 2)).1 hvalue hform
    obtain ⟨blanks, hblanks, hrest, -⟩ := exists_blanks after
    dsimp only at hscan hbytes
    split at hscan
    · rename_i hempty
      rw [List.isEmpty_iff.1 hempty, List.append_nil] at hrest
      rw [hrest] at hbytes
      exact ⟨before, content, blanks, hbytes, hbefore, hspells, hblanks⟩
    · cases hscan

/-- Bytes spell one document at most. -/
theorem SpellsDocument.unique (h : SpellsDocument bytes form)
    (hother : SpellsDocument bytes other) : form = other := by
  obtain ⟨node, hscan, hform⟩ := h.scan
  obtain ⟨otherNode, hotherScan, hotherForm⟩ := hother.scan
  rw [hscan] at hotherScan
  cases hotherScan
  exact Option.some.inj (hform.symm.trans hotherForm)

/-- Bytes are read as a value exactly if they spell a document with that value that does not nest
too deep. -/
theorem Value.read_eq_ok_iff {value : Value} :
    Value.read bytes = .ok value ↔
      ∃ form, SpellsDocument bytes form ∧ form.Nests (depthLimit - 1) ∧
        form.value? = some value := by
  constructor
  · intro hread
    unfold Value.read at hread
    cases hdocument : Document.scan bytes with
    | mk node trailing =>
      rw [hdocument] at hread
      cases hvalue : (Document.mk node trailing).toValue with
      | error fault =>
        rw [hvalue] at hread
        cases hread
      | ok found =>
        rw [hvalue] at hread
        cases hread
        obtain ⟨root, hroot, hfound⟩ := of_bind_eq_ok hvalue
        cases trailing with
        | some fault => cases hfound
        | none =>
          cases hfound
          obtain ⟨form, hform, hnests, hmeans⟩ := (toValue_eq_ok_iff node).1 hroot
          exact ⟨form, spellsDocument_of_scan hdocument hform, hnests, hmeans⟩
  · rintro ⟨form, hspells, hnests, hmeans⟩
    obtain ⟨node, hscan, hform⟩ := hspells.scan
    have hvalue := (toValue_eq_ok_iff node).2 ⟨form, hform, hnests, hmeans⟩
    rw [Value.read, hscan, Document.toValue, hvalue]
    rfl

end

/-! ### Members -/

def lastOf? (name : String) (members : List (String × Form)) : Option Form :=
  (members.reverse.find? fun member => member.1 = name).map Prod.snd

theorem lastOf?_cons (name : String) (member : String × Form) (rest : List (String × Form)) :
    lastOf? name (member :: rest) =
      (lastOf? name rest).or (if member.1 = name then some member.2 else none) := by
  unfold lastOf?
  rw [List.reverse_cons, List.find?_append]
  cases rest.reverse.find? fun member => member.1 = name with
  | some found => rfl
  | none =>
    by_cases hname : member.1 = name
    · simp [hname]
    · simp [hname]

theorem member?_insert (name other : String) (value : Value) (held : List (String × Value)) :
    (Value.object (Value.insert other value held)).member? name =
      if other = name then some value else (Value.object held).member? name := by
  induction held with
  | nil =>
    by_cases hname : other = name
    · simp [Value.insert, Value.member?, hname]
    · simp [Value.insert, Value.member?, hname]
  | cons first rest ih =>
    obtain ⟨key, kept⟩ := first
    simp only [Value.member?] at ih ⊢
    rw [Value.insert]
    split
    · by_cases hname : other = name
      · simp [hname]
      · simp [hname]
    · split
      · rename_i hkey
        subst hkey
        by_cases hname : other = name
        · simp [hname]
        · simp [hname]
      · rename_i hkey
        by_cases hfirst : key = name
        · have hname : other ≠ name := fun h => hkey (h.trans hfirst.symm)
          simp [hfirst, hname]
        · rw [List.find?_cons_of_neg (by simpa using hfirst), ih,
            List.find?_cons_of_neg (by simpa using hfirst)]

theorem member?_of_membersOf? {members : List (String × Form)} {seen values : List (String × Value)}
    (hmembers : membersOf? seen members = some values) (name : String) :
    (Value.object values).member? name =
      match lastOf? name members with
      | some form => form.value?
      | none => (Value.object seen).member? name := by
  induction members generalizing seen with
  | nil =>
    cases hmembers
    rfl
  | cons member rest ih =>
    obtain ⟨key, form⟩ := member
    obtain ⟨value, hvalue, hrest⟩ := Option.bind_eq_some_iff.1 hmembers
    rw [ih hrest, lastOf?_cons]
    cases lastOf? name rest with
    | some last => rfl
    | none =>
      rw [member?_insert]
      by_cases hname : key = name
      · simp [hname, hvalue]
      · simp [hname]

/-- Whether some bytes are an object whose last member of a name has this form. -/
def HasMember (bytes : Bytes) (name : String) (form : Form) : Prop :=
  ∃ members, SpellsDocument bytes (.object members) ∧ lastOf? name members = some form

theorem HasMember.unique {bytes : Bytes} {name : String} {form other : Form}
    (h : HasMember bytes name form) (hother : HasMember bytes name other) : form = other := by
  obtain ⟨members, hspells, hlast⟩ := h
  obtain ⟨others, hotherSpells, hotherLast⟩ := hother
  cases hspells.unique hotherSpells
  exact Option.some.inj (hlast.symm.trans hotherLast)

theorem of_value?_eq_object {form : Form} {values : List (String × Value)}
    (hvalue : form.value? = some (.object values)) :
    ∃ members, form = .object members ∧ membersOf? [] members = some values := by
  cases form with
  | object members =>
    obtain ⟨found, hfound, hvalues⟩ := Option.map_eq_some_iff.1 hvalue
    cases hvalues
    exact ⟨members, rfl, hfound⟩
  | number numeral =>
    obtain ⟨_, _, hnumber⟩ := Option.map_eq_some_iff.1 hvalue
    cases hnumber
  | array items =>
    obtain ⟨_, _, harray⟩ := Option.map_eq_some_iff.1 hvalue
    cases harray
  | null | bool | text => cases hvalue

theorem of_value?_eq_number {form : Form} {number : Number}
    (hvalue : form.value? = some (.number number)) :
    ∃ numeral, form = .number numeral ∧ numeral.value = .ok number := by
  cases form with
  | number numeral =>
    obtain ⟨found, hfound, hnumber⟩ := Option.map_eq_some_iff.1 hvalue
    cases hnumber
    exact ⟨numeral, rfl, of_toOption_eq_some hfound⟩
  | object members =>
    obtain ⟨_, _, hobject⟩ := Option.map_eq_some_iff.1 hvalue
    cases hobject
  | array items =>
    obtain ⟨_, _, harray⟩ := Option.map_eq_some_iff.1 hvalue
    cases harray
  | null | bool | text => cases hvalue

/-- What is read under a name is the value of the last member of that name. -/
theorem member?_eq_some_iff {bytes : Bytes} {document value : Value} {name : String}
    (hread : Value.read bytes = .ok document) :
    document.member? name = some value ↔
      ∃ form, HasMember bytes name form ∧ form.value? = some value := by
  obtain ⟨root, hspells, -, hdocument⟩ := Value.read_eq_ok_iff.1 hread
  constructor
  · intro hvalue
    obtain ⟨values, rfl⟩ : ∃ values, document = .object values := by
      cases document with
      | object values => exact ⟨values, rfl⟩
      | null | bool | number | text | array => cases hvalue
    obtain ⟨members, rfl, hmembers⟩ := of_value?_eq_object hdocument
    rw [member?_of_membersOf? hmembers] at hvalue
    cases hlast : lastOf? name members with
    | none =>
      rw [hlast] at hvalue
      cases hvalue
    | some form =>
      rw [hlast] at hvalue
      exact ⟨form, ⟨members, hspells, hlast⟩, hvalue⟩
  · rintro ⟨form, ⟨members, hobject, hlast⟩, hvalue⟩
    obtain rfl := hspells.unique hobject
    obtain ⟨values, hmembers, rfl⟩ := Option.map_eq_some_iff.1 hdocument
    rw [member?_of_membersOf? hmembers, hlast]
    exact hvalue

end AccountManager.Json
