import AccountManager.Proofs.Json.Numerals
import AccountManager.Proofs.Json.Scan

/-!
# What is spelled is scanned

Bytes that spell a document are scanned to a tree that shows it, up to where they stop and whatever
follows them. Values, items and members need each other, so they are taken together, by induction on
the fuel of the scan.
-/

namespace AccountManager.Json

/-! ### What a tree shows -/

mutual

/-- The document that a tree shows, if all of it was sound and its texts can be read. -/
def Node.form? : Node → Option Form
  | .null _ => some .null
  | .bool value _ => some (.bool value)
  | .number numeral _ => some (.number numeral)
  | .text inside => (readText inside).toOption.map fun read => .text read.1
  | .array _ items => items.forms?.map .array
  | .object _ members => members.forms?.map .object
  | .broken _ => none

def Items.forms? : Items → Option (List Form)
  | .close _ => some []
  | .broken _ => none
  | .cons _ item rest => do
    let form ← item.form?
    let forms ← rest.forms?
    some (form :: forms)

def Members.forms? : Members → Option (List (String × Form))
  | .close _ => some []
  | .broken _ => none
  | .cons name _ value rest => do
    let read ← (readText name).toOption
    let form ← value.form?
    let forms ← rest.forms?
    some ((read.1, form) :: forms)

end

/-! ### Blanks -/

theorem Blank.nil : Blank [] := nofun

theorem Blank.append {left right : Bytes} (hleft : Blank left) (hright : Blank right) :
    Blank (left ++ right) := by
  intro first hfirst
  rcases List.mem_append.1 hfirst with hfirst | hfirst
  · exact hleft first hfirst
  · exact hright first hfirst

/-- Whether no blank stands ahead. -/
def StartsSolid : Bytes → Prop
  | [] => True
  | first :: _ => isBlank first = false

theorem skipBlanksFrom_blank {blanks rest : Bytes} (hblanks : Blank blanks)
    (hrest : StartsSolid rest) (offset : Nat) :
    skipBlanksFrom offset (blanks ++ rest) = ⟨offset + blanks.length, rest⟩ := by
  induction blanks generalizing offset with
  | nil =>
    cases rest with
    | nil => rfl
    | cons first rest =>
      have hfirst : isBlank first = false := hrest
      rw [List.nil_append, skipBlanksFrom, hfirst]
      rfl
  | cons first blanks ih =>
    have hfirst := hblanks first List.mem_cons_self
    rw [List.cons_append, skipBlanksFrom, if_pos hfirst,
      ih fun other hother => hblanks other (List.mem_cons_of_mem first hother), List.length_cons]
    congr 1
    omega

theorem skipBlanks_eq {cursor : Cursor} {blanks rest : Bytes} (hblanks : Blank blanks)
    (hrest : StartsSolid rest) (hcursor : cursor.rest = blanks ++ rest) :
    cursor.skipBlanks = ⟨cursor.offset + blanks.length, rest⟩ := by
  rw [Cursor.skipBlanks, hcursor, skipBlanksFrom_blank hblanks hrest]

theorem exists_blanks_from (offset : Nat) (bytes : Bytes) :
    ∃ blanks, Blank blanks ∧ bytes = blanks ++ (skipBlanksFrom offset bytes).rest ∧
      StartsSolid (skipBlanksFrom offset bytes).rest := by
  induction bytes generalizing offset with
  | nil => exact ⟨[], .nil, rfl, trivial⟩
  | cons first rest ih =>
    rw [skipBlanksFrom]
    split
    · rename_i hfirst
      obtain ⟨blanks, hblanks, hrest, hsolid⟩ := ih (offset + 1)
      refine ⟨first :: blanks, ?_, congrArg (List.cons first) hrest, hsolid⟩
      intro other hother
      rcases List.mem_cons.1 hother with rfl | hother
      · exact hfirst
      · exact hblanks other hother
    · rename_i hfirst
      exact ⟨[], .nil, rfl, Bool.eq_false_iff.2 hfirst⟩

theorem exists_blanks (cursor : Cursor) :
    ∃ blanks, Blank blanks ∧ cursor.rest = blanks ++ cursor.skipBlanks.rest ∧
      StartsSolid cursor.skipBlanks.rest :=
  exists_blanks_from cursor.offset cursor.rest

theorem of_isBlank {first : UInt8} (hfirst : isBlank first = true) :
    first = 32 ∨ first = 10 ∨ first = 9 ∨ first = 13 := by
  simpa [isBlank, or_assoc] using hfirst

theorem Blank.endsNumber {blanks tail : Bytes} (hblanks : Blank blanks) (htail : EndsNumber tail) :
    EndsNumber (blanks ++ tail) := by
  cases blanks with
  | nil => exact htail
  | cons first rest =>
    rcases of_isBlank (hblanks first List.mem_cons_self) with rfl | rfl | rfl | rfl <;>
      exact ⟨by decide, by decide, by decide, by decide⟩

/-! ### What values begin and end with -/

theorem digit?_ne {first other : UInt8} (hdigit : (digit? first).isSome)
    (hother : digit? other = none) : first ≠ other := by
  rintro rfl
  rw [hother] at hdigit
  cases hdigit

theorem SpellsUnsigned.exists_cons {bytes : Bytes} {numeral : Numeral}
    (h : SpellsUnsigned bytes numeral) :
    ∃ first rest, bytes = first :: rest ∧ (digit? first).isSome := by
  obtain ⟨whole, fraction, exponent, rfl, hwhole, -, -⟩ := h
  obtain ⟨first, rest, rfl, hdigit⟩ := hwhole.spelled.exists_cons hwhole.nonempty
  exact ⟨first, rest ++ (fraction ++ exponent), rfl, hdigit⟩

/-- Whether a value may begin with a byte. -/
def Opens (first : UInt8) : Prop := isBlank first = false ∧ first ≠ byte ']'

theorem opens_of_digit {first : UInt8} (hdigit : (digit? first).isSome) : Opens first := by
  refine ⟨?_, digit?_ne hdigit (by decide)⟩
  rw [← Bool.not_eq_true]
  intro hblank
  rcases of_isBlank hblank with rfl | rfl | rfl | rfl <;> exact absurd hdigit (by decide)

theorem Spells.exists_cons {bytes : Bytes} {form : Form} (h : Spells bytes form) :
    ∃ first rest, bytes = first :: rest ∧ Opens first := by
  cases h with
  | null => exact ⟨_, _, rfl, by decide, by decide⟩
  | bool value => cases value <;> exact ⟨_, _, rfl, by decide, by decide⟩
  | @number _ numeral hnumeral =>
    obtain ⟨rest, rfl, hrest⟩ := hnumeral
    obtain ⟨first, others, rfl, hdigit⟩ := hrest.exists_cons
    cases numeral.negative with
    | true => exact ⟨_, _, rfl, by decide, by decide⟩
    | false => exact ⟨first, others, rfl, opens_of_digit hdigit⟩
  | text _ => exact ⟨_, _, rfl, by decide, by decide⟩
  | array _ => exact ⟨_, _, rfl, by decide, by decide⟩
  | object _ => exact ⟨_, _, rfl, by decide, by decide⟩

theorem Leads.endsNumber {lead tail : Bytes} (h : Leads false lead) :
    EndsNumber (lead ++ tail) := by
  cases h with
  | @comma before after hbefore _ =>
    rw [List.append_assoc]
    exact hbefore.endsNumber ⟨by decide, by decide, by decide, by decide⟩

theorem SpellsItems.endsNumber {bytes tail : Bytes} {items : List Form}
    (h : SpellsItems false bytes items) : EndsNumber (bytes ++ tail) := by
  cases h with
  | close hblanks =>
    rw [List.append_assoc]
    exact hblanks.endsNumber ⟨by decide, by decide, by decide, by decide⟩
  | item hlead _ _ =>
    rw [List.append_assoc]
    exact hlead.endsNumber

theorem SpellsMembers.endsNumber {bytes tail : Bytes} {members : List (String × Form)}
    (h : SpellsMembers false bytes members) : EndsNumber (bytes ++ tail) := by
  cases h with
  | close hblanks =>
    rw [List.append_assoc]
    exact hblanks.endsNumber ⟨by decide, by decide, by decide, by decide⟩
  | member hlead _ _ _ _ _ =>
    rw [List.append_assoc]
    exact hlead.endsNumber

theorem SpellsItems.length_pos {first : Bool} {bytes : Bytes} {items : List Form}
    (h : SpellsItems first bytes items) : 0 < bytes.length := by
  cases h with
  | close hblanks => simp
  | item hlead hitem hrest =>
    obtain ⟨next, others, rfl, -⟩ := hitem.exists_cons
    simp only [List.length_append, List.length_cons]
    omega

theorem SpellsMembers.length_pos {first : Bool} {bytes : Bytes} {members : List (String × Form)}
    (h : SpellsMembers first bytes members) : 0 < bytes.length := by
  cases h with
  | close hblanks => simp
  | member hlead hname hbefore hafter hvalue hrest =>
    simp only [List.length_append, List.length_cons]
    omega

/-! ### Words -/

theorem scanWord_append (word tail : Bytes) (offset : Nat) :
    scanWord offset word (word ++ tail) = .ok ⟨offset + word.length, tail⟩ := by
  induction word generalizing offset with
  | nil => rfl
  | cons wanted word ih =>
    rw [List.cons_append, scanWord, if_pos rfl, ih, List.length_cons]
    congr 2
    omega

theorem of_scanWord_eq_ok {word bytes : Bytes} {offset : Nat} {after : Cursor}
    (hscan : scanWord offset word bytes = .ok after) : bytes = word ++ after.rest := by
  induction word generalizing offset bytes with
  | nil =>
    cases hscan
    rfl
  | cons wanted word ih =>
    cases bytes with
    | nil => cases hscan
    | cons first rest =>
      rw [scanWord] at hscan
      split at hscan
      · rename_i hfirst
        rw [hfirst, ih hscan]
        rfl
      · cases hscan

theorem scanLiteral_append {word : String} {cursor : Cursor} {tail : Bytes}
    (hcursor : cursor.rest = word.toList.map byte ++ tail) (node : Nat → Node) :
    ∃ after, scanLiteral cursor word node = (node after.offset, .ok after) ∧ after.rest = tail := by
  refine ⟨⟨cursor.offset + (word.toList.map byte).length, tail⟩, ?_, rfl⟩
  rw [scanLiteral, hcursor, scanWord_append]
  rfl

theorem of_scanLiteral_eq {word : String} {cursor : Cursor} {node : Nat → Node} {found : Node}
    {stop : Except Break Cursor} {form : Form}
    (hscan : scanLiteral cursor word node = (found, stop)) (hform : found.form? = some form) :
    ∃ after, stop = .ok after ∧ found = node after.offset ∧
      cursor.rest = word.toList.map byte ++ after.rest := by
  unfold scanLiteral at hscan
  cases hword : scanWord cursor.offset (word.toList.map byte) cursor.rest with
  | error gap =>
    rw [hword] at hscan
    cases hscan
    cases hform
  | ok after =>
    rw [hword] at hscan
    cases hscan
    exact ⟨after, rfl, rfl, of_scanWord_eq_ok hword⟩

/-! ### From bytes to trees -/

/-- Whether values are scanned as they are spelled, with so much fuel. -/
def ScansValues (fuel : Nat) : Prop :=
  ∀ {bytes blanks tail : Bytes} {form : Form} {cursor : Cursor}, Spells bytes form →
    bytes.length < fuel → Blank blanks → EndsNumber tail →
    cursor.rest = blanks ++ (bytes ++ tail) →
    ∃ node after, scanValue fuel cursor = (node, .ok after) ∧ after.rest = tail ∧
      node.form? = some form

def ScansItems (fuel : Nat) : Prop :=
  ∀ {first : Bool} {bytes tail : Bytes} {items : List Form} {cursor : Cursor},
    SpellsItems first bytes items → bytes.length < fuel → cursor.rest = bytes ++ tail →
    ∃ nodes after, scanItems fuel first cursor = (nodes, .ok after) ∧ after.rest = tail ∧
      nodes.forms? = some items

def ScansMembers (fuel : Nat) : Prop :=
  ∀ {first : Bool} {bytes tail : Bytes} {members : List (String × Form)} {cursor : Cursor},
    SpellsMembers first bytes members → bytes.length < fuel → cursor.rest = bytes ++ tail →
    ∃ nodes after, scanMembers fuel first cursor = (nodes, .ok after) ∧ after.rest = tail ∧
      nodes.forms? = some members

theorem scanValue_skip {cursor other : Cursor} (hskip : cursor.skipBlanks = other)
    (hsolid : StartsSolid other.rest) (fuel : Nat) :
    scanValue (fuel + 1) cursor = scanValue (fuel + 1) other := by
  have hother : other.skipBlanks = other := skipBlanks_eq .nil hsolid rfl
  rw [scanValue.eq_def, scanValue.eq_def (fuel + 1) other]
  simp only [hskip, hother]

theorem scanValue_null (fuel offset : Nat) (rest : Bytes) :
    scanValue (fuel + 1) ⟨offset, byte 'n' :: rest⟩ =
      scanLiteral ⟨offset + 1, rest⟩ "ull" .null := by
  rw [scanValue.eq_def]
  simp only [skipBlanks_cons (show isBlank (byte 'n') = false by decide)]
  rfl

theorem scanValue_true (fuel offset : Nat) (rest : Bytes) :
    scanValue (fuel + 1) ⟨offset, byte 't' :: rest⟩ =
      scanLiteral ⟨offset + 1, rest⟩ "rue" (.bool true) := by
  rw [scanValue.eq_def]
  simp only [skipBlanks_cons (show isBlank (byte 't') = false by decide)]
  rfl

theorem scanValue_false (fuel offset : Nat) (rest : Bytes) :
    scanValue (fuel + 1) ⟨offset, byte 'f' :: rest⟩ =
      scanLiteral ⟨offset + 1, rest⟩ "alse" (.bool false) := by
  rw [scanValue.eq_def]
  simp only [skipBlanks_cons (show isBlank (byte 'f') = false by decide)]
  rfl

theorem scanValue_minus (fuel offset : Nat) (rest : Bytes) :
    scanValue (fuel + 1) ⟨offset, byte '-' :: rest⟩ =
      scanScalar (scanNumeral true ⟨offset + 1, rest⟩) .number := by
  rw [scanValue.eq_def]
  simp only [skipBlanks_cons (show isBlank (byte '-') = false by decide)]
  rfl

theorem scanValue_bracket (fuel offset : Nat) (rest : Bytes) :
    scanValue (fuel + 1) ⟨offset, byte '[' :: rest⟩ =
      (.array offset (scanItems fuel true ⟨offset + 1, rest⟩).1,
        (scanItems fuel true ⟨offset + 1, rest⟩).2) := by
  rw [scanValue.eq_def]
  simp only [skipBlanks_cons (show isBlank (byte '[') = false by decide)]
  rfl

theorem scanValue_number {first : UInt8} (hdigit : (digit? first).isSome) (fuel offset : Nat)
    (rest : Bytes) :
    scanValue (fuel + 1) ⟨offset, first :: rest⟩ =
      scanScalar (scanNumeral false ⟨offset, first :: rest⟩) .number := by
  have hn : first ≠ byte 'n' := digit?_ne hdigit (by decide)
  have ht : first ≠ byte 't' := digit?_ne hdigit (by decide)
  have hf : first ≠ byte 'f' := digit?_ne hdigit (by decide)
  have hminus : first ≠ byte '-' := digit?_ne hdigit (by decide)
  rw [scanValue.eq_def]
  simp only [skipBlanks_cons (opens_of_digit hdigit).1, hdigit, if_neg hn, if_neg ht, if_neg hf,
    if_neg hminus, if_true]

theorem scanNumber_of_spells {bytes tail : Bytes} {numeral : Numeral}
    (hnumeral : SpellsNumeral bytes numeral) (htail : EndsNumber tail) (fuel offset : Nat) :
    ∃ after, scanValue (fuel + 1) ⟨offset, bytes ++ tail⟩ =
      (.number numeral after.offset, .ok after) ∧ after.rest = tail := by
  obtain ⟨rest, rfl, hrest⟩ := hnumeral
  cases hnegative : numeral.negative with
  | true =>
    obtain ⟨after, hscan, hafter⟩ :=
      @SpellsUnsigned.scan rest numeral hrest tail htail ⟨offset + 1, rest ++ tail⟩ rfl
    rw [hnegative] at hscan
    refine ⟨after, ?_, hafter⟩
    rw [if_pos rfl, List.append_assoc, List.singleton_append, scanValue_minus, hscan]
    rfl
  | false =>
    obtain ⟨after, hscan, hafter⟩ :=
      @SpellsUnsigned.scan rest numeral hrest tail htail ⟨offset, rest ++ tail⟩ rfl
    obtain ⟨first, others, rfl, hdigit⟩ := hrest.exists_cons
    rw [hnegative] at hscan
    refine ⟨after, ?_, hafter⟩
    rw [List.cons_append] at hscan
    rw [if_neg Bool.false_ne_true, List.nil_append, List.cons_append, scanValue_number hdigit,
      hscan]
    rfl

theorem scansValues_succ {fuel : Nat} (hitems : ScansItems fuel) (hmembers : ScansMembers fuel) :
    ScansValues (fuel + 1) := by
  intro bytes blanks tail form cursor h hfuel hblanks htail hcursor
  have hsolid : StartsSolid (bytes ++ tail) := by
    obtain ⟨first, rest, rfl, hopens⟩ := h.exists_cons
    exact hopens.1
  rw [scanValue_skip (skipBlanks_eq hblanks hsolid hcursor) hsolid]
  generalize cursor.offset + blanks.length = offset
  cases h with
  | null =>
    obtain ⟨after, hscan, hafter⟩ :=
      @scanLiteral_append "ull" ⟨offset + 1, "ull".toList.map byte ++ tail⟩ tail rfl .null
    refine ⟨.null after.offset, after, ?_, hafter, rfl⟩
    exact (scanValue_null fuel offset _).trans hscan
  | bool value =>
    cases value with
    | true =>
      obtain ⟨after, hscan, hafter⟩ :=
        @scanLiteral_append "rue" ⟨offset + 1, "rue".toList.map byte ++ tail⟩ tail rfl (.bool true)
      refine ⟨.bool true after.offset, after, ?_, hafter, rfl⟩
      exact (scanValue_true fuel offset _).trans hscan
    | false =>
      obtain ⟨after, hscan, hafter⟩ :=
        @scanLiteral_append "alse" ⟨offset + 1, "alse".toList.map byte ++ tail⟩ tail rfl
          (.bool false)
      refine ⟨.bool false after.offset, after, ?_, hafter, rfl⟩
      exact (scanValue_false fuel offset _).trans hscan
  | number hnumeral =>
    obtain ⟨after, hscan, hafter⟩ := scanNumber_of_spells hnumeral htail fuel offset
    exact ⟨_, after, hscan, hafter, rfl⟩
  | @text bytes content htext =>
    obtain ⟨after, hread, hpass, hafter⟩ :=
      @SpellsText.readText bytes content htext ⟨offset + 1, bytes ++ byte '"' :: tail⟩ tail rfl
    refine ⟨.text ⟨offset + 1, bytes ++ byte '"' :: tail⟩, after, ?_, hafter, ?_⟩
    · rw [List.cons_append, List.append_assoc, List.singleton_append, scanValue_quote, scanText,
        hpass]
    · rw [Node.form?, hread]
      rfl
  | @array bytes items hspells =>
    obtain ⟨nodes, after, hscan, hafter, hnodes⟩ :=
      @hitems true bytes tail items ⟨offset + 1, bytes ++ tail⟩ hspells
        (Nat.lt_of_succ_lt_succ hfuel) rfl
    refine ⟨.array offset nodes, after, ?_, hafter, ?_⟩
    · rw [List.cons_append, scanValue_bracket, hscan]
    · rw [Node.form?, hnodes]
      rfl
  | @object bytes members hspells =>
    obtain ⟨nodes, after, hscan, hafter, hnodes⟩ :=
      @hmembers true bytes tail members ⟨offset + 1, bytes ++ tail⟩ hspells
        (Nat.lt_of_succ_lt_succ hfuel) rfl
    refine ⟨.object offset nodes, after, ?_, hafter, ?_⟩
    · rw [List.cons_append, scanValue_brace, hscan]
    · rw [Node.form?, hnodes]
      rfl

theorem startsSolid_comma (rest : Bytes) : StartsSolid (byte ',' :: rest) :=
  (by decide : isBlank (byte ',') = false)

theorem scanItems_close {cursor : Cursor} {blanks tail : Bytes} (hblanks : Blank blanks)
    (hcursor : cursor.rest = blanks ++ byte ']' :: tail) (fuel : Nat) (first : Bool) :
    ∃ after, scanItems (fuel + 1) first cursor = (.close after.offset, .ok after) ∧
      after.rest = tail := by
  have hsolid : StartsSolid (byte ']' :: tail) := (by decide : isBlank (byte ']') = false)
  have hskip := skipBlanks_eq hblanks hsolid hcursor
  refine ⟨⟨cursor.offset + blanks.length + 1, tail⟩, ?_, rfl⟩
  rw [scanItems.eq_def]
  simp only [hskip, if_true]

theorem scanItems_item {first : Bool} {lead rest : Bytes} {next : UInt8} {cursor : Cursor}
    (hlead : Leads first lead) (hnext : Opens next) (hcursor : cursor.rest = lead ++ next :: rest)
    (fuel : Nat) :
    ∃ start : Cursor, start.rest = next :: rest ∧ ∀ item after,
      scanValue fuel start = (item, .ok after) →
        scanItems (fuel + 1) first cursor =
          (.cons start.offset item (scanItems fuel false after).1,
            (scanItems fuel false after).2) := by
  have hsolid : StartsSolid (next :: rest) := hnext.1
  cases hlead with
  | first hblanks =>
    have hskip := skipBlanks_eq hblanks hsolid hcursor
    refine ⟨⟨cursor.offset + lead.length, next :: rest⟩, rfl, ?_⟩
    intro item after hvalue
    rw [scanItems.eq_def]
    simp only [hskip, if_neg hnext.2, if_true, hvalue]
  | @comma before behind hbefore hbehind =>
    have hcomma : byte ',' ≠ byte ']' := by decide
    rw [List.append_assoc, List.cons_append] at hcursor
    have hskip := skipBlanks_eq hbefore (startsSolid_comma _) hcursor
    have hahead := @skipBlanks_eq
      ⟨cursor.offset + before.length + 1, behind ++ next :: rest⟩ behind (next :: rest) hbehind
      hsolid rfl
    refine ⟨⟨cursor.offset + before.length + 1 + behind.length, next :: rest⟩, rfl, ?_⟩
    intro item after hvalue
    rw [scanItems.eq_def]
    simp only [hskip, if_neg hcomma, Bool.false_eq_true, if_false, if_true, hahead,
      if_neg hnext.2, hvalue]

theorem scansItems_succ {fuel : Nat} (hvalues : ScansValues fuel) (hitems : ScansItems fuel) :
    ScansItems (fuel + 1) := by
  intro first bytes tail items cursor h hfuel hcursor
  cases h with
  | close hblanks =>
    rw [List.append_assoc] at hcursor
    obtain ⟨after, hscan, hafter⟩ := scanItems_close hblanks hcursor fuel first
    exact ⟨.close after.offset, after, hscan, hafter, rfl⟩
  | @item _ lead bytes rest form items hlead hitem hrest =>
    rw [List.append_assoc, List.append_assoc] at hcursor
    obtain ⟨next, others, hbytes, hopens⟩ := hitem.exists_cons
    have hlength : 0 < rest.length := hrest.length_pos
    have hlong : 0 < bytes.length := by
      rw [hbytes]
      exact Nat.succ_pos _
    simp only [List.length_append] at hfuel
    obtain ⟨start, hstart, hscan⟩ := @scanItems_item first lead (others ++ (rest ++ tail)) next
      cursor hlead hopens (by rw [hcursor, hbytes]; rfl) fuel
    obtain ⟨node, middle, hvalue, hmiddle, hnode⟩ :=
      @hvalues bytes [] (rest ++ tail) form start hitem (by omega) .nil hrest.endsNumber
        (by rw [hstart, hbytes]; rfl)
    obtain ⟨nodes, after, hnodes, hafter, hforms⟩ := hitems hrest (by omega) hmiddle
    refine ⟨.cons start.offset node nodes, after, ?_, hafter, ?_⟩
    · rw [hscan node middle hvalue, hnodes]
    · rw [Items.forms?, hnode, hforms]
      rfl

theorem scanMembers_blank {cursor : Cursor} {blanks tail : Bytes} (hblanks : Blank blanks)
    (hcursor : cursor.rest = blanks ++ byte '}' :: tail) (fuel : Nat) (first : Bool) :
    ∃ after, scanMembers (fuel + 1) first cursor = (.close after.offset, .ok after) ∧
      after.rest = tail := by
  have hsolid : StartsSolid (byte '}' :: tail) := (by decide : isBlank (byte '}') = false)
  have hskip := skipBlanks_eq hblanks hsolid hcursor
  refine ⟨⟨cursor.offset + blanks.length + 1, tail⟩, ?_, rfl⟩
  rw [scanMembers.eq_def]
  simp only [hskip, if_true]

theorem scanMembers_next {first : Bool} {lead rest : Bytes} {cursor : Cursor}
    (hlead : Leads first lead) (hcursor : cursor.rest = lead ++ byte '"' :: rest) (fuel : Nat) :
    ∃ name : Cursor, name.rest = rest ∧ ∀ behind offset others value after,
      scanText name = .ok behind → behind.skipBlanks = ⟨offset, byte ':' :: others⟩ →
      scanValue fuel ⟨offset + 1, others⟩ = (value, .ok after) →
        scanMembers (fuel + 1) first cursor =
          (.cons name offset value (scanMembers fuel false after).1,
            (scanMembers fuel false after).2) := by
  have hsolid : StartsSolid (byte '"' :: rest) := (by decide : isBlank (byte '"') = false)
  cases hlead with
  | first hblanks =>
    have hquote : byte '"' ≠ byte '}' := by decide
    have hskip := skipBlanks_eq hblanks hsolid hcursor
    refine ⟨⟨cursor.offset + lead.length + 1, rest⟩, rfl, ?_⟩
    intro behind offset others value after hname hcolon hvalue
    rw [scanMembers.eq_def]
    simp only [hskip, if_neg hquote, if_true, hname, hcolon, hvalue]
  | @comma before between hbefore hbetween =>
    have hcomma : byte ',' ≠ byte '}' := by decide
    rw [List.append_assoc, List.cons_append] at hcursor
    have hskip := skipBlanks_eq hbefore (startsSolid_comma _) hcursor
    have hahead := @skipBlanks_eq
      ⟨cursor.offset + before.length + 1, between ++ byte '"' :: rest⟩ between (byte '"' :: rest)
      hbetween hsolid rfl
    refine ⟨⟨cursor.offset + before.length + 1 + between.length + 1, rest⟩, rfl, ?_⟩
    intro behind offset others value after hname hcolon hvalue
    rw [scanMembers.eq_def]
    simp only [hskip, if_neg hcomma, Bool.false_eq_true, if_false, if_true, hahead, hname, hcolon,
      hvalue]

theorem scansMembers_succ {fuel : Nat} (hvalues : ScansValues fuel)
    (hmembers : ScansMembers fuel) : ScansMembers (fuel + 1) := by
  intro first bytes tail members cursor h hfuel hcursor
  cases h with
  | close hblanks =>
    rw [List.append_assoc] at hcursor
    obtain ⟨after, hscan, hafter⟩ := scanMembers_blank hblanks hcursor fuel first
    exact ⟨.close after.offset, after, hscan, hafter, rfl⟩
  | @member _ lead inside before between bytes rest name form members hlead hname hbefore hbetween
      hvalue hrest =>
    have hlength : 0 < rest.length := hrest.length_pos
    simp only [List.length_append, List.length_cons] at hfuel
    simp only [List.append_assoc, List.cons_append] at hcursor
    obtain ⟨start, hstart, hscan⟩ := scanMembers_next hlead hcursor fuel
    obtain ⟨behind, hread, hpass, hbehind⟩ := hname.readText hstart
    have hsolid : StartsSolid (byte ':' :: (between ++ (bytes ++ (rest ++ tail)))) :=
      (by decide : isBlank (byte ':') = false)
    have hcolon := skipBlanks_eq hbefore hsolid hbehind
    generalize behind.offset + before.length = offset at hcolon
    obtain ⟨node, middle, hnode, hmiddle, hform⟩ :=
      @hvalues bytes between (rest ++ tail) form
        ⟨offset + 1, between ++ (bytes ++ (rest ++ tail))⟩ hvalue (by omega) hbetween
        hrest.endsNumber rfl
    obtain ⟨nodes, after, hnodes, hafter, hforms⟩ := hmembers hrest (by omega) hmiddle
    refine ⟨.cons start offset node nodes, after, ?_, hafter, ?_⟩
    · rw [hscan behind offset _ node middle (by rw [scanText, hpass]) hcolon hnode, hnodes]
    · rw [Members.forms?, hread, hform, hforms]
      rfl

/-- What is spelled is scanned, by induction on the fuel. -/
theorem scans (fuel : Nat) : ScansValues fuel ∧ ScansItems fuel ∧ ScansMembers fuel := by
  induction fuel with
  | zero =>
    exact ⟨fun _ hfuel => absurd hfuel (Nat.not_lt_zero _),
      fun _ hfuel => absurd hfuel (Nat.not_lt_zero _),
      fun _ hfuel => absurd hfuel (Nat.not_lt_zero _)⟩
  | succ fuel ih =>
    obtain ⟨hvalues, hitems, hmembers⟩ := ih
    exact ⟨scansValues_succ hitems hmembers, scansItems_succ hvalues hitems,
      scansMembers_succ hvalues hmembers⟩

end AccountManager.Json
