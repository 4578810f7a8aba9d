import AccountManager.Json.Value
import AccountManager.Proofs.Json.Text
import AccountManager.Proofs.Results

/-!
# The language of documents

Which bytes spell which document. A form is a document without its places and its blanks: its texts
are read, its numbers stand as they are spelled, and an object still has all its members in their
order. The grammar says nothing of how a document is scanned; that the texts of a document are read
as it says is shown here.

An escape for half a character makes no document. A reader that passes over a value without reading
its texts accepts one all the same, and of such bytes nothing is said here.
-/

namespace AccountManager.Json

open Utf8

/-- Bytes that may stand between the parts of a document. -/
def Blank (bytes : Bytes) : Prop := ∀ first ∈ bytes, isBlank first = true

/-! ### The grammar -/

/-- The bytes between the quotes of a text, and the bytes that they stand for. -/
inductive Inside : Bytes → Bytes → Prop
  | done : Inside [] []
  | plain {first : UInt8} {bytes content : Bytes} (hplain : IsPlain first)
      (hrest : Inside bytes content) : Inside (first :: bytes) (first :: content)
  | escape {letter escaped : UInt8} {bytes content : Bytes}
      (hescaped : escapedByte? letter = some escaped) (hrest : Inside bytes content) :
      Inside (byte '\\' :: letter :: bytes) (escaped :: content)
  | unit {a b c d : UInt8} {unit : Nat} {bytes content : Bytes}
      (hunit : hexUnit? a b c d = some unit) (hlow : isLowSurrogate unit = false)
      (hhigh : isHighSurrogate unit = false) (hrest : Inside bytes content) :
      Inside (byte '\\' :: byte 'u' :: a :: b :: c :: d :: bytes) (codePointBytes unit ++ content)
  | pair {a b c d a' b' c' d' : UInt8} {high low : Nat} {bytes content : Bytes}
      (hfirst : hexUnit? a b c d = some high) (hhigh : isHighSurrogate high = true)
      (hsecond : hexUnit? a' b' c' d' = some low) (hlow : isLowSurrogate low = true)
      (hrest : Inside bytes content) :
      Inside (byte '\\' :: byte 'u' :: a :: b :: c :: d ::
          byte '\\' :: byte 'u' :: a' :: b' :: c' :: d' :: bytes)
        (codePointBytes ((high - 0xD800) * 0x400 + (low - 0xDC00) + 0x10000) ++ content)

/-- Whether the bytes between two quotes are read as a text. -/
def SpellsText (bytes : Bytes) (text : String) : Prop :=
  ∃ content, Inside bytes content ∧ decode? content = some text

def SpellsDigits (bytes : Bytes) (digits : List Nat) : Prop :=
  bytes.map digit? = digits.map some

/-- Digits before a point: at least one, and a first zero stands alone. -/
structure SpellsWhole (bytes : Bytes) (digits : List Nat) : Prop where
  spelled : SpellsDigits bytes digits
  nonempty : digits ≠ []
  zero : ∀ digit rest, digits ≠ 0 :: digit :: rest

/-- A point and the digits behind it, or neither. -/
inductive SpellsFraction : Bytes → List Nat → Prop
  | absent : SpellsFraction [] []
  | present {bytes : Bytes} {digits : List Nat} (hdigits : SpellsDigits bytes digits)
      (hnonempty : digits ≠ []) : SpellsFraction (byte '.' :: bytes) digits

/-- The sign of an exponent, and whether it is a minus. -/
inductive SpellsSign : Bytes → Bool → Prop
  | absent : SpellsSign [] false
  | plus : SpellsSign [byte '+'] false
  | minus : SpellsSign [byte '-'] true

/-- An exponent behind its letter, if there is one. -/
inductive SpellsExponent : Bytes → Option (Bool × List Nat) → Prop
  | absent : SpellsExponent [] none
  | present {letter : UInt8} {sign bytes : Bytes} {down : Bool} {digits : List Nat}
      (hletter : letter = byte 'e' ∨ letter = byte 'E') (hsign : SpellsSign sign down)
      (hdigits : SpellsDigits bytes digits) (hnonempty : digits ≠ []) :
      SpellsExponent (letter :: (sign ++ bytes)) (some (down, digits))

/-- Whether some bytes spell the number from behind its sign. -/
def SpellsUnsigned (bytes : Bytes) (numeral : Numeral) : Prop :=
  ∃ whole fraction exponent, bytes = whole ++ (fraction ++ exponent) ∧
    SpellsWhole whole numeral.whole ∧ SpellsFraction fraction numeral.fraction ∧
    SpellsExponent exponent numeral.exponent

def SpellsNumeral (bytes : Bytes) (numeral : Numeral) : Prop :=
  ∃ rest, bytes = (if numeral.negative then [byte '-'] else []) ++ rest ∧
    SpellsUnsigned rest numeral

/-- A document without its places. -/
inductive Form
  | null
  | bool (value : Bool)
  | number (numeral : Numeral)
  | text (content : String)
  | array (items : List Form)
  | object (members : List (String × Form))

/-- The bytes in front of an item or of a member: blanks, with one comma among them unless it is
the first. -/
inductive Leads : Bool → Bytes → Prop
  | first {blanks : Bytes} (hblanks : Blank blanks) : Leads true blanks
  | comma {before after : Bytes} (hbefore : Blank before) (hafter : Blank after) :
      Leads false (before ++ byte ',' :: after)

mutual

/-- Whether some bytes spell a document, without blanks around them. -/
inductive Spells : Bytes → Form → Prop
  | null : Spells ("null".toList.map byte) .null
  | bool (value : Bool) : Spells ((toString value).toList.map byte) (.bool value)
  | number {bytes : Bytes} {numeral : Numeral} (hnumeral : SpellsNumeral bytes numeral) :
      Spells bytes (.number numeral)
  | text {bytes : Bytes} {content : String} (htext : SpellsText bytes content) :
      Spells (byte '"' :: (bytes ++ [byte '"'])) (.text content)
  | array {bytes : Bytes} {items : List Form} (hitems : SpellsItems true bytes items) :
      Spells (byte '[' :: bytes) (.array items)
  | object {bytes : Bytes} {members : List (String × Form)}
      (hmembers : SpellsMembers true bytes members) : Spells (byte '{' :: bytes) (.object members)

/-- Whether some bytes are the items that are left of an array, with the closing bracket. -/
inductive SpellsItems : Bool → Bytes → List Form → Prop
  | close {first : Bool} {blanks : Bytes} (hblanks : Blank blanks) :
      SpellsItems first (blanks ++ [byte ']']) []
  | item {first : Bool} {lead bytes rest : Bytes} {form : Form} {items : List Form}
      (hlead : Leads first lead) (hitem : Spells bytes form)
      (hrest : SpellsItems false rest items) :
      SpellsItems first (lead ++ (bytes ++ rest)) (form :: items)

/-- Whether some bytes are the members that are left of an object, with the closing brace. -/
inductive SpellsMembers : Bool → Bytes → List (String × Form) → Prop
  | close {first : Bool} {blanks : Bytes} (hblanks : Blank blanks) :
      SpellsMembers first (blanks ++ [byte '}']) []
  | member {first : Bool} {lead inside before after bytes rest : Bytes} {name : String}
      {form : Form} {members : List (String × Form)} (hlead : Leads first lead)
      (hname : SpellsText inside name) (hbefore : Blank before) (hafter : Blank after)
      (hvalue : Spells bytes form) (hrest : SpellsMembers false rest members) :
      SpellsMembers first
        (lead ++ byte '"' :: (inside ++ byte '"' ::
          (before ++ byte ':' :: (after ++ (bytes ++ rest)))))
        ((name, form) :: members)

end

/-- Whether some bytes spell a document, with blanks around it. -/
def SpellsDocument (bytes : Bytes) (form : Form) : Prop :=
  ∃ before content after, bytes = before ++ (content ++ after) ∧ Blank before ∧
    Spells content form ∧ Blank after

/-! ### Texts -/

theorem readBytes_quote (offset : Nat) (tail : Bytes) :
    readBytes offset (byte '"' :: tail) = .ok ([], ⟨offset + 1, tail⟩) := by
  rw [readBytes.eq_def]
  rfl

theorem readBytes_pair {a b c d a' b' c' d' : UInt8} {high low : Nat}
    (hfirst : hexUnit? a b c d = some high) (hhigh : isHighSurrogate high = true)
    (hsecond : hexUnit? a' b' c' d' = some low) (hlow : isLowSurrogate low = true) (offset : Nat)
    (tail : Bytes) :
    readBytes offset (byte '\\' :: byte 'u' :: a :: b :: c :: d ::
        byte '\\' :: byte 'u' :: a' :: b' :: c' :: d' :: tail) =
      (readBytes (offset + 12) tail).map
        (prepend (codePointBytes ((high - 0xD800) * 0x400 + (low - 0xDC00) + 0x10000))) := by
  have hquote : byte '\\' ≠ byte '"' := by decide
  have hnotLow : isLowSurrogate high = false := by
    simp only [isHighSurrogate, isLowSurrogate, Bool.and_eq_true, decide_eq_true_eq,
      Bool.and_eq_false_iff, decide_eq_false_iff_not] at hhigh ⊢
    omega
  rw [readBytes.eq_def]
  simp only [hquote, hfirst, hnotLow, hhigh, hsecond, hlow, ne_eq, not_true_eq_false,
    Bool.false_eq_true, if_false, if_true]
  cases readBytes (offset + 12) tail <;> rfl

theorem ne_u_of_escapedByte? {letter escaped : UInt8}
    (hescaped : escapedByte? letter = some escaped) : letter ≠ byte 'u' := by
  rintro rfl
  have hnone : escapedByte? (byte 'u') = none := by decide
  rw [hnone] at hescaped
  cases hescaped

theorem Inside.readBytes {bytes content : Bytes} (h : Inside bytes content) (offset : Nat)
    (tail : Bytes) :
    ∃ after, Json.readBytes offset (bytes ++ byte '"' :: tail) = .ok (content, after) ∧
      after.rest = tail := by
  induction h generalizing offset with
  | done => exact ⟨_, readBytes_quote offset tail, rfl⟩
  | @plain first bytes content hplain _ ih =>
    obtain ⟨after, hread, hafter⟩ := ih (offset + 1)
    refine ⟨after, ?_, hafter⟩
    have hfirst := @readBytes_plain [first] (by simpa using hplain) offset
      (bytes ++ byte '"' :: tail)
    rw [List.singleton_append] at hfirst
    rw [List.cons_append, hfirst, List.length_singleton, hread]
    rfl
  | escape hescaped _ ih =>
    obtain ⟨after, hread, hafter⟩ := ih (offset + 2)
    refine ⟨after, ?_, hafter⟩
    rw [List.cons_append, List.cons_append,
      readBytes_escape (ne_u_of_escapedByte? hescaped) hescaped, hread]
    rfl
  | unit hunit hlow hhigh _ ih =>
    obtain ⟨after, hread, hafter⟩ := ih (offset + 6)
    refine ⟨after, ?_, hafter⟩
    simp only [List.cons_append]
    rw [readBytes_unit hunit hlow hhigh, hread]
    rfl
  | pair hfirst hhigh hsecond hlow _ ih =>
    obtain ⟨after, hread, hafter⟩ := ih (offset + 12)
    refine ⟨after, ?_, hafter⟩
    simp only [List.cons_append]
    rw [readBytes_pair hfirst hhigh hsecond hlow, hread]
    rfl

/-- Bytes that are read up to a quote stand between quotes. -/
theorem of_readBytes_eq_ok {offset : Nat} {bytes content : Bytes} {after : Cursor}
    (hread : readBytes offset bytes = .ok (content, after)) :
    ∃ inside, bytes = inside ++ byte '"' :: after.rest ∧ Inside inside content := by
  fun_induction readBytes offset bytes generalizing content with
  | case2 offset rest =>
    cases hread
    exact ⟨[], rfl, .done⟩
  | case11 offset a b c d unit hunit hlow hhigh mark hmark letter hletter a' b' c' d' rest low
      hsecond hlow' code hquote =>
    rename_i ih
    obtain ⟨content, hrest, rfl⟩ := of_readBytes_bind hread
    obtain ⟨inside, rfl, hinside⟩ := ih hrest
    obtain rfl : mark = byte '\\' := Decidable.of_not_not hmark
    obtain rfl : letter = byte 'u' := Decidable.of_not_not hletter
    exact ⟨_, rfl, .pair hunit hhigh hsecond hlow' hinside⟩
  | case14 offset a b c d rest unit hunit hlow hhigh hquote ih =>
    obtain ⟨content, hrest, rfl⟩ := of_readBytes_bind hread
    obtain ⟨inside, rfl, hinside⟩ := ih hrest
    exact ⟨_, rfl, .unit hunit (Bool.eq_false_iff.2 hlow) (Bool.eq_false_iff.2 hhigh) hinside⟩
  | case17 offset letter rest hletter escaped hescaped hquote ih =>
    obtain ⟨content, hrest, rfl⟩ := of_readBytes_bind hread
    obtain ⟨inside, rfl, hinside⟩ := ih hrest
    exact ⟨_, rfl, .escape hescaped hinside⟩
  | case19 offset first rest hquote hescape hcontrol ih =>
    obtain ⟨content, hrest, rfl⟩ := of_readBytes_bind hread
    obtain ⟨inside, rfl, hinside⟩ := ih hrest
    exact ⟨_, rfl, .plain ⟨hquote, hescape, hcontrol⟩ hinside⟩
  | _ => cases hread

/-- Bytes between quotes that are a text are read as it, and passed over just as far. -/
theorem SpellsText.readText {inside : Bytes} {text : String} (h : SpellsText inside text)
    {cursor : Cursor} {tail : Bytes} (hcursor : cursor.rest = inside ++ byte '"' :: tail) :
    ∃ after, Json.readText cursor = .ok (text, after) ∧ passText cursor = .ok after ∧
      after.rest = tail := by
  obtain ⟨content, hinside, htext⟩ := h
  obtain ⟨after, hread, hafter⟩ := hinside.readBytes cursor.offset tail
  rw [← hcursor] at hread
  refine ⟨after, ?_, passBytes_of_readBytes hread, hafter⟩
  rw [Json.readText, hread]
  simp only [bind, Except.bind, htext]

theorem of_readText_eq_ok {cursor after : Cursor} {text : String}
    (hread : readText cursor = .ok (text, after)) :
    passText cursor = .ok after ∧
      ∃ inside, cursor.rest = inside ++ byte '"' :: after.rest ∧ SpellsText inside text := by
  obtain ⟨⟨content, stop⟩, hbytes, hread⟩ := of_bind_eq_ok hread
  dsimp only at hread
  split at hread
  · rename_i htext
    cases hread
    obtain ⟨inside, hcursor, hinside⟩ := of_readBytes_eq_ok hbytes
    exact ⟨passBytes_of_readBytes hbytes, inside, hcursor, content, hinside, htext⟩
  · cases hread

end AccountManager.Json
