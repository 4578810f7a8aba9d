import AccountManager.Proofs.Json.Number
import AccountManager.Proofs.Json.Text

/-!
# Scanning a document that was written

What was written without blanks is scanned to a tree that holds it: texts, flags, words, and objects
of such. The scan stops right behind the value, whatever follows it in the document.
-/

namespace AccountManager.Json

open Utf8

/-- Whether a part of a document is a value, for whoever wants any value at least `depth` deep and
for a field that takes it. -/
structure Node.Holds (node : Node) (depth : Nat) (value : Value) : Prop where
  toValue : ∀ enough, depth ≤ enough → node.toValue enough = .ok value
  ofNode : ∀ (kind : Kind) data, kind.ofValue value = .ok data → kind.ofNode node = .ok data

theorem Node.Holds.mono {node : Node} {depth deeper : Nat} {value : Value}
    (hholds : node.Holds depth value) (hdepth : depth ≤ deeper) : node.Holds deeper value where
  toValue enough henough := hholds.toValue enough (Nat.le_trans hdepth henough)
  ofNode := hholds.ofNode

/-- Whether the members of a scanned object are these values by name, in this order. -/
inductive Members.Hold (depth : Nat) : Members → List (String × Value) → Prop
  | close (stop : Nat) : Hold depth (.close stop) []
  | cons {name : Cursor} {text : String} {after : Cursor} {node : Node} {value : Value}
      {rest : Members} {others : List (String × Value)} (refusal : Nat)
      (hname : readText name = .ok (text, after)) (hnode : node.Holds depth value)
      (hrest : rest.Hold depth others) :
      Hold depth (.cons name refusal node rest) ((text, value) :: others)

/-- Whether some bytes are scanned to a part with a property, whatever follows them. -/
def ScansTo (bytes : Bytes) (P : Node → Prop) : Prop :=
  ∀ fuel offset tail, bytes.length < fuel → FollowsValue tail →
    ∃ node, scanValue fuel ⟨offset, bytes ++ tail⟩ = (node, .ok ⟨offset + bytes.length, tail⟩) ∧
      P node

theorem skipBlanks_cons {first : UInt8} (hfirst : isBlank first = false) (offset : Nat)
    (rest : Bytes) : Cursor.skipBlanks ⟨offset, first :: rest⟩ = ⟨offset, first :: rest⟩ := by
  rw [Cursor.skipBlanks, skipBlanksFrom, hfirst]
  rfl

/-! ### Scalars -/

theorem scanValue_quote (fuel offset : Nat) (rest : Bytes) :
    scanValue (fuel + 1) ⟨offset, byte '"' :: rest⟩ =
      (.text ⟨offset + 1, rest⟩, scanText ⟨offset + 1, rest⟩) := by
  rw [scanValue.eq_def]
  simp only [skipBlanks_cons (show isBlank (byte '"') = false by decide)]
  rfl

theorem scanValue_brace (fuel offset : Nat) (rest : Bytes) :
    scanValue (fuel + 1) ⟨offset, byte '{' :: rest⟩ =
      (.object offset (scanMembers fuel true ⟨offset + 1, rest⟩).1,
        (scanMembers fuel true ⟨offset + 1, rest⟩).2) := by
  rw [scanValue.eq_def]
  simp only [skipBlanks_cons (show isBlank (byte '{') = false by decide)]
  rfl

theorem digitChar_distinct : ∀ digit < 10,
    isBlank (byte (Nat.digitChar digit)) = false ∧ byte (Nat.digitChar digit) ≠ byte 'n' ∧
      byte (Nat.digitChar digit) ≠ byte 't' ∧ byte (Nat.digitChar digit) ≠ byte 'f' ∧
      byte (Nat.digitChar digit) ≠ byte '-' := by
  decide

theorem scanValue_digit {digit : Nat} (hdigit : digit < 10) (fuel offset : Nat) (rest : Bytes) :
    scanValue (fuel + 1) ⟨offset, byte (Nat.digitChar digit) :: rest⟩ =
      scanScalar (scanNumeral false ⟨offset, byte (Nat.digitChar digit) :: rest⟩) .number := by
  obtain ⟨hblank, hn, ht, hf, hminus⟩ := digitChar_distinct digit hdigit
  rw [scanValue.eq_def]
  simp only [skipBlanks_cons hblank, hn, ht, hf, hminus, (digitChar_spec digit hdigit).2,
    Option.isSome_some, if_false, if_true]

theorem scansTo_text (text : String) :
    ScansTo (encodeList (writtenText text)) fun node => node.Holds 0 (.text text) := by
  intro fuel offset tail hfuel htail
  cases fuel with
  | zero => exact absurd hfuel (Nat.not_lt_zero _)
  | succ fuel =>
    have hread := readText_inside text (offset + 1) tail
    refine ⟨.text ⟨offset + 1, insideBytes text ++ tail⟩, ?_, ?_, ?_⟩
    · rw [encodeList_writtenText, List.cons_append, scanValue_quote, scanText,
        passText_inside text (offset + 1) tail, List.length_cons,
        show offset + ((insideBytes text).length + 1) = offset + 1 + (insideBytes text).length by
          omega]
    · intro enough _
      rw [Node.toValue, hread]
      rfl
    · intro kind data hdata
      cases kind with
      | text | optionalText =>
        cases hdata
        rw [Kind.ofNode, hread]
        rfl
      | flag | word => cases hdata

theorem scansTo_flag (flag : Bool) :
    ScansTo (encodeList (writtenFlag flag)) fun node => node.Holds 0 (.bool flag) := by
  intro fuel offset tail hfuel htail
  cases fuel with
  | zero => exact absurd hfuel (Nat.not_lt_zero _)
  | succ fuel =>
    refine ⟨.bool flag (offset + (encodeList (writtenFlag flag)).length), ?_, ?_, ?_⟩
    · cases flag with
      | true =>
        rw [scanValue.eq_def]
        rfl
      | false =>
        rw [scanValue.eq_def]
        rfl
    · intro enough _
      rw [Node.toValue]
    · intro kind data hdata
      cases kind with
      | flag =>
        cases hdata
        rfl
      | text | optionalText | word => cases hdata

theorem scansTo_word (word : UInt64) :
    ScansTo (encodeList (writtenWord word)) fun node =>
      node.Holds 0 (.number (.unsigned word)) := by
  intro fuel offset tail hfuel htail
  cases fuel with
  | zero => exact absurd hfuel (Nat.not_lt_zero _)
  | succ fuel =>
    have hscan := scanNumeral_written word offset htail
    have hvalue : numberAt (writtenNumeral word)
        (offset + (encodeList (writtenWord word)).length) = .ok (.unsigned word) := by
      rw [numberAt, value_writtenNumeral]
    refine ⟨.number (writtenNumeral word) (offset + (encodeList (writtenWord word)).length),
      ?_, ?_, ?_⟩
    · rw [encodeList_writtenWord] at hscan ⊢
      cases hdigits : digitsOf word.toNat with
      | nil => exact absurd hdigits (digitsOf_ne_nil _)
      | cons digit rest =>
        have hdigit : digit < 10 := lt_of_mem_digitsOf word.toNat digit (by simp [hdigits])
        rw [hdigits, List.map_cons, List.cons_append] at hscan
        rw [List.map_cons, List.cons_append, scanValue_digit hdigit, hscan]
        rfl
    · intro enough _
      rw [Node.toValue, hvalue]
      rfl
    · intro kind data hdata
      cases kind with
      | word description =>
        cases hdata
        rw [Kind.ofNode, hvalue]
        rfl
      | text | optionalText | flag => cases hdata

/-! ### Objects -/

/-- A member of an object that is written: its name, its value as written, and the value. -/
structure Member where
  name : String
  written : List Char
  value : Value

/-- What separates a member from the one before it. -/
def leadBytes (first : Bool) : Bytes := if first then [] else [byte ',']

/-- The bytes of some members and of the closing brace. -/
def membersBytes (first : Bool) : List Member → Bytes
  | [] => [byte '}']
  | member :: rest =>
    leadBytes first ++ byte '"' :: (insideBytes member.name ++
      byte ':' :: (encodeList member.written ++ membersBytes false rest))

theorem followsValue_membersBytes (members : List Member) (tail : Bytes) :
    FollowsValue (membersBytes false members ++ tail) := by
  cases members with
  | nil => exact .inr rfl
  | cons member rest => exact .inl rfl

theorem scanMembers_close (fuel offset : Nat) (first : Bool) (tail : Bytes) :
    scanMembers (fuel + 1) first ⟨offset, byte '}' :: tail⟩ =
      (.close (offset + 1), .ok ⟨offset + 1, tail⟩) := by
  rw [scanMembers.eq_def]
  simp only [skipBlanks_cons (show isBlank (byte '}') = false by decide)]
  rfl

theorem scanMembers_member (fuel offset : Nat) (first : Bool) (name : String) (rest : Bytes)
    {node : Node} {after : Cursor} {members : Members} {finish : Except Break Cursor}
    {start behind : Nat} (hstart : start = offset + (leadBytes first).length + 1)
    (hbehind : behind = start + (insideBytes name).length)
    (hvalue : scanValue fuel ⟨behind + 1, rest⟩ = (node, .ok after))
    (hrest : scanMembers fuel false after = (members, finish)) :
    scanMembers (fuel + 1) first
        ⟨offset, leadBytes first ++ byte '"' :: (insideBytes name ++ byte ':' :: rest)⟩ =
      (.cons ⟨start, insideBytes name ++ byte ':' :: rest⟩ behind node members, finish) := by
  have hquote : isBlank (byte '"') = false := by decide
  have hcomma : isBlank (byte ',') = false := by decide
  have hcolon : isBlank (byte ':') = false := by decide
  have hopen : byte '"' ≠ byte '}' := by decide
  have hnext : byte ',' ≠ byte '}' := by decide
  have htext : scanText ⟨start, insideBytes name ++ byte ':' :: rest⟩ =
      .ok ⟨behind, byte ':' :: rest⟩ := by
    rw [scanText, passText_inside, hbehind]
  rw [scanMembers.eq_def]
  cases first with
  | true =>
    obtain rfl : start = offset + 1 := hstart
    simp only [leadBytes, if_true, List.nil_append, skipBlanks_cons hquote, hopen, if_false, htext,
      skipBlanks_cons hcolon, hvalue, hrest]
  | false =>
    obtain rfl : start = offset + 1 + 1 := hstart
    simp only [leadBytes, Bool.false_eq_true, if_false, List.cons_append, List.nil_append,
      skipBlanks_cons hcomma, skipBlanks_cons hquote, hnext, if_true, htext, skipBlanks_cons hcolon,
      hvalue, hrest]

theorem scanMembers_written {members : List Member} {depth : Nat}
    (hvalues : ∀ member ∈ members,
      ScansTo (encodeList member.written) fun node => node.Holds depth member.value)
    (first : Bool) (fuel offset : Nat) (tail : Bytes)
    (hfuel : (membersBytes first members).length < fuel) :
    ∃ scanned, scanMembers fuel first ⟨offset, membersBytes first members ++ tail⟩ =
        (scanned, .ok ⟨offset + (membersBytes first members).length, tail⟩) ∧
      scanned.Hold depth (members.map fun member => (member.name, member.value)) := by
  induction members generalizing first fuel offset with
  | nil =>
    cases fuel with
    | zero => exact absurd hfuel (Nat.not_lt_zero _)
    | succ fuel => exact ⟨_, scanMembers_close fuel offset first tail, .close _⟩
  | cons member rest ih =>
    cases fuel with
    | zero => exact absurd hfuel (Nat.not_lt_zero _)
    | succ fuel =>
      have hlength : (membersBytes first (member :: rest)).length =
          (leadBytes first).length + 1 + (insideBytes member.name).length + 1 +
            (encodeList member.written).length + (membersBytes false rest).length := by
        simp only [membersBytes, List.length_append, List.length_cons]
        omega
      obtain ⟨node, hnode, hholds⟩ := hvalues member List.mem_cons_self fuel
        (offset + (leadBytes first).length + 1 + (insideBytes member.name).length + 1)
        (membersBytes false rest ++ tail) (by omega) (followsValue_membersBytes rest tail)
      obtain ⟨scanned, hscanned, hhold⟩ := ih
        (fun other hother => hvalues other (List.mem_cons_of_mem member hother)) false fuel
        (offset + (leadBytes first).length + 1 + (insideBytes member.name).length + 1 +
          (encodeList member.written).length) (by omega)
      have hmember := scanMembers_member fuel offset first member.name
        (encodeList member.written ++ (membersBytes false rest ++ tail)) rfl rfl hnode hscanned
      have hbytes : membersBytes first (member :: rest) ++ tail =
          leadBytes first ++ byte '"' :: (insideBytes member.name ++
            byte ':' :: (encodeList member.written ++ (membersBytes false rest ++ tail))) := by
        simp only [membersBytes, List.append_assoc, List.cons_append]
      rw [hlength, hbytes]
      simp only [← Nat.add_assoc]
      exact ⟨_, hmember, .cons _ (readText_inside member.name _ _) hholds hhold⟩

private theorem encodeList_members (members : List Member) :
    encodeList (((members.map fun member =>
        writtenText member.name ++ ':' :: member.written).intersperse [',']).flatten ++ ['}']) =
      membersBytes true members := by
  induction members with
  | nil => rfl
  | cons member rest ih =>
    have hpiece : encodeList (writtenText member.name ++ ':' :: member.written) =
        byte '"' :: (insideBytes member.name ++ byte ':' :: encodeList member.written) := by
      rw [encodeList_append, encodeList_writtenText, encodeList_cons, List.cons_append]
      rfl
    cases rest with
    | nil =>
      rw [List.map_cons, List.map_nil, List.intersperse_singleton, List.flatten_singleton,
        encodeList_append, hpiece]
      simp only [membersBytes, leadBytes, if_true, List.nil_append, List.cons_append,
        List.append_assoc]
      rfl
    | cons next others =>
      rw [List.map_cons] at ih
      rw [List.map_cons, List.map_cons, List.intersperse_cons_cons, List.flatten_cons,
        List.flatten_cons, List.append_assoc (writtenText _ ++ _), encodeList_append,
        List.append_assoc [','], encodeList_append [','], hpiece, ih]
      simp only [membersBytes, leadBytes, if_true, Bool.false_eq_true, if_false, List.nil_append,
        List.cons_append, List.append_assoc]
      rfl

theorem encodeList_writtenObject (members : List Member) :
    encodeList (writtenObject (members.map fun member => (member.name, member.written))) =
      byte '{' :: membersBytes true members := by
  rw [writtenObject, List.map_map, List.cons_append, encodeList_cons, ← encodeList_members]
  rfl

theorem Members.Hold.toMembers {depth enough : Nat} {members : Members}
    {held : List (String × Value)} (hhold : members.Hold depth held) (henough : depth ≤ enough)
    (seen : List (String × Value)) :
    members.toMembers enough seen =
      .ok (held.foldl (fun seen member => Value.insert member.1 member.2 seen) seen) := by
  induction hhold generalizing seen with
  | close stop =>
    rw [Members.toMembers]
    rfl
  | cons refusal hname hnode hrest ih =>
    rw [Members.toMembers, hname, List.foldl_cons, ← ih]
    change (do let value ← Node.toValue _ _; _) = _
    rw [hnode.toValue enough henough]
    rfl

/-- The value of an object that was written with these members. -/
def objectOf (members : List (String × Value)) : Value :=
  .object (members.foldl (fun seen member => Value.insert member.1 member.2 seen) [])

theorem scansTo_object {members : List Member} {depth : Nat}
    (hvalues : ∀ member ∈ members,
      ScansTo (encodeList member.written) fun node => node.Holds depth member.value) :
    ScansTo
      (encodeList (writtenObject (members.map fun member => (member.name, member.written))))
      fun node => ∃ start scanned, node = .object start scanned ∧
        scanned.Hold depth (members.map fun member => (member.name, member.value)) := by
  intro fuel offset tail hfuel htail
  rw [encodeList_writtenObject, List.length_cons] at hfuel
  rw [encodeList_writtenObject, List.length_cons, List.cons_append]
  cases fuel with
  | zero => exact absurd hfuel (Nat.not_lt_zero _)
  | succ fuel =>
    obtain ⟨scanned, hscanned, hhold⟩ := scanMembers_written hvalues true fuel (offset + 1) tail
      (by omega)
    refine ⟨.object offset scanned, ?_, offset, scanned, rfl, hhold⟩
    rw [scanValue_brace, hscanned, show offset + ((membersBytes true members).length + 1) =
      offset + 1 + (membersBytes true members).length by omega]

/-- An object that was written with members that hold values holds their object. -/
theorem scansTo_objectOf {members : List Member} {depth : Nat}
    (hvalues : ∀ member ∈ members,
      ScansTo (encodeList member.written) fun node => node.Holds depth member.value) :
    ScansTo
      (encodeList (writtenObject (members.map fun member => (member.name, member.written))))
      fun node => node.Holds (depth + 1)
        (objectOf (members.map fun member => (member.name, member.value))) := by
  intro fuel offset tail hfuel htail
  obtain ⟨_, hscan, start, scanned, rfl, hhold⟩ :=
    scansTo_object hvalues fuel offset tail hfuel htail
  refine ⟨_, hscan, ?_, ?_⟩
  · intro enough henough
    cases enough with
    | zero => exact absurd henough (Nat.not_succ_le_zero _)
    | succ enough =>
      rw [Node.toValue.eq_def]
      simp only [hhold.toMembers (Nat.le_of_succ_le_succ henough)]
      rfl
  · intro kind data hdata
    cases kind <;> cases hdata

end AccountManager.Json
