import AccountManager.Json.Text
import AccountManager.Proofs.Text.Utf8

/-!
# Reading back a text that was written

A written text is read back character by character: an escape gives the character it was written
for, and every other character stands for itself. What is read and what is passed over ends at the
same place.
-/

namespace AccountManager.Json

open Utf8

/-- A byte that stands for itself inside a text. -/
def IsPlain (first : UInt8) : Prop := first ≠ byte '"' ∧ first ≠ byte '\\' ∧ ¬ first < 0x20

/-- Puts bytes in front of those that were read. -/
def prepend (bytes : Bytes) (read : Bytes × Cursor) : Bytes × Cursor := (bytes ++ read.1, read.2)

theorem readBytes_plain {bytes : Bytes} (hplain : ∀ first ∈ bytes, IsPlain first) (offset : Nat)
    (tail : Bytes) :
    readBytes offset (bytes ++ tail) =
      (readBytes (offset + bytes.length) tail).map (prepend bytes) := by
  induction bytes generalizing offset with
  | nil =>
    change readBytes offset tail = (readBytes offset tail).map (prepend [])
    cases readBytes offset tail <;> rfl
  | cons first rest ih =>
    obtain ⟨hquote, hescape, hcontrol⟩ := hplain first List.mem_cons_self
    have hrest := ih (fun other hother => hplain other (List.mem_cons_of_mem first hother))
      (offset + 1)
    rw [List.cons_append, readBytes.eq_def]
    simp only [hquote, hescape, hcontrol, if_false, hrest, List.length_cons]
    rw [show offset + (rest.length + 1) = offset + 1 + rest.length by omega]
    cases readBytes (offset + 1 + rest.length) tail <;> rfl

theorem readBytes_escape {letter escaped : UInt8} (hletter : letter ≠ byte 'u')
    (hescaped : escapedByte? letter = some escaped) (offset : Nat) (tail : Bytes) :
    readBytes offset (byte '\\' :: letter :: tail) =
      (readBytes (offset + 2) tail).map (prepend [escaped]) := by
  have hquote : byte '\\' ≠ byte '"' := by decide
  rw [readBytes.eq_def]
  simp only [hquote, hletter, hescaped, if_false, if_true]
  cases readBytes (offset + 2) tail <;> rfl

theorem readBytes_unit {a b c d : UInt8} {unit : Nat} (hunit : hexUnit? a b c d = some unit)
    (hlow : isLowSurrogate unit = false) (hhigh : isHighSurrogate unit = false) (offset : Nat)
    (tail : Bytes) :
    readBytes offset (byte '\\' :: byte 'u' :: a :: b :: c :: d :: tail) =
      (readBytes (offset + 6) tail).map (prepend (codePointBytes unit)) := by
  have hquote : byte '\\' ≠ byte '"' := by decide
  rw [readBytes.eq_def]
  simp only [hquote, hunit, hlow, hhigh, Bool.false_eq_true, if_false, if_true]
  cases readBytes (offset + 6) tail <;> rfl

/-! ### One character -/

theorem isPlain_of_not_escaped {character : Char} (hquote : character ≠ '"')
    (hescape : character ≠ '\\') (hcontrol : ¬ character.toNat < 0x20) :
    ∀ first ∈ String.utf8EncodeChar character, IsPlain first := by
  have hne {other : Char} (hother : other.toNat < 128) (hcode : character.toNat < 128)
      (hcharacter : character ≠ other) : UInt8.ofNat character.toNat ≠ byte other := by
    intro heq
    have hcodes := congrArg UInt8.toNat heq
    simp only [byte, UInt8.toNat_ofNat'] at hcodes
    exact hcharacter (Char.ext (UInt32.toNat_inj.1 (by
      change character.toNat = other.toNat
      omega)))
  intro first hfirst
  by_cases hascii : character.toNat < 128
  · rw [encodeList_of_ascii hascii, List.mem_singleton] at hfirst
    subst hfirst
    refine ⟨hne (by decide) hascii hquote, hne (by decide) hascii hescape, ?_⟩
    rw [UInt8.lt_iff_toNat_lt, UInt8.toNat_ofNat']
    change ¬ character.toNat % 256 < 32
    omega
  · have hbyte := le_of_mem_utf8EncodeChar hascii hfirst
    refine ⟨?_, ?_, ?_⟩
    · rintro rfl
      exact absurd hbyte (by decide)
    · rintro rfl
      exact absurd hbyte (by decide)
    · rw [UInt8.lt_iff_toNat_lt]
      change ¬ first.toNat < 32
      omega

/-- The six bytes that a control character is written as. -/
def controlBytes (code : Nat) : Bytes :=
  [byte '\\', byte 'u', byte '0', byte '0', byte (Nat.digitChar (code / 16)),
    byte (Nat.digitChar (code % 16))]

theorem controlBytes_spec : ∀ code < 32,
    encodeList ['\\', 'u', '0', '0', Nat.digitChar (code / 16), Nat.digitChar (code % 16)] =
      controlBytes code ∧
    hexUnit? (byte '0') (byte '0') (byte (Nat.digitChar (code / 16)))
      (byte (Nat.digitChar (code % 16))) = some code := by
  decide

theorem readBytes_writtenCharacter (character : Char) (offset : Nat) (tail : Bytes) :
    readBytes offset (encodeList (writtenCharacter character) ++ tail) =
      (readBytes (offset + (encodeList (writtenCharacter character)).length) tail).map
        (prepend (String.utf8EncodeChar character)) := by
  unfold writtenCharacter
  -- The seven characters that have an escape of one letter.
  iterate 7
    split
    · subst_vars
      exact readBytes_escape (by decide) (by decide) offset tail
  rename_i hquote hescape _ _ _ _ _
  split
  · rename_i hcontrol
    obtain ⟨hbytes, hunit⟩ := controlBytes_spec character.toNat hcontrol
    have hlow : isLowSurrogate character.toNat = false := by
      simp only [isLowSurrogate, Bool.and_eq_false_iff, decide_eq_false_iff_not]
      omega
    have hhigh : isHighSurrogate character.toNat = false := by
      simp only [isHighSurrogate, Bool.and_eq_false_iff, decide_eq_false_iff_not]
      omega
    dsimp only
    rw [hbytes]
    apply (readBytes_unit hunit hlow hhigh offset tail).trans
    rw [codePointBytes, Char.ofNat_toNat]
    rfl
  · rename_i hcontrol
    rw [encodeList_cons, encodeList_nil, List.append_nil]
    exact readBytes_plain (isPlain_of_not_escaped hquote hescape hcontrol) offset tail

/-! ### Whole texts -/

/-- The characters of a text, written one by one, are read back up to the closing quote. -/
theorem readBytes_written (characters : List Char) (offset : Nat) (tail : Bytes) :
    readBytes offset (encodeList (characters.flatMap writtenCharacter) ++ byte '"' :: tail) =
      .ok (encodeList characters,
        ⟨offset + (encodeList (characters.flatMap writtenCharacter)).length + 1, tail⟩) := by
  induction characters generalizing offset with
  | nil =>
    rw [List.flatMap_nil, encodeList_nil, List.nil_append, readBytes.eq_def]
    rfl
  | cons character rest ih =>
    rw [List.flatMap_cons, encodeList_append, List.append_assoc, readBytes_writtenCharacter, ih,
      List.length_append, encodeList_cons, Nat.add_assoc offset]
    rfl

theorem of_readBytes_bind {read : Except Fault (Bytes × Cursor)} {front : Bytes → Bytes}
    {content : Bytes} {after : Cursor}
    (hread : (do let (bytes, after) ← read; .ok (front bytes, after)) = .ok (content, after)) :
    ∃ bytes, read = .ok (bytes, after) ∧ front bytes = content := by
  cases read with
  | error fault => cases hread
  | ok found =>
    cases hread
    exact ⟨found.1, rfl, rfl⟩

/-- What is read is passed over just as far. -/
theorem passBytes_of_readBytes {offset : Nat} {bytes : Bytes} {content : Bytes} {after : Cursor}
    (hread : readBytes offset bytes = .ok (content, after)) :
    passBytes offset bytes = .ok after := by
  fun_induction readBytes offset bytes generalizing content with
  | case2 offset rest =>
    cases hread
    rw [passBytes.eq_def]
    rfl
  | case11 offset a b c d unit hunit hlow hhigh mark hmark letter hletter a' b' c' d' rest low
      hsecond hlow' code hquote =>
    rename_i ih
    -- A pair is read at once and passed over in two halves.
    obtain ⟨content, hrest, -⟩ := of_readBytes_bind hread
    obtain rfl : mark = byte '\\' := Decidable.of_not_not hmark
    obtain rfl : letter = byte 'u' := Decidable.of_not_not hletter
    rw [passBytes.eq_def]
    simp only [hquote, hunit, if_false, if_true]
    rw [passBytes.eq_def]
    simp only [hquote, hsecond, if_false, if_true]
    exact ih hrest
  | case14 offset a b c d rest unit hunit hlow hhigh hquote ih =>
    obtain ⟨content, hrest, -⟩ := of_readBytes_bind hread
    rw [passBytes.eq_def]
    simp only [hquote, hunit, if_false, if_true]
    exact ih hrest
  | case17 offset letter rest hletter escaped hescaped hquote ih =>
    obtain ⟨content, hrest, -⟩ := of_readBytes_bind hread
    rw [passBytes.eq_def]
    simp only [hquote, hletter, hescaped, if_false, if_true]
    exact ih hrest
  | case19 offset first rest hquote hescape hcontrol ih =>
    obtain ⟨content, hrest, -⟩ := of_readBytes_bind hread
    rw [passBytes.eq_def]
    simp only [hquote, hescape, hcontrol, if_false]
    exact ih hrest
  | _ => cases hread

/-- The bytes of a written text from behind its opening quote. -/
def insideBytes (text : String) : Bytes :=
  encodeList (text.toList.flatMap writtenCharacter) ++ [byte '"']

theorem encodeList_writtenText (text : String) :
    encodeList (writtenText text) = byte '"' :: insideBytes text := by
  rw [writtenText, List.cons_append, encodeList_cons, encodeList_append]
  rfl

theorem readText_inside (text : String) (offset : Nat) (tail : Bytes) :
    readText ⟨offset, insideBytes text ++ tail⟩ =
      .ok (text, ⟨offset + (insideBytes text).length, tail⟩) := by
  have hbytes : readBytes offset (insideBytes text ++ tail) =
      .ok (encodeList text.toList, ⟨offset + (insideBytes text).length, tail⟩) := by
    rw [insideBytes, List.append_assoc, List.length_append]
    exact readBytes_written text.toList offset tail
  unfold readText
  rw [hbytes, ← encode_eq_encodeList]
  simp only [bind, Except.bind, decode?_encode]

theorem passText_inside (text : String) (offset : Nat) (tail : Bytes) :
    passText ⟨offset, insideBytes text ++ tail⟩ =
      .ok ⟨offset + (insideBytes text).length, tail⟩ := by
  have hread := readBytes_written text.toList offset tail
  rw [passText, insideBytes, List.append_assoc, List.length_append]
  exact passBytes_of_readBytes hread

end AccountManager.Json
