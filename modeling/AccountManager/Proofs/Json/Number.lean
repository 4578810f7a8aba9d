import AccountManager.Json.Shape
import AccountManager.Proofs.Text.Utf8

/-!
# Reading back a number that was written

A word is written in decimal digits, without a leading zero unless it is zero. The digits are found
again up to the first byte that is none, and give back the word.
-/

namespace AccountManager.Json

open Utf8

def digitsOf (number : Nat) : List Nat :=
  if number < 10 then [number] else digitsOf (number / 10) ++ [number % 10]

theorem toDigits_eq_map (number : Nat) :
    Nat.toDigits 10 number = (digitsOf number).map Nat.digitChar := by
  fun_induction digitsOf number with
  | case1 number hsmall => exact Nat.toDigits_of_lt_base hsmall
  | case2 number hlarge ih =>
    rw [Nat.toDigits_of_base_le (by decide) (Nat.le_of_not_lt hlarge), ih, List.map_append]
    rfl

theorem lt_of_mem_digitsOf (number : Nat) : ∀ digit ∈ digitsOf number, digit < 10 := by
  fun_induction digitsOf number with
  | case1 number hsmall =>
    intro digit hdigit
    rwa [List.mem_singleton.1 hdigit]
  | case2 number hlarge ih =>
    intro digit hdigit
    rcases List.mem_append.1 hdigit with hdigit | hdigit
    · exact ih digit hdigit
    · rw [List.mem_singleton.1 hdigit]
      exact Nat.mod_lt number (by decide)

theorem digitsOf_ne_nil (number : Nat) : digitsOf number ≠ [] := by
  rw [digitsOf]
  split <;> simp

theorem digitsOf_eq_zero_cons {number : Nat} {rest : List Nat}
    (hzero : digitsOf number = 0 :: rest) : number = 0 := by
  fun_induction digitsOf number generalizing rest with
  | case1 number hsmall => exact (List.cons.inj hzero).1
  | case2 number hlarge ih =>
    cases hhead : digitsOf (number / 10) with
    | nil => exact absurd hhead (digitsOf_ne_nil _)
    | cons digit others =>
      rw [hhead, List.cons_append] at hzero
      rw [(List.cons.inj hzero).1] at hhead
      have := ih hhead
      omega

theorem takeWord_append {value middle : Nat} {left right : List Nat}
    (hleft : takeWord value left = (middle, [])) :
    takeWord value (left ++ right) = takeWord middle right := by
  induction left generalizing value with
  | nil =>
    cases hleft
    rfl
  | cons digit rest ih =>
    rw [List.cons_append, takeWord]
    rw [takeWord] at hleft
    split at hleft
    · rename_i hfits
      rw [if_pos hfits]
      exact ih hleft
    · cases hleft

theorem takeWord_digitsOf (number : Nat) (hfits : number < wordBound) :
    takeWord 0 (digitsOf number) = (number, []) := by
  fun_induction digitsOf number with
  | case1 number hsmall =>
    rw [takeWord, Nat.zero_mul, Nat.zero_add, if_pos hfits]
    rfl
  | case2 number hlarge ih =>
    have hsum : number / 10 * 10 + number % 10 = number := Nat.div_add_mod' number 10
    rw [takeWord_append (ih (Nat.lt_of_le_of_lt (Nat.div_le_self number 10) hfits)), takeWord, hsum,
      if_pos hfits]
    rfl

/-! ### Scanning -/

/-- What can follow a value in a document that was written. -/
def FollowsValue : Bytes → Prop
  | [] => True
  | first :: _ => first = byte ',' ∨ first = byte '}'

theorem digitChar_spec : ∀ digit < 10,
    String.utf8EncodeChar (Nat.digitChar digit) = [byte (Nat.digitChar digit)] ∧
      digit? (byte (Nat.digitChar digit)) = some digit := by
  decide

theorem encodeList_digits {digits : List Nat} (hdigits : ∀ digit ∈ digits, digit < 10) :
    encodeList (digits.map Nat.digitChar) = digits.map fun digit => byte (Nat.digitChar digit) := by
  induction digits with
  | nil => rfl
  | cons digit rest ih =>
    have hdigit := hdigits digit List.mem_cons_self
    rw [List.map_cons, encodeList_cons, (digitChar_spec digit hdigit).1,
      ih fun other hother => hdigits other (List.mem_cons_of_mem digit hother)]
    rfl

theorem scanDigits_written {digits : List Nat} (hdigits : ∀ digit ∈ digits, digit < 10)
    (offset : Nat) {tail : Bytes} (htail : FollowsValue tail) :
    scanDigits offset ((digits.map fun digit => byte (Nat.digitChar digit)) ++ tail) =
      (digits, ⟨offset + digits.length, tail⟩) := by
  induction digits generalizing offset with
  | nil =>
    cases tail with
    | nil => rfl
    | cons first rest =>
      have hfirst : digit? first = none := by
        rcases htail with rfl | rfl <;> decide
      rw [List.map_nil, List.nil_append, scanDigits, hfirst]
      rfl
  | cons digit rest ih =>
    have hdigit := hdigits digit List.mem_cons_self
    have hrest := ih (fun other hother => hdigits other (List.mem_cons_of_mem digit hother))
      (offset + 1)
    rw [List.map_cons, List.cons_append, scanDigits, (digitChar_spec digit hdigit).2, hrest]
    simp only [List.length_cons]
    rw [show offset + (rest.length + 1) = offset + 1 + rest.length by omega]

/-- The digits of a word as a spelled number. -/
def writtenNumeral (word : UInt64) : Numeral := ⟨false, digitsOf word.toNat, [], none⟩

theorem encodeList_writtenWord (word : UInt64) :
    encodeList (writtenWord word) =
      (digitsOf word.toNat).map fun digit => byte (Nat.digitChar digit) := by
  rw [writtenWord, Nat.toString_eq_ofList_toDigits, String.toList_ofList, toDigits_eq_map,
    encodeList_digits (lt_of_mem_digitsOf word.toNat)]

theorem scanWhole_written (word : UInt64) (offset : Nat) {tail : Bytes}
    (htail : FollowsValue tail) :
    scanWhole ⟨offset, encodeList (writtenWord word) ++ tail⟩ =
      .ok (digitsOf word.toNat, ⟨offset + (encodeList (writtenWord word)).length, tail⟩) := by
  rw [encodeList_writtenWord, List.length_map]
  unfold scanWhole
  rw [scanDigits_written (lt_of_mem_digitsOf word.toNat) offset htail]
  split
  · rename_i after hdigits
    exact absurd (Prod.mk.inj hdigits).1 (digitsOf_ne_nil _)
  · rename_i digit rest after hdigits
    -- A leading zero is the whole number.
    have hzero := (Prod.mk.inj hdigits).1
    rw [digitsOf_eq_zero_cons hzero, digitsOf, if_pos (by decide)] at hzero
    cases hzero
  · rename_i digits after _ _ hdigits
    obtain ⟨rfl, rfl⟩ := Prod.mk.inj hdigits
    rfl

theorem scanNumeral_written (word : UInt64) (offset : Nat) {tail : Bytes}
    (htail : FollowsValue tail) :
    scanNumeral false ⟨offset, encodeList (writtenWord word) ++ tail⟩ =
      .ok (writtenNumeral word, ⟨offset + (encodeList (writtenWord word)).length, tail⟩) := by
  unfold scanNumeral
  rw [scanWhole_written word offset htail]
  cases tail with
  | nil => rfl
  | cons first rest =>
    rcases htail with rfl | rfl
    · rfl
    · rfl

theorem value_writtenNumeral (word : UInt64) :
    (writtenNumeral word).value = .ok (.unsigned word) := by
  have hfits : word.toNat < wordBound := word.toNat_lt
  unfold Numeral.value writtenNumeral
  rw [takeWord_digitsOf word.toNat hfits]
  simp [Numeral.isInteger]

end AccountManager.Json
