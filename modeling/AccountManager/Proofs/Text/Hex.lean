import AccountManager.Proofs.Text.Utf8
import AccountManager.Text.Hex

/-!
# Texts of hexadecimal digits

A byte is two digits, its upper and its lower half. A text is read exactly if it becomes the digits
of some bytes once its letters are made lower-case, and those bytes are what is read.
-/

namespace AccountManager.Hex

/-- Whether a text is made of the digits of some bytes, in either case. -/
def Spells (text : String) (bytes : Bytes) : Prop :=
  text.toList.map Char.toLower = encodeList bytes

/-- The upper and the lower half of each byte. -/
def halves : Bytes → List Nat
  | [] => []
  | byte :: rest => byte.toNat / 16 :: byte.toNat % 16 :: halves rest

variable {bytes digits : Bytes} {character : Char} {value : Nat}

/-! ### Digits -/

theorem length_halves (bytes : Bytes) : (halves bytes).length = 2 * bytes.length := by
  induction bytes with
  | nil => rfl
  | cons byte rest ih => simp only [halves, List.length_cons, ih]; omega

theorem lt_of_mem_halves (hvalue : value ∈ halves bytes) : value < 16 := by
  induction bytes with
  | nil => cases hvalue
  | cons byte rest ih =>
    have hbyte := byte.toNat_lt
    simp only [halves, List.mem_cons] at hvalue
    rcases hvalue with rfl | rfl | hvalue
    · omega
    · omega
    · exact ih hvalue

theorem encodeList_eq_map (bytes : Bytes) : encodeList bytes = (halves bytes).map digit := by
  induction bytes with
  | nil => rfl
  | cons byte rest ih => simp only [encodeList, halves, List.map_cons, ih]

theorem length_encodeList (bytes : Bytes) : (encodeList bytes).length = 2 * bytes.length := by
  rw [encodeList_eq_map, List.length_map, length_halves]

theorem mem_of_mem_encodeList (hcharacter : character ∈ encodeList bytes) :
    character ∈ "0123456789abcdef".toList := by
  have hdigit : ∀ value < 16, digit value ∈ "0123456789abcdef".toList := by decide
  rw [encodeList_eq_map] at hcharacter
  obtain ⟨value, hvalue, rfl⟩ := List.mem_map.1 hcharacter
  exact hdigit value (lt_of_mem_halves hvalue)

/-! ### The value of a digit -/

theorem value?_eq_some_iff (hascii : character.toNat < 128) (hvalue : value < 16) :
    value? (UInt8.ofNat character.toNat) = some value ↔ character.toLower = digit value := by
  have hall : ∀ code < 128, ∀ value < 16,
      value? (UInt8.ofNat code) = some value ↔ (Char.ofNat code).toLower = digit value := by
    decide +kernel
  have h := hall character.toNat hascii value hvalue
  rwa [Char.ofNat_toNat] at h

theorem value?_of_le {byte : UInt8} (hbyte : 128 ≤ byte.toNat) : value? byte = none := by
  unfold value?
  dsimp only
  rw [if_neg (by omega), if_neg (by omega), if_neg (by omega)]

theorem lt_of_value?_eq_some {byte : UInt8} (hvalue : value? byte = some value) : value < 16 := by
  simp only [value?] at hvalue
  split at hvalue
  · cases hvalue; omega
  · split at hvalue
    · cases hvalue; omega
    · split at hvalue
      · cases hvalue; omega
      · cases hvalue

theorem toLower_ne_digit (hascii : ¬ character.toNat < 128) (hvalue : value < 16) :
    character.toLower ≠ digit value := by
  have hdigit : ∀ value < 16, (digit value).toNat < 128 := by decide
  have hlower : character.toLower = character := by
    unfold Char.toLower
    split
    · rename_i hletter
      have hlast : character.toNat ≤ 90 := UInt32.le_iff_toNat_le.1 hletter.2
      exact absurd (Nat.lt_of_le_of_lt hlast (by decide)) hascii
    · rfl
  intro heq
  rw [hlower] at heq
  exact hascii (heq ▸ hdigit value hvalue)

/-- Characters have the values of digits exactly if they are those digits in lower case. -/
theorem map_value?_encodeList (characters : List Char) {values : List Nat}
    (hvalues : ∀ value ∈ values, value < 16) :
    (Utf8.encodeList characters).map value? = values.map some ↔
      characters.map Char.toLower = values.map digit := by
  induction characters generalizing values with
  | nil => cases values <;> simp
  | cons character rest ih =>
    rw [Utf8.encodeList_cons]
    by_cases hascii : character.toNat < 128
    · rw [Utf8.encodeList_of_ascii hascii]
      cases values with
      | nil => simp
      | cons value others =>
        have hvalue := hvalues value List.mem_cons_self
        have hothers := fun other hother => hvalues other (List.mem_cons_of_mem _ hother)
        simp only [List.map_cons, List.singleton_append, List.cons.injEq,
          value?_eq_some_iff hascii hvalue, ih hothers]
    · -- the first byte of the character is no digit
      obtain ⟨first, others, hbytes⟩ :=
        List.exists_cons_of_ne_nil (String.utf8EncodeChar_ne_nil (c := character))
      have hfirst : value? first = none :=
        value?_of_le (Utf8.le_of_mem_utf8EncodeChar hascii (hbytes ▸ List.mem_cons_self))
      rw [hbytes]
      cases values with
      | nil => simp
      | cons value others =>
        simp [hfirst, toLower_ne_digit hascii (hvalues value List.mem_cons_self)]

/-! ### Reading -/

/-- A byte is put together from its halves alone. -/
theorem eq_ofNat_iff {byte : UInt8} {first second : Nat} (hfirst : first < 16)
    (hsecond : second < 16) :
    byte = UInt8.ofNat (first * 16 + second) ↔
      first = byte.toNat / 16 ∧ second = byte.toNat % 16 := by
  rw [← UInt8.toNat_inj, UInt8.toNat_ofNat']
  omega

theorem decodePairs_eq_ok_iff (position : Nat) (digits : Bytes) :
    decodePairs position digits = .ok bytes ↔ digits.map value? = (halves bytes).map some := by
  induction position, digits using decodePairs.induct generalizing bytes with
  | case1 position => cases bytes <;> simp [decodePairs, halves]
  | case2 position digit => cases bytes <;> simp [decodePairs, halves]
  | case3 position high low rest hhigh =>
    cases bytes <;> simp [decodePairs, halves, hhigh]
  | case4 position high low rest first hlow hfirst =>
    cases bytes <;> simp [decodePairs, halves, hfirst, hlow]
  | case5 position high low rest first second hsecond hfirst ih =>
    have hbyte := fun byte => @eq_ofNat_iff byte _ _ (lt_of_value?_eq_some hfirst)
      (lt_of_value?_eq_some hsecond)
    have hread : decodePairs position (high :: low :: rest) = .ok bytes ↔
        ∃ others, decodePairs (position + 2) rest = .ok others ∧
          bytes = UInt8.ofNat (first * 16 + second) :: others := by
      simp only [decodePairs, hfirst, hsecond]
      cases decodePairs (position + 2) rest <;> simp [bind, Except.bind, eq_comm]
    simp only [hread, ih]
    cases bytes with
    | nil => simp [halves]
    | cons byte others =>
      simp only [List.cons.injEq, hbyte, halves, List.map_cons, hfirst, hsecond, Option.some.injEq]
      exact ⟨fun ⟨_, hrest, ⟨hhigh, hlow⟩, heq⟩ => ⟨hhigh, hlow, heq ▸ hrest⟩,
        fun ⟨hhigh, hlow, hrest⟩ => ⟨others, hrest, ⟨hhigh, hlow⟩, rfl⟩⟩

/-- A text is read exactly if it spells some bytes, and as those. -/
theorem decode_eq_ok_iff (text : String) : decode text = .ok bytes ↔ Spells text bytes := by
  have hdecode : decode text = .ok bytes ↔ decodePairs 0 (Utf8.encode text) = .ok bytes := by
    unfold decode decodeBytes
    split
    · rfl
    · rename_i hodd
      refine ⟨nofun, fun h => absurd ?_ hodd⟩
      have hlength := congrArg List.length ((decodePairs_eq_ok_iff 0 _).1 h)
      simp only [List.length_map, length_halves] at hlength
      omega
  rw [hdecode, decodePairs_eq_ok_iff, Utf8.encode_eq_encodeList,
    map_value?_encodeList _ fun _ => lt_of_mem_halves, ← encodeList_eq_map]
  rfl

theorem decode_encode (bytes : Bytes) : decode (encode bytes) = .ok bytes := by
  have hlower : "0123456789abcdef".toList.all fun character => character.toLower == character := by
    decide
  have hsame : ∀ character ∈ encodeList bytes, character.toLower = character := fun character h =>
    beq_iff_eq.1 (List.all_eq_true.1 hlower character (mem_of_mem_encodeList h))
  rw [decode_eq_ok_iff, Spells, encode, String.toList_ofList]
  exact (List.map_congr_left hsame).trans (List.map_id' _)

end AccountManager.Hex
