import AccountManager.Text.Utf8

/-!
# The bytes of characters

A text is encoded character by character. An ASCII character is one byte, its code, and every byte
of another character lies above ASCII.
-/

namespace AccountManager.Utf8

def encodeList (characters : List Char) : Bytes := characters.flatMap String.utf8EncodeChar

@[simp] theorem encodeList_nil : encodeList [] = [] := rfl

@[simp] theorem encodeList_cons (character : Char) (characters : List Char) :
    encodeList (character :: characters) =
      String.utf8EncodeChar character ++ encodeList characters := by
  simp [encodeList]

@[simp] theorem encodeList_append (left right : List Char) :
    encodeList (left ++ right) = encodeList left ++ encodeList right := by
  simp [encodeList]

theorem encode_ofList (characters : List Char) :
    encode (String.ofList characters) = encodeList characters := by
  simp [encode, encodeList, List.utf8Encode]

theorem encode_injective : Function.Injective encode := fun left right heq => by
  have hdecode := decode?_encode left
  rw [heq, decode?_encode] at hdecode
  exact (Option.some.inj hdecode).symm

theorem encode_eq_encodeList (text : String) : encode text = encodeList text.toList := by
  rw [← encode_ofList, String.ofList_toList]

theorem encodeList_of_ascii {character : Char} (hascii : character.toNat < 128) :
    String.utf8EncodeChar character = [UInt8.ofNat character.toNat] := by
  have hsize : character.val.toNat ≤ 127 := Nat.le_of_lt_succ hascii
  unfold String.utf8EncodeChar
  rw [if_pos hsize]
  rfl

/-- A character above ASCII has no byte in common with ASCII. -/
theorem le_of_mem_utf8EncodeChar {character : Char} (hascii : ¬ character.toNat < 128)
    {byte : UInt8} (hbyte : byte ∈ String.utf8EncodeChar character) : 128 ≤ byte.toNat := by
  have hsize : ¬ character.val.toNat ≤ 127 := fun h => hascii (Nat.lt_succ_of_le h)
  unfold String.utf8EncodeChar at hbyte
  simp only [hsize, if_false] at hbyte
  split at hbyte
  · simp only [List.mem_cons, List.not_mem_nil, or_false] at hbyte
    rcases hbyte with rfl | rfl <;> simp only [UInt8.toNat_ofNat'] <;> omega
  · split at hbyte
    · simp only [List.mem_cons, List.not_mem_nil, or_false] at hbyte
      rcases hbyte with rfl | rfl | rfl <;> simp only [UInt8.toNat_ofNat'] <;> omega
    · simp only [List.mem_cons, List.not_mem_nil, or_false] at hbyte
      rcases hbyte with rfl | rfl | rfl | rfl <;> simp only [UInt8.toNat_ofNat'] <;> omega

end AccountManager.Utf8
