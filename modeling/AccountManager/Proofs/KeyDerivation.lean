import AccountManager.KeyDerivation
import AccountManager.Proofs.Text.Hex

/-!
# Deriving a key and going back

Combining with the same bytes twice gives what there was at first, so whoever knows the unwrapping
key gets from the wrapped key to the key and back.
-/

namespace AccountManager.KeyDerivation

variable {left right bytes wrapped unwrapping key : Bytes} {unwrapBKey kB : String}

/-! ### Combining -/

theorem xor_eq_ok_iff :
    xor left right = .ok bytes ↔
      left.length = right.length ∧ List.zipWith (· ^^^ ·) left right = bytes := by
  unfold xor
  split
  · rename_i hlength
    simp [hlength]
  · rename_i hlength
    simp [hlength]

theorem length_of_xor_eq_ok (hxor : xor left right = .ok bytes) :
    bytes.length = left.length := by
  obtain ⟨hlength, rfl⟩ := xor_eq_ok_iff.1 hxor
  rw [List.length_zipWith, hlength, Nat.min_self]

theorem zipWith_xor_zipWith_xor (hlength : left.length = right.length) :
    List.zipWith (· ^^^ ·) (List.zipWith (· ^^^ ·) left right) right = left := by
  induction left generalizing right with
  | nil => rfl
  | cons first rest ih =>
    obtain ⟨other, others, rfl⟩ := List.exists_cons_of_length_eq_add_one hlength.symm
    simp only [List.zipWith_cons_cons, UInt8.xor_assoc, UInt8.xor_self, UInt8.xor_zero,
      ih (Nat.succ.inj hlength)]

theorem xor_of_xor_eq_ok (hxor : xor left right = .ok bytes) : xor bytes right = .ok left := by
  have hbytes := length_of_xor_eq_ok hxor
  obtain ⟨hlength, rfl⟩ := xor_eq_ok_iff.1 hxor
  exact xor_eq_ok_iff.2 ⟨hbytes.trans hlength, zipWith_xor_zipWith_xor hlength⟩

/-! ### The second key -/

theorem deriveKB_eq_ok_iff :
    deriveKB wrapped unwrapBKey = .ok kB ↔
      ∃ unwrapping key, Hex.Spells unwrapBKey unwrapping ∧ xor wrapped unwrapping = .ok key ∧
        Hex.encode key = kB := by
  unfold deriveKB
  constructor
  · intro hderive
    split at hderive
    · cases hderive
    · rename_i unwrapping hdecode
      cases hxor : xor wrapped unwrapping with
      | error error => rw [hxor] at hderive; cases hderive
      | ok key =>
        rw [hxor] at hderive
        exact ⟨unwrapping, key, (Hex.decode_eq_ok_iff _).1 hdecode, hxor, Except.ok.inj hderive⟩
  · rintro ⟨unwrapping, key, hspells, hxor, rfl⟩
    simp only [(Hex.decode_eq_ok_iff _).2 hspells, hxor]
    rfl

/-- How a key comes out of a wrapped one: exactly if the unwrapping key spells as many bytes as
there are, and then so that it can be wrapped again. -/
structure Unwraps (wrapped : Bytes) (unwrapBKey : String) : Prop where
  succeeds : (∃ kB, deriveKB wrapped unwrapBKey = .ok kB) ↔
    ∃ unwrapping, Hex.Spells unwrapBKey unwrapping ∧ unwrapping.length = wrapped.length
  lowerCase : ∀ kB, deriveKB wrapped unwrapBKey = .ok kB →
    kB.length = 2 * wrapped.length ∧ ∀ digit ∈ kB.toList, digit ∈ "0123456789abcdef".toList
  inverts : ∀ kB, deriveKB wrapped unwrapBKey = .ok kB →
    ∃ unwrapping key, Hex.decode unwrapBKey = .ok unwrapping ∧ Hex.decode kB = .ok key ∧
      key.length = wrapped.length ∧ xor key unwrapping = .ok wrapped ∧
      deriveKB key unwrapBKey = .ok (Hex.encode wrapped)

theorem unwraps (wrapped : Bytes) (unwrapBKey : String) : Unwraps wrapped unwrapBKey where
  succeeds := by
    constructor
    · rintro ⟨kB, hderive⟩
      obtain ⟨unwrapping, key, hspells, hxor, -⟩ := deriveKB_eq_ok_iff.1 hderive
      exact ⟨unwrapping, hspells, (xor_eq_ok_iff.1 hxor).1.symm⟩
    · rintro ⟨unwrapping, hspells, hlength⟩
      exact ⟨_, deriveKB_eq_ok_iff.2
        ⟨unwrapping, _, hspells, xor_eq_ok_iff.2 ⟨hlength.symm, rfl⟩, rfl⟩⟩
  lowerCase kB hderive := by
    obtain ⟨unwrapping, key, -, hxor, rfl⟩ := deriveKB_eq_ok_iff.1 hderive
    refine ⟨?_, fun digit hdigit => ?_⟩
    · rw [Hex.encode, String.length_ofList, Hex.length_encodeList, length_of_xor_eq_ok hxor]
    · rw [Hex.encode, String.toList_ofList] at hdigit
      exact Hex.mem_of_mem_encodeList hdigit
  inverts kB hderive := by
    obtain ⟨unwrapping, key, hspells, hxor, rfl⟩ := deriveKB_eq_ok_iff.1 hderive
    have hback := xor_of_xor_eq_ok hxor
    exact ⟨unwrapping, key, (Hex.decode_eq_ok_iff _).2 hspells, Hex.decode_encode key,
      length_of_xor_eq_ok hxor, hback,
      deriveKB_eq_ok_iff.2 ⟨unwrapping, wrapped, hspells, hback, rfl⟩⟩

end AccountManager.KeyDerivation
