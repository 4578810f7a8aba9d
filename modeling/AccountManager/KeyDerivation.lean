import AccountManager.Error

/-!
# Deriving the second key

The identity service hands out the second key combined with bytes that only the device knows.
Combining it with them once more gives the key.
-/

namespace AccountManager.KeyDerivation

/-- Combines two byte strings of one length, bit by bit. -/
def xor (left right : Bytes) : Except KeyError Bytes :=
  if left.length = right.length then .ok (List.zipWith (· ^^^ ·) left right)
  else .error (.lengthMismatch left.length right.length)

/-- The second key as digits, from the wrapped bytes and the digits of the unwrapping key. -/
def deriveKB (wrapped : Bytes) (unwrapBKey : String) : Except KeyError String :=
  match Hex.decode unwrapBKey with
  | .error error => .error (.badUnwrapKey error)
  | .ok unwrapping => (xor wrapped unwrapping).map Hex.encode

end AccountManager.KeyDerivation
