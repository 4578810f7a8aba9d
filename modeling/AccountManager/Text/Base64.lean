import AccountManager.Text.Base64Url

/-!
# Base64 with padding

The usual alphabet, every group filled up to four symbols.
-/

namespace AccountManager.Base64

/-- The usual alphabet has two other symbols than that of addresses. -/
def symbol (character : Char) : Char :=
  if character = '-' then '+' else if character = '_' then '/' else character

def encode (bytes : Bytes) : String :=
  let symbols := (Base64Url.encodeList bytes).map symbol
  String.ofList (symbols ++ List.replicate ((4 - symbols.length % 4) % 4) '=')

end AccountManager.Base64
