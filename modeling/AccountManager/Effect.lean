import AccountManager.CredentialRecord
import AccountManager.Error
import AccountManager.KeyPair
import AccountManager.Log

/-!
# What the outside sees

The account manager changes its own state and otherwise only logs, sends events, starts calls to the
identity service and lets the calls made to it return. A step gives all of that as data, in its
order.
-/

namespace AccountManager

inductive Event
  | login
  | verified
  | logout
  deriving Repr, DecidableEq

inductive RemoteCall
  | fetchKeys (keyFetchToken : String)
  | checkStatus (sessionToken : String)
  | signCertificate (sessionToken : String) (publicKey : PublicKey)
  deriving Repr, DecidableEq

structure KeyBundle where
  kA : Bytes
  wrapKB : Bytes
  deriving Repr, DecidableEq

/-- A bundle shows none of its bytes. -/
def KeyBundle.description : String := Text.describedPartly "KeyBundle" []

/-- What a call made to the account manager returns. -/
inductive Answer
  | record (record : CredentialRecord)
  | assertion (text : String)
  deriving Repr, DecidableEq

/-- The name by which a call is told from the others under way. -/
abbrev CallId := Nat

inductive Effect
  | log (record : Log.Record)
  | event (event : Event)
  | call (call : RemoteCall)
  | returned (id : CallId) (result : Except AccountError Answer)

/-- What came of a step: its result, the state after it, and what was seen. -/
structure Step (σ α : Type) where
  result : α
  state : σ
  effects : List Effect := []

end AccountManager
