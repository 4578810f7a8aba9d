import AccountManager.Accounts.Basic
import AccountManager.Service.Client

/-!
# Account managers of a deployment

The configuration of a deployment gives both the client of its identity service and an account
manager.
-/

namespace AccountManager.Accounts

/-- An account manager and the client it is to use. -/
def ofEnvironment {σ : Type} (environment : Environment) (seeds : Nat → Bytes) (clock : UInt64)
    (store : σ) : Except AccountError (Service.Client × Accounts σ) := do
  let config := Config.ofEnvironment environment
  let client ← Service.Client.ofConfig config
  let accounts ← Accounts.new config seeds clock store
  .ok (client, accounts)

end AccountManager.Accounts
