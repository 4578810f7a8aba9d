/-!
# Where an account is stored

Everything lies in one directory under a root that the application chooses.
-/

namespace AccountManager.Storage

namespace Paths

/-- A path followed by a second one: they are joined by one slash, unless the second starts at the
root itself. -/
def join (first second : String) : String :=
  if second.toList.head? = some '/' then second
  else if first = "" ∨ first.toList.getLast? = some '/' then first ++ second
  else first ++ "/" ++ second

end Paths

structure Paths where
  root : String
  deriving Repr, DecidableEq

namespace Paths

def directory (paths : Paths) : String := join paths.root "fxaccounts"

/-- The name of the blob that holds the signed-in user. -/
def userName : String := "signedInUser.json"

def userPath (paths : Paths) : String := join paths.directory userName

end Paths

end AccountManager.Storage
