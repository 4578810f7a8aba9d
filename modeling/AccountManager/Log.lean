/-!
# Log records

Records carry a level and name the part of the program they come from. The host gets those that
matter: everything down to information, and the details of this library alone.
-/

namespace AccountManager.Log

inductive Level
  | error
  | warn
  | info
  | debug
  | trace
  deriving Repr, DecidableEq

namespace Level

def name : Level → String
  | .error => "Error"
  | .warn => "Warn"
  | .info => "Info"
  | .debug => "Debug"
  | .trace => "Trace"

/-- Whether a level is shown whatever its origin. -/
def matters : Level → Bool
  | .error | .warn | .info => true
  | .debug | .trace => false

end Level

structure Record where
  level : Level
  target : String
  message : String
  deriving Repr, DecidableEq

/-- What the names of this library's own parts begin with. -/
def ownTargets : String := "fxaccounts"

def Record.isForwarded (record : Record) : Bool :=
  record.level.matters || ownTargets.toList.isPrefixOf record.target.toList

def Record.text (record : Record) : String := record.target ++ ": " ++ record.message

/-- What is logged when a second host asks for the records; the first one keeps them. -/
def alreadyInstalled : Record :=
  ⟨.warn, "fxaccounts_core::logger", "host logger already installed, ignoring"⟩

def forwarded (records : List Record) : List (Level × String) :=
  (records.filter Record.isForwarded).map fun record => (record.level, record.text)

end AccountManager.Log
