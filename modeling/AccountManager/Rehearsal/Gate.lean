/-!
# Gates

A gate holds up those who arrive until there is a permit for each of them, in the order of their
arrival. Whoever leaves without having used a permit hands it on.
-/

namespace AccountManager.Rehearsal

/-- Who waits in front of a gate, who passed it, and the permits nobody has taken yet. -/
structure Gate where
  closed : Bool := false
  permits : Nat := 0
  queue : List Nat := []
  passed : List Nat := []
  deriving Repr, DecidableEq

namespace Gate

/-- Gives a permit to whoever has waited longest, or keeps it. -/
def permit (gate : Gate) : Gate :=
  match gate.queue with
  | [] => { gate with permits := gate.permits + 1 }
  | next :: rest => { gate with queue := rest, passed := gate.passed ++ [next] }

def release (gate : Gate) (count : Nat) : Gate := count.repeat permit gate

def arrive (gate : Gate) (visitor : Nat) : Gate :=
  if ¬ gate.closed then { gate with passed := gate.passed ++ [visitor] }
  else if 0 < gate.permits then
    { gate with permits := gate.permits - 1, passed := gate.passed ++ [visitor] }
  else { gate with queue := gate.queue ++ [visitor] }

/-- A visitor that passed goes on with its permit. -/
def use (gate : Gate) (visitor : Nat) : Gate :=
  { gate with passed := gate.passed.filter (· ≠ visitor) }

def leave (gate : Gate) (visitor : Nat) : Gate :=
  let rest := { gate with queue := gate.queue.filter (· ≠ visitor) }
  if rest.passed.contains visitor then
    let rest := rest.use visitor
    if rest.closed then rest.permit else rest
  else rest

end Gate

end AccountManager.Rehearsal
