import AccountManager.Effect

/-!
# Telling subscribers

Events go to everybody who subscribed before they were sent. The last sixteen are kept; a subscriber
who is further behind learns how many it lost.
-/

namespace AccountManager

namespace Event

def name : Event → String
  | .login => "Login"
  | .verified => "Verified"
  | .logout => "Logout"

def capacity : Nat := 16

end Event

structure EventChannel where
  sent : List Event := []
  deriving Repr, DecidableEq

/-- How many events a subscriber has seen or lost. -/
abbrev Subscription := Nat

inductive Received
  | lagged (lost : Nat)
  | event (event : Event)
  deriving Repr, DecidableEq

namespace EventChannel

def send (channel : EventChannel) (events : List Event) : EventChannel :=
  ⟨channel.sent ++ events⟩

/-- A subscription to what is sent from now on. -/
def subscribe (channel : EventChannel) : Subscription := channel.sent.length

/-- Everything a subscriber has not received yet, and the subscription after that. -/
def drain (channel : EventChannel) (subscription : Subscription) : List Received × Subscription :=
  let size := channel.sent.length
  let oldest := size - Event.capacity
  let lost := oldest - subscription
  let events := (channel.sent.drop (max subscription oldest)).map Received.event
  (if lost = 0 then events else .lagged lost :: events, size)

end EventChannel

def eventsOf (effects : List Effect) : List Event :=
  effects.filterMap fun
    | .event event => some event
    | _ => none

def recordsOf (effects : List Effect) : List Log.Record :=
  effects.filterMap fun
    | .log record => some record
    | _ => none

def callsOf (effects : List Effect) : List RemoteCall :=
  effects.filterMap fun
    | .call call => some call
    | _ => none

def returnedOf (effects : List Effect) : List (CallId × Except AccountError Answer) :=
  effects.filterMap fun
    | .returned id result => some (id, result)
    | _ => none

end AccountManager
