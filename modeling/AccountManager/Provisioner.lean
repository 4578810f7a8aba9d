import AccountManager.Assertion
import AccountManager.Config
import AccountManager.Effect

/-!
# Keys and certificates at hand

The provisioner keeps one key pair and one certificate for it, both for a limited time, and has at
most one request for a certificate outstanding. All of it belongs to one epoch and is dropped when
the next one begins.

```text
absent --key pair--> key only --certificate--> provisioned
  ^                    ^                            |
  |                    +--- certificate expires ----+
  +-------- key expires, sign-in, sign-out ---------+
```
-/

namespace AccountManager

inductive ProvisioningState
  | absent
  | keyOnly
  | provisioned
  deriving Repr, DecidableEq

def ProvisioningState.description : ProvisioningState → String
  | .absent => "Absent"
  | .keyOnly => "KeyOnly"
  | .provisioned => "Provisioned"

/-- A key pair that may be used until a time. -/
structure EphemeralKey where
  id : Nat
  pair : KeyPair
  validUntil : UInt64
  deriving Repr, DecidableEq

/-- A certificate for a key, and the request it was the answer to. -/
structure Certificate where
  text : String
  validUntil : UInt64
  keyId : Nat
  requestId : Nat
  deriving Repr, DecidableEq

structure InFlight where
  keyId : Nat
  requestId : Nat
  deriving Repr, DecidableEq

/-- The state of the provisioner; keys and requests are numbered together. -/
structure Provisioner where
  generation : Nat := 0
  key : Option EphemeralKey := none
  certificate : Option Certificate := none
  inFlight : Option InFlight := none
  lastId : Nat := 0
  generated : Nat := 0
  deriving Repr, DecidableEq

/-- The sum of two numbers of milliseconds, at most the greatest there is. -/
def saturatingAdd (left right : UInt64) : UInt64 :=
  if left.toNat + right.toNat < UInt64.size then left + right else UInt64.ofNat (UInt64.size - 1)

namespace Provisioner

def target : String := "fxaccounts_core::provisioner"

def debug (message : String) : Effect := .log ⟨.debug, target, message⟩

def warn (message : String) : Effect := .log ⟨.warn, target, message⟩

/-- What provisioning depends on beside its own state: how long things last, the random bytes of the
key pairs by their number from one, and the time. -/
structure Setting where
  config : Config
  seeds : Nat → Bytes
  now : UInt64

def validKey? (provisioner : Provisioner) (now : UInt64) : Option EphemeralKey :=
  provisioner.key.filter fun key => now < key.validUntil

/-- The certificate of a key that may still be used. -/
def validCertificate? (provisioner : Provisioner) (keyId : Nat) (now : UInt64) :
    Option Certificate :=
  provisioner.certificate.filter fun certificate =>
    certificate.keyId = keyId && now < certificate.validUntil

def state (provisioner : Provisioner) (now : UInt64) : ProvisioningState :=
  match provisioner.validKey? now with
  | none => .absent
  | some key => if (provisioner.validCertificate? key.id now).isSome then .provisioned else .keyOnly

/-- The provisioner as it may be shown to people. -/
def description (provisioner : Provisioner) (now : UInt64) : String :=
  Text.describedPartly "AssertionProvisioner" [("state", (provisioner.state now).description)]

def reset (provisioner : Provisioner) (generation : Nat) : Provisioner :=
  { provisioner with generation, key := none, certificate := none, inFlight := none }

/-- Drops what belongs to another epoch. -/
def adopt (provisioner : Provisioner) (generation : Nat) : Provisioner :=
  if provisioner.generation = generation then provisioner else provisioner.reset generation

/-- The key pair at hand, or a new one; a new one leaves no use for an older certificate or
request. -/
def freshKey (provisioner : Provisioner) (setting : Setting) : Step Provisioner EphemeralKey :=
  match provisioner.validKey? setting.now with
  | some key => ⟨key, provisioner, []⟩
  | none =>
    let id := provisioner.lastId + 1
    let generated := provisioner.generated + 1
    let key : EphemeralKey :=
      ⟨id, ⟨setting.seeds generated⟩, saturatingAdd setting.now setting.config.keyLifetime⟩
    ⟨key,
      { provisioner with
        key := some key, certificate := none, inFlight := none, lastId := id, generated },
      [debug ("generated keypair " ++ toString id ++ " valid until " ++
        toString key.validUntil.toNat)]⟩

/-- How a certificate is got: it is at hand, it was requested by somebody else, or it is requested
now. -/
inductive CertificatePlan
  | ready (text : String)
  | joined (requestId : Nat)
  | requested (requestId : Nat)
  deriving Repr, DecidableEq

/-- Plans how the key pair at hand gets its certificate, on behalf of the user of epoch
`generation`. -/
def certify (provisioner : Provisioner) (setting : Setting) (epoch generation : Nat)
    (sessionToken : String) :
    Step Provisioner (Except AccountError (EphemeralKey × CertificatePlan)) :=
  if epoch ≠ generation then ⟨.error .notSignedIn, provisioner, []⟩
  else
    let fresh := (provisioner.adopt generation).freshKey setting
    let key := fresh.result
    match fresh.state.validCertificate? key.id setting.now with
    | some certificate => ⟨.ok (key, .ready certificate.text), fresh.state, fresh.effects⟩
    | none =>
      match fresh.state.inFlight.filter fun request => request.keyId = key.id with
      | some request =>
        ⟨.ok (key, .joined request.requestId), fresh.state,
          fresh.effects ++ [debug ("joining certificate request " ++ toString request.requestId)]⟩
      | none =>
        let id := fresh.state.lastId + 1
        ⟨.ok (key, .requested id),
          { fresh.state with lastId := id, inFlight := some ⟨key.id, id⟩ },
          fresh.effects ++ [
            debug ("requesting certificate " ++ toString id ++ " for keypair " ++ toString key.id),
            .call (.signCertificate sessionToken key.pair.publicKey)]⟩

/-- Takes the answer to a request, for one of the calls that wait for it: the first of them installs
the certificate, if the key is still at hand. -/
def finish (provisioner : Provisioner) (setting : Setting) (epoch generation : Nat)
    (key : EphemeralKey) (requestId : Nat) (answer : Except RemoteError String) :
    Step Provisioner (Except AccountError String) :=
  let provisioner :=
    if (provisioner.inFlight.map InFlight.requestId) = some requestId then
      { provisioner with inFlight := none }
    else provisioner
  if provisioner.generation ≠ generation ∨ epoch ≠ generation then
    ⟨.error .notSignedIn, provisioner,
      [warn ("discarding certificate response " ++ toString requestId ++
        " for a signed-out session")]⟩
  else
    match answer with
    | .error error => ⟨.error (.remoteCall error), provisioner, []⟩
    | .ok text =>
      let installed := (provisioner.certificate.map Certificate.requestId) = some requestId
      let current := (provisioner.key.map EphemeralKey.id) = some key.id
      if ¬ installed ∧ current then
        let validUntil := saturatingAdd setting.now setting.config.certificateLifetime
        ⟨.ok text,
          { provisioner with certificate := some ⟨text, validUntil, key.id, requestId⟩ },
          [debug ("certificate " ++ toString requestId ++ " valid until " ++
            toString validUntil.toNat)]⟩
      else ⟨.ok text, provisioner, []⟩

/-- Signs an assertion that holds for as long as assertions do from now on. -/
def assertion (setting : Setting) (key : EphemeralKey) (certificate audience : String) : String :=
  Assertion.build certificate key.pair audience
    (saturatingAdd setting.now setting.config.assertionLifetime)

end Provisioner

end AccountManager
