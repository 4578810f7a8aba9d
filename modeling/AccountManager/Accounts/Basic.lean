import AccountManager.Provisioner
import AccountManager.Session.Activity

/-!
# The account manager

A session and a provisioner under one configuration and one clock. Signing in or out resets the
provisioner together with the epoch.
-/

namespace AccountManager

open Storage

structure Accounts (σ : Type) where
  config : Config
  seeds : Nat → Bytes
  clock : UInt64
  activity : Session.Activity σ
  provisioner : Provisioner := {}

namespace Accounts

def target : String := "fxaccounts_core::accounts"

def info (message : String) : Effect := .log ⟨.info, target, message⟩

variable {σ : Type}

/-- The calls of a new session over a store, as a configuration sets them up. -/
def newActivity (config : Config) (store : σ) : Session.Activity σ :=
  { session := { store }, polling := ⟨config.pollSpan, config.polls⟩ }

/-- An account manager over a store, if the configuration is consistent. -/
def new (config : Config) (seeds : Nat → Bytes) (clock : UInt64) (store : σ) :
    Except AccountError (Accounts σ) :=
  match config.validate with
  | .error error => .error (.invalidConfig error)
  | .ok () => .ok { config, seeds, clock, activity := newActivity config store }

def epoch (accounts : Accounts σ) : Nat := accounts.activity.session.epoch

def setting (accounts : Accounts σ) : Provisioner.Setting :=
  ⟨accounts.config, accounts.seeds, accounts.clock⟩

def state (accounts : Accounts σ) : ProvisioningState := accounts.provisioner.state accounts.clock

def keyValidUntil (accounts : Accounts σ) : Option UInt64 :=
  accounts.provisioner.key.map EphemeralKey.validUntil

def certificateValidUntil (accounts : Accounts σ) : Option UInt64 :=
  accounts.provisioner.certificate.map Certificate.validUntil

/-- The account manager as it may be shown to people. -/
def description (accounts : Accounts σ) : String :=
  Text.describedPartly "FxAccounts" [
    ("remote_url", Text.quoted accounts.config.remoteUrl),
    ("provisioner", accounts.provisioner.description accounts.clock)]

/-- Drops what the provisioner holds, for the epoch that has begun. -/
def resetProvisioner (accounts : Accounts σ) : Accounts σ :=
  { accounts with provisioner := accounts.provisioner.reset accounts.epoch }

end Accounts

end AccountManager
