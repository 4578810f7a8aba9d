import AccountManager.Event
import AccountManager.KeyDerivation
import AccountManager.Storage.Credentials
import Mathlib.Data.List.Forall2

/-!
# What is shown of a user

The tokens and keys of a user, the certificates and the assertions are secret. Two things are alike
if they differ in secrets only; what is shown of an effect is its text in a log, an event, or the
kind of a result together with the description of a record. The rest of the proofs shows that alike
things are handled alike.
-/

namespace AccountManager

/-! ### Alike values -/

/-- Whether two results are of one kind, with errors and values that correspond. -/
inductive ResultsAlike {ε α : Type} (Errors : ε → ε → Prop) (Values : α → α → Prop) :
    Except ε α → Except ε α → Prop
  | error {left right : ε} (herrors : Errors left right) :
      ResultsAlike Errors Values (.error left) (.error right)
  | ok {left right : α} (hvalues : Values left right) :
      ResultsAlike Errors Values (.ok left) (.ok right)

theorem ResultsAlike.map {ε α β : Type} {Errors : ε → ε → Prop} {Values : α → α → Prop}
    {Images : β → β → Prop} {f g : α → β} {left right : Except ε α}
    (h : ResultsAlike Errors Values left right)
    (himages : ∀ a b, Values a b → Images (f a) (g b)) :
    ResultsAlike Errors Images (left.map f) (right.map g) := by
  cases h with
  | error herrors => exact .error herrors
  | ok hvalues => exact .ok (himages _ _ hvalues)

theorem isSome_eq_of_rel {α : Type} {R : α → α → Prop} {left right : Option α}
    (h : Option.Rel R left right) : left.isSome = right.isSome := by
  cases h <;> rfl

theorem rel_of_isSome_eq {α : Type} {left right : Option α} (h : left.isSome = right.isSome) :
    Option.Rel (fun _ _ => True) left right := by
  cases left <;> cases right
  · exact .none
  · cases h
  · cases h
  · exact .some trivial

/-- Whether two entries have one identifier and corresponding values. -/
def EntriesAlike {α : Type} (R : α → α → Prop) (left right : CallId × α) : Prop :=
  left.1 = right.1 ∧ R left.2 right.2

section Entries

variable {α : Type} {R : α → α → Prop}

theorem rel_find? {p q : α → Bool} {left right : List α} (h : List.Forall₂ R left right)
    (hsame : ∀ a b, R a b → p a = q b) : Option.Rel R (left.find? p) (right.find? q) := by
  induction h with
  | nil => exact .none
  | @cons a b _ _ hab _ ih =>
    rw [List.find?_cons, List.find?_cons, hsame a b hab]
    split
    · exact .some hab
    · exact ih

theorem rel_map {β : Type} {S : β → β → Prop} {f g : α → β} {left right : Option α}
    (h : Option.Rel R left right) (himages : ∀ a b, R a b → S (f a) (g b)) :
    Option.Rel S (left.map f) (right.map g) := by
  cases h with
  | none => exact .none
  | some hab => exact .some (himages _ _ hab)

theorem rel_bind {β : Type} {S : β → β → Prop} {f g : α → Option β} {left right : Option α}
    (h : Option.Rel R left right) (himages : ∀ a b, R a b → Option.Rel S (f a) (g b)) :
    Option.Rel S (left.bind f) (right.bind g) := by
  cases h with
  | none => exact .none
  | some hab => exact himages _ _ hab

theorem map_eq_of_rel {β : Type} {f : α → β} {left right : Option α} (h : Option.Rel R left right)
    (himages : ∀ a b, R a b → f a = f b) : left.map f = right.map f := by
  cases h with
  | none => rfl
  | some hab => exact congrArg some (himages _ _ hab)

theorem rel_filter {p q : α → Bool} {left right : Option α} (h : Option.Rel R left right)
    (hsame : ∀ a b, R a b → p a = q b) : Option.Rel R (left.filter p) (right.filter q) := by
  cases h with
  | none => exact .none
  | some hab =>
    rw [Option.filter_some, Option.filter_some, hsame _ _ hab]
    split
    · exact .some hab
    · exact .none

variable {left right : List (CallId × α)}

theorem rel_value (h : List.Forall₂ (EntriesAlike R) left right) (id : CallId) :
    Option.Rel R ((left.find? fun entry => entry.1 = id).map Prod.snd)
      ((right.find? fun entry => entry.1 = id).map Prod.snd) :=
  rel_map (rel_find? h fun a b hab => by rw [hab.1]) fun _ _ hab => hab.2

theorem rel_erase (h : List.Forall₂ (EntriesAlike R) left right) (id : CallId) :
    List.Forall₂ (EntriesAlike R) (left.filter fun entry => entry.1 ≠ id)
      (right.filter fun entry => entry.1 ≠ id) := by
  induction h with
  | nil => exact .nil
  | cons hab _ ih =>
    rw [List.filter_cons, List.filter_cons, hab.1]
    split
    · exact .cons hab ih
    · exact ih

theorem rel_replace (h : List.Forall₂ (EntriesAlike R) left right) (id : CallId) {value other : α}
    (hvalues : R value other) :
    List.Forall₂ (EntriesAlike R)
      (left.map fun entry => if entry.1 = id then (id, value) else entry)
      (right.map fun entry => if entry.1 = id then (id, other) else entry) := by
  induction h with
  | nil => exact .nil
  | cons hab _ ih =>
    rw [List.map_cons, List.map_cons, hab.1]
    split
    · exact .cons ⟨rfl, hvalues⟩ ih
    · exact .cons hab ih

end Entries

/-- Whether two texts are both no hexadecimal digits, or digits for equally many bytes. -/
def DigitsAlike (left right : String) : Prop :=
  ResultsAlike (fun _ _ => True) (fun bytes others => bytes.length = others.length)
    (Hex.decode left) (Hex.decode right)

/-- Whether two records differ in tokens, keys and assertions only, each of which both of them have
or neither. -/
structure CredentialRecord.Alike (left right : CredentialRecord) : Prop where
  email : left.email = right.email
  uid : left.uid = right.uid
  isVerified : left.isVerified = right.isVerified
  sessionToken : left.sessionToken.isSome = right.sessionToken.isSome
  keyFetchToken : left.keyFetchToken.isSome = right.keyFetchToken.isSome
  unwrapBKey : Option.Rel DigitsAlike left.unwrapBKey right.unwrapBKey
  kA : left.kA.isSome = right.kA.isSome
  kB : left.kB.isSome = right.kB.isSome
  assertion : left.assertion.isSome = right.assertion.isSome

/-- Whether two stores tell alike records, or fail for the same reason. -/
def Storage.Alike {σ : Type} [CredentialStore σ] (left right : σ) : Prop :=
  ResultsAlike Eq (Option.Rel CredentialRecord.Alike) (CredentialStore.get left)
    (CredentialStore.get right)

/-- Whether two answers of the service hold keys of the same lengths, or are the same error. -/
def KeyBundle.Alike (left right : KeyBundle) : Prop :=
  left.kA.length = right.kA.length ∧ left.wrapKB.length = right.wrapKB.length

/-! ### What is shown -/

/-- What may be told of an error: everything, but of an unreadable unwrapping key only that it is
one. -/
def AccountError.shown : AccountError → AccountError
  | .invalidKey (.badUnwrapKey _) => .invalidKey (.badUnwrapKey .oddLength)
  | error => error

/-- What is shown of an answer: a record is described, an assertion is not. -/
def Answer.shown : Answer → Option String
  | .record held => some held.description
  | .assertion _ => none

inductive Shown
  | log (record : Log.Record)
  | event (event : Event)
  | returned (id : CallId) (result : Except AccountError (Option String))

def Effect.shown? : Effect → Option Shown
  | .log line => some (.log line)
  | .event sent => some (.event sent)
  | .call _ => none
  | .returned id result =>
    some (.returned id ((result.mapError AccountError.shown).map Answer.shown))

/-- What is shown of some effects, in their order. -/
def shownOf (effects : List Effect) : List Shown := effects.filterMap Effect.shown?

@[simp] theorem shownOf_append (left right : List Effect) :
    shownOf (left ++ right) = shownOf left ++ shownOf right := List.filterMap_append

def AccountError.Alike (left right : AccountError) : Prop := left.shown = right.shown

/-- Whether two answers are of one kind, with alike records. -/
inductive Answer.Alike : Answer → Answer → Prop
  | record {left right : CredentialRecord} (hrecords : left.Alike right) :
      Answer.Alike (.record left) (.record right)
  | assertion (left right : String) : Answer.Alike (.assertion left) (.assertion right)

/-- Whether two steps give alike results, leave alike states and show the same. -/
structure Step.Alike {σ α : Type} (Results : α → α → Prop) (States : σ → σ → Prop)
    (left right : Step σ α) : Prop where
  result : Results left.result right.result
  state : States left.state right.state
  shown : shownOf left.effects = shownOf right.effects

namespace CredentialRecord

variable {left right : CredentialRecord}

theorem redacted_congr {left right : Option String} (h : left.isSome = right.isSome) :
    redacted left = redacted right := by
  cases left <;> cases right <;> first | rfl | cases h

theorem Alike.description (h : left.Alike right) : left.description = right.description := by
  unfold CredentialRecord.description
  rw [h.email, h.uid, h.isVerified, redacted_congr h.sessionToken, redacted_congr h.keyFetchToken,
    redacted_congr (isSome_eq_of_rel h.unwrapBKey), redacted_congr h.kA, redacted_congr h.kB]

theorem Alike.hasKeys (h : left.Alike right) : left.hasKeys = right.hasKeys := by
  unfold CredentialRecord.hasKeys
  rw [h.kA, h.kB]

theorem Alike.verified (h : left.Alike right) :
    Alike { left with isVerified := true } { right with isVerified := true } :=
  { h with isVerified := rfl }

end CredentialRecord

theorem Answer.Alike.shown {left right : Answer} (h : left.Alike right) :
    left.shown = right.shown := by
  cases h with
  | record hrecords => exact congrArg some hrecords.description
  | assertion => rfl

theorem shownOf_returned {left right : Except AccountError Answer} (id : CallId)
    (h : ResultsAlike AccountError.Alike Answer.Alike left right) :
    shownOf [.returned id left] = shownOf [.returned id right] := by
  cases h with
  | error herrors =>
    exact congrArg (fun error => [Shown.returned id (.error error)]) herrors
  | ok hvalues =>
    exact congrArg (fun shown => [Shown.returned id (.ok shown)]) hvalues.shown

theorem deriveKB_alike {wrapped otherWrapped : Bytes} {unwrapBKey otherKey : String}
    (hwrapped : wrapped.length = otherWrapped.length) (hkeys : DigitsAlike unwrapBKey otherKey) :
    ResultsAlike (fun left right => AccountError.Alike (.invalidKey left) (.invalidKey right))
      (fun _ _ => True) (KeyDerivation.deriveKB wrapped unwrapBKey)
      (KeyDerivation.deriveKB otherWrapped otherKey) := by
  unfold DigitsAlike at hkeys
  unfold KeyDerivation.deriveKB
  generalize Hex.decode unwrapBKey = decoded at hkeys
  generalize Hex.decode otherKey = other at hkeys
  cases hkeys with
  | error => exact .error rfl
  | @ok bytes others hlength =>
    unfold KeyDerivation.xor
    dsimp only
    rw [hwrapped, hlength]
    split
    · exact .ok trivial
    · exact .error rfl

end AccountManager
