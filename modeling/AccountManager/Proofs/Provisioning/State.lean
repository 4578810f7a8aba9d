import AccountManager.Proofs.Provisioning

/-!
# The state that is reported

What is at hand is reported by comparing the ends of the key and of its certificate with the clock,
so the report changes with the clock, with the key and with the certificate alone. The certificate
and the request at hand always belong to the key at hand.
-/

namespace AccountManager

/-- What ends after some time that is still to come lasts, even if time is about to end. -/
theorem lt_saturatingAdd_of_lt {left right bound : UInt64} (hlt : left < bound)
    (hpositive : 0 < right) : left < saturatingAdd left right := by
  by_cases hroom : left.toNat + right.toNat < UInt64.size
  · exact lt_saturatingAdd hroom hpositive
  · have hlast : (UInt64.ofNat (UInt64.size - 1)).toNat = UInt64.size - 1 := rfl
    have hlt : left.toNat < bound.toNat := hlt
    have hbound := bound.toNat_lt
    rw [saturatingAdd, if_neg hroom, UInt64.lt_iff_toNat_lt, hlast]
    change left.toNat < 2 ^ 64 - 1
    omega

namespace Provisioner

variable {provisioner other : Provisioner} {now later : UInt64} {key : EphemeralKey}
  {certificate : Certificate} {setting : Setting}

/-! ### Reports -/

theorem validKey?_eq_some_iff :
    provisioner.validKey? now = some key ↔ provisioner.key = some key ∧ now < key.validUntil := by
  rw [validKey?, Option.filter_eq_some_iff, decide_eq_true_eq]

theorem validCertificate?_eq_some_iff {keyId : Nat} :
    provisioner.validCertificate? keyId now = some certificate ↔
      provisioner.certificate = some certificate ∧ certificate.keyId = keyId ∧
        now < certificate.validUntil := by
  rw [validCertificate?, Option.filter_eq_some_iff, Bool.and_eq_true, decide_eq_true_eq,
    decide_eq_true_eq]

theorem state_of_no_key (hnone : provisioner.validKey? now = none) :
    provisioner.state now = .absent := by
  rw [state, hnone]

theorem state_of_key (hkey : provisioner.validKey? now = some key)
    (hnone : provisioner.validCertificate? key.id now = none) :
    provisioner.state now = .keyOnly := by
  rw [state, hkey]
  simp [hnone]

theorem state_of_certificate (hkey : provisioner.validKey? now = some key)
    (hcertificate : provisioner.validCertificate? key.id now = some certificate) :
    provisioner.state now = .provisioned := by
  rw [state, hkey]
  simp [hcertificate]

/-- What the report tells of the key and its certificate. -/
inductive Reports (provisioner : Provisioner) (now : UInt64) : ProvisioningState → Prop
  | absent (hnone : provisioner.validKey? now = none) : Reports provisioner now .absent
  | keyOnly {key : EphemeralKey} (hkey : provisioner.validKey? now = some key)
      (hnone : provisioner.validCertificate? key.id now = none) : Reports provisioner now .keyOnly
  | provisioned {key : EphemeralKey} {certificate : Certificate}
      (hkey : provisioner.validKey? now = some key)
      (hcertificate : provisioner.validCertificate? key.id now = some certificate) :
      Reports provisioner now .provisioned

theorem reports_state (provisioner : Provisioner) (now : UInt64) :
    provisioner.Reports now (provisioner.state now) := by
  cases hkey : provisioner.validKey? now with
  | none =>
    rw [state_of_no_key hkey]
    exact .absent hkey
  | some key =>
    cases hcertificate : provisioner.validCertificate? key.id now with
    | none =>
      rw [state_of_key hkey hcertificate]
      exact .keyOnly hkey hcertificate
    | some certificate =>
      rw [state_of_certificate hkey hcertificate]
      exact .provisioned hkey hcertificate

theorem state_congr (hkey : other.key = provisioner.key)
    (hcertificate : other.certificate = provisioner.certificate) :
    other.state now = provisioner.state now := by
  unfold state validKey? validCertificate?
  rw [hkey, hcertificate]

theorem state_of_no_certificate (hnone : provisioner.certificate = none) :
    provisioner.state now = .absent ∨ provisioner.state now = .keyOnly := by
  have hreports := provisioner.reports_state now
  generalize provisioner.state now = state at hreports
  cases hreports with
  | absent => exact .inl rfl
  | keyOnly => exact .inr rfl
  | provisioned hkey hcertificate =>
    cases hnone.symm.trans (validCertificate?_eq_some_iff.1 hcertificate).1

theorem GetsKey.eq_of_valid {fresh : Step Provisioner EphemeralKey}
    (h : GetsKey provisioner setting fresh) (hkey : provisioner.validKey? setting.now = some key) :
    fresh = ⟨key, provisioner, []⟩ := by
  cases h with
  | kept hheld =>
    obtain rfl := Option.some.inj (hheld.symm.trans (validKey?_eq_some_iff.1 hkey).1)
    rfl
  | made hexpired => cases hexpired.symm.trans hkey

theorem GetsKey.eq_of_expired {fresh : Step Provisioner EphemeralKey}
    (h : GetsKey provisioner setting fresh) (hnone : provisioner.validKey? setting.now = none) :
    ∃ effects, OnlyLogs effects ∧
      fresh = ⟨provisioner.newKey setting, provisioner.renewed setting, effects⟩ := by
  cases h with
  | kept hheld hvalid => cases hnone.symm.trans (validKey?_eq_some_iff.2 ⟨hheld, hvalid⟩)
  | made hexpired hlogs => exact ⟨_, hlogs, rfl⟩

/-- A certificate for the key at hand is reported as soon as it is there, while the key may be
used. -/
theorem state_of_installed (hkey : other.key = provisioner.key)
    (hcertificate : other.certificate = some certificate)
    (hown : provisioner.key.map EphemeralKey.id = some certificate.keyId)
    (hlasts : ∀ key, provisioner.validKey? now = some key → now < certificate.validUntil) :
    provisioner.state now = .absent ∧ other.state now = .absent ∨
      provisioner.state now ≠ .absent ∧ other.state now = .provisioned := by
  have hsame : other.validKey? now = provisioner.validKey? now := by
    rw [validKey?, validKey?, hkey]
  cases hvalid : provisioner.validKey? now with
  | none => exact .inl ⟨state_of_no_key hvalid, state_of_no_key (hsame.trans hvalid)⟩
  | some key =>
    have hheld := (validKey?_eq_some_iff.1 hvalid).1
    rw [hheld, Option.map_some, Option.some.injEq] at hown
    have hfound : other.validCertificate? key.id now = some certificate :=
      validCertificate?_eq_some_iff.2 ⟨hcertificate, hown.symm, hlasts key hvalid⟩
    refine .inr ⟨fun habsent => ?_, state_of_certificate (hsame.trans hvalid) hfound⟩
    have hreports := provisioner.reports_state now
    rw [habsent] at hreports
    cases hreports with
    | absent hnone => cases hnone.symm.trans hvalid

/-! ### Time -/

inductive Ages (provisioner : Provisioner) (now later : UInt64) :
    ProvisioningState → ProvisioningState → Prop
  | stays (state : ProvisioningState) : Ages provisioner now later state state
  | keyEnds {key : EphemeralKey} (state : ProvisioningState) (hkey : provisioner.key = some key)
      (hvalid : now < key.validUntil) (hends : key.validUntil ≤ later) :
      Ages provisioner now later state .absent
  | certificateEnds {certificate : Certificate}
      (hcertificate : provisioner.certificate = some certificate)
      (hvalid : now < certificate.validUntil) (hends : certificate.validUntil ≤ later) :
      Ages provisioner now later .provisioned .keyOnly

theorem validCertificate?_of_later {keyId : Nat} (hle : now ≤ later)
    (hlater : provisioner.validCertificate? keyId later = some certificate) :
    provisioner.validCertificate? keyId now = some certificate := by
  obtain ⟨hcertificate, hkey, hvalid⟩ := validCertificate?_eq_some_iff.1 hlater
  exact validCertificate?_eq_some_iff.2 ⟨hcertificate, hkey, UInt64.lt_of_le_of_lt hle hvalid⟩

theorem state_ages (provisioner : Provisioner) (hle : now ≤ later) :
    provisioner.Ages now later (provisioner.state now) (provisioner.state later) := by
  cases hlater : provisioner.validKey? later with
  | none =>
    rw [state_of_no_key hlater]
    cases hnow : provisioner.validKey? now with
    | none =>
      rw [state_of_no_key hnow]
      exact .stays _
    | some key =>
      obtain ⟨hkey, hvalid⟩ := validKey?_eq_some_iff.1 hnow
      refine .keyEnds _ hkey hvalid (UInt64.not_lt.1 fun hlasts => ?_)
      cases hlater.symm.trans (validKey?_eq_some_iff.2 ⟨hkey, hlasts⟩)
  | some key =>
    obtain ⟨hkey, hvalid⟩ := validKey?_eq_some_iff.1 hlater
    have hnow : provisioner.validKey? now = some key :=
      validKey?_eq_some_iff.2 ⟨hkey, UInt64.lt_of_le_of_lt hle hvalid⟩
    cases hlasts : provisioner.validCertificate? key.id later with
    | some certificate =>
      rw [state_of_certificate hlater hlasts,
        state_of_certificate hnow (validCertificate?_of_later hle hlasts)]
      exact .stays _
    | none =>
      rw [state_of_key hlater hlasts]
      cases hheld : provisioner.validCertificate? key.id now with
      | none =>
        rw [state_of_key hnow hheld]
        exact .stays _
      | some certificate =>
        rw [state_of_certificate hnow hheld]
        obtain ⟨hcertificate, hown, hvalid⟩ := validCertificate?_eq_some_iff.1 hheld
        refine .certificateEnds hcertificate hvalid (UInt64.not_lt.1 fun hlonger => ?_)
        cases hlasts.symm.trans
          (validCertificate?_eq_some_iff.2 ⟨hcertificate, hown, hlonger⟩)

/-! ### What belongs to the key -/

/-- Whether the certificate and the request at hand are for the key at hand. -/
structure Matched (provisioner : Provisioner) : Prop where
  certificate : ∀ certificate, provisioner.certificate = some certificate →
    provisioner.key.map EphemeralKey.id = some certificate.keyId
  inFlight : ∀ request, provisioner.inFlight = some request →
    provisioner.key.map EphemeralKey.id = some request.keyId

theorem matched_of_none (hcertificate : provisioner.certificate = none)
    (hinFlight : provisioner.inFlight = none) : provisioner.Matched where
  certificate certificate hheld := by
    rw [hcertificate] at hheld
    cases hheld
  inFlight request hheld := by
    rw [hinFlight] at hheld
    cases hheld

/-- A key for which no request is at hand leaves none at hand. -/
theorem Matched.inFlight_eq_none (h : provisioner.Matched) (hkey : provisioner.key = some key)
    (hidle : (provisioner.inFlight.filter fun request => request.keyId = key.id) = none) :
    provisioner.inFlight = none := by
  cases hrequest : provisioner.inFlight with
  | none => rfl
  | some request =>
    have hown := h.inFlight request hrequest
    rw [hkey] at hown
    simp [hrequest, Option.some.inj hown] at hidle

theorem GetsKey.matched {fresh : Step Provisioner EphemeralKey}
    (h : GetsKey provisioner setting fresh) (hmatched : provisioner.Matched) :
    fresh.state.Matched := by
  cases h with
  | kept => exact hmatched
  | made => exact matched_of_none rfl rfl

theorem Matched.requesting (h : provisioner.Matched) (hkey : provisioner.key = some key) :
    (provisioner.requesting key.id).Matched where
  certificate := h.certificate
  inFlight request hrequest := by
    obtain rfl := Option.some.inj hrequest
    exact congrArg (Option.map EphemeralKey.id) hkey

theorem Matched.withoutRequest (h : provisioner.Matched) (requestId : Nat) :
    (provisioner.withoutRequest requestId).Matched where
  certificate certificate hcertificate := by
    rw [certificate_withoutRequest] at hcertificate
    rw [key_withoutRequest]
    exact h.certificate certificate hcertificate
  inFlight request hrequest := by
    rw [key_withoutRequest]
    exact h.inFlight request (inFlight_of_withoutRequest hrequest)

theorem Finishes.matched {requestId : Nat} {answer : Except RemoteError String}
    {finished : Step Provisioner (Except AccountError String)}
    (h : Finishes provisioner setting key requestId answer finished)
    (hmatched : provisioner.Matched) : finished.state.Matched := by
  have hrest := hmatched.withoutRequest requestId
  cases h with
  | refused | kept => exact hrest
  | installed hnew hcurrent =>
    refine ⟨fun certificate hcertificate => ?_, hrest.inFlight⟩
    obtain rfl := Option.some.inj hcertificate
    exact (congrArg (Option.map EphemeralKey.id) (key_withoutRequest _ _)).trans hcurrent

end Provisioner

end AccountManager
