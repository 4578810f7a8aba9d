import AccountManager.Proofs.Session.Operations
import AccountManager.Provisioner

/-!
# What the operations of the provisioner do

Getting a key keeps the one at hand or makes a new one; a certificate is then at hand, asked for by
somebody else, or asked for now; and the answer to a request frees the slot of that request and may
install a certificate for the key at hand. Each operation has a relation that names these outcomes,
for a provisioner that belongs to the epoch it works for; for any other epoch an answer changes
nothing.
-/

namespace AccountManager

theorem lt_saturatingAdd {left right : UInt64}
    (hroom : left.toNat + right.toNat < UInt64.size) (hpositive : 0 < right) :
    left < saturatingAdd left right := by
  rw [saturatingAdd, if_pos hroom, UInt64.lt_iff_toNat_lt, UInt64.toNat_add,
    Nat.mod_eq_of_lt hroom]
  have hright : 0 < right.toNat := hpositive
  omega

theorem saturatingAdd_mono {left other : UInt64} (hle : left ≤ other) (right : UInt64) :
    saturatingAdd left right ≤ saturatingAdd other right := by
  have hle : left.toNat ≤ other.toNat := hle
  have hlast : (UInt64.ofNat (UInt64.size - 1)).toNat = UInt64.size - 1 := rfl
  have hbound (sum : UInt64) : sum.toNat < UInt64.size := sum.toNat_lt
  rw [UInt64.le_iff_toNat_le]
  unfold saturatingAdd
  by_cases hother : other.toNat + right.toNat < UInt64.size
  · have hleft : left.toNat + right.toNat < UInt64.size := by omega
    rw [if_pos hother, if_pos hleft, UInt64.toNat_add, UInt64.toNat_add, Nat.mod_eq_of_lt hleft,
      Nat.mod_eq_of_lt hother]
    omega
  · rw [if_neg hother, hlast]
    exact Nat.le_sub_one_of_lt (hbound _)

namespace Provisioner

/-! ### Keys -/

/-- The key that is made if none is at hand. -/
def newKey (provisioner : Provisioner) (setting : Setting) : EphemeralKey :=
  ⟨provisioner.lastId + 1, ⟨setting.seeds (provisioner.generated + 1)⟩,
    saturatingAdd setting.now setting.config.keyLifetime⟩

def renewed (provisioner : Provisioner) (setting : Setting) : Provisioner :=
  { provisioner with
    key := some (provisioner.newKey setting)
    certificate := none
    inFlight := none
    lastId := provisioner.lastId + 1
    generated := provisioner.generated + 1 }

inductive GetsKey (provisioner : Provisioner) (setting : Setting) :
    Step Provisioner EphemeralKey → Prop
  | kept {key : EphemeralKey} (hkey : provisioner.key = some key)
      (hvalid : setting.now < key.validUntil) : GetsKey provisioner setting ⟨key, provisioner, []⟩
  | made {effects : List Effect} (hexpired : provisioner.validKey? setting.now = none)
      (hlogs : OnlyLogs effects) :
      GetsKey provisioner setting
        ⟨provisioner.newKey setting, provisioner.renewed setting, effects⟩

theorem freshKey_getsKey (provisioner : Provisioner) (setting : Setting) :
    GetsKey provisioner setting (provisioner.freshKey setting) := by
  unfold freshKey
  split
  · rename_i key hvalid
    obtain ⟨hkey, hvalid⟩ := Option.filter_eq_some_iff.1 hvalid
    exact .kept hkey (by simpa using hvalid)
  · rename_i hexpired
    exact .made hexpired (onlyLogs_log _)

theorem GetsKey.key {provisioner : Provisioner} {setting : Setting}
    {fresh : Step Provisioner EphemeralKey} (h : GetsKey provisioner setting fresh) :
    fresh.state.key = some fresh.result := by
  cases h with
  | kept hkey hvalid => exact hkey
  | made hexpired hlogs => rfl

theorem GetsKey.kept_of_valid {provisioner : Provisioner} {setting : Setting}
    {fresh : Step Provisioner EphemeralKey} (h : GetsKey provisioner setting fresh)
    {key : EphemeralKey} (hkey : provisioner.key = some key)
    (hvalid : setting.now < key.validUntil) : fresh.state.key = some key := by
  cases h with
  | kept => exact hkey
  | made hexpired hlogs =>
    rw [validKey?, hkey, Option.filter_some, if_pos (decide_eq_true hvalid)] at hexpired
    cases hexpired

theorem GetsKey.valid {provisioner : Provisioner} {setting : Setting}
    {fresh : Step Provisioner EphemeralKey} (h : GetsKey provisioner setting fresh)
    (hroom : setting.now.toNat + setting.config.keyLifetime.toNat < UInt64.size)
    (hpositive : 0 < setting.config.keyLifetime) : setting.now < fresh.result.validUntil := by
  cases h with
  | kept hkey hvalid => exact hvalid
  | made hexpired hlogs => exact lt_saturatingAdd hroom hpositive

theorem GetsKey.onlyLogs {provisioner : Provisioner} {setting : Setting}
    {fresh : Step Provisioner EphemeralKey} (h : GetsKey provisioner setting fresh) :
    OnlyLogs fresh.effects := by
  cases h with
  | kept hkey hvalid => exact onlyLogs_nil
  | made hexpired hlogs => exact hlogs

theorem GetsKey.generation {provisioner : Provisioner} {setting : Setting}
    {fresh : Step Provisioner EphemeralKey} (h : GetsKey provisioner setting fresh) :
    fresh.state.generation = provisioner.generation := by
  cases h <;> rfl

theorem GetsKey.lastId_le {provisioner : Provisioner} {setting : Setting}
    {fresh : Step Provisioner EphemeralKey} (h : GetsKey provisioner setting fresh) :
    provisioner.lastId ≤ fresh.state.lastId := by
  cases h with
  | kept hkey hvalid => exact Nat.le_refl _
  | made hexpired hlogs => exact Nat.le_succ _

theorem GetsKey.inFlight {provisioner : Provisioner} {setting : Setting}
    {fresh : Step Provisioner EphemeralKey} (h : GetsKey provisioner setting fresh)
    {request : InFlight} (hrequest : fresh.state.inFlight = some request) :
    provisioner.inFlight = some request := by
  cases h with
  | kept hkey hvalid => exact hrequest
  | made hexpired hlogs => cases hrequest

theorem GetsKey.certificate {provisioner : Provisioner} {setting : Setting}
    {fresh : Step Provisioner EphemeralKey} (h : GetsKey provisioner setting fresh)
    {certificate : Certificate} (hcertificate : fresh.state.certificate = some certificate) :
    provisioner.certificate = some certificate := by
  cases h with
  | kept hkey hvalid => exact hcertificate
  | made hexpired hlogs => cases hcertificate

/-- The key that was got was at hand, or it has a new number. -/
theorem GetsKey.kept_or_new {provisioner : Provisioner} {setting : Setting}
    {fresh : Step Provisioner EphemeralKey} (h : GetsKey provisioner setting fresh) :
    provisioner.key = some fresh.result ∧ fresh.state = provisioner ∨
      provisioner.lastId < fresh.result.id ∧ fresh.result.id ≤ fresh.state.lastId := by
  cases h with
  | kept hkey hvalid => exact .inl ⟨hkey, rfl⟩
  | made hexpired hlogs => exact .inr ⟨Nat.lt_succ_self _, Nat.le_refl _⟩

theorem GetsKey.eq_of_numbered {provisioner : Provisioner} {setting : Setting}
    {fresh : Step Provisioner EphemeralKey} (h : GetsKey provisioner setting fresh)
    {key : EphemeralKey} (hkey : fresh.state.key = some key)
    (hnumbered : key.id ≤ provisioner.lastId) : fresh.state = provisioner ∧ fresh.result = key := by
  obtain rfl : fresh.result = key := Option.some.inj (h.key.symm.trans hkey)
  rcases h.kept_or_new with ⟨-, hstate⟩ | ⟨hnew, -⟩
  · exact ⟨hstate, rfl⟩
  · exact absurd hnumbered (Nat.not_le.2 hnew)

/-! ### Certificates -/

/-- The provisioner after a request for a certificate was started. -/
def requesting (provisioner : Provisioner) (keyId : Nat) : Provisioner :=
  { provisioner with
    lastId := provisioner.lastId + 1
    inFlight := some ⟨keyId, provisioner.lastId + 1⟩ }

/-- The ways to get a certificate for the key that was got. -/
inductive GetsCertificate (setting : Setting) (sessionToken : String)
    (fresh : Step Provisioner EphemeralKey) :
    Step Provisioner (Except AccountError (EphemeralKey × CertificatePlan)) → Prop
  | ready {certificate : Certificate} (hcertificate : fresh.state.certificate = some certificate)
      (hkey : certificate.keyId = fresh.result.id)
      (hvalid : setting.now < certificate.validUntil) :
      GetsCertificate setting sessionToken fresh
        ⟨.ok (fresh.result, .ready certificate.text), fresh.state, fresh.effects⟩
  | joined {request : InFlight} {effects : List Effect}
      (hnone : fresh.state.validCertificate? fresh.result.id setting.now = none)
      (hrequest : fresh.state.inFlight = some request) (hkey : request.keyId = fresh.result.id)
      (hlogs : OnlyLogs effects) :
      GetsCertificate setting sessionToken fresh
        ⟨.ok (fresh.result, .joined request.requestId), fresh.state, fresh.effects ++ effects⟩
  | requested {log : Log.Record}
      (hnone : fresh.state.validCertificate? fresh.result.id setting.now = none)
      (hrequest : (fresh.state.inFlight.filter fun request =>
        request.keyId = fresh.result.id) = none) :
      GetsCertificate setting sessionToken fresh
        ⟨.ok (fresh.result, .requested (fresh.state.lastId + 1)),
          fresh.state.requesting fresh.result.id,
          fresh.effects ++ [.log log,
            .call (.signCertificate sessionToken fresh.result.pair.publicKey)]⟩

/-- A certificate is got for the epoch that the provisioner belongs to. -/
theorem certify_getsCertificate {provisioner : Provisioner} {generation : Nat}
    (hgeneration : provisioner.generation = generation) (setting : Setting)
    (sessionToken : String) :
    GetsCertificate setting sessionToken (provisioner.freshKey setting)
      (provisioner.certify setting generation generation sessionToken) := by
  have hadopt : provisioner.adopt generation = provisioner := by simp [adopt, hgeneration]
  unfold certify
  simp only [ne_eq, not_true_eq_false, if_false, hadopt]
  split
  · rename_i certificate hcertificate
    obtain ⟨hcertificate, hvalid⟩ := Option.filter_eq_some_iff.1 hcertificate
    simp only [Bool.and_eq_true, decide_eq_true_eq] at hvalid
    exact .ready hcertificate hvalid.1 hvalid.2
  · rename_i hnone
    split
    · rename_i request hrequest
      obtain ⟨hrequest, hkey⟩ := Option.filter_eq_some_iff.1 hrequest
      exact .joined hnone hrequest (by simpa using hkey) (onlyLogs_log _)
    · rename_i hrequest
      exact .requested hnone hrequest

/-! ### Answers -/

/-- The provisioner once a request is no longer outstanding. -/
def withoutRequest (provisioner : Provisioner) (requestId : Nat) : Provisioner :=
  if provisioner.inFlight.map InFlight.requestId = some requestId then
    { provisioner with inFlight := none }
  else provisioner

/-- What comes of the answer to a request for a certificate. -/
inductive Finishes (provisioner : Provisioner) (setting : Setting) (key : EphemeralKey)
    (requestId : Nat) :
    Except RemoteError String → Step Provisioner (Except AccountError String) → Prop
  | refused (error : RemoteError) :
      Finishes provisioner setting key requestId (.error error)
        ⟨.error (.remoteCall error), provisioner.withoutRequest requestId, []⟩
  | installed {text : String} {effects : List Effect}
      (hnew : provisioner.certificate.map Certificate.requestId ≠ some requestId)
      (hcurrent : provisioner.key.map EphemeralKey.id = some key.id) (hlogs : OnlyLogs effects) :
      Finishes provisioner setting key requestId (.ok text)
        ⟨.ok text,
          { provisioner.withoutRequest requestId with
            certificate := some ⟨text,
              saturatingAdd setting.now setting.config.certificateLifetime, key.id, requestId⟩ },
          effects⟩
  | kept {text : String}
      (hkept : provisioner.certificate.map Certificate.requestId = some requestId ∨
        provisioner.key.map EphemeralKey.id ≠ some key.id) :
      Finishes provisioner setting key requestId (.ok text)
        ⟨.ok text, provisioner.withoutRequest requestId, []⟩

@[simp] theorem generation_withoutRequest (provisioner : Provisioner) (requestId : Nat) :
    (provisioner.withoutRequest requestId).generation = provisioner.generation := by
  unfold withoutRequest
  split <;> rfl

@[simp] theorem key_withoutRequest (provisioner : Provisioner) (requestId : Nat) :
    (provisioner.withoutRequest requestId).key = provisioner.key := by
  unfold withoutRequest
  split <;> rfl

@[simp] theorem certificate_withoutRequest (provisioner : Provisioner) (requestId : Nat) :
    (provisioner.withoutRequest requestId).certificate = provisioner.certificate := by
  unfold withoutRequest
  split <;> rfl

@[simp] theorem lastId_withoutRequest (provisioner : Provisioner) (requestId : Nat) :
    (provisioner.withoutRequest requestId).lastId = provisioner.lastId := by
  unfold withoutRequest
  split <;> rfl

@[simp] theorem generated_withoutRequest (provisioner : Provisioner) (requestId : Nat) :
    (provisioner.withoutRequest requestId).generated = provisioner.generated := by
  unfold withoutRequest
  split <;> rfl

theorem inFlight_of_withoutRequest {provisioner : Provisioner} {requestId : Nat}
    {request : InFlight} (h : (provisioner.withoutRequest requestId).inFlight = some request) :
    provisioner.inFlight = some request := by
  unfold withoutRequest at h
  split at h
  · cases h
  · exact h

theorem inFlight_withoutRequest_of_ne {provisioner : Provisioner} {requestId : Nat}
    {request : InFlight} (hrequest : provisioner.inFlight = some request)
    (hother : request.requestId ≠ requestId) :
    (provisioner.withoutRequest requestId).inFlight = some request := by
  unfold withoutRequest
  rw [hrequest, Option.map_some, if_neg fun hsame => hother (Option.some.inj hsame)]
  exact hrequest

theorem requestId_ne_of_withoutRequest {provisioner : Provisioner} {requestId : Nat}
    {request : InFlight} (h : (provisioner.withoutRequest requestId).inFlight = some request) :
    request.requestId ≠ requestId := by
  unfold withoutRequest at h
  split at h
  · cases h
  · rename_i hother
    rintro rfl
    exact hother (by rw [h]; rfl)

/-- An answer changes nothing but the slot of its request and the certificate. -/
theorem finish_state (provisioner : Provisioner) (setting : Setting) (epoch generation : Nat)
    (key : EphemeralKey) (requestId : Nat) (answer : Except RemoteError String) :
    ∃ certificate, (provisioner.finish setting epoch generation key requestId answer).state =
      { provisioner.withoutRequest requestId with certificate } := by
  have hrest : (if provisioner.inFlight.map InFlight.requestId = some requestId then
      { provisioner with inFlight := none } else provisioner) =
        provisioner.withoutRequest requestId := rfl
  unfold finish
  simp only [hrest]
  split
  · exact ⟨_, rfl⟩
  · split
    · exact ⟨_, rfl⟩
    · split
      · exact ⟨_, rfl⟩
      · exact ⟨_, rfl⟩

theorem finish_finishes {provisioner : Provisioner} {generation : Nat}
    (hgeneration : provisioner.generation = generation) (setting : Setting) (key : EphemeralKey)
    (requestId : Nat) (answer : Except RemoteError String) :
    Finishes provisioner setting key requestId answer
      (provisioner.finish setting generation generation key requestId answer) := by
  subst hgeneration
  cases answer with
  | error error =>
    have hstep : provisioner.finish setting provisioner.generation provisioner.generation key
        requestId (.error error) =
          ⟨.error (.remoteCall error), provisioner.withoutRequest requestId, []⟩ := by
      unfold finish withoutRequest
      split <;> simp
    rw [hstep]
    exact .refused error
  | ok text =>
    by_cases hinstalls : provisioner.certificate.map Certificate.requestId ≠ some requestId ∧
        provisioner.key.map EphemeralKey.id = some key.id
    · have hstep : provisioner.finish setting provisioner.generation provisioner.generation key
          requestId (.ok text) =
            ⟨.ok text,
              { provisioner.withoutRequest requestId with
                certificate := some ⟨text,
                  saturatingAdd setting.now setting.config.certificateLifetime, key.id,
                  requestId⟩ },
              [debug ("certificate " ++ toString requestId ++ " valid until " ++
                toString (saturatingAdd setting.now
                  setting.config.certificateLifetime).toNat)]⟩ := by
        unfold finish withoutRequest
        split <;> simp only [ne_eq, not_true_eq_false, or_self, if_false] <;>
          exact if_pos hinstalls
      rw [hstep]
      exact .installed hinstalls.1 hinstalls.2 (onlyLogs_log _)
    · have hstep : provisioner.finish setting provisioner.generation provisioner.generation key
          requestId (.ok text) = ⟨.ok text, provisioner.withoutRequest requestId, []⟩ := by
        unfold finish withoutRequest
        split <;> simp only [ne_eq, not_true_eq_false, or_self, if_false] <;>
          exact if_neg hinstalls
      rw [hstep]
      apply Finishes.kept
      by_cases hnew : provisioner.certificate.map Certificate.requestId = some requestId
      · exact .inl hnew
      · exact .inr fun hcurrent => hinstalls ⟨hnew, hcurrent⟩

theorem Finishes.onlyLogs {provisioner : Provisioner} {setting : Setting} {key : EphemeralKey}
    {requestId : Nat} {answer : Except RemoteError String}
    {finished : Step Provisioner (Except AccountError String)}
    (h : Finishes provisioner setting key requestId answer finished) :
    OnlyLogs finished.effects := by
  cases h with
  | refused | kept => exact onlyLogs_nil
  | installed hnew hcurrent hlogs => exact hlogs

theorem Finishes.inFlight {provisioner : Provisioner} {setting : Setting} {key : EphemeralKey}
    {requestId : Nat} {answer : Except RemoteError String}
    {finished : Step Provisioner (Except AccountError String)}
    (h : Finishes provisioner setting key requestId answer finished) :
    finished.state.inFlight = (provisioner.withoutRequest requestId).inFlight := by
  cases h <;> rfl

/-- An answer of another epoch is discarded. -/
theorem finish_of_stale {provisioner : Provisioner} {epoch generation requestId : Nat}
    (hstale : epoch ≠ generation)
    (hother : provisioner.inFlight.map InFlight.requestId ≠ some requestId) (setting : Setting)
    (key : EphemeralKey) (answer : Except RemoteError String) :
    ∃ effects, OnlyLogs effects ∧
      provisioner.finish setting epoch generation key requestId answer =
        ⟨.error .notSignedIn, provisioner, effects⟩ := by
  unfold finish
  rw [if_neg hother]
  dsimp only
  rw [if_pos (.inr hstale)]
  exact ⟨_, onlyLogs_log _, rfl⟩

end Provisioner

end AccountManager
