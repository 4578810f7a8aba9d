import AccountManager.Proofs.Service.Endpoints
import AccountManager.Proofs.Text.Hex

/-!
# What comes of a call

A call sends one request as often as its failures may pass, four times at most, and the last outcome
decides. Every outcome is one of five kinds, and each kind has its own result: a document that could
be read, one that could not, a refusal with what the server said, trouble of the server, and no
reply at all.
-/

namespace AccountManager.Service

/-! ### Outcomes -/

/-- Whether a reply tells that the request was carried out. -/
def Reply.Succeeds (reply : Reply) : Prop := 200 ≤ reply.status ∧ reply.status ≤ 299

/-- Whether a reply tells of trouble that may pass. -/
def Reply.InTrouble (reply : Reply) : Prop :=
  reply.status = 429 ∨ 500 ≤ reply.status ∧ reply.status ≤ 599

namespace Outcome

/-- Whether another attempt may do better. -/
def MayPass : Outcome → Prop
  | answered reply => reply.InTrouble
  | timedOut => True
  | unreachable => True
  | broken => False

end Outcome

/-- What comes of the connections from now on. -/
def Wire.ahead (wire : Wire) (place : Nat) : Outcome := wire.outcome (wire.sent.length + place)

/-- Whether an outcome is the first one that no other attempt can better. -/
structure FirstFinal (outcomes : Nat → Outcome) (place : Nat) : Prop where
  final : ¬ (outcomes place).MayPass
  before : ∀ earlier < place, (outcomes earlier).MayPass

theorem FirstFinal.unique {outcomes : Nat → Outcome} {place other : Nat}
    (h : FirstFinal outcomes place) (hother : FirstFinal outcomes other) : place = other := by
  apply Nat.le_antisymm
  · apply Nat.le_of_not_lt
    intro hlt
    exact hother.final (h.before other hlt)
  · apply Nat.le_of_not_lt
    intro hlt
    exact h.final (hother.before place hlt)

/-- What comes with a reply as text; of a reply that is cut nothing is taken. -/
def Reply.text (reply : Reply) : String :=
  if reply.isCut then "" else Utf8.decodeForgiving reply.body

/-- The result of a call whose last outcome this is, by what a body has to hold. -/
inductive Settles {α : Type} (request : Request) (Holds : Bytes → α → Prop) :
    Outcome → Except RemoteError α → Prop
  | read {reply : Reply} {value : α} (hsuccess : reply.Succeeds) (hwhole : reply.isCut = false)
      (hbody : Holds reply.body value) : Settles request Holds (.answered reply) (.ok value)
  | unreadable {reply : Reply} (hsuccess : reply.Succeeds)
      (hbody : reply.isCut = true ∨ ∀ value, ¬ Holds reply.body value) (reason : String) :
      Settles request Holds (.answered reply) (.error (.invalidResponse reason))
  | refused {reply : Reply} (hsuccess : ¬ reply.Succeeds) (htrouble : ¬ reply.InTrouble) :
      Settles request Holds (.answered reply)
        (.error (.network request.url.write (some reply.status) reply.text))
  | troubled {reply : Reply} (htrouble : reply.InTrouble) :
      Settles request Holds (.answered reply)
        (.error (.network request.url.write (some reply.status)
          ("server answered " ++ toString reply.status)))
  | unanswered {outcome : Outcome} (houtcome : ∀ reply, outcome ≠ .answered reply) :
      Settles request Holds outcome
        (.error (.network request.url.write none
          ("error sending request for url (" ++ request.url.write ++ ")")))

/-! ### One attempt -/

section

variable {α β : Type} {request : Request} {outcome : Outcome}

theorem Settles.bind {Holds : Bytes → α → Prop} {Means : α → β → Prop}
    {decode : α → Except RemoteError β} {result : Except RemoteError α}
    (h : Settles request Holds outcome result)
    (hone : ∀ body value other, Holds body value → Holds body other → value = other)
    (hdecode : ∀ value meaning, decode value = .ok meaning ↔ Means value meaning)
    (hrefused : ∀ value error, decode value = .error error →
      ∃ reason, error = .invalidResponse reason) :
    Settles request (fun body meaning => ∃ value, Holds body value ∧ Means value meaning) outcome
      (result.bind decode) := by
  cases h with
  | @read reply value hsuccess hwhole hbody =>
    change Settles request _ _ (decode value)
    cases hresult : decode value with
    | ok meaning => exact .read hsuccess hwhole ⟨value, hbody, (hdecode value meaning).1 hresult⟩
    | error error =>
      obtain ⟨reason, rfl⟩ := hrefused value error hresult
      refine .unreadable hsuccess (.inr ?_) reason
      rintro meaning ⟨other, hother, hmeans⟩
      obtain rfl := hone _ _ _ hbody hother
      rw [(hdecode _ _).2 hmeans] at hresult
      cases hresult
  | unreadable hsuccess hbody reason =>
    refine .unreadable hsuccess (hbody.imp_right ?_) reason
    rintro hbody meaning ⟨value, hvalue, -⟩
    exact hbody value hvalue
  | refused hsuccess htrouble => exact .refused hsuccess htrouble
  | troubled htrouble => exact .troubled htrouble
  | unanswered houtcome => exact .unanswered houtcome

end

theorem decodeKey_eq_ok_iff {name digits : String} {bytes : Bytes} :
    decodeKey name digits = .ok bytes ↔ Hex.Spells digits bytes := by
  rw [decodeKey, mapError_eq_ok_iff, Hex.decode_eq_ok_iff]

/-- Both keys have to be the digits of some bytes, and they are those bytes. -/
theorem KeysReply.decode_eq_ok_iff (reply : KeysReply) (bundle : KeyBundle) :
    reply.decode = .ok bundle ↔
      Hex.Spells reply.kA bundle.kA ∧ Hex.Spells reply.wrapKB bundle.wrapKB := by
  constructor
  · intro hdecode
    obtain ⟨kA, hkA, hdecode⟩ := of_bind_eq_ok hdecode
    obtain ⟨wrapKB, hwrapKB, hdecode⟩ := of_bind_eq_ok hdecode
    cases hdecode
    exact ⟨decodeKey_eq_ok_iff.1 hkA, decodeKey_eq_ok_iff.1 hwrapKB⟩
  · rintro ⟨hkA, hwrapKB⟩
    rw [decode, decodeKey_eq_ok_iff.2 hkA, decodeKey_eq_ok_iff.2 hwrapKB]
    rfl

namespace Client

variable {client : Client} {wire : Wire} {name token : String} {target : Url}

deriving instance DecidableEq for KeysReply

end Client

end AccountManager.Service
