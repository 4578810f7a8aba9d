import AccountManager.Proofs.Accounts.Sharing

/-!
# Renewal of certificates

A call installs the certificate of its request unless that very certificate is at hand. This keeps
the certificates of a key in the order of their requests as long as no call still waits for an older
request when a newer one is made. A call that is slower than that brings its old certificate back.
-/

namespace AccountManager.Accounts

open Storage

variable {σ : Type} [CredentialStore σ]

/-- Whether no call still waits with the key for which a move starts a request. -/
def Prompt (made : Made (Activity σ) (Move σ) Session.Reply) : Prop :=
  ∀ key requestId, Starts made key requestId →
    ∀ id wait, made.before.wait? id = some wait → wait.key.id ≠ key.id

namespace Activity

variable {activity start finish : Activity σ} {move : Move σ} {past later history : History σ}
  {step : Step (Activity σ) Session.Reply} {certificate : Certificate} {request : InFlight}
  {id other : CallId} {wait otherWait : CertificateWait}
  {earlier made : Made (Activity σ) (Move σ) Session.Reply}

/-- The calls that wait with a key wait for one request, which is the one at hand for this key if
there is any, and the certificate at hand for this key is no newer. -/
structure Ordered (activity : Activity σ) : Prop where
  shared : ∀ id wait other otherWait, activity.wait? id = some wait →
    activity.wait? other = some otherWait → otherWait.key.id = wait.key.id →
      otherWait.requestId = wait.requestId
  outstanding : ∀ id wait request, activity.wait? id = some wait →
    activity.provisioner.inFlight = some request → request.keyId = wait.key.id →
      wait.requestId = request.requestId
  waited : ∀ certificate id wait, activity.provisioner.certificate = some certificate →
    activity.wait? id = some wait → wait.key.id = certificate.keyId →
      certificate.requestId ≤ wait.requestId
  renewed : ∀ certificate request, activity.provisioner.certificate = some certificate →
    activity.provisioner.inFlight = some request → request.keyId = certificate.keyId →
      certificate.requestId < request.requestId

theorem Ordered.joins (h : activity.Ordered) (horderly : activity.Orderly)
    (hstep : activity.step? move = some step) (hprompt : Prompt ⟨activity, move, step⟩)
    (hbegins : BeginsToWait ⟨activity, move, step⟩ id wait)
    (hother : activity.wait? other = some otherWait) (hkey : otherWait.key.id = wait.key.id) :
    otherWait.requestId = wait.requestId := by
  rcases inFlight_of_step? horderly hstep hbegins.inFlight with
    ⟨hheld, -⟩ | ⟨-, key, hstarts, hid⟩
  · exact h.outstanding other otherWait _ hother hheld hkey.symm
  · exact absurd (hkey.trans hid.symm) (hprompt key _ hstarts other otherWait hother)

/-- Prompt calls keep the certificates in order. -/
theorem ordered_step (horderly : activity.Orderly) (hcoherent : activity.Coherent)
    (hstep : activity.step? move = some step) (hprompt : Prompt ⟨activity, move, step⟩)
    (h : activity.Ordered) : step.state.Ordered := by
  refine ⟨fun id wait other otherWait hwait hother hkey => ?_,
    fun id wait request hwait hrequest hkey => ?_,
    fun certificate id wait hcertificate hwait hkey => ?_,
    fun certificate request hcertificate hrequest hkey => ?_⟩
  · rcases waited_of_step? horderly hstep hwait with hbefore | hbegins <;>
      rcases waited_of_step? horderly hstep hother with hotherBefore | hotherBegins
    · exact h.shared id wait other otherWait hbefore hotherBefore hkey
    · exact (h.joins horderly hstep hprompt hotherBegins hbefore hkey.symm).symm
    · exact h.joins horderly hstep hprompt hbegins hotherBefore hkey
    · exact congrArg InFlight.requestId
        (Option.some.inj (hotherBegins.inFlight.symm.trans hbegins.inFlight))
  · rcases waited_of_step? horderly hstep hwait with hbefore | hbegins
    · rcases inFlight_of_step? horderly hstep hrequest with ⟨hheld, -⟩ | ⟨-, key, hstarts, hid⟩
      · exact h.outstanding id wait request hbefore hheld hkey
      · exact absurd (hkey.symm.trans hid.symm) (hprompt key _ hstarts id wait hbefore)
    · exact congrArg InFlight.requestId (Option.some.inj (hbegins.inFlight.symm.trans hrequest))
  · rcases certificate_of_step? horderly hstep hcertificate with hheld | ⟨_, _, hinstalling⟩
    · rcases waited_of_step? horderly hstep hwait with hbefore | hbegins
      · exact h.waited certificate id wait hheld hbefore hkey
      · rcases inFlight_of_step? horderly hstep hbegins.inFlight with ⟨hrequest, -⟩ | ⟨hnew, -⟩
        · exact Nat.le_of_lt (h.renewed certificate _ hheld hrequest hkey)
        · exact Nat.le_of_lt (Nat.lt_of_le_of_lt (hcoherent.certified certificate hheld) hnew)
    · rcases waited_of_step? horderly hstep hwait with hbefore | hbegins
      · rw [hinstalling.requestId]
        refine Nat.le_of_eq (h.shared id wait _ _ hbefore hinstalling.waited ?_)
        exact hinstalling.keyId.symm.trans hkey.symm
      · -- The call that installs the certificate does not begin in the same move.
        cases hinstalling.resumed.symm.trans hbegins.move
  · rcases certificate_of_step? horderly hstep hcertificate with hheld | ⟨_, _, hinstalling⟩
    · rcases inFlight_of_step? horderly hstep hrequest with ⟨hbefore, -⟩ | ⟨hnew, -⟩
      · exact h.renewed certificate request hheld hbefore hkey
      · exact Nat.lt_of_le_of_lt (hcoherent.certified certificate hheld) hnew
    · rcases inFlight_of_step? horderly hstep hrequest with ⟨hbefore, hother⟩ | ⟨hnew, -⟩
      · have hown := h.outstanding _ _ request hinstalling.waited hbefore
          (hkey.trans hinstalling.keyId)
        exact absurd hown.symm (hother _ _ hinstalling.resumed hinstalling.waited)
      · rw [hinstalling.requestId]
        exact Nat.lt_of_le_of_lt (horderly.numbered _ _ hinstalling.waited) hnew

theorem ordered_of_run (hopened : start.Opened) (run : Run step? start history finish)
    (hprompt : ∀ made ∈ history, Prompt made) : finish.Ordered := by
  induction history using List.reverseRecOn generalizing finish with
  | nil =>
    obtain rfl : start = finish := run
    obtain ⟨config, seeds, clock, store, rfl⟩ := hopened.eq
    refine ⟨fun id wait _ _ hwait => ?_, fun id wait _ hwait => ?_,
      fun certificate _ _ hcertificate => ?_, fun certificate _ hcertificate => ?_⟩
    · cases hwait
    · cases hwait
    · cases hcertificate
    · cases hcertificate
  | append_singleton past made ih =>
    obtain ⟨hpast, hstep, rfl⟩ := run_concat.1 run
    refine ordered_step (orderly_of_run hopened hpast) (coherent_of_run hopened hpast) hstep
      (hprompt made (by simp)) (ih hpast fun other hother => ?_)
    exact hprompt other (List.mem_append_left _ hother)

/-! ### Installing -/

theorem installing_of_installs (horderly : made.before.Orderly)
    (hstep : made.before.step? made.move = some made.step) (h : Installs made certificate) :
    ∃ id wait, made.before.Installing made.move id wait certificate := by
  rcases certificate_of_step? horderly hstep h.after with hbefore | hinstalling
  · exact absurd hbefore h.new
  · exact hinstalling

/-- Whether a certificate that is at least as new is at hand for a key while this key is. -/
def KeepsUp (activity : Activity σ) (certificate : Certificate) : Prop :=
  ∀ key, activity.provisioner.key = some key → key.id = certificate.keyId →
    ∃ held, activity.provisioner.certificate = some held ∧ held.keyId = certificate.keyId ∧
      certificate.requestId ≤ held.requestId

theorem keepsUp_step (horderly : activity.Orderly) (hordered : activity.Ordered)
    (hstep : activity.step? move = some step)
    (hnumbered : certificate.keyId ≤ activity.provisioner.lastId)
    (h : activity.KeepsUp certificate) : step.state.KeepsUp certificate := by
  intro key hkey hid
  rw [← hid] at hnumbered
  have hbefore := key_of_numbered horderly hstep hkey hnumbered
  obtain ⟨held, hheld, hown, hnewer⟩ := h key hbefore hid
  have hkeeps := keepsKey_of_step? horderly hstep hnumbered hkey
  generalize hstate : step.state.provisioner = provisioner at hkeeps
  cases hkeeps with
  | idle | starts => exact ⟨held, hheld, hown, hnewer⟩
  | @takes id wait answer finished hwait hanswer hfinishes =>
    cases hfinishes with
    | refused | kept =>
      exact ⟨held, (Provisioner.certificate_withoutRequest _ _).trans hheld, hown, hnewer⟩
    | installed hnew hcurrent =>
      have hsame : wait.key.id = certificate.keyId := by
        rw [hbefore] at hcurrent
        exact (Option.some.inj hcurrent).symm.trans hid
      have hlater := hordered.waited held id wait hheld hwait (hsame.trans hown.symm)
      exact ⟨_, rfl, hsame, Nat.le_trans hnewer hlater⟩

theorem keepsUp_of_run (hopened : start.Opened)
    (run : Run step? start (past ++ earlier :: later) finish)
    (hprompt : ∀ made ∈ past ++ earlier :: later, Prompt made)
    (hinstalls : Installs earlier certificate) : finish.KeepsUp certificate := by
  obtain ⟨hpast, hinstalled, -⟩ := run.cut
  obtain ⟨id, wait, hinstalling⟩ :=
    installing_of_installs (orderly_of_run hopened hpast) hinstalled hinstalls
  obtain ⟨key, hkey, hid⟩ := Option.map_eq_some_iff.1 hinstalling.current
  have hnumbered : certificate.keyId ≤ earlier.before.provisioner.lastId := by
    rw [hinstalling.keyId, ← hid]
    exact (coherent_of_run hopened hpast).keyed key hkey
  refine run.induction_after (P := fun _ activity => activity.KeepsUp certificate)
    (fun _ _ _ => ⟨certificate, hinstalls.after, rfl, Nat.le_refl _⟩) ?_
  intro between made hmade hsofar hcut hstep hkeepsUp
  have hprompt : ∀ other ∈ past ++ earlier :: between, Prompt other := fun other hother =>
    hprompt other (hsofar.subset hother)
  exact keepsUp_step (orderly_of_run hopened hcut) (ordered_of_run hopened hcut hprompt) hstep
    (Nat.le_trans hnumbered (lastId_before_le_of_run hopened hcut)) hkeepsUp

/-- If calls are prompt, the certificates that are installed for a key are those of ever later
requests: none comes back, and none is installed twice. -/
theorem certificates_come_in_order {older newer : Certificate} (hopened : start.Opened)
    (run : Run step? start (past ++ earlier :: later ++ [made]) finish)
    (hprompt : ∀ other ∈ past ++ earlier :: later, Prompt other)
    (hearlier : Installs earlier older) (hlater : Installs made newer)
    (hkey : newer.keyId = older.keyId) : older.requestId < newer.requestId := by
  obtain ⟨hcut, hstep, -⟩ := run_concat.1 run
  obtain ⟨id, wait, hinstalling⟩ :=
    installing_of_installs (orderly_of_run hopened hcut) hstep hlater
  obtain ⟨key, hheldKey, hid⟩ := Option.map_eq_some_iff.1 hinstalling.current
  have hwaitKey : wait.key.id = older.keyId := hinstalling.keyId.symm.trans hkey
  obtain ⟨held, hheld, hown, hnewer⟩ :=
    keepsUp_of_run hopened hcut hprompt hearlier key hheldKey (hid.trans hwaitKey)
  have hle : held.requestId ≤ wait.requestId :=
    (ordered_of_run hopened hcut hprompt).waited held id wait hheld hinstalling.waited
      (hwaitKey.trans hown.symm)
  have hne : held.requestId ≠ wait.requestId := by
    intro hsame
    apply hinstalling.new
    rw [hheld, Option.map_some, hsame]
  rw [hinstalling.requestId]
  omega

/-- A certificate expires and is renewed while nobody waits any more. -/
theorem renewed_certificate_is_newer :
    ∃ finish past first between,
      ∃ second : Made (Activity (BlobCredentials MemoryBlobs)) (Move _) Session.Reply,
        ∃ older newer : Certificate,
          Run step? (blank memory) (past ++ first :: between ++ [second]) finish ∧
            (∀ other ∈ past ++ first :: between, Prompt other) ∧ Installs first older ∧
            Installs second newer ∧ newer.keyId = older.keyId ∧
            older.requestId < newer.requestId := by
  obtain ⟨finish, run⟩ := run_played step? (blank memory) [
    .session (.signIn { sessionToken := some "token", isVerified := true }),
    .beginAssertion 0 "https://example.com",
    .answerCertificate 2 (.ok "first"),
    .resume 0,
    .setClock 21600000,
    .beginAssertion 1 "https://example.com",
    .answerCertificate 3 (.ok "second"),
    .resume 1]
  refine ⟨finish, [_, _, _], _, [_, _, _], _, ⟨"first", 21600000, 1, 2⟩,
    ⟨"second", 43200000, 1, 3⟩, run, ?_⟩
  refine (fun hprompt => ⟨hprompt, ⟨rfl, by decide⟩, ⟨rfl, by decide⟩, rfl,
    @certificates_come_in_order _ _ _ _ [_, _, _] [_, _, _] _ _ _ _ (blank_opened _) run hprompt
      ⟨rfl, by decide⟩ ⟨rfl, by decide⟩ rfl⟩) ?_
  intro other hother key requestId hstarts id wait hwait
  obtain ⟨token, hcall⟩ := hstarts.call
  simp only [List.cons_append, List.nil_append, List.mem_cons, List.not_mem_nil,
    or_false] at hother
  -- Nobody waits when a request is started.
  rcases hother with rfl | rfl | rfl | rfl | rfl | rfl | rfl
  all_goals first | cases hwait | cases hcall

/-- Two calls share a request, and the second takes the answer only after the certificate has
expired and was renewed: it installs the older certificate once more, for another lifetime. -/
theorem older_certificate_comes_back :
    ∃ finish past first between second pause,
      ∃ third : Made (Activity (BlobCredentials MemoryBlobs)) (Move _) Session.Reply,
        Run step? (blank memory)
            (past ++ first :: between ++ second :: pause ++ [third]) finish ∧
          (∀ other ∈ past ++ first :: between ++ second :: pause ++ [third], Forward other) ∧
          Installs first ⟨"first", 21600000, 1, 2⟩ ∧ Installs second ⟨"second", 43200000, 1, 3⟩ ∧
          Installs third ⟨"first", 43200000, 1, 2⟩ := by
  obtain ⟨finish, run⟩ := run_played step? (blank memory) [
    .session (.signIn { sessionToken := some "token", isVerified := true }),
    .beginAssertion 0 "https://example.com",
    .beginAssertion 1 "https://example.org",
    .answerCertificate 2 (.ok "first"),
    .resume 0,
    .setClock 21600000,
    .beginAssertion 2 "https://example.net",
    .answerCertificate 3 (.ok "second"),
    .resume 2,
    .resume 1]
  exact ⟨finish, [_, _, _, _], _, [_, _, _], _, [], _, run, by decide, ⟨rfl, by decide⟩,
    ⟨rfl, by decide⟩, ⟨rfl, by decide⟩⟩

end Activity

end AccountManager.Accounts
