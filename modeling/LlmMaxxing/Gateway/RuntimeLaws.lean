import LlmMaxxing.Gateway.RecordEffect
import LlmMaxxing.Gateway.RuntimeState

/-!
# The steps of the runtime

Every operation of `RuntimeState` is a sequence of small steps on the world: time passes on an
account, a registration is journaled, the histories are replaced, an account is updated or built,
a record is journaled and takes effect, a checkpoint is written. An operation that fails is a
shorter sequence. What every step keeps, every operation keeps, wherever it stops.
-/

namespace LlmMaxxing

open Check AccountRuntime Snapshot Fallible

namespace World

/-! ## The journal -/

/-- The world with a record at the end of its journal. -/
def written (cfg : RuntimeConfig) (w : World) (body : RecordBody) : World :=
  { w with
    room := w.room - 1
    journal :=
      { w.journal with
        records := w.journal.records ++ [w.nextRecord cfg body]
        lastSequence := (w.nextRecord cfg body).sequence
        lastDigest := (w.nextRecord cfg body).digest
        history := w.journal.history ++ [w.nextRecord cfg body] } }

/-- The world with its state as the newest checkpoint. -/
def checkpointed (w : World) : World :=
  { w with journal := { w.journal with checkpoint := some w.state.snapshot, records := [] } }

/-- Replace the runtime of an account. -/
def setRuntime (w : World) (accountId : AccountId) (rt : AccountRuntime) : World :=
  { w with state := w.state.setRuntime accountId rt }

theorem append_cases (cfg : RuntimeConfig) (w : World) (body : RecordBody) :
    (∃ e, w.append cfg body = (w, .error e)) ∨
      body.validatePayload = .ok () ∧
        w.append cfg body = (w.written cfg body, .ok (w.nextRecord cfg body).receipt) := by
  unfold append
  cases hpayload : body.validatePayload with
  | error e => exact .inl ⟨e, rfl⟩
  | ok u =>
    simp only
    split
    · exact .inl ⟨_, rfl⟩
    · exact .inr ⟨trivial, rfl⟩

theorem checkpoint_cases (w : World) :
    (∃ e, w.checkpoint = (w, .error e)) ∨
      SafeAt 0 w.state.snapshot ∧ w.checkpoint = (w.checkpointed, .ok ()) := by
  unfold checkpoint
  cases hsafe : validateSafeValue 0 w.state.snapshot with
  | error e => exact .inl ⟨e, rfl⟩
  | ok u =>
    simp only
    split
    · exact .inr ⟨hsafe, rfl⟩
    · exact .inl ⟨_, rfl⟩

/-! ## Steps -/

/-- What is known of the account before a record and after the time of its call, and of the
record. -/
abbrev RecordGuard := AccountRuntime → AccountRuntime → RecordBody → Prop

/-- The guards of the records that recovery writes. -/
def Recovers (rt mid : AccountRuntime) : RecordBody → Prop
  | .attemptUncertain attemptId _ => mid = rt ∧ ∃ a, rt.attempts.get? attemptId = some a
  | .recoveryProbeFinished accountId probeId classification =>
    mid = rt ∧ accountId = rt.account.accountId ∧ rt.recoveryProbeId = some probeId ∧
      classification = .inconclusive
  | .circuitUpdated accountId scope value => accountId = rt.account.accountId ∧
      value.state = .opened ∧ value.epoch = (rt.scopedCircuit scope).epoch + 1
  | _ => False

/-- A record of a registration. -/
def IsRegistration : RecordBody → Prop
  | .accountRegistered .. => True
  | _ => False

/-- A step that takes no attempt's or circuit's record; `published` are the accounts a publication
may put into effect. -/
inductive Admin (cfg : RuntimeConfig) (published : List ProviderAccount) : World → World → Prop
  | idle {w : World} {accountId : AccountId} {rt rt' : AccountRuntime}
      (hrt : w.state.runtimes.get? accountId = some rt) (hidle : Idle rt rt') :
      Admin cfg published w (w.setRuntime accountId rt')
  | registered {w : World} {body : RecordBody} (hbody : IsRegistration body)
      (hpayload : body.validatePayload = .ok ()) :
      Admin cfg published w (w.written cfg body)
  | histories {w : World} {st : RuntimeState} (hruntimes : st.runtimes = w.state.runtimes)
      (hdormant : st.dormantAccountStates = w.state.dormantAccountStates) :
      Admin cfg published w { w with state := st }
  | updated {w : World} {account : ProviderAccount} {clock : Nat} {rt rt' : AccountRuntime}
      (hmem : account ∈ published) (hrt : w.state.runtimes.get? account.accountId = some rt)
      (hupdate : rt.updateAccount clock account = .ok rt') :
      Admin cfg published w (w.setRuntime account.accountId rt')
  | built {w : World} {account : ProviderAccount} {clock : Nat}
      (hmem : account ∈ published) (hrt : w.state.runtimes.get? account.accountId = none)
      (hdormant : w.state.dormantAccountStates.get? account.accountId = none) :
      Admin cfg published w
        (w.setRuntime account.accountId (AccountRuntime.fresh account clock))
  | revived {w : World} {account : ProviderAccount} {clock : Nat} {entry : Json}
      {rt : AccountRuntime}
      (hmem : account ∈ published) (hrt : w.state.runtimes.get? account.accountId = none)
      (hdormant : w.state.dormantAccountStates.get? account.accountId = some entry)
      (hrestore : (AccountRuntime.fresh account clock).restoreSnapshotState cfg entry = .ok rt) :
      Admin cfg published w
        { w with
          state :=
            { w.state with
              dormantAccountStates := w.state.dormantAccountStates.erase account.accountId
              runtimes := w.state.runtimes.insert account.accountId rt } }
  | dropped {w : World} {account : ProviderAccount} {clock : Nat} {entry : Json} {e : RuntimeFault}
      (hmem : account ∈ published) (hrt : w.state.runtimes.get? account.accountId = none)
      (hdormant : w.state.dormantAccountStates.get? account.accountId = some entry)
      (hrestore : (AccountRuntime.fresh account clock).restoreSnapshotState cfg entry = .error e) :
      Admin cfg published w
        { w with
          state :=
            { w.state with
              dormantAccountStates := w.state.dormantAccountStates.erase account.accountId } }
  | checkpointed {w : World} (hsafe : SafeAt 0 w.state.snapshot) :
      Admin cfg published w w.checkpointed

/-- One step: an administrative one, or a record that meets `guard` and its effect on an
account. -/
inductive Step (cfg : RuntimeConfig) (published : List ProviderAccount) (guard : RecordGuard) :
    World → World → Prop
  | admin {w w' : World} (h : Admin cfg published w w') : Step cfg published guard w w'
  | effect {w : World} {accountId : AccountId} {rt mid : AccountRuntime} {body : RecordBody}
      (hrt : w.state.runtimes.get? accountId = some rt) (hidle : Idle rt mid)
      (hguard : guard rt mid body) (hpayload : body.validatePayload = .ok ()) :
      Step cfg published guard w
        ((w.written cfg body).setRuntime accountId
          (mid.take (w.nextRecord cfg body).receipt body))

variable {cfg : RuntimeConfig} {published : List ProviderAccount} {w : World}

theorem runs_checkpoint (w : World) :
    Runs (Admin cfg published) w w.checkpoint fun _ w' => w'.state = w.state := by
  rcases checkpoint_cases w with ⟨e, herr⟩ | ⟨hsafe, hok⟩
  · rw [herr]; exact Runs.failed
  · rw [hok]
    exact Runs.after (.single (Admin.checkpointed hsafe)) (Runs.done rfl)

/-- A checkpoint that may be due. -/
theorem runs_checkpoint_if (p : Prop) [Decidable p] (w : World) :
    Runs (Admin cfg published) w (if p then w.checkpoint else (w, .ok ()))
      fun _ w' => w'.state = w.state := by
  split
  · exact runs_checkpoint w
  · exact Runs.done rfl

/-! ## Calls on an account -/

/-- The record a call journals; `none` when it is not asked for or not taken. -/
def journaled (cfg : RuntimeConfig) (w : World) (accountId : AccountId) (c : AccountCall) :
    Option RecordBody :=
  match w.state.runtimes.get? accountId with
  | none => none
  | some rt =>
    match rt.asks cfg c with
    | none => none
    | some body =>
      match (w.append cfg body).2 with
      | .ok _ => some body
      | .error _ => none

/-- The world after a journaled call, before a checkpoint. -/
def effected (cfg : RuntimeConfig) (w : World) (accountId : AccountId) (mid : AccountRuntime)
    (body : RecordBody) : World :=
  (w.written cfg body).setRuntime accountId (mid.take (w.nextRecord cfg body).receipt body)

/-- **What a call on an account can do**: let time pass, or journal a record whose guards it has
passed, take its effect and perhaps write a checkpoint. -/
theorem accountCall_cases (cfg : RuntimeConfig) {accountId : AccountId} {rt : AccountRuntime}
    (hrt : w.state.runtimes.get? accountId = some rt) (c : AccountCall) :
    (∃ rt', Idle rt rt' ∧ w.journaled cfg accountId c = none ∧
        (w.accountCall cfg accountId c).1 = w.setRuntime accountId rt' ∧
        (rt.asks cfg c = none ∨ ∃ e, (w.accountCall cfg accountId c).2 = .error e)) ∨
      ∃ body mid, rt.asks cfg c = some body ∧ w.journaled cfg accountId c = some body ∧
        Idle rt mid ∧ Guarded cfg rt mid body ∧ body.validatePayload = .ok () ∧
        ((w.accountCall cfg accountId c).1 = w.effected cfg accountId mid body ∨
          SafeAt 0 (w.effected cfg accountId mid body).state.snapshot ∧
            (w.accountCall cfg accountId c).1 = (w.effected cfg accountId mid body).checkpointed) := by
  cases hasks : rt.asks cfg c with
  | none =>
    refine .inl ⟨rt.call cfg (.error (.journalUnavailable "not asked")) c,
      call_idle cfg rt (.inl hasks), ?_, ?_, .inl rfl⟩
    · simp only [journaled, hrt, hasks]
    · simp only [accountCall, hrt, hasks]
      rfl
  | some body =>
    rcases append_cases cfg w body with ⟨e, herr⟩ | ⟨hpayload, hok⟩
    · refine .inl ⟨rt.call cfg (.error e) c, call_idle cfg rt (.inr ⟨e, rfl⟩), ?_, ?_, .inr ⟨e, ?_⟩⟩
      · simp only [journaled, hrt, hasks, herr]
      · simp only [accountCall, hrt, hasks, herr]
        rfl
      · simp only [accountCall, hrt, hasks, herr]
    · obtain ⟨mid, hidle, hguard, hcall⟩ := call_journaled cfg rt hasks
      have hthen : w.accountCall cfg accountId c = maybeCheckpoint
          (w.effected cfg accountId mid body) (mid.take (w.nextRecord cfg body).receipt body).account := by
        simp only [accountCall, hrt, hasks, hok, hcall]
        rfl
      refine .inr ⟨body, mid, rfl, ?_, hidle, hguard, hpayload, ?_⟩
      · simp only [journaled, hrt, hasks, hok]
      · rw [hthen, maybeCheckpoint]
        split
        · rcases checkpoint_cases (w.effected cfg accountId mid body) with
            ⟨e, herr⟩ | ⟨hsafe, hck⟩
          · exact .inl (congrArg Prod.fst herr)
          · exact .inr ⟨hsafe, congrArg Prod.fst hck⟩
        · exact .inl rfl

/-- A call takes steps, and its record meets what is known of everything the call can ask for. -/
theorem runs_accountCall {guard : RecordGuard} (accountId : AccountId) (c : AccountCall)
    (hguard : ∀ rt mid body, w.state.runtimes.get? accountId = some rt →
      rt.asks cfg c = some body → Guarded cfg rt mid body → guard rt mid body) :
    Relation.ReflTransGen (Step cfg published guard) w (w.accountCall cfg accountId c).1 := by
  cases hrt : w.state.runtimes.get? accountId with
  | none =>
    have hsame : (w.accountCall cfg accountId c).1 = w := by simp only [accountCall, hrt]
    rw [hsame]
  | some rt =>
    rcases accountCall_cases cfg hrt c with
      ⟨rt', hidle, -, hw, -⟩ | ⟨body, mid, hasks, -, hidle, hguarded, hpayload, hw⟩
    · rw [hw]
      exact .single (Step.admin (.idle hrt hidle))
    · have heffect : Step cfg published guard w (w.effected cfg accountId mid body) :=
        Step.effect hrt hidle (hguard rt mid body hrt hasks hguarded) hpayload
      rcases hw with hw | ⟨hsafe, hw⟩
      · rw [hw]
        exact .single heffect
      · rw [hw]
        exact (Relation.ReflTransGen.single heffect).tail (Step.admin (.checkpointed hsafe))

/-! ## Publications -/

open RuntimeState

/-- Staging changes the histories only. -/
theorem stage_eq_ok {st st' : RuntimeState} {account : ProviderAccount} {records : List RecordBody}
    (h : stage cfg st account = .ok (st', records)) :
    st'.runtimes = st.runtimes ∧ st'.dormantAccountStates = st.dormantAccountStates ∧
      ∀ body ∈ records, IsRegistration body := by
  simp only [stage, bind_eq_ok_iff, require_eq_ok_iff, exists_unit_and_iff, pure_eq_ok,
    Except.ok.injEq, Prod.mk.injEq] at h
  obtain ⟨-, -, -, rfl, rfl⟩ := h
  refine ⟨rfl, rfl, fun body hbody => ?_⟩
  obtain rfl := List.eq_of_mem_singleton (List.mem_ite_nil_right.mp hbody).2
  trivial

theorem stageAll_eq_ok {st st' : RuntimeState} {accounts : List ProviderAccount}
    {records : List RecordBody} (h : stageAll cfg st accounts = .ok (st', records)) :
    st'.runtimes = st.runtimes ∧ st'.dormantAccountStates = st.dormantAccountStates ∧
      ∀ body ∈ records, IsRegistration body := by
  induction accounts generalizing st st' records with
  | nil =>
    cases h
    exact ⟨rfl, rfl, fun _ hbody => by cases hbody⟩
  | cons account rest ih =>
    simp only [stageAll, bind_eq_ok_iff, pure_eq_ok, Except.ok.injEq, Prod.mk.injEq] at h
    obtain ⟨⟨st₁, first⟩, hfirst, ⟨st₂, more⟩, hmore, rfl, rfl⟩ := h
    obtain ⟨hruntimes, hdormant, hrecords⟩ := stage_eq_ok hfirst
    obtain ⟨hruntimes', hdormant', hrecords'⟩ := ih hmore
    refine ⟨hruntimes'.trans hruntimes, hdormant'.trans hdormant, fun body hbody => ?_⟩
    exact (List.mem_append.mp hbody).elim (hrecords body) (hrecords' body)

theorem runs_appendAll {bodies : List RecordBody} (h : ∀ body ∈ bodies, IsRegistration body) :
    Runs (Admin cfg published) w (appendAll cfg bodies w) fun _ w' => w'.state = w.state := by
  refine Runs.forEach_keeps (fun body hbody w' hw' => ?_) rfl
  rcases append_cases cfg w' body with ⟨e, herr⟩ | ⟨hpayload, hok⟩
  · rw [herr]; exact Runs.failed
  · rw [hok]
    exact Runs.after (.single (Admin.registered (h body hbody) hpayload)) (Runs.done hw')

theorem runs_disable (staged : RuntimeState) (account : ProviderAccount) :
    Runs (Admin cfg published) w (disable cfg staged account w) fun _ w' => w'.state = w.state := by
  unfold disable
  cases hrecord : omittedRecord staged account with
  | error e => exact Runs.failed
  | ok body =>
    refine runs_appendAll fun body' hbody' => ?_
    rw [List.mem_singleton] at hbody'
    subst hbody'
    unfold omittedRecord at hrecord
    split at hrecord
    · cases hrecord; trivial
    · cases hrecord

theorem runs_install (clock : AccountId → Nat) {account : ProviderAccount}
    (hmem : account ∈ published) (w : World) :
    Runs (Admin cfg published) w (install cfg clock account w) fun _ _ => True := by
  unfold install
  cases hrt : w.state.runtimes.get? account.accountId with
  | some rt =>
    cases hupdate : rt.updateAccount (clock account.accountId) account with
    | error e =>
      simp only [hrt, hupdate]
      exact Runs.failed
    | ok rt' =>
      simp only [hrt, hupdate]
      exact Runs.after (.single (Admin.updated hmem hrt hupdate)) (Runs.done trivial)
  | none =>
    cases hdormant : w.state.dormantAccountStates.get? account.accountId with
    | none =>
      simp only [hrt, hdormant]
      exact Runs.after (.single (Admin.built hmem hrt hdormant)) (Runs.done trivial)
    | some entry =>
      cases hrestore : (AccountRuntime.fresh account (clock account.accountId)).restoreSnapshotState
          cfg entry with
      | ok rt =>
        simp only [hrt, hdormant, hrestore]
        exact Runs.after (.single (Admin.revived hmem hrt hdormant hrestore)) (Runs.done trivial)
      | error e =>
        simp only [hrt, hdormant, hrestore]
        exact Runs.after (.single (Admin.dropped hmem hrt hdormant hrestore)) Runs.failed

/-- What a plan consists of. -/
theorem planPublication_eq_ok {st : RuntimeState} {accounts : List ProviderAccount}
    {plan : Publication} (h : planPublication cfg st accounts = .ok plan) :
    accounts.mapM (fun a => model a.validate) = .ok plan.accounts ∧
      (plan.accounts.map ProviderAccount.accountId).Nodup ∧
      stageAll cfg st plan.accounts = .ok (plan.staged, plan.records) ∧
      omitted st (plan.accounts.map ProviderAccount.accountId) = .ok plan.left := by
  simp only [planPublication, bind_eq_ok_iff, require_eq_ok_iff, exists_unit_and_iff, pure_eq_ok,
    Except.ok.injEq] at h
  obtain ⟨validated, hvalid, hnodup, ⟨staged, records⟩, hstage, left, hleft, rfl⟩ := h
  exact ⟨hvalid, hnodup, hstage, hleft⟩

/-- **A publication takes steps**, and only its own accounts are put into effect. -/
theorem runs_applyPublication (clock : AccountId → Nat) {accounts : List ProviderAccount}
    {plan : Publication} (hplan : planPublication cfg w.state accounts = .ok plan) :
    Runs (Admin cfg (plan.accounts ++ plan.left)) w (applyPublication cfg clock accounts w)
      fun _ _ => True := by
  obtain ⟨-, -, hstage, -⟩ := planPublication_eq_ok hplan
  obtain ⟨hruntimes, hdormant, hrecords⟩ := stageAll_eq_ok hstage
  unfold applyPublication
  simp only [hplan]
  refine Runs.andThen (runs_appendAll hrecords) fun _ w₁ hw₁ => ?_
  refine Runs.andThen (Q := fun _ w' => w'.state = w.state)
    (Runs.forEach_keeps (I := fun w' : World => w'.state = w.state) (fun account _ w' hw' => ?_) hw₁)
    fun _ w₂ hw₂ => ?_
  · exact (runs_disable plan.staged account).weaken fun _ _ h => h.trans hw'
  · -- the staged histories are put into effect together, before the accounts
    have hstaged : Admin cfg (plan.accounts ++ plan.left) w₂ { w₂ with state := plan.staged } :=
      Admin.histories (by rw [hruntimes, hw₂]) (by rw [hdormant, hw₂])
    refine Runs.after (.single hstaged) (Runs.andThen (Q := fun _ _ => True)
      (Runs.forEach_keeps (fun account hmem w' _ => runs_install clock hmem w') trivial)
      fun _ w₃ _ => ?_)
    exact (runs_checkpoint_if _ w₃).weaken fun _ _ _ => trivial

end World

end LlmMaxxing
