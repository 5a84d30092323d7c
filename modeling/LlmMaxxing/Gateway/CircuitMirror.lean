import LlmMaxxing.Gateway.CircuitLog
import LlmMaxxing.Gateway.RestartLaws

/-!
# Circuits of a process and of its journal

A process, a checkpoint entry and a replayed tail all show the same circuits: those of the records
written so far (`Shows`, `Kept`). Calls, publications and starts keep this, and each of them lets
the log grow by records that may be written.
-/

namespace LlmMaxxing

open Check AccountRuntime Snapshot Fallible World

/-! ## Accounts -/

namespace AccountRuntime

/-- The circuits of an account and the probes consumed on it. -/
def circuitView (rt : AccountRuntime) : CircuitView :=
  ⟨rt.scopedCircuit, fun p => rt.consumedCircuitProbes.contains p⟩

theorem circuitView_eq {rt rt' : AccountRuntime} (haccount : rt'.accountCircuit = rt.accountCircuit)
    (hcircuits : ∀ generation, rt'.circuits.get? generation = rt.circuits.get? generation)
    (hconsumed : ∀ p, rt'.consumedCircuitProbes.get? p = rt.consumedCircuitProbes.get? p) :
    rt'.circuitView = rt.circuitView := by
  refine CircuitView.ext (funext fun scope => ?_) (funext fun p => ?_)
  · cases scope with
    | none => exact haccount
    | some generation => simp only [circuitView, scopedCircuit, circuitValue, hcircuits]
  · simp only [circuitView, Dict.contains, hconsumed]

theorem Idle.circuitView {rt rt' : AccountRuntime} (h : Idle rt rt') :
    rt'.circuitView = rt.circuitView :=
  circuitView_eq h.accountCircuit (fun _ => by rw [h.circuits]) (fun _ => by rw [h.consumed])

theorem circuitView_fresh (account : ProviderAccount) (clock : Nat) :
    (AccountRuntime.fresh account clock).circuitView = CircuitView.initial := by
  refine CircuitView.ext (funext fun scope => ?_) rfl
  cases scope <;> rfl

theorem circuitView_restored (base rt : AccountRuntime) :
    (restored base rt).circuitView = rt.circuitView :=
  circuitView_eq rfl (restored_same base rt).circuits (restored_same base rt).consumed

theorem circuitView_reserve (rt : AccountRuntime) (d : DurableReservation) :
    (rt.reserve d).circuitView = rt.circuitView.reserve d := by
  refine CircuitView.ext (funext fun scope => by cases scope <;> rfl) (funext fun p => ?_)
  have hfold : ∀ (l : List String) (consumed : Dict String String),
      (l.foldl (fun c q => c.insert q d.attemptId) consumed).contains p =
        (l.contains p || consumed.contains p) := by
    intro l
    induction l with
    | nil => intro consumed; simp
    | cons q rest ih =>
      intro consumed
      rw [List.foldl_cons, ih, Dict.contains, Dict.get?_insert, List.contains_cons]
      by_cases heq : p = q
      · simp [heq]
      · simp [heq, Dict.contains, beq_false_of_ne heq]
  exact hfold d.probes rt.consumedCircuitProbes

theorem circuitView_replaceCircuit (rt : AccountRuntime) (scope : Option DeploymentGenerationId)
    (value : CircuitValue) :
    (rt.replaceCircuit scope (rt.scopedCircuit scope) value).circuitView =
      rt.circuitView.replace scope value := by
  refine CircuitView.ext (funext fun scope' => ?_) (funext fun p => ?_)
  · show (rt.replaceCircuit scope _ value).scopedCircuit scope' = _
    rw [scopedCircuit_replaceCircuit]
    exact (Function.update_apply rt.scopedCircuit scope value scope').symm
  · have hconsumed : (rt.replaceCircuit scope (rt.scopedCircuit scope) value).consumedCircuitProbes =
        (rt.scopedCircuit scope).probeId.elim rt.consumedCircuitProbes
          rt.consumedCircuitProbes.erase := by
      cases hprobe : (rt.scopedCircuit scope).probeId <;> cases scope <;>
        simp only [replaceCircuit, hprobe, Option.elim_none, Option.elim_some]
    simp only [circuitView, CircuitView.replace, hconsumed, Dict.contains]
    cases (rt.scopedCircuit scope).probeId with
    | none => simp
    | some q =>
      by_cases heq : p = q
      · subst heq; simp
      · simp [Dict.get?_erase_of_ne _ heq, Ne.symm heq]

end AccountRuntime

/-- The account a record is about is `accountId`, if it is about circuits. -/
def RecordBody.About (accountId : AccountId) : RecordBody → Prop
  | .attemptReserved d => d.accountId = accountId
  | .circuitUpdated other .. => other = accountId
  | _ => True

theorem CircuitView.record_other {accountId other : AccountId} {body : RecordBody}
    (h : body.About accountId) (hne : other ≠ accountId) (v : CircuitView) :
    v.record other body = v := by
  cases body with
  | attemptReserved d =>
    have h : d.accountId = accountId := h
    rw [CircuitView.record, if_neg (by rw [h]; exact Ne.symm hne)]
  | circuitUpdated =>
    cases h
    rw [CircuitView.record, if_neg (Ne.symm hne)]
  | _ => rfl

namespace AccountRuntime

/-- A record that takes effect, seen from its account. -/
theorem circuitView_take {accountId : AccountId} {body : RecordBody} (h : body.About accountId)
    (rt : AccountRuntime) (receipt : JournalReceipt) :
    (rt.take receipt body).circuitView = rt.circuitView.record accountId body := by
  cases body with
  | attemptReserved d =>
    have h : d.accountId = accountId := h
    rw [CircuitView.record, if_pos h]
    exact circuitView_reserve rt d
  | circuitUpdated other scope value =>
    have h : other = accountId := h
    rw [CircuitView.record, if_pos h]
    exact circuitView_replaceCircuit rt scope value
  | attemptResolved =>
    rw [AccountRuntime.take]
    split
    · exact circuitView_eq rfl (fun _ => rfl) fun _ => rfl
    · rfl
  | recoveryProbeFinished other probeId classification =>
    rw [AccountRuntime.take]
    rcases endRecoveryProbe_cases rt classification with heq | heq | ⟨oldest, heq⟩ <;> rw [heq]
    · exact circuitView_eq rfl (fun _ => rfl) fun _ => rfl
    · exact circuitView_eq rfl (fun _ => rfl) fun _ => rfl
    · exact circuitView_eq rfl (fun _ => rfl) fun _ => rfl
  | _ => exact circuitView_eq rfl (fun _ => rfl) fun _ => rfl

/-- A record that is replayed, seen from its account. -/
theorem circuitView_applyRecord {accountId : AccountId} {record : JournalRecord}
    (h : record.body.About accountId) {rt rt' : AccountRuntime}
    (happly : rt.applyRecord record = .ok rt') :
    rt'.circuitView = rt.circuitView.record accountId record.body := by
  unfold AccountRuntime.applyRecord at happly
  cases hbody : record.body with
  | attemptReserved d =>
    simp only [hbody] at happly h
    have h : d.accountId = accountId := h
    cases happly
    rw [CircuitView.record, if_pos h]
    -- a month that starts over keeps the circuits
    show ((if _ then _ else rt).reserve d).circuitView = _
    rw [circuitView_reserve]
    split
    · rw [show ({ rt with monthlyResetAtMs := d.monthlyResetAtMs, monthlyUsed := 0 } :
        AccountRuntime).circuitView = rt.circuitView from
        circuitView_eq rfl (fun _ => rfl) fun _ => rfl]
    · rfl
  | attemptDispatched =>
    simp only [hbody] at happly
    obtain ⟨a, -, ⟨-, -, rfl⟩ | ⟨-, rfl⟩⟩ := replayDispatch_cases happly
    · rfl
    · exact circuitView_eq rfl (fun _ => rfl) fun _ => rfl
  | attemptResolved =>
    simp only [hbody] at happly
    obtain ⟨resolved, -, rfl⟩ | ⟨a, -, rfl⟩ := replayResolve_cases happly
    · rfl
    · exact circuitView_eq rfl (fun _ => rfl) fun _ => rfl
  | circuitUpdated other scope value =>
    simp only [hbody] at happly h
    have h : other = accountId := h
    cases happly
    rw [CircuitView.record, if_pos h]
    exact circuitView_replaceCircuit rt scope value
  | authoritativeActiveCount other count =>
    simp only [hbody, recordActiveCount] at happly
    split at happly
    · cases happly
    · cases happly
      exact circuitView_eq rfl (fun _ => rfl) fun _ => rfl
  | recoveryProbeFinished other probeId classification =>
    simp only [hbody] at happly
    cases happly
    have hneutral : (RecordBody.recoveryProbeFinished other probeId classification).About accountId :=
      trivial
    exact circuitView_take hneutral rt record.receipt
  | _ =>
    simp only [hbody] at happly
    cases happly
    exact circuitView_eq rfl (fun _ => rfl) fun _ => rfl

end AccountRuntime

/-! ## Processes and checkpoints -/

/-- A checkpoint entry of an account with the circuits of `v`. -/
def EntryOf (v : CircuitView) (entry : Json) : Prop :=
  ∃ rt : AccountRuntime, entry = rt.snapshotState ∧ rt.circuitView = v

/-- A checkpoint entry some account can be restored from. -/
def Restorable (cfg : RuntimeConfig) (entry : Json) : Prop :=
  ∃ base rt : AccountRuntime, base.restoreSnapshotState cfg entry = .ok rt

/-- The records of a journal from the first one on. -/
def JournalState.log (journal : JournalState) : List RecordBody :=
  journal.history.map JournalRecord.body

/-- The circuits of a state are those of a log. -/
structure Shows (log : List RecordBody) (st : RuntimeState) : Prop where
  live : ∀ accountId rt, st.runtimes.get? accountId = some rt →
    rt.circuitView = board log accountId
  dormant : ∀ accountId entry, st.runtimes.get? accountId = none →
    st.dormantAccountStates.get? accountId = some entry → EntryOf (board log accountId) entry
  absent : ∀ accountId, st.runtimes.get? accountId = none →
    st.dormantAccountStates.get? accountId = none → board log accountId = CircuitView.initial

/-- The newest checkpoint shows the circuits of the records before it. -/
structure Kept (before : List RecordBody) (journal : JournalState) : Prop where
  log : journal.log = before ++ journal.records.map JournalRecord.body
  entries : ∀ entry ∈ checkpointEntries journal, ∃ accountId, entry.1 = accountId.text ∧
    EntryOf (board before accountId) entry.2
  absent : ∀ accountId, (∀ entry ∈ checkpointEntries journal, entry.1 ≠ accountId.text) →
    board before accountId = CircuitView.initial

section

variable {cfg : RuntimeConfig} {log : List RecordBody} {st : RuntimeState}

theorem EntryOf.restore {v : CircuitView} {entry : Json} (h : EntryOf v entry)
    {base rt : AccountRuntime} (hrestore : base.restoreSnapshotState cfg entry = .ok rt) :
    rt.circuitView = v := by
  obtain ⟨rt₀, rfl, rfl⟩ := h
  rw [restore_snapshotState] at hrestore
  split at hrestore
  · cases hrestore
    exact circuitView_restored base rt₀
  · cases hrestore

/-- An entry that can be restored can be restored onto every account. -/
theorem EntryOf.restorable {v : CircuitView} {entry : Json} (h : EntryOf v entry)
    (hrestorable : Restorable cfg entry) (base : AccountRuntime) :
    ∃ rt, base.restoreSnapshotState cfg entry = .ok rt := by
  obtain ⟨rt₀, rfl, -⟩ := h
  obtain ⟨base₀, rt, hrestore⟩ := hrestorable
  rw [restore_snapshotState] at hrestore
  split at hrestore
  · next hbound => exact ⟨_, by rw [restore_snapshotState, if_pos hbound]⟩
  · cases hrestore

/-- The runtime of one account is replaced by one that shows the same log. -/
theorem Shows.setRuntime (h : Shows log st) {accountId : AccountId} {rt : AccountRuntime}
    (hrt : rt.circuitView = board log accountId) : Shows log (st.setRuntime accountId rt) := by
  refine ⟨fun other rt' hrt' => ?_, fun other entry hnone => ?_, fun other hnone => ?_⟩
  · simp only [RuntimeState.setRuntime, Dict.get?_insert] at hrt'
    split at hrt'
    · next heq =>
      cases hrt'
      rw [heq]
      exact hrt
    · exact h.live other rt' hrt'
  · simp only [RuntimeState.setRuntime, Dict.get?_insert] at hnone
    split at hnone
    · cases hnone
    · exact h.dormant other entry hnone
  · simp only [RuntimeState.setRuntime, Dict.get?_insert] at hnone
    split at hnone
    · cases hnone
    · exact h.absent other hnone

/-- One record about one account, and its effect there. -/
theorem Shows.record (h : Shows log st) {accountId : AccountId} {rt rt' : AccountRuntime}
    {body : RecordBody} (habout : body.About accountId)
    (hrt : st.runtimes.get? accountId = some rt)
    (hrt' : rt'.circuitView = rt.circuitView.record accountId body) :
    Shows (log ++ [body]) (st.setRuntime accountId rt') := by
  have hother : ∀ other, other ≠ accountId → board (log ++ [body]) other = board log other := by
    intro other hne
    rw [board_snoc]
    exact CircuitView.record_other habout hne _
  have hnone : ∀ other, (st.setRuntime accountId rt').runtimes.get? other = none →
      other ≠ accountId ∧ st.runtimes.get? other = none := by
    intro other hnone
    simp only [RuntimeState.setRuntime, Dict.get?_insert] at hnone
    split at hnone
    · cases hnone
    · next hne => exact ⟨hne, hnone⟩
  refine ⟨fun other rt'' hrt'' => ?_, fun other entry h₁ h₂ => ?_, fun other h₁ h₂ => ?_⟩
  · simp only [RuntimeState.setRuntime, Dict.get?_insert] at hrt''
    split at hrt''
    · next heq =>
      cases hrt''
      rw [heq, board_snoc, hrt', h.live accountId rt hrt]
    · next hne =>
      rw [hother other hne]
      exact h.live other rt'' hrt''
  · rw [hother other (hnone other h₁).1]
    exact h.dormant other entry (hnone other h₁).2 h₂
  · rw [hother other (hnone other h₁).1]
    exact h.absent other (hnone other h₁).2 h₂

/-- A record that is about no circuit. -/
theorem Shows.neutral (h : Shows log st) {body : RecordBody} (hbody : IsRegistration body) :
    Shows (log ++ [body]) st := by
  have hsame : ∀ a, board (log ++ [body]) a = board log a := by
    intro a
    rw [board_snoc]
    cases body with
    | accountRegistered => rfl
    | _ => cases hbody
  exact ⟨fun a rt hrt => by rw [hsame]; exact h.live a rt hrt,
    fun a entry h₁ h₂ => by rw [hsame]; exact h.dormant a entry h₁ h₂,
    fun a h₁ h₂ => by rw [hsame]; exact h.absent a h₁ h₂⟩

theorem Shows.congr (h : Shows log st) {st' : RuntimeState} (hruntimes : st'.runtimes = st.runtimes)
    (hdormant : st'.dormantAccountStates = st.dormantAccountStates) : Shows log st' :=
  ⟨fun a rt hrt => h.live a rt (by rwa [hruntimes] at hrt),
    fun a entry h₁ h₂ => h.dormant a entry (by rwa [hruntimes] at h₁) (by rwa [hdormant] at h₂),
    fun a h₁ h₂ => h.absent a (by rwa [hruntimes] at h₁) (by rwa [hdormant] at h₂)⟩

/-- **A checkpoint keeps what the state shows.** -/
theorem Shows.kept (h : Shows log st) {journal : JournalState} (hlog : journal.log = log)
    (hcheckpoint : journal.checkpoint = some st.snapshot) (hrecords : journal.records = []) :
    Kept log journal := by
  have hentries : checkpointEntries journal = documentEntries st.snapshot := by
    rw [checkpointEntries, hcheckpoint]
  refine ⟨by rw [hlog, hrecords, List.map_nil, List.append_nil], fun entry hmem => ?_,
    fun accountId hnone => ?_⟩
  · rw [hentries] at hmem
    obtain ⟨accountId, htext, hget⟩ := mem_documentEntries_snapshot hmem
    refine ⟨accountId, htext, ?_⟩
    rw [accountStates_get?] at hget
    cases hrt : st.runtimes.get? accountId with
    | some rt =>
      rw [hrt, Option.map_some, Option.some_or, Option.some.injEq] at hget
      exact ⟨rt, hget.symm, h.live accountId rt hrt⟩
    | none =>
      rw [hrt] at hget
      exact h.dormant accountId entry.2 hrt hget
  · -- an account without an entry is neither configured nor dormant
    have hget : st.accountStates.get? accountId = none := by
      refine Option.eq_none_iff_forall_ne_some.mpr fun json hjson => ?_
      refine hnone (accountId.text, json) ?_ rfl
      rw [hentries, documentEntries_snapshot, List.mem_map]
      exact ⟨(accountId, json), (SortOn.perm _ _).mem_iff.mpr (Dict.mem_entries_iff.mpr hjson), rfl⟩
    rw [accountStates_get?, Option.or_eq_none_iff, Option.map_eq_none_iff] at hget
    exact h.absent accountId hget.1 hget.2

/-! ## Rebuilding -/

/-- What the entries restored so far show. -/
structure Restoring (before : List RecordBody) (entries : List (String × Json))
    (st : RuntimeState) : Prop where
  live : ∀ accountId rt, st.runtimes.get? accountId = some rt →
    (∃ entry ∈ entries, entry.1 = accountId.text) ∧ rt.circuitView = board before accountId ∨
      (∀ entry ∈ entries, entry.1 ≠ accountId.text) ∧ rt.circuitView = CircuitView.initial
  dormant : ∀ accountId entry, st.dormantAccountStates.get? accountId = some entry →
    EntryOf (board before accountId) entry
  absent : ∀ accountId, st.runtimes.get? accountId = none →
    st.dormantAccountStates.get? accountId = none → ∀ entry ∈ entries, entry.1 ≠ accountId.text

/-- One entry is restored, into its account or as a dormant one. -/
theorem Restoring.entry {before : List RecordBody} {entries : List (String × Json)}
    (h : Restoring before entries st) {accountId : AccountId} {json : Json}
    (hentry : EntryOf (board before accountId) json) {st' : RuntimeState}
    (hrestore : RuntimeState.restoreEntry cfg st (accountId.text, json) = .ok st') :
    Restoring before (entries ++ [(accountId.text, json)]) st' := by
  have hmem : ∀ other : AccountId, other ≠ accountId →
      ((∀ entry ∈ entries ++ [(accountId.text, json)], entry.1 ≠ other.text) ↔
        ∀ entry ∈ entries, entry.1 ≠ other.text) := by
    intro other hne
    have htext : accountId.text ≠ other.text := fun heq => hne (TypedId.ext heq.symm)
    simp only [List.forall_mem_append, List.forall_mem_singleton, and_iff_left htext]
  have hexists : ∀ other : AccountId, (∃ entry ∈ entries, entry.1 = other.text) →
      ∃ entry ∈ entries ++ [(accountId.text, json)], entry.1 = other.text :=
    fun _ ⟨entry, hin, heq⟩ => ⟨entry, List.mem_append_left _ hin, heq⟩
  obtain ⟨accountId', hread, hcases⟩ := restoreEntry_cases hrestore
  rw [RuntimeState.readAccountId_text] at hread
  cases hread
  rcases hcases with ⟨hnone, rfl⟩ | ⟨rt, rt', hrt, hrestored, rfl⟩
  · refine ⟨fun other rt hrt => ?_, fun other entry hget => ?_, fun other h₁ h₂ => ?_⟩
    · have hne : other ≠ accountId := by
        rintro rfl
        rw [show st.runtimes.get? other = some rt from hrt] at hnone
        cases hnone
      rw [hmem other hne]
      exact (h.live other rt hrt).imp_left fun ⟨hin, hview⟩ => ⟨hexists other hin, hview⟩
    · rw [Dict.get?_insert] at hget
      split at hget
      · next heq =>
        cases hget
        rw [heq]
        exact hentry
      · exact h.dormant other entry hget
    · rw [Dict.get?_insert] at h₂
      split at h₂
      · cases h₂
      · next hne => exact (hmem other hne).mpr (h.absent other h₁ h₂)
  · refine ⟨fun other rt'' hrt'' => ?_, h.dormant, fun other h₁ h₂ => ?_⟩
    · simp only [RuntimeState.setRuntime, Dict.get?_insert] at hrt''
      split at hrt''
      · next heq =>
        cases hrt''
        rw [heq]
        exact .inl ⟨⟨_, List.mem_append_right _ (List.mem_singleton_self _), rfl⟩,
          hentry.restore hrestored⟩
      · next hne =>
        rw [hmem other hne]
        exact (h.live other rt'' hrt'').imp_left fun ⟨hin, hview⟩ => ⟨hexists other hin, hview⟩
    · simp only [RuntimeState.setRuntime, Dict.get?_insert] at h₁
      split at h₁
      · cases h₁
      · next hne => exact (hmem other hne).mpr (h.absent other h₁ h₂)

/-- The account a replayed record acts on is the one it is about. -/
theorem about_of_recordAccountId {body : RecordBody} {accountId : AccountId}
    (h : st.recordAccountId body = .ok accountId) : body.About accountId := by
  cases body with
  | attemptReserved d => cases h; rfl
  | circuitUpdated => cases h; rfl
  | _ => trivial

/-- Replay of one record. -/
theorem Shows.replay (h : Shows log st) {record : JournalRecord} {st' : RuntimeState}
    (happly : st.applyRecord record = .ok st') : Shows (log ++ [record.body]) st' := by
  obtain ⟨hbody, hruntimes, hdormant⟩ | ⟨-, accountId, rt, rt', hid, hrt, hrt', rfl⟩ :=
    applyRecord_cases happly
  · exact (h.neutral hbody).congr hruntimes hdormant
  · have habout := about_of_recordAccountId hid
    exact h.record habout hrt (circuitView_applyRecord habout hrt')

/-- **A rebuilt state shows the whole log.** -/
theorem Kept.rebuilt {before : List RecordBody} {journal : JournalState} (h : Kept before journal)
    {clock : AccountId → Nat} {accounts : List ProviderAccount} {st : RuntimeState}
    (hst : rebuilt cfg clock accounts journal = .ok st) : Shows journal.log st := by
  obtain ⟨st₁, st₂, hentries, hruntimes, hdormant, hrecords⟩ := rebuilt_cases hst
  have hinit : Restoring before [] (configured clock accounts) := by
    refine ⟨fun accountId rt hrt => ?_, fun _ _ hget => (by cases hget),
      fun _ _ _ _ hmem => (by cases hmem)⟩
    obtain ⟨account, -, -, rfl⟩ := get?_configured hrt
    exact .inr ⟨fun _ hmem => (by cases hmem), circuitView_fresh _ _⟩
  have hrestored : Restoring before (checkpointEntries journal) st₁ := by
    refine foldlM_invariant (I := Restoring before) ?_ hentries hinit
    rintro taken ⟨text, json⟩ rest heq st st' hrestore hst
    obtain ⟨accountId, rfl, hentry⟩ := h.entries (text, json) (by rw [heq]; simp)
    exact hst.entry hentry hrestore
  -- an account without an entry shows the empty board, which is what the records before it show
  have hbefore : Shows before st₁ := by
    refine ⟨fun accountId rt hrt => ?_, fun accountId entry _ => hrestored.dormant accountId entry,
      fun accountId h₁ h₂ => h.absent accountId (hrestored.absent accountId h₁ h₂)⟩
    rcases hrestored.live accountId rt hrt with ⟨-, hview⟩ | ⟨hnone, hview⟩
    · exact hview
    · rw [hview, h.absent accountId hnone]
  rw [h.log]
  refine foldlM_invariant (I := fun taken st => Shows (before ++ taken.map JournalRecord.body) st)
    ?_ hrecords ?_
  · intro taken record rest _ st st' happly hst
    rw [List.map_append, ← List.append_assoc]
    exact hst.replay happly
  · rw [List.map_nil, List.append_nil]
    exact hbefore.congr hruntimes hdormant

end

/-! ## Steps -/

/-- A world whose process and whose checkpoint show the records written. -/
structure Mirrored (w : World) : Prop where
  lawful : Grows [] w.journal.log
  shown : Shows w.journal.log w.state
  kept : ∃ before, Kept before w.journal
  keyed : Keyed w.state

/-- The accounts to publish are configured, unknown, or can be restored. -/
def Revivable (cfg : RuntimeConfig) (published : List ProviderAccount) (st : RuntimeState) : Prop :=
  ∀ account ∈ published, st.runtimes.get? account.accountId = none →
    ∀ entry, st.dormantAccountStates.get? account.accountId = some entry → Restorable cfg entry

section

variable {cfg : RuntimeConfig} {published : List ProviderAccount} {w w' : World}
  {accountId : AccountId} {rt mid : AccountRuntime} {body : RecordBody}

@[simp] theorem log_written (cfg : RuntimeConfig) (w : World) (body : RecordBody) :
    (w.written cfg body).journal.log = w.journal.log ++ [body] := by
  simp only [JournalState.log, written, List.map_append, List.map_cons, List.map_nil, nextRecord]

theorem kept_written (h : ∃ before, Kept before w.journal) (cfg : RuntimeConfig)
    (body : RecordBody) : ∃ before, Kept before (w.written cfg body).journal := by
  obtain ⟨before, hkept⟩ := h
  refine ⟨before, ?_, hkept.entries, hkept.absent⟩
  rw [log_written, hkept.log, List.append_assoc]
  simp only [written, List.map_append, List.map_cons, List.map_nil, nextRecord]

/-- **A record that may be written, and its effect.** -/
theorem Mirrored.effect (cfg : RuntimeConfig) (h : Mirrored w)
    (hrt : w.state.runtimes.get? accountId = some rt) (hidle : Idle rt mid)
    (habout : body.About accountId) (hallowed : Allowed w.journal.log body) :
    Mirrored (w.effected cfg accountId mid body) ∧
      Appends w.journal.log (w.effected cfg accountId mid body).journal.log := by
  have hlog : (w.effected cfg accountId mid body).journal.log = w.journal.log ++ [body] :=
    log_written cfg w body
  have happends : Appends w.journal.log (w.effected cfg accountId mid body).journal.log := by
    rw [hlog]
    exact .record hallowed
  refine ⟨⟨h.lawful.tail happends, ?_, kept_written h.kept cfg body, h.keyed.setRuntime ?_⟩,
    happends⟩
  · rw [hlog]
    refine h.shown.record habout hrt ?_
    rw [circuitView_take habout, hidle.circuitView]
  · rw [take_account, hidle.account]
    exact h.keyed accountId rt hrt

/-- The runtime of an account is replaced by one with the same circuits. -/
theorem Mirrored.setRuntime (h : Mirrored w) (hview : rt.circuitView = board w.journal.log accountId)
    (haccount : rt.account.accountId = accountId) : Mirrored (w.setRuntime accountId rt) :=
  ⟨h.lawful, h.shown.setRuntime hview, h.kept, h.keyed.setRuntime haccount⟩

/-- A checkpoint shows what the process shows. -/
theorem Mirrored.checkpointed (h : Mirrored w) : Mirrored w.checkpointed :=
  ⟨h.lawful, h.shown, ⟨w.journal.log, h.shown.kept rfl rfl rfl⟩, h.keyed⟩

theorem circuitView_updateAccount {rt rt' : AccountRuntime} {clock : Nat}
    {account : ProviderAccount} (h : rt.updateAccount clock account = .ok rt') :
    rt'.circuitView = rt.circuitView := by
  unfold updateAccount at h
  split at h
  · cases h
  · cases h
    exact circuitView_eq (by simp [tick]) (by simp [tick]) (by simp [tick])

/-- **Administrative steps write no circuit.** A dormant entry that is brought back shows what its
account showed. -/
theorem Mirrored.admin (hstep : Admin cfg published w w') (h : Mirrored w)
    (hrevivable : Revivable cfg published w.state) :
    Mirrored w' ∧ Grows w.journal.log w'.journal.log := by
  have hkeyed : Keyed w'.state := Keyed.step (Step.admin hstep : Step cfg published Recovers w w') h.keyed
  cases hstep with
  | @idle accountId rt rt' hrt hidle =>
    refine ⟨⟨h.lawful, h.shown.setRuntime ?_, h.kept, hkeyed⟩, .refl⟩
    rw [hidle.circuitView]
    exact h.shown.live _ _ hrt
  | @registered body hbody hpayload =>
    have hallowed : Allowed w.journal.log body := by
      cases body with
      | accountRegistered => trivial
      | _ => cases hbody
    have happends : Appends w.journal.log (w.written cfg body).journal.log := by
      rw [log_written]
      exact .record hallowed
    refine ⟨⟨h.lawful.tail happends, ?_, kept_written h.kept cfg body, hkeyed⟩, .single happends⟩
    rw [log_written]
    exact h.shown.neutral hbody
  | histories hruntimes hdormant =>
    exact ⟨⟨h.lawful, h.shown.congr hruntimes hdormant, h.kept, hkeyed⟩, .refl⟩
  | updated _ hrt hupdate =>
    refine ⟨⟨h.lawful, h.shown.setRuntime ?_, h.kept, hkeyed⟩, .refl⟩
    rw [circuitView_updateAccount hupdate]
    exact h.shown.live _ _ hrt
  | built _ hrt hdormant =>
    refine ⟨⟨h.lawful, h.shown.setRuntime ?_, h.kept, hkeyed⟩, .refl⟩
    rw [circuitView_fresh, h.shown.absent _ hrt hdormant]
  | @revived account clock entry rt hmem hrt hdormant hrestore =>
    have hset := h.shown.setRuntime
      ((h.shown.dormant account.accountId entry hrt hdormant).restore hrestore)
    refine ⟨⟨h.lawful, ⟨hset.live, fun other json h₁ h₂ => ?_, fun other h₁ h₂ => ?_⟩, h.kept, hkeyed⟩,
      .refl⟩
    · rw [Dict.get?_erase] at h₂
      split at h₂
      · cases h₂
      · exact hset.dormant other json h₁ h₂
    · rw [Dict.get?_erase] at h₂
      split at h₂
      · next heq =>
        simp only [heq, Dict.get?_insert_self] at h₁
        cases h₁
      · exact hset.absent other h₁ h₂
  | @dropped account clock entry e hmem hrt hdormant hrestore =>
    -- the entry can be restored
    obtain ⟨rt, hok⟩ := (h.shown.dormant account.accountId entry hrt hdormant).restorable
      (hrevivable account hmem hrt entry hdormant) (AccountRuntime.fresh account clock)
    rw [hok] at hrestore
    cases hrestore
  | checkpointed => exact ⟨h.checkpointed, .refl⟩

/-- Accounts stay configured, and no step makes an entry dormant. -/
theorem World.Step.shrinks {guard : RecordGuard} (hstep : Step cfg published guard w w') :
    (∀ a, w'.state.runtimes.get? a = none → w.state.runtimes.get? a = none) ∧
      ∀ a entry, w'.state.dormantAccountStates.get? a = some entry →
        w.state.dormantAccountStates.get? a = some entry := by
  have hset : ∀ (w : World) (accountId : AccountId) (rt : AccountRuntime) (a : AccountId),
      (w.state.runtimes.insert accountId rt).get? a = none → w.state.runtimes.get? a = none := by
    intro w accountId rt a hnone
    rw [Dict.get?_insert] at hnone
    split at hnone
    · cases hnone
    · exact hnone
  have herase : ∀ (w : World) (accountId a : AccountId) (entry : Json),
      (w.state.dormantAccountStates.erase accountId).get? a = some entry →
        w.state.dormantAccountStates.get? a = some entry := by
    intro w accountId a entry hget
    rw [Dict.get?_erase] at hget
    split at hget
    · cases hget
    · exact hget
  cases hstep with
  | effect => exact ⟨hset w _ _, fun _ _ hget => hget⟩
  | admin hadmin =>
    cases hadmin with
    | idle => exact ⟨hset w _ _, fun _ _ hget => hget⟩
    | registered => exact ⟨fun _ hnone => hnone, fun _ _ hget => hget⟩
    | histories hruntimes hdormant =>
      exact ⟨fun a hnone => by rwa [hruntimes] at hnone, fun a e hget => by rwa [hdormant] at hget⟩
    | updated => exact ⟨hset w _ _, fun _ _ hget => hget⟩
    | built => exact ⟨hset w _ _, fun _ _ hget => hget⟩
    | revived => exact ⟨hset w _ _, herase w _⟩
    | dropped => exact ⟨fun _ hnone => hnone, herase w _⟩
    | checkpointed => exact ⟨fun _ hnone => hnone, fun _ _ hget => hget⟩

theorem Revivable.step {guard : RecordGuard} (hstep : Step cfg published guard w w')
    (h : Revivable cfg published w.state) : Revivable cfg published w'.state :=
  fun account hmem hnone entry hget =>
    h account hmem (hstep.shrinks.1 _ hnone) entry (hstep.shrinks.2 _ _ hget)

/-- The records of recovery may be written. -/
theorem Mirrored.recovers (h : Mirrored w) (hrt : w.state.runtimes.get? accountId = some rt)
    (hguard : Recovers rt mid body) : body.About accountId ∧ Allowed w.journal.log body := by
  cases body with
  | attemptReserved => exact hguard.elim
  | circuitUpdated other scope value =>
    obtain ⟨rfl, hopened, hepoch⟩ := hguard
    have haccount := h.keyed accountId rt hrt
    refine ⟨haccount, .opens hopened ?_, fun p hp => ?_⟩
    · rw [hepoch, haccount, ← h.shown.live accountId rt hrt]
      rfl
    · rw [value.state_fields_match.2.1 hopened] at hp
      cases hp
  | _ => exact ⟨trivial, trivial⟩

/-- What holds after any number of steps from `w₀`. -/
structure Follows (cfg : RuntimeConfig) (published : List ProviderAccount) (w₀ w : World) : Prop where
  mirrored : Mirrored w
  grows : Grows w₀.journal.log w.journal.log
  revivable : Revivable cfg published w.state

theorem Follows.step {w₀ : World} (hstep : Step cfg published Recovers w w')
    (h : Follows cfg published w₀ w) : Follows cfg published w₀ w' := by
  have hrevivable := h.revivable.step hstep
  cases hstep with
  | admin hadmin =>
    obtain ⟨hmirrored, hgrows⟩ := h.mirrored.admin hadmin h.revivable
    exact ⟨hmirrored, h.grows.trans hgrows, hrevivable⟩
  | effect hrt hidle hguard hpayload =>
    obtain ⟨habout, hallowed⟩ := h.mirrored.recovers hrt hguard
    obtain ⟨hmirrored, happends⟩ := h.mirrored.effect cfg hrt hidle habout hallowed
    exact ⟨hmirrored, h.grows.tail happends, hrevivable⟩

/-- A publication that can restore what it brings back. -/
theorem Mirrored.publication (h : Mirrored w) (clock : AccountId → Nat)
    {accounts : List ProviderAccount} (hrevivable : Revivable cfg accounts w.state) :
    Mirrored (applyPublication cfg clock accounts w).1 ∧
      Grows w.journal.log (applyPublication cfg clock accounts w).1.journal.log := by
  cases hplan : planPublication cfg w.state accounts with
  | error e =>
    simp only [applyPublication, hplan]
    exact ⟨h, .refl⟩
  | ok plan =>
    obtain ⟨hvalid, -, -, hleft⟩ := planPublication_eq_ok hplan
    have hplanned : Revivable cfg (plan.accounts ++ plan.left) w.state := by
      intro account hmem hnone entry hentry
      rcases List.mem_append.mp hmem with hpublished | homitted
      · obtain ⟨a₀, ha₀, hvalid₀⟩ := exists_of_mem_mapM hvalid hpublished
        rw [accountId_of_validate hvalid₀] at hnone hentry
        exact hrevivable a₀ ha₀ hnone entry hentry
      · obtain ⟨rt, hrt⟩ := configured_of_omitted h.keyed hleft homitted
        rw [hrt] at hnone
        cases hnone
    have hend := (runs_applyPublication clock hplan).keeps
      (P := Follows cfg (plan.accounts ++ plan.left) w)
      (fun _ _ hstep hw => Follows.step (Step.admin hstep) hw) ⟨h, .refl, hplanned⟩
    exact ⟨hend.mirrored, hend.grows⟩

/-- **A start shows the records of every process before it.** -/
theorem Mirrored.start (h : Mirrored w) (clock : StartClock) (accounts : List ProviderAccount) :
    Mirrored (World.start cfg clock accounts w).1 ∧
      Grows w.journal.log (World.start cfg clock accounts w).1.journal.log := by
  rcases start_cases cfg clock accounts w with
    ⟨e, herr⟩ | ⟨validated, st, published, -, hst, hconfigured, hruns⟩
  · rw [herr]
    exact ⟨h, .refl⟩
  · obtain ⟨before, hkept⟩ := h.kept
    have hrebuilt : Mirrored { w with state := st } :=
      ⟨h.lawful, hkept.rebuilt hst, ⟨before, hkept⟩, Keyed.rebuilt hst⟩
    have hrevivable : Revivable cfg published st := by
      intro account hmem hnone
      obtain ⟨rt, hrt⟩ := hconfigured account hmem
      rw [hrt] at hnone
      cases hnone
    have hend := hruns.keeps (P := Follows cfg published { w with state := st })
      (fun _ _ hstep hw => Follows.step hstep hw) ⟨hrebuilt, .refl, hrevivable⟩
    exact ⟨hend.mirrored, hend.grows⟩

/-! ## Calls -/

/-- Only a swap asks for a circuit record, and it expects the current value. -/
theorem asks_circuitUpdated {c : AccountCall} {other : AccountId}
    {scope : Option DeploymentGenerationId} {value : CircuitValue}
    (h : rt.asks cfg c = some (.circuitUpdated other scope value)) :
    ∃ expected, c = .swapCircuit scope expected value ∧ expected = rt.scopedCircuit scope := by
  cases c with
  | reserve status clock request =>
    obtain ⟨-, hbody, -⟩ := reserve_journaled cfg rt h
    cases hbody
  | swapCircuit scope' expected replacement =>
    simp only [asks] at h
    split at h
    · next hguard =>
      cases h
      exact ⟨expected, rfl, hguard.1.symm⟩
    · cases h
  | capacity => cases h
  | dispatch | finish | activeCount | beginProbe | finishProbe =>
    simp only [asks] at h
    repeat' split at h
    all_goals cases h

/-- The circuits an admitted reservation has passed: none is open, and its record names their
probes, which were not consumed. -/
theorem AccountRuntime.Admits.circuits {status : JournalStatus} {clock : Nat}
    {request : ReservationRequest} (h : rt.Admits cfg status clock request) :
    request.accountId = rt.account.accountId ∧ rt.accountCircuit.state ≠ .opened ∧
      (rt.circuitValue request.deploymentGenerationId).state ≠ .opened ∧
      (rt.admittedRecord cfg clock request).probes =
        [rt.accountCircuit.probeId,
          (rt.circuitValue request.deploymentGenerationId).probeId].filterMap id ∧
      ∀ p ∈ (rt.admittedRecord cfg clock request).probes,
        rt.consumedCircuitProbes.contains p = false := by
  have hentry := h.entry
  simp only [checkEntry, bind_eq_ok_iff, require_eq_ok_iff, exists_unit_and_iff] at hentry
  obtain ⟨-, -, -, -, -, haccount, hcircuit, hgeneration, hconsumed⟩ :=
    checkRequest_eq_ok_iff.mp h.checked
  have hidle := idle_pruned cfg rt clock
  have hvalue : (rt.pruned cfg clock).circuitValue request.deploymentGenerationId =
      rt.circuitValue request.deploymentGenerationId := by
    simp only [circuitValue, hidle.circuits]
  rw [hidle.accountCircuit] at haccount
  rw [hvalue] at hcircuit hgeneration
  have hprobes : (rt.admittedRecord cfg clock request).probes =
      [rt.accountCircuit.probeId,
        (rt.circuitValue request.deploymentGenerationId).probeId].filterMap id := by
    simp only [DurableReservation.probes, admittedRecord, durableReservation, ← hcircuit,
      CircuitValue.halfOpenProbe_eq, (idle_prepared cfg rt clock).accountCircuit]
  refine ⟨hentry.2.2.1, haccount, hgeneration, hprobes, fun p hp => ?_⟩
  rw [hprobes] at hp
  rw [Dict.contains_eq_false_iff, ← hidle.consumed]
  refine hconsumed p ?_
  simpa only [probeIds, CircuitValue.halfOpenProbe_eq, hidle.accountCircuit, hvalue] using hp

/-- A journaled reservation may be written. -/
theorem Mirrored.reserves (h : Mirrored w) (hrt : w.state.runtimes.get? accountId = some rt)
    {d : DurableReservation} (hguard : Guarded cfg rt mid (.attemptReserved d)) :
    d.accountId = accountId ∧ Allowed w.journal.log (.attemptReserved d) := by
  obtain ⟨status, clock, request, hadmits, rfl, -⟩ := hguard
  obtain ⟨haccount, -, -, hprobes, hconsumed⟩ := hadmits.circuits
  have hid : (rt.admittedRecord cfg clock request).accountId = accountId := by
    show request.accountId = accountId
    rw [haccount]
    exact h.keyed accountId rt hrt
  have hview := h.shown.live accountId rt hrt
  refine ⟨hid, fun p hp => ?_⟩
  rw [hid, ← hview]
  refine ⟨?_, hconsumed p hp⟩
  rw [hprobes] at hp
  simp only [List.mem_filterMap, List.mem_cons, List.not_mem_nil, or_false, id_eq] at hp
  obtain ⟨probe, rfl | rfl, hp⟩ := hp
  · exact ⟨none, hp⟩
  · exact ⟨some request.deploymentGenerationId, hp⟩

/-- **A call writes a record that may be written**, if a swap it asks for is a change with a new
probe. -/
theorem Mirrored.call (h : Mirrored w) (accountId : AccountId) (c : AccountCall)
    (hswap : ∀ scope expected replacement, c = .swapCircuit scope expected replacement →
      Change expected replacement ∧
        ∀ p, replacement.probeId = some p → Unissued w.journal.log p) :
    Mirrored (w.accountCall cfg accountId c).1 ∧
      Grows w.journal.log (w.accountCall cfg accountId c).1.journal.log := by
  cases hrt : w.state.runtimes.get? accountId with
  | none =>
    have hsame : (w.accountCall cfg accountId c).1 = w := by simp only [accountCall, hrt]
    rw [hsame]
    exact ⟨h, .refl⟩
  | some rt =>
    rcases accountCall_cases cfg hrt c with
      ⟨rt', hidle, -, hw, -⟩ | ⟨body, mid, hasks, -, hidle, hguard, hpayload, hw⟩
    · rw [hw]
      refine ⟨h.setRuntime ?_ ?_, .refl⟩
      · rw [hidle.circuitView]
        exact h.shown.live accountId rt hrt
      · rw [hidle.account]
        exact h.keyed accountId rt hrt
    · have hbody : body.About accountId ∧ Allowed w.journal.log body := by
        cases body with
        | attemptReserved d => exact h.reserves hrt hguard
        | circuitUpdated other scope value =>
          obtain ⟨rfl, -⟩ := hguard
          have haccount := h.keyed accountId rt hrt
          obtain ⟨expected, rfl, rfl⟩ := asks_circuitUpdated hasks
          obtain ⟨hchange, hfresh⟩ := hswap scope _ value rfl
          refine ⟨haccount, ?_, hfresh⟩
          rw [haccount, ← h.shown.live accountId rt hrt]
          exact hchange
        | _ => exact ⟨trivial, trivial⟩
      obtain ⟨hmirrored, happends⟩ := h.effect cfg hrt hidle hbody.1 hbody.2
      rcases hw with hw | ⟨hsafe, hw⟩
      · rw [hw]
        exact ⟨hmirrored, .single happends⟩
      · rw [hw]
        exact ⟨hmirrored.checkpointed, .single happends⟩

end

end LlmMaxxing
