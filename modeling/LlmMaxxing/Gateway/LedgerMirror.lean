import LlmMaxxing.Gateway.AttemptLog
import LlmMaxxing.Gateway.Service

/-!
# The ledger of a process and of its journal

Every process shows its attempts as the records say (`Backed`), and so does every checkpoint
entry (`Ledgered`). Each ledger row of a process can be read back: its attempt is in the ledger of
the newest checkpoint, or its report is in the tail (`Recoverable`). A start therefore finds every
row the process before it had.
-/

namespace LlmMaxxing

open Check AccountRuntime Snapshot Fallible World

/-! ## Checkpoint entries -/

/-- A checkpoint entry that shows its account as the records say. -/
def EntryBacked (log : List JournalRecord) (accountId : AccountId) (entry : Json) : Prop :=
  ∃ rt : AccountRuntime, entry = rt.snapshotState ∧ Backed log accountId rt

/-- A checkpoint entry with an attempt in its ledger. -/
def EntryLists (entry : Json) (id : String) : Prop :=
  ∃ rt : AccountRuntime, entry = rt.snapshotState ∧ (rt.resolutions.get? id).isSome = true

/-- The ledger row of an attempt can be read back. -/
def Recoverable (journal : JournalState) (accountId : AccountId) (id : String) : Prop :=
  (∃ record ∈ journal.records, ∃ r, record.Settles id r) ∨
    ∃ entry ∈ checkpointEntries journal, entry.1 = accountId.text ∧ EntryLists entry.2 id

/-- What is known of the attempts over a journal. -/
structure Ledgered (cfg : RuntimeConfig) (w : World) : Prop where
  keyed : Keyed w.state
  lawful : LawfulLog cfg w.journal.history
  live : ∀ accountId rt, w.state.runtimes.get? accountId = some rt →
    Backed w.journal.history accountId rt ∧
      ∀ id, (rt.resolutions.get? id).isSome = true → Recoverable w.journal accountId id
  dormant : ∀ accountId entry, w.state.runtimes.get? accountId = none →
    w.state.dormantAccountStates.get? accountId = some entry →
    EntryBacked w.journal.history accountId entry ∧
      ∀ id, EntryLists entry id → Recoverable w.journal accountId id
  kept : ∃ before, w.journal.history = before ++ w.journal.records ∧
    ∀ entry ∈ checkpointEntries w.journal, ∃ accountId, entry.1 = accountId.text ∧
      EntryBacked before accountId entry.2
  distinct : ((checkpointEntries w.journal).map Prod.fst).Nodup

section

variable {cfg : RuntimeConfig} {log : List JournalRecord} {accountId : AccountId} {id : String}
  {w w' : World} {rt mid : AccountRuntime} {entry : Json}

theorem EntryBacked.restore (h : EntryBacked log accountId entry) {base rt : AccountRuntime}
    (hrestore : base.restoreSnapshotState cfg entry = .ok rt) : Backed log accountId rt := by
  obtain ⟨rt₀, rfl, hrt₀⟩ := h
  rw [restore_snapshotState] at hrestore
  split at hrestore
  · cases hrestore
    have hsame := restored_same base rt₀
    exact hrt₀.congr hsame.attempts hsame.starts hsame.resolutions
  · cases hrestore

/-- What an entry lists is what is restored from it. -/
theorem entryLists_iff_restored {base rt : AccountRuntime}
    (hrestore : base.restoreSnapshotState cfg entry = .ok rt)
    (hentry : ∃ rt₀ : AccountRuntime, entry = rt₀.snapshotState) :
    EntryLists entry id ↔ (rt.resolutions.get? id).isSome = true := by
  have hback : ∀ rt₀ : AccountRuntime, entry = rt₀.snapshotState →
      rt.resolutions.get? id = rt₀.resolutions.get? id := by
    rintro rt₀ rfl
    rw [restore_snapshotState] at hrestore
    split at hrestore
    · cases hrestore
      exact (restored_same base rt₀).resolutions id
    · cases hrestore
  constructor
  · rintro ⟨rt₀, hrt₀, hlisted⟩
    rwa [hback rt₀ hrt₀]
  · intro hlisted
    obtain ⟨rt₀, hrt₀⟩ := hentry
    exact ⟨rt₀, hrt₀, by rwa [← hback rt₀ hrt₀]⟩

/-! ## Steps without a record -/

/-- The runtime of an account is replaced by one that shows the same records. -/
theorem Ledgered.setRuntime (h : Ledgered cfg w) (haccount : rt.account.accountId = accountId)
    (hrt : Backed w.journal.history accountId rt)
    (hrows : ∀ id, (rt.resolutions.get? id).isSome = true → Recoverable w.journal accountId id) :
    Ledgered cfg (w.setRuntime accountId rt) := by
  refine ⟨h.keyed.setRuntime haccount, h.lawful, fun other rt' hrt' => ?_,
    fun other entry hnone => ?_, h.kept, h.distinct⟩
  · have hrt' : (w.state.runtimes.insert accountId rt).get? other = some rt' := hrt'
    rw [Dict.get?_insert] at hrt'
    split at hrt'
    · next heq =>
      cases hrt'
      rw [heq]
      exact ⟨hrt, hrows⟩
    · exact h.live other rt' hrt'
  · have hnone : (w.state.runtimes.insert accountId rt).get? other = none := hnone
    rw [Dict.get?_insert] at hnone
    split at hnone
    · cases hnone
    · exact h.dormant other entry hnone

/-- The states differ in nothing about attempts. -/
theorem Ledgered.congr (h : Ledgered cfg w) {st : RuntimeState}
    (hruntimes : st.runtimes = w.state.runtimes)
    (hdormant : ∀ a entry, st.dormantAccountStates.get? a = some entry →
      w.state.dormantAccountStates.get? a = some entry) :
    Ledgered cfg { w with state := st } := by
  refine ⟨fun a rt hrt => h.keyed a rt (hruntimes ▸ hrt), h.lawful,
    fun a rt hrt => h.live a rt (hruntimes ▸ hrt), fun a entry hnone hentry => ?_, h.kept, h.distinct⟩
  exact h.dormant a entry (hruntimes ▸ hnone) (hdormant a entry hentry)

theorem resolutions_updateAccount {rt rt' : AccountRuntime} {clock : Nat}
    {account : ProviderAccount} (h : rt.updateAccount clock account = .ok rt') :
    rt'.attempts = rt.attempts ∧ rt'.starts = rt.starts ∧ rt'.resolutions = rt.resolutions := by
  unfold updateAccount at h
  split at h
  · cases h
  · cases h
    exact ⟨by simp [tick], by simp [tick], by simp [tick]⟩

/-- **A checkpoint lists every row of the process.** -/
theorem Ledgered.checkpointed (h : Ledgered cfg w) : Ledgered cfg w.checkpointed := by
  have hentries : checkpointEntries w.checkpointed.journal = documentEntries w.state.snapshot := rfl
  have hmem : ∀ a entry, w.state.accountStates.get? a = some entry →
      (a.text, entry) ∈ checkpointEntries w.checkpointed.journal := by
    intro a entry hget
    rw [hentries, documentEntries_snapshot, List.mem_map]
    exact ⟨(a, entry), (SortOn.perm _ _).mem_iff.mpr (Dict.mem_entries_iff.mpr hget), rfl⟩
  refine ⟨h.keyed, h.lawful, fun a rt hrt => ⟨(h.live a rt hrt).1, fun id hid => ?_⟩,
    fun a entry hnone hentry => ⟨(h.dormant a entry hnone hentry).1, fun id hid => ?_⟩,
    ⟨w.journal.history, ?_, fun entry hentry => ?_⟩, ?_⟩
  · refine .inr ⟨(a.text, rt.snapshotState), hmem a _ ?_, rfl, rt, rfl, hid⟩
    rw [accountStates_get?, show w.state.runtimes.get? a = some rt from hrt]
    rfl
  · refine .inr ⟨(a.text, entry), hmem a _ ?_, rfl, hid⟩
    rw [accountStates_get?, show w.state.runtimes.get? a = none from hnone]
    exact hentry
  · exact (List.append_nil _).symm
  · rw [hentries] at hentry
    obtain ⟨a, htext, hget⟩ := mem_documentEntries_snapshot hentry
    refine ⟨a, htext, ?_⟩
    rw [accountStates_get?] at hget
    cases hrt : w.state.runtimes.get? a with
    | some rt =>
      rw [hrt, Option.map_some, Option.some_or, Option.some.injEq] at hget
      exact ⟨rt, hget.symm, (h.live a rt hrt).1⟩
    | none =>
      rw [hrt] at hget
      exact (h.dormant a entry.2 hrt hget).1
  · rw [hentries, documentEntries_snapshot, List.map_map]
    have hperm := (SortOn.perm (fun q : AccountId × Json => q.1.text)
      w.state.accountStates.entries).map fun q => q.1.text
    refine (hperm.nodup_iff).mpr ?_
    have hkeys := w.state.accountStates.nodup
    rw [show (w.state.accountStates.entries.map fun q => q.1.text) =
      (w.state.accountStates.entries.map Prod.fst).map TypedId.text by rw [List.map_map]; rfl]
    exact hkeys.map fun a b heq => TypedId.ext heq

/-! ## Records -/

theorem Recoverable.written (h : Recoverable w.journal accountId id) (cfg : RuntimeConfig)
    (body : RecordBody) : Recoverable (w.written cfg body).journal accountId id := by
  rcases h with ⟨record, hmem, hsettles⟩ | hlisted
  · exact .inl ⟨record, List.mem_append_left _ hmem, hsettles⟩
  · exact .inr hlisted

/-- A record that is written, if every account shows it. -/
theorem Ledgered.written (h : Ledgered cfg w) {body : RecordBody}
    (hpermitted : Permitted cfg w.journal.history body)
    (hshown : ∀ a rt, Backed w.journal.history a rt →
      Backed (w.journal.history ++ [w.nextRecord cfg body]) a rt) :
    Ledgered cfg (w.written cfg body) := by
  obtain ⟨before, hhistory, hentries⟩ := h.kept
  refine ⟨h.keyed, h.lawful.snoc hpermitted, fun a rt hrt => ?_, fun a entry hnone hentry => ?_,
    ⟨before, ?_, hentries⟩, h.distinct⟩
  · obtain ⟨hbacked, hrows⟩ := h.live a rt hrt
    exact ⟨hshown a rt hbacked, fun id hid => (hrows id hid).written cfg body⟩
  · obtain ⟨⟨rt, heq, hbacked⟩, hrows⟩ := h.dormant a entry hnone hentry
    exact ⟨⟨rt, heq, hshown a rt hbacked⟩, fun id hid => (hrows id hid).written cfg body⟩
  · show w.journal.history ++ _ = before ++ (w.journal.records ++ _)
    rw [hhistory, List.append_assoc]

theorem AccountRuntime.endRecoveryProbe_resolutions (rt : AccountRuntime) (classification : ProbeClassification) :
    (rt.endRecoveryProbe classification).resolutions = rt.resolutions := by
  rcases endRecoveryProbe_cases rt classification with heq | heq | ⟨oldest, heq⟩ <;> rw [heq]

/-- A record puts no attempt into the ledger but the one it reports on. -/
theorem resolutions_take (rt : AccountRuntime) (receipt : JournalReceipt) (body : RecordBody)
    (h : ((rt.take receipt body).resolutions.get? id).isSome = true) :
    (rt.resolutions.get? id).isSome = true ∨
      ∃ r digest time, body = .attemptResolved id r digest time := by
  cases body with
  | attemptResolved id' r digest time =>
    by_cases heq : id = id'
    · subst heq
      exact .inr ⟨r, digest, time, rfl⟩
    · refine .inl ?_
      simp only [AccountRuntime.take] at h
      split at h
      · rwa [resolve, Dict.get?_insert_of_ne _ _ heq] at h
      · exact h
  | circuitUpdated other scope value => cases scope <;> exact .inl h
  | recoveryProbeFinished other probeId classification =>
    refine .inl ?_
    rwa [AccountRuntime.take, endRecoveryProbe_resolutions] at h
  | _ => exact .inl h

/-- **A record of a live process and its effect.** -/
theorem Ledgered.effect (h : Ledgered cfg w) (hrt : w.state.runtimes.get? accountId = some rt)
    (hidle : Idle rt mid) {body : RecordBody} (hpermitted : Permitted cfg w.journal.history body)
    (hown : Backed.Own accountId mid body) : Ledgered cfg (w.effected cfg accountId mid body) := by
  obtain ⟨hbacked, hrows⟩ := h.live accountId rt hrt
  have hmid := hbacked.idle hidle
  obtain ⟨before, hhistory, hentries⟩ := h.kept
  have htaken : Backed (w.journal.history ++ [w.nextRecord cfg body]) accountId
      (mid.take (w.nextRecord cfg body).receipt (w.nextRecord cfg body).body) :=
    hmid.take h.lawful hpermitted hown
  -- the attempt of a report is one of this account
  have hreserved : ∀ id r, (w.nextRecord cfg body).Settles id r →
      ∃ d, Reserves w.journal.history accountId id d := by
    rintro id r ⟨digest, time, hbody⟩
    rw [show body = .attemptResolved id r digest time from hbody] at hown
    obtain ⟨-, a, ha⟩ := hown
    obtain ⟨⟨d, hd, -⟩, -⟩ := (hmid id).held a ha
    exact ⟨d, hd⟩
  have hkeyed : Keyed (w.effected cfg accountId mid body).state := by
    refine h.keyed.setRuntime ?_
    rw [take_account, hidle.account]
    exact h.keyed accountId rt hrt
  refine ⟨hkeyed, h.lawful.snoc hpermitted, fun a rt' hrt' => ?_, fun a entry hnone hentry => ?_,
    ⟨before, ?_, hentries⟩, h.distinct⟩
  · have hrt' : (w.state.runtimes.insert accountId _).get? a = some rt' := hrt'
    rw [Dict.get?_insert] at hrt'
    split at hrt'
    · next heq =>
      cases hrt'
      subst heq
      refine ⟨htaken, fun id hid => ?_⟩
      rcases resolutions_take mid _ body hid with hold | ⟨r, digest, time, hbody⟩
      · refine (hrows id ?_).written cfg body
        obtain ⟨e, he⟩ := Option.isSome_iff_exists.mp hold
        rw [hidle.resolutions_old he]
        rfl
      · exact .inl ⟨_, List.mem_append_right _ (List.mem_singleton_self _), r, digest, time, hbody⟩
    · next hne =>
      obtain ⟨hother, hrows'⟩ := h.live a rt' hrt'
      exact ⟨hother.elsewhere h.lawful hne hreserved, fun id hid => (hrows' id hid).written cfg body⟩
  · have hnone : (w.state.runtimes.insert accountId _).get? a = none := hnone
    rw [Dict.get?_insert] at hnone
    split at hnone
    · cases hnone
    · next hne =>
      obtain ⟨⟨rt', heq, hother⟩, hrows'⟩ := h.dormant a entry hnone hentry
      exact ⟨⟨rt', heq, hother.elsewhere h.lawful hne hreserved⟩,
        fun id hid => (hrows' id hid).written cfg body⟩
  · show w.journal.history ++ _ = before ++ (w.journal.records ++ _)
    rw [hhistory, List.append_assoc]

/-- **Administrative steps keep the ledgers.** -/
theorem Ledgered.admin {published : List ProviderAccount} (h : Ledgered cfg w)
    (hstep : Admin cfg published w w') : Ledgered cfg w' := by
  have hkeyed : Keyed w'.state := h.keyed.step (Step.admin hstep : Step cfg published Recovers w w')
  cases hstep with
  | @idle accountId rt rt' hrt hidle =>
    obtain ⟨hbacked, hrows⟩ := h.live accountId rt hrt
    refine h.setRuntime ?_ (hbacked.idle hidle) fun id hid => hrows id ?_
    · rw [hidle.account]
      exact h.keyed accountId rt hrt
    · obtain ⟨e, he⟩ := Option.isSome_iff_exists.mp hid
      rw [hidle.resolutions_old he]
      rfl
  | @registered body hbody hpayload =>
    refine h.written (by cases body <;> trivial) fun a rt hbacked => ?_
    refine hbacked.neutral fun id r digest time heq => ?_
    rw [show body = .attemptResolved id r digest time from heq] at hbody
    cases hbody
  | histories hruntimes hdormant =>
    exact h.congr hruntimes fun a entry hentry => by rwa [hdormant] at hentry
  | @updated account clock rt rt' hmem hrt hupdate =>
    obtain ⟨hbacked, hrows⟩ := h.live account.accountId rt hrt
    obtain ⟨hattempts, hstarts, hresolutions⟩ := resolutions_updateAccount hupdate
    refine h.setRuntime (by rw [updateAccount_accountId hupdate]) (hbacked.congr ?_ ?_ ?_) ?_
    · exact fun _ => by rw [hattempts]
    · exact fun _ => by rw [hstarts]
    · exact fun _ => by rw [hresolutions]
    · rwa [hresolutions]
  | @built account clock hmem hrt hdormant =>
    exact h.setRuntime rfl (Backed.fresh _ _ _ _) fun id hid => by cases hid
  | @revived account clock entry rt hmem hrt hdormant hrestore =>
    obtain ⟨hbacked, hrows⟩ := h.dormant account.accountId entry hrt hdormant
    have hset := h.setRuntime (w := w) (by rw [restoreSnapshotState_account hrestore]; rfl)
      (hbacked.restore hrestore) fun id hid => hrows id <|
        (entryLists_iff_restored hrestore (hbacked.imp fun _ h => h.1)).mpr hid
    refine hset.congr (w := w.setRuntime account.accountId rt) rfl fun a entry hentry => ?_
    have hentry : (w.state.dormantAccountStates.erase account.accountId).get? a = some entry := hentry
    rw [Dict.get?_erase] at hentry
    split at hentry
    · cases hentry
    · exact hentry
  | @dropped account clock entry e hmem hrt hdormant hrestore =>
    refine h.congr rfl fun a entry hentry => ?_
    have hentry : (w.state.dormantAccountStates.erase account.accountId).get? a = some entry := hentry
    rw [Dict.get?_erase] at hentry
    split at hentry
    · cases hentry
    · exact hentry
  | checkpointed => exact h.checkpointed

/-- The records of recovery report on no attempt. -/
theorem Ledgered.recovers {published : List ProviderAccount} (h : Ledgered cfg w)
    (hstep : Step cfg published Recovers w w') : Ledgered cfg w' := by
  cases hstep with
  | admin hadmin => exact h.admin hadmin
  | @effect accountId rt mid body hrt hidle hguard hpayload =>
    refine h.effect hrt hidle ?_ ?_ <;>
      · cases body with
        | attemptReserved | attemptResolved => exact hguard.elim
        | _ => trivial

/-! ## Rebuilding -/

/-- What the accounts show after part of a rebuild; `known` are the attempts read back so far. -/
structure Rebuilding (log : List JournalRecord) (known : AccountId → String → Prop)
    (st : RuntimeState) : Prop where
  live : ∀ accountId rt, st.runtimes.get? accountId = some rt → Backed log accountId rt ∧
    ∀ id, (rt.resolutions.get? id).isSome = true ↔ known accountId id
  dormant : ∀ accountId entry, st.runtimes.get? accountId = none →
    st.dormantAccountStates.get? accountId = some entry → EntryBacked log accountId entry ∧
      ∀ id, EntryLists entry id → known accountId id

/-- The attempts listed in the entries of an account. -/
def Listed (entries : List (String × Json)) (accountId : AccountId) (id : String) : Prop :=
  ∃ entry ∈ entries, entry.1 = accountId.text ∧ EntryLists entry.2 id

theorem listed_snoc {entries : List (String × Json)} {other : AccountId} :
    Listed (entries ++ [(other.text, entry)]) accountId id ↔
      Listed entries accountId id ∨ accountId = other ∧ EntryLists entry id := by
  simp only [Listed, List.mem_append, List.mem_singleton, or_and_right, exists_or,
    exists_eq_left]
  refine or_congr_right (and_congr_left fun _ => ⟨fun heq => TypedId.ext heq.symm, fun heq => ?_⟩)
  rw [heq]

/-- One entry of the newest checkpoint. -/
theorem Rebuilding.restoreEntry {entries : List (String × Json)} {st st' : RuntimeState}
    (h : Rebuilding log (Listed entries) st) (hnew : accountId.text ∉ entries.map Prod.fst)
    (hentry : EntryBacked log accountId entry)
    (hrestore : RuntimeState.restoreEntry cfg st (accountId.text, entry) = .ok st') :
    Rebuilding log (Listed (entries ++ [(accountId.text, entry)])) st' := by
  obtain ⟨accountId', hread, hcases⟩ := restoreEntry_cases hrestore
  rw [RuntimeState.readAccountId_text] at hread
  cases hread
  have hfirst : ∀ id, ¬ Listed entries accountId id := by
    rintro id ⟨entry', hmem, htext, -⟩
    exact hnew (htext ▸ List.mem_map_of_mem hmem)
  have hother : ∀ other id, other ≠ accountId →
      (Listed (entries ++ [(accountId.text, entry)]) other id ↔ Listed entries other id) := by
    intro other id hne
    rw [listed_snoc]
    exact or_iff_left fun h => hne h.1
  rcases hcases with ⟨hnone, rfl⟩ | ⟨rt, rt', hrt, hrestored, rfl⟩
  · refine ⟨fun other rt hrt => ?_, fun other entry' hnone' hget => ?_⟩
    · have hne : other ≠ accountId := by
        rintro rfl
        rw [show st.runtimes.get? other = some rt from hrt] at hnone
        cases hnone
      obtain ⟨hbacked, hrows⟩ := h.live other rt hrt
      exact ⟨hbacked, fun id => (hrows id).trans (hother other id hne).symm⟩
    · rw [Dict.get?_insert] at hget
      split at hget
      · next heq =>
        cases hget
        subst heq
        exact ⟨hentry, fun id hid => listed_snoc.mpr (.inr ⟨rfl, hid⟩)⟩
      · obtain ⟨hbacked, hrows⟩ := h.dormant other entry' hnone' hget
        exact ⟨hbacked, fun id hid => listed_snoc.mpr (.inl (hrows id hid))⟩
  · refine ⟨fun other rt'' hrt'' => ?_, fun other entry' hnone hget => ?_⟩
    · simp only [RuntimeState.setRuntime, Dict.get?_insert] at hrt''
      split at hrt''
      · next heq =>
        cases hrt''
        subst heq
        refine ⟨hentry.restore hrestored, fun id => ?_⟩
        rw [listed_snoc, ← entryLists_iff_restored hrestored (hentry.imp fun _ h => h.1)]
        exact ⟨fun hid => .inr ⟨rfl, hid⟩, fun hid => (hid.resolve_left (hfirst id)).2⟩
      · next hne =>
        obtain ⟨hbacked, hrows⟩ := h.live other rt'' hrt''
        exact ⟨hbacked, fun id => (hrows id).trans (hother other id hne).symm⟩
    · simp only [RuntimeState.setRuntime, Dict.get?_insert] at hnone
      split at hnone
      · cases hnone
      · obtain ⟨hbacked, hrows⟩ := h.dormant other entry' hnone hget
        exact ⟨hbacked, fun id hid => listed_snoc.mpr (.inl (hrows id hid))⟩

/-- A replayed record puts no attempt into the ledger but the one it reports on, and takes none
out. -/
theorem resolutions_applyRecord {rt rt' : AccountRuntime} {record : JournalRecord}
    (h : rt.applyRecord record = .ok rt') :
    (∀ id, (rt'.resolutions.get? id).isSome = true → (rt.resolutions.get? id).isSome = true ∨
      ∃ r, record.Settles id r) ∧
    (∀ id, (rt.resolutions.get? id).isSome = true → (rt'.resolutions.get? id).isSome = true) ∧
    ∀ id r, record.Settles id r → (rt'.resolutions.get? id).isSome = true := by
  have hsame : rt'.resolutions = rt.resolutions →
      (∀ id r, ¬ record.Settles id r) →
      (∀ id, (rt'.resolutions.get? id).isSome = true → (rt.resolutions.get? id).isSome = true ∨
        ∃ r, record.Settles id r) ∧
      (∀ id, (rt.resolutions.get? id).isSome = true → (rt'.resolutions.get? id).isSome = true) ∧
      ∀ id r, record.Settles id r → (rt'.resolutions.get? id).isSome = true := by
    intro heq hnone
    rw [heq]
    exact ⟨fun _ hid => .inl hid, fun _ hid => hid, fun id r hr => absurd hr (hnone id r)⟩
  unfold AccountRuntime.applyRecord at h
  cases hbody : record.body with
  | attemptResolved id r digest time =>
    simp only [hbody] at h
    have honly : ∀ id' r', record.Settles id' r' → id' = id := by
      rintro id' r' ⟨digest', time', hbody'⟩
      rw [hbody] at hbody'
      cases hbody'
      rfl
    obtain ⟨e, he, rfl⟩ | ⟨a, -, rfl⟩ := replayResolve_cases h
    · refine ⟨fun _ hid => .inl hid, fun _ hid => hid, fun id' r' hr' => ?_⟩
      rw [honly id' r' hr', he]
      rfl
    · have hget : ∀ id', (rt.replayed id a r digest record.receipt time).resolutions.get? id' =
          if id' = id then some ⟨digest, record.receipt, time, a.dispatch id⟩
          else rt.resolutions.get? id' := fun id' => Dict.get?_insert _ _ _ _
      refine ⟨fun id' hid => ?_, fun id' hid => ?_, fun id' r' hr' => ?_⟩
      · rw [hget] at hid
        split at hid
        · next heq => exact .inr ⟨r, digest, time, heq ▸ hbody⟩
        · exact .inl hid
      · rw [hget]
        split
        · rfl
        · exact hid
      · rw [hget, if_pos (honly id' r' hr')]
        rfl
  | attemptReserved d =>
    simp only [hbody] at h
    cases h
    refine hsame ?_ (by rintro id r ⟨digest, time, heq⟩; rw [hbody] at heq; cases heq)
    simp only [replayReserve, AccountRuntime.reserve]
    split <;> rfl
  | attemptDispatched id time =>
    simp only [hbody] at h
    refine hsame ?_ (by rintro id r ⟨digest, time, heq⟩; rw [hbody] at heq; cases heq)
    obtain ⟨a, -, ⟨-, -, rfl⟩ | ⟨-, rfl⟩⟩ := replayDispatch_cases h <;> rfl
  | circuitUpdated other scope value =>
    simp only [hbody] at h
    cases h
    refine hsame ?_ (by rintro id r ⟨digest, time, heq⟩; rw [hbody] at heq; cases heq)
    cases scope <;> rfl
  | authoritativeActiveCount other count =>
    simp only [hbody, recordActiveCount] at h
    split at h
    · cases h
    · cases h
      exact hsame rfl (by rintro id r ⟨digest, time, heq⟩; rw [hbody] at heq; cases heq)
  | recoveryProbeFinished other probeId classification =>
    simp only [hbody] at h
    cases h
    refine hsame (endRecoveryProbe_resolutions rt classification) ?_
    rintro id r ⟨digest, time, heq⟩
    rw [hbody] at heq
    cases heq
  | accountRegistered | attemptUncertain | recoveryProbeStarted =>
    simp only [hbody] at h
    cases h
    exact hsame rfl (by rintro id r ⟨digest, time, heq⟩; rw [hbody] at heq; cases heq)

/-- The account a report is replayed on has its reservation. -/
theorem reserves_of_recordAccountId {known : AccountId → String → Prop} {st : RuntimeState}
    (h : Rebuilding log known st) {record : JournalRecord}
    (haccount : st.recordAccountId record.body = .ok accountId) {r : AttemptResolution}
    (hr : record.Settles id r) : ∃ d, Reserves log accountId id d := by
  obtain ⟨digest, time, hbody⟩ := hr
  rw [hbody, RuntimeState.recordAccountId] at haccount
  split at haccount
  · next q hfound =>
    cases haccount
    have hknows := List.find?_some hfound
    have hrt := Dict.mem_entries_iff.mp (List.mem_of_find?_eq_some hfound)
    have hbacked := (h.live q.1 q.2 hrt).1 id
    rcases Bool.or_eq_true_iff.mp hknows with hheld | hlisted
    · obtain ⟨a, ha⟩ := Dict.contains_iff.mp hheld
      obtain ⟨⟨d, hd, -⟩, -⟩ := hbacked.held a ha
      exact ⟨d, hd⟩
    · obtain ⟨e, he⟩ := Dict.contains_iff.mp hlisted
      exact (hbacked.ledger e he).1
  · cases haccount

/-- The attempts known after a record: those before it, and one it reports on, on its account. -/
def KnownAfter (log : List JournalRecord) (known : AccountId → String → Prop)
    (record : JournalRecord) (accountId : AccountId) (id : String) : Prop :=
  known accountId id ∨ (∃ r, record.Settles id r) ∧ ∃ d, Reserves log accountId id d

/-- One record of the tail. -/
theorem Rebuilding.replay {known : AccountId → String → Prop} {st st' : RuntimeState}
    (h : Rebuilding log known st) (hlawful : LawfulLog cfg log) {record : JournalRecord}
    (hpermitted : Permitted cfg log record.body) (happly : st.applyRecord record = .ok st') :
    Rebuilding (log ++ [record]) (KnownAfter log known record) st' := by
  obtain ⟨hbody, hruntimes, hdormant⟩ | ⟨-, accountId, rt, rt', hid, hrt, hrt', rfl⟩ :=
    applyRecord_cases happly
  · have hneutral : ∀ id r digest time, record.body ≠ .attemptResolved id r digest time := by
      intro id r digest time heq
      rw [heq] at hbody
      cases hbody
    have hsame : ∀ a id, KnownAfter log known record a id ↔ known a id := by
      refine fun a id => or_iff_left ?_
      rintro ⟨⟨r, digest, time, heq⟩, -⟩
      exact hneutral id r digest time heq
    refine ⟨fun a rt hrt => ?_, fun a entry hnone hentry => ?_⟩
    · rw [hruntimes] at hrt
      obtain ⟨hbacked, hrows⟩ := h.live a rt hrt
      exact ⟨hbacked.neutral hneutral, fun id => (hrows id).trans (hsame a id).symm⟩
    · rw [hruntimes] at hnone
      rw [hdormant] at hentry
      obtain ⟨⟨rt, heq, hbacked⟩, hrows⟩ := h.dormant a entry hnone hentry
      exact ⟨⟨rt, heq, hbacked.neutral hneutral⟩, fun id hid => .inl (hrows id hid)⟩
  · have hreserved : ∀ id r, record.Settles id r → ∃ d, Reserves log accountId id d :=
      fun id r hr => reserves_of_recordAccountId h hid hr
    have hown : ∀ d, record.body = .attemptReserved d → d.accountId = accountId := by
      intro d hbody
      rw [hbody] at hid
      cases hid
      rfl
    obtain ⟨hbacked, hrows⟩ := h.live accountId rt hrt
    refine ⟨fun a rt'' hrt'' => ?_, fun a entry hnone hentry => ?_⟩
    · simp only [RuntimeState.setRuntime, Dict.get?_insert] at hrt''
      split at hrt''
      · next heq =>
        cases hrt''
        subst heq
        obtain ⟨honly, hkept, hput⟩ := resolutions_applyRecord hrt'
        refine ⟨hbacked.replay hlawful hpermitted hown hrt', fun id => ⟨fun hid => ?_, fun hid => ?_⟩⟩
        · rcases honly id hid with hold | ⟨r, hr⟩
          · exact .inl ((hrows id).mp hold)
          · exact .inr ⟨⟨r, hr⟩, hreserved id r hr⟩
        · rcases hid with hold | ⟨⟨r, hr⟩, -⟩
          · exact hkept id ((hrows id).mpr hold)
          · exact hput id r hr
      · next hne =>
        obtain ⟨hother, hrows'⟩ := h.live a rt'' hrt''
        refine ⟨hother.elsewhere hlawful hne hreserved, fun id => (hrows' id).trans ?_⟩
        -- a report on an attempt of this account was replayed here
        refine (or_iff_left ?_).symm
        rintro ⟨⟨r, hr⟩, d, hd⟩
        obtain ⟨d', hd'⟩ := hreserved id r hr
        obtain rfl := hlawful.reserved_once hd hd'
        exact hne (hd.2.1.symm.trans hd'.2.1)
    · simp only [RuntimeState.setRuntime, Dict.get?_insert] at hnone
      split at hnone
      · cases hnone
      · next hne =>
        obtain ⟨⟨rt'', heq, hother⟩, hrows'⟩ := h.dormant a entry hnone hentry
        exact ⟨⟨rt'', heq, hother.elsewhere hlawful hne hreserved⟩,
          fun id hid => .inl (hrows' id hid)⟩

/-- A reported attempt was reserved before the report. -/
theorem LawfulLog.reserved_before (h : LawfulLog cfg log) {record record' : JournalRecord}
    (hpermitted : Permitted cfg log record.body) (hmem : record' ∈ log ++ [record])
    {r : AttemptResolution} (hr : record'.Settles id r) {d : DurableReservation}
    (hd : Reserves (log ++ [record]) accountId id d) : Reserves log accountId id d := by
  obtain ⟨hid, haccount, last, hlast, hbody⟩ := hd
  rcases List.mem_append.mp hlast with hlast | hlast
  · exact ⟨hid, haccount, last, hlast, hbody⟩
  · obtain rfl := List.mem_singleton.mp hlast
    obtain ⟨digest, time, hresolved⟩ := hr
    rcases List.mem_append.mp hmem with hmem | hmem
    · obtain ⟨-, a, d', ⟨hid', -, record'', hmem'', hbody'⟩, -⟩ := h.settled_within hmem hresolved
      rw [hbody] at hpermitted
      exact absurd (hid'.trans hid.symm) (hpermitted record'' hmem'' d' hbody')
    · rw [List.mem_singleton.mp hmem, hbody] at hresolved
      cases hresolved

/-- The attempts that part of a tail makes known, over the entries of a checkpoint. -/
def KnownFrom (entries : List (String × Json)) (before taken : List JournalRecord)
    (accountId : AccountId) (id : String) : Prop :=
  Listed entries accountId id ∨ (∃ record ∈ taken, ∃ r, record.Settles id r) ∧
    ∃ d, Reserves (before ++ taken) accountId id d

theorem knownAfter_iff {entries : List (String × Json)} {before taken : List JournalRecord}
    {record : JournalRecord} (h : LawfulLog cfg (before ++ taken))
    (hpermitted : Permitted cfg (before ++ taken) record.body) :
    KnownAfter (before ++ taken) (KnownFrom entries before taken) record accountId id ↔
      KnownFrom entries before (taken ++ [record]) accountId id := by
  have hlog : before ++ (taken ++ [record]) = (before ++ taken) ++ [record] :=
    (List.append_assoc _ _ _).symm
  constructor
  · rintro ((hlisted | ⟨⟨record', hmem, hsettles⟩, d, hd⟩) | ⟨hsettles, d, hd⟩)
    · exact .inl hlisted
    · refine .inr ⟨⟨record', List.mem_append_left _ hmem, hsettles⟩, d, ?_⟩
      rw [hlog]
      exact hd.mono _
    · refine .inr ⟨⟨record, List.mem_append_right _ (List.mem_singleton_self _), hsettles⟩, d, ?_⟩
      rw [hlog]
      exact hd.mono _
  · rintro (hlisted | ⟨⟨record', hmem, r, hr⟩, d, hd⟩)
    · exact .inl (.inl hlisted)
    · rw [hlog] at hd
      have hbefore : Reserves (before ++ taken) accountId id d := by
        refine h.reserved_before hpermitted ?_ hr hd
        rw [← hlog]
        exact List.mem_append_right _ hmem
      rcases List.mem_append.mp hmem with hmem | hmem
      · exact .inl (.inr ⟨⟨record', hmem, r, hr⟩, d, hbefore⟩)
      · obtain rfl := List.mem_singleton.mp hmem
        exact .inr ⟨⟨r, hr⟩, d, hbefore⟩

theorem Rebuilding.congr {known known' : AccountId → String → Prop} {st st' : RuntimeState}
    (h : Rebuilding log known st) (hknown : ∀ accountId id, known accountId id ↔ known' accountId id)
    (hruntimes : st'.runtimes = st.runtimes)
    (hdormant : st'.dormantAccountStates = st.dormantAccountStates) : Rebuilding log known' st' := by
  refine ⟨fun a rt hrt => ?_, fun a entry hnone hentry => ?_⟩
  · obtain ⟨hbacked, hrows⟩ := h.live a rt (hruntimes ▸ hrt)
    exact ⟨hbacked, fun id => (hrows id).trans (hknown a id)⟩
  · obtain ⟨hbacked, hrows⟩ := h.dormant a entry (hruntimes ▸ hnone) (hdormant ▸ hentry)
    exact ⟨hbacked, fun id hid => (hknown a id).mp (hrows id hid)⟩

/-- **A rebuilt state has exactly the rows that can be read back.** -/
theorem Ledgered.rebuilding (h : Ledgered cfg w) {clock : AccountId → Nat}
    {accounts : List ProviderAccount} {st : RuntimeState}
    (hst : rebuilt cfg clock accounts w.journal = .ok st) :
    ∃ before, w.journal.history = before ++ w.journal.records ∧
      Rebuilding w.journal.history
        (KnownFrom (checkpointEntries w.journal) before w.journal.records) st := by
  obtain ⟨before, hhistory, hkept⟩ := h.kept
  have hlawful := h.lawful
  have hdistinct := h.distinct
  obtain ⟨st₁, st₂, hentries, hruntimes, hdormant, hrecords⟩ := rebuilt_cases hst
  have hrestored : Rebuilding before (Listed (checkpointEntries w.journal)) st₁ := by
    refine foldlM_invariant (I := fun taken st => Rebuilding before (Listed taken) st) ?_ hentries ?_
    · rintro taken ⟨text, json⟩ rest heq st st' hrestore hst
      obtain ⟨accountId, rfl, hentry⟩ := hkept (text, json) (by rw [heq]; simp)
      refine hst.restoreEntry (fun hmem => ?_) hentry hrestore
      rw [heq, List.map_append, List.nodup_append] at hdistinct
      exact hdistinct.2.2 _ hmem _ (List.mem_map_of_mem List.mem_cons_self) rfl
    · refine ⟨fun accountId rt hrt => ?_, fun _ _ _ hget => (by cases hget)⟩
      obtain ⟨account, -, -, rfl⟩ := get?_configured hrt
      refine ⟨Backed.fresh _ _ _ _, fun id => ⟨fun hid => (by cases hid), ?_⟩⟩
      rintro ⟨entry, hmem, -⟩
      cases hmem
  rw [hhistory] at hlawful
  refine ⟨before, hhistory, ?_⟩
  rw [hhistory]
  refine foldlM_invariant (I := fun taken st => Rebuilding (before ++ taken)
    (KnownFrom (checkpointEntries w.journal) before taken) st) ?_ hrecords ?_
  · intro taken record rest heq st st' happly hst
    rw [heq, ← List.append_assoc] at hlawful
    have hpermitted := hlawful.permitted
    have hnext := (hst.replay hlawful.append_left hpermitted happly).congr
      (fun _ _ => knownAfter_iff hlawful.append_left hpermitted) rfl rfl
    rwa [List.append_assoc] at hnext
  · rw [List.append_nil]
    refine hrestored.congr (fun a id => ⟨.inl, fun hid => ?_⟩) hruntimes hdormant
    rcases hid with hlisted | ⟨⟨record, hmem, -⟩, -⟩
    · exact hlisted
    · cases hmem

/-- A rebuilt state shows its attempts as the records say. -/
theorem Ledgered.rebuilt (h : Ledgered cfg w) {clock : AccountId → Nat}
    {accounts : List ProviderAccount} {st : RuntimeState}
    (hst : rebuilt cfg clock accounts w.journal = .ok st) : Ledgered cfg { w with state := st } := by
  obtain ⟨before, -, hrebuilding⟩ := h.rebuilding hst
  have hrecoverable : ∀ a id, KnownFrom (checkpointEntries w.journal) before w.journal.records a id →
      Recoverable w.journal a id := by
    rintro a id (hlisted | ⟨hsettled, -⟩)
    · exact .inr hlisted
    · exact .inl hsettled
  refine ⟨Keyed.rebuilt hst, h.lawful, fun a rt hrt => ?_, fun a entry hnone hentry => ?_, h.kept,
    h.distinct⟩
  · obtain ⟨hbacked, hrows⟩ := hrebuilding.live a rt hrt
    exact ⟨hbacked, fun id hid => hrecoverable a id ((hrows id).mp hid)⟩
  · obtain ⟨hbacked, hrows⟩ := hrebuilding.dormant a entry hnone hentry
    exact ⟨hbacked, fun id hid => hrecoverable a id (hrows id hid)⟩

/-- **A row of the process before is in the rebuilt state**, if its account is. -/
theorem Ledgered.rebuilt_lists (h : Ledgered cfg w) {clock : AccountId → Nat}
    {accounts : List ProviderAccount} {st : RuntimeState}
    (hst : World.rebuilt cfg clock accounts w.journal = .ok st) {rt rt' : AccountRuntime}
    (hrt : w.state.runtimes.get? accountId = some rt)
    (hid : (rt.resolutions.get? id).isSome = true)
    (hrt' : st.runtimes.get? accountId = some rt') : (rt'.resolutions.get? id).isSome = true := by
  obtain ⟨before, hhistory, hrebuilding⟩ := h.rebuilding hst
  obtain ⟨hbacked, hrows⟩ := h.live accountId rt hrt
  refine ((hrebuilding.live accountId rt' hrt').2 id).mpr ?_
  rcases hrows id hid with hsettled | hlisted
  · obtain ⟨e, he⟩ := Option.isSome_iff_exists.mp hid
    obtain ⟨⟨d, hd⟩, -⟩ := (hbacked id).ledger e he
    rw [hhistory] at hd
    exact .inr ⟨hsettled, d, hd⟩
  · exact .inl hlisted

end

end LlmMaxxing
