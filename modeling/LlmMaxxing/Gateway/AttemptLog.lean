import Mathlib.Data.List.Induction
import LlmMaxxing.Gateway.RestartLaws

/-!
# Attempts in the journal

Every attempt has one reservation in the journal and at most one resolution (`LawfulLog`), so the
journal alone says what an attempt is charged. `Backed` relates an account to the records so
far: a ledger row is the one resolution of its attempt, a start row is charged what was reserved
or what the resolution reported, and a held attempt has both rows. Live calls (`Backed.take`)
and replay (`Backed.replay`) keep this.
-/

namespace LlmMaxxing

open Check AccountRuntime World

/-! ## Records -/

/-- `d` reserves attempt `id` on the account. -/
def Reserves (log : List JournalRecord) (accountId : AccountId) (id : String)
    (d : DurableReservation) : Prop :=
  d.attemptId = id ∧ d.accountId = accountId ∧
    ∃ record ∈ log, record.body = .attemptReserved d

/-- The record reports `r` on attempt `id`. -/
def JournalRecord.Settles (record : JournalRecord) (id : String) (r : AttemptResolution) : Prop :=
  ∃ digest resolvedAtMs, record.body = .attemptResolved id r digest resolvedAtMs

/-- No record of the log reports on attempt `id`. -/
def Unsettled (log : List JournalRecord) (id : String) : Prop :=
  ∀ record ∈ log, ∀ r, ¬ record.Settles id r

/-- The records that may come after a log: a reservation of a new attempt, or the first report on
a reserved one, within what it reserved. -/
def Permitted (cfg : RuntimeConfig) (log : List JournalRecord) : RecordBody → Prop
  | .attemptReserved d => ∀ record ∈ log, ∀ d', record.body = .attemptReserved d' →
      d'.attemptId ≠ d.attemptId
  | .attemptResolved id r digest _ => Unsettled log id ∧ digest = (cfg.digests.resolution r).text ∧
      ∃ accountId d, Reserves log accountId id d ∧
        r.actualTokenUnits.getD 0 ≤ d.reservedTokens ∧ r.actualQuotaUnits.getD 0 ≤ d.quotaUnits
  | _ => True

/-- The logs that grow by permitted records. -/
inductive LawfulLog (cfg : RuntimeConfig) : List JournalRecord → Prop
  | nil : LawfulLog cfg []
  | snoc {log : List JournalRecord} {record : JournalRecord} (h : LawfulLog cfg log)
      (hrecord : Permitted cfg log record.body) : LawfulLog cfg (log ++ [record])

variable {cfg : RuntimeConfig} {log : List JournalRecord} {record : JournalRecord}
  {accountId other : AccountId} {id : String} {d d' : DurableReservation} {r r' : AttemptResolution}

theorem Reserves.mono (h : Reserves log accountId id d) (more : List JournalRecord) :
    Reserves (log ++ more) accountId id d := by
  obtain ⟨hid, haccount, record, hmem, hbody⟩ := h
  exact ⟨hid, haccount, record, List.mem_append_left _ hmem, hbody⟩

theorem JournalRecord.Settles.unique (h : record.Settles id r) (h' : record.Settles id r') :
    r = r' := by
  obtain ⟨digest, time, hbody⟩ := h
  obtain ⟨digest', time', hbody'⟩ := h'
  rw [hbody] at hbody'
  cases hbody'
  rfl

theorem unsettled_snoc (h : Unsettled log id) (hrecord : ∀ r, ¬ record.Settles id r) :
    Unsettled (log ++ [record]) id := by
  intro record' hmem
  rcases List.mem_append.mp hmem with hmem | hmem
  · exact h record' hmem
  · obtain rfl := List.mem_singleton.mp hmem
    exact hrecord

namespace LawfulLog

/-- **An attempt is reserved once**, on one account. -/
theorem reserved_once (h : LawfulLog cfg log) (hd : Reserves log accountId id d)
    (hd' : Reserves log other id d') : d = d' := by
  induction h generalizing accountId other with
  | nil =>
    obtain ⟨-, -, record, hmem, -⟩ := hd
    cases hmem
  | @snoc log record h hrecord ih =>
    obtain ⟨rfl, haccount, record₁, hmem₁, hbody₁⟩ := hd
    obtain ⟨hid, haccount', record₂, hmem₂, hbody₂⟩ := hd'
    rcases List.mem_append.mp hmem₁ with hold₁ | hnew₁ <;>
      rcases List.mem_append.mp hmem₂ with hold₂ | hnew₂
    · exact ih ⟨rfl, haccount, record₁, hold₁, hbody₁⟩ ⟨hid, haccount', record₂, hold₂, hbody₂⟩
    · obtain rfl := List.mem_singleton.mp hnew₂
      rw [hbody₂] at hrecord
      exact absurd hid.symm (hrecord record₁ hold₁ d hbody₁)
    · obtain rfl := List.mem_singleton.mp hnew₁
      rw [hbody₁] at hrecord
      exact absurd hid (hrecord record₂ hold₂ d' hbody₂)
    · obtain rfl := List.mem_singleton.mp hnew₁
      obtain rfl := List.mem_singleton.mp hnew₂
      rw [hbody₁] at hbody₂
      cases hbody₂
      rfl

/-- **An attempt is resolved at most once.** -/
theorem settled_once (h : LawfulLog cfg log) {record' : JournalRecord} (hmem : record ∈ log)
    (hmem' : record' ∈ log) (hr : record.Settles id r) (hr' : record'.Settles id r') :
    record = record' := by
  induction h with
  | nil => cases hmem
  | @snoc log last h hrecord ih =>
    -- the last record reports only if no earlier one does
    have hlast : ∀ r, last.Settles id r → Unsettled log id := by
      rintro r ⟨digest, time, hbody⟩
      rw [hbody] at hrecord
      exact hrecord.1
    rcases List.mem_append.mp hmem with hold | hnew <;>
      rcases List.mem_append.mp hmem' with hold' | hnew'
    · exact ih hold hold'
    · obtain rfl := List.mem_singleton.mp hnew'
      exact absurd hr (hlast _ hr' record hold r)
    · obtain rfl := List.mem_singleton.mp hnew
      exact absurd hr' (hlast _ hr record' hold' r')
    · rw [List.mem_singleton.mp hnew, List.mem_singleton.mp hnew']

/-- A report is about a reserved attempt, within what it reserved, under its own digest. -/
theorem settled_within (h : LawfulLog cfg log) (hmem : record ∈ log) {digest : String} {time : Nat}
    (hbody : record.body = .attemptResolved id r digest time) :
    digest = (cfg.digests.resolution r).text ∧ ∃ accountId d, Reserves log accountId id d ∧
      r.actualTokenUnits.getD 0 ≤ d.reservedTokens ∧
        r.actualQuotaUnits.getD 0 ≤ d.quotaUnits := by
  induction h with
  | nil => cases hmem
  | @snoc log last h hrecord ih =>
    have hmono : (digest = (cfg.digests.resolution r).text ∧
        ∃ accountId d, Reserves log accountId id d ∧ r.actualTokenUnits.getD 0 ≤ d.reservedTokens ∧
          r.actualQuotaUnits.getD 0 ≤ d.quotaUnits) →
        digest = (cfg.digests.resolution r).text ∧
        ∃ accountId d, Reserves (log ++ [last]) accountId id d ∧
          r.actualTokenUnits.getD 0 ≤ d.reservedTokens ∧
          r.actualQuotaUnits.getD 0 ≤ d.quotaUnits := by
      rintro ⟨hdigest, accountId, d, hd, hbounds⟩
      exact ⟨hdigest, accountId, d, hd.mono _, hbounds⟩
    rcases List.mem_append.mp hmem with hmem | hmem
    · exact hmono (ih hmem)
    · obtain rfl := List.mem_singleton.mp hmem
      rw [hbody] at hrecord
      exact hmono hrecord.2

/-- An attempt that is not reserved has no report. -/
theorem unsettled_of_unreserved (h : LawfulLog cfg log)
    (hnone : ∀ accountId d, ¬ Reserves log accountId id d) : Unsettled log id := by
  rintro record hmem r ⟨digest, time, hbody⟩
  obtain ⟨-, accountId, d, hd, -⟩ := h.settled_within hmem hbody
  exact hnone accountId d hd

theorem append_left {more : List JournalRecord} (h : LawfulLog cfg (log ++ more)) : LawfulLog cfg log := by
  induction more using List.reverseRecOn with
  | nil => rwa [List.append_nil] at h
  | append_singleton more record ih =>
    rw [← List.append_assoc] at h
    refine ih ?_
    generalize hall : log ++ more ++ [record] = all at h
    cases h with
    | nil => simp at hall
    | snoc h _ =>
      obtain ⟨rfl, -⟩ := List.append_inj' hall rfl
      exact h

/-- Every record of the log was permitted when it was written. -/
theorem permitted {more : List JournalRecord} (h : LawfulLog cfg (log ++ record :: more)) :
    Permitted cfg log record.body := by
  have hprefix : LawfulLog cfg (log ++ [record]) := by
    have hsplit : log ++ record :: more = (log ++ [record]) ++ more := by
      rw [List.append_assoc, List.singleton_append]
    exact (hsplit ▸ h).append_left
  generalize hall : log ++ [record] = all at hprefix
  cases hprefix with
  | nil => simp at hall
  | snoc _ hrecord =>
    obtain ⟨rfl, hlast⟩ := List.append_inj' hall rfl
    cases hlast
    exact hrecord

end LawfulLog

/-! ## Accounts -/

/-- The start row of an attempt: what was reserved while there is no report, then what the report
says, where a dimension it leaves out keeps its bound. -/
def Charged (log : List JournalRecord) (id : String) (d : DurableReservation) (s : Start) : Prop :=
  (Unsettled log id ∧ s.tokens = d.reservedTokens ∧ s.countedStart = true) ∨
    ∃ record ∈ log, ∃ r, record.Settles id r ∧
      s.tokens = r.actualTokenUnits.getD d.reservedTokens ∧
      s.countedStart = (r.actualStarts != some 0)

/-- The rows of one attempt are what the records say. -/
structure BackedAt (log : List JournalRecord) (accountId : AccountId) (id : String)
    (attempt : Option Attempt) (start : Option Start) (resolved : Option ResolvedAttempt) :
    Prop where
  ledger : ∀ e, resolved = some e → (∃ d, Reserves log accountId id d) ∧
    ∃ record ∈ log, ∃ r, record.body = .attemptResolved id r e.resolutionDigest e.resolvedAtMs ∧
      record.receipt = e.receipt
  held : ∀ a, attempt = some a → (∃ d, Reserves log accountId id d ∧
      a.reservedTokens = d.reservedTokens ∧ a.quotaUnits = d.quotaUnits) ∧
    start.isSome = true ∧
    ∀ record ∈ log, ∀ r, record.Settles id r → r.releaseCapacity = false ∧ resolved.isSome = true
  rows : ∀ s, start = some s → ∃ d, Reserves log accountId id d ∧ Charged log id d s

/-- What an account shows is what the records say. -/
def Backed (log : List JournalRecord) (accountId : AccountId) (rt : AccountRuntime) : Prop :=
  ∀ id, BackedAt log accountId id (rt.attempts.get? id) (rt.starts.get? id)
    (rt.resolutions.get? id)

namespace BackedAt

variable {attempt attempt' : Option Attempt} {start start' : Option Start}
  {resolved resolved' : Option ResolvedAttempt}

theorem none : BackedAt log accountId id none none none :=
  ⟨fun _ h => (by cases h), fun _ h => (by cases h), fun _ h => (by cases h)⟩

/-- Rows may go, as long as a held attempt keeps them. -/
theorem shrink (h : BackedAt log accountId id attempt start resolved)
    (hattempt : ∀ a', attempt' = some a' → ∃ a, attempt = some a ∧
      a'.reservedTokens = a.reservedTokens ∧ a'.quotaUnits = a.quotaUnits)
    (hstart : start' = start ∨ start' = .none ∧ attempt' = .none)
    (hresolved : resolved' = resolved ∨ resolved' = .none ∧ attempt' = .none) :
    BackedAt log accountId id attempt' start' resolved' := by
  refine ⟨fun e he => ?_, fun a' ha' => ?_, fun s hs => ?_⟩
  · rcases hresolved with rfl | ⟨rfl, -⟩
    · exact h.ledger e he
    · cases he
  · obtain ⟨a, ha, htokens, hquota⟩ := hattempt a' ha'
    obtain ⟨⟨d, hd, hreserved, hunits⟩, hrow, hsettled⟩ := h.held a ha
    subst ha'
    obtain rfl := hstart.resolve_right fun h => by cases h.2
    obtain rfl := hresolved.resolve_right fun h => by cases h.2
    exact ⟨⟨d, hd, htokens.trans hreserved, hquota.trans hunits⟩, hrow, hsettled⟩
  · rcases hstart with rfl | ⟨rfl, -⟩
    · exact h.rows s hs
    · cases hs

/-- A record that does not report on the attempt, or not on this account. -/
theorem snoc (h : BackedAt log accountId id attempt start resolved)
    (hrecord : ∀ r, record.Settles id r → ∀ d, ¬ Reserves log accountId id d) :
    BackedAt (log ++ [record]) accountId id attempt start resolved := by
  have hold : ∀ d, Reserves log accountId id d → ∀ record' ∈ log ++ [record], ∀ r,
      record'.Settles id r → record' ∈ log := by
    intro d hd record' hmem r hr
    rcases List.mem_append.mp hmem with hmem | hmem
    · exact hmem
    · obtain rfl := List.mem_singleton.mp hmem
      exact absurd hd (hrecord r hr d)
  refine ⟨fun e he => ?_, fun a ha => ?_, fun s hs => ?_⟩
  · obtain ⟨⟨d, hd⟩, record', hmem, hrest⟩ := h.ledger e he
    exact ⟨⟨d, hd.mono _⟩, record', List.mem_append_left _ hmem, hrest⟩
  · obtain ⟨⟨d, hd, hcharge⟩, hrow, hsettled⟩ := h.held a ha
    refine ⟨⟨d, hd.mono _, hcharge⟩, hrow, fun record' hmem r hr => ?_⟩
    exact hsettled record' (hold d hd record' hmem r hr) r hr
  · obtain ⟨d, hd, hcharged⟩ := h.rows s hs
    refine ⟨d, hd.mono _, ?_⟩
    rcases hcharged with ⟨hunsettled, hfull⟩ | ⟨record', hmem, hreported⟩
    · refine .inl ⟨fun record' hmem r hr => ?_, hfull⟩
      exact hunsettled record' (hold d hd record' hmem r hr) r hr
    · exact .inr ⟨record', List.mem_append_left _ hmem, hreported⟩

/-- A held attempt that is not in the ledger has no report, and its row is the full charge. -/
theorem full_of_held (h : BackedAt log accountId id attempt start .none)
    (hlawful : LawfulLog cfg log) {a : Attempt} {s : Start} (ha : attempt = some a)
    (hs : start = some s) (hd : Reserves log accountId id d) :
    Unsettled log id ∧ s.tokens = d.reservedTokens ∧ s.countedStart = true := by
  have hunsettled : Unsettled log id := by
    intro record hmem r hr
    have hsome := ((h.held a ha).2.2 record hmem r hr).2
    cases hsome
  obtain ⟨d', hd', hcharged⟩ := h.rows s hs
  obtain rfl := hlawful.reserved_once hd hd'
  rcases hcharged with hfull | ⟨record, hmem, r, hr, -⟩
  · exact hfull
  · exact absurd hr (hunsettled record hmem r)

end BackedAt

namespace Backed

variable {rt rt' : AccountRuntime}

theorem fresh (log : List JournalRecord) (accountId : AccountId) (account : ProviderAccount)
    (clock : Nat) : Backed log accountId (AccountRuntime.fresh account clock) :=
  fun _ => BackedAt.none

/-- The attempts change in nothing that is charged. -/
theorem modify_attempts (h : Backed log accountId rt)
    (hstarts : ∀ id, rt'.starts.get? id = rt.starts.get? id)
    (hresolutions : ∀ id, rt'.resolutions.get? id = rt.resolutions.get? id)
    (hattempts : ∀ id a', rt'.attempts.get? id = some a' → ∃ a, rt.attempts.get? id = some a ∧
      a'.reservedTokens = a.reservedTokens ∧ a'.quotaUnits = a.quotaUnits) :
    Backed log accountId rt' :=
  fun id => (h id).shrink (hattempts id) (.inl (hstarts id)) (.inl (hresolutions id))

theorem congr (h : Backed log accountId rt)
    (hattempts : ∀ id, rt'.attempts.get? id = rt.attempts.get? id)
    (hstarts : ∀ id, rt'.starts.get? id = rt.starts.get? id)
    (hresolutions : ∀ id, rt'.resolutions.get? id = rt.resolutions.get? id) :
    Backed log accountId rt' :=
  h.modify_attempts hstarts hresolutions fun id a' ha' => ⟨a', by rwa [hattempts] at ha', rfl, rfl⟩

theorem idle (h : Backed log accountId rt) (hidle : Idle rt rt') : Backed log accountId rt' := by
  intro id
  refine (h id).shrink (fun a' ha' => ⟨a', by rwa [hidle.attempts] at ha', rfl, rfl⟩) ?_ ?_
  · cases hs : rt'.starts.get? id with
    | some s => exact .inl (hidle.starts_old hs).symm
    | none =>
      cases hold : rt.starts.get? id with
      | none => exact .inl rfl
      | some s =>
        -- a row that goes has no held attempt
        refine .inr ⟨rfl, Option.eq_none_iff_forall_ne_some.mpr fun a ha => ?_⟩
        rw [hidle.attempts] at ha
        rw [hidle.young id s hold (.inr (Dict.contains_iff.mpr ⟨a, ha⟩))] at hs
        cases hs
  · cases he : rt'.resolutions.get? id with
    | some e => exact .inl (hidle.resolutions_old he).symm
    | none =>
      cases hold : rt.resolutions.get? id with
      | none => exact .inl rfl
      | some e =>
        refine .inr ⟨rfl, Option.eq_none_iff_forall_ne_some.mpr fun a ha => ?_⟩
        rw [hidle.attempts] at ha
        rw [hidle.held id e hold (Dict.contains_iff.mpr ⟨a, ha⟩)] at he
        cases he

/-- A record that reports on none of the attempts of the account. -/
theorem snoc (h : Backed log accountId rt)
    (hrecord : ∀ id r, record.Settles id r → ∀ d, ¬ Reserves log accountId id d) :
    Backed (log ++ [record]) accountId rt :=
  fun id => (h id).snoc (hrecord id)

/-- A reservation of a new attempt. -/
theorem reserve (h : Backed log accountId rt) (hlawful : LawfulLog cfg log)
    (hbody : record.body = .attemptReserved d) (haccount : d.accountId = accountId)
    (hpermitted : Permitted cfg log record.body)
    (hstarts : rt'.starts = rt.starts.insert d.attemptId ⟨d.startedAtMs, d.reservedTokens, true⟩)
    (hattempts : rt'.attempts = rt.attempts.insert d.attemptId d.attempt)
    (hresolutions : rt'.resolutions = rt.resolutions) :
    Backed (log ++ [record]) accountId rt' := by
  rw [hbody] at hpermitted
  have hneutral : ∀ id r, ¬ record.Settles id r := by
    rintro id r ⟨digest, time, hresolved⟩
    rw [hbody] at hresolved
    cases hresolved
  have hgrown : Backed (log ++ [record]) accountId rt :=
    h.snoc fun id r hr => absurd hr (hneutral id r)
  intro id
  rw [hstarts, hattempts, hresolutions, Dict.get?_insert, Dict.get?_insert]
  split
  · next heq =>
    subst heq
    have hnew : Reserves (log ++ [record]) accountId d.attemptId d :=
      ⟨rfl, haccount, record, List.mem_append_right _ (List.mem_singleton_self _), hbody⟩
    have hunknown : ∀ accountId d', ¬ Reserves log accountId d.attemptId d' := by
      rintro accountId d' ⟨hid, -, record', hmem, hbody'⟩
      exact hpermitted record' hmem d' hbody' hid
    have hunsettled : Unsettled (log ++ [record]) d.attemptId :=
      unsettled_snoc (hlawful.unsettled_of_unreserved hunknown) (hneutral d.attemptId)
    refine ⟨(hgrown d.attemptId).ledger, fun a ha => ?_, fun s hs => ?_⟩
    · cases ha
      exact ⟨⟨d, hnew, rfl, rfl⟩, rfl, fun record' hmem r hr => absurd hr (hunsettled record' hmem r)⟩
    · cases hs
      exact ⟨d, hnew, .inl ⟨hunsettled, rfl, rfl⟩⟩
  · exact hgrown id

/-- The first report on a held attempt. -/
theorem settle (h : Backed log accountId rt) (hlawful : LawfulLog cfg log) {a : Attempt}
    {digest : String} {time : Nat} {e : ResolvedAttempt}
    (hbody : record.body = .attemptResolved id r digest time)
    (hheld : rt.attempts.get? id = some a) (hledger : rt.resolutions.get? id = none)
    (he : e.resolutionDigest = digest ∧ e.resolvedAtMs = time ∧ e.receipt = record.receipt)
    (hstarts : rt'.starts = rt.resolveStart id r) (hattempts : rt'.attempts = rt.resolveAttempt id r)
    (hresolutions : rt'.resolutions = rt.resolutions.insert id e) :
    Backed (log ++ [record]) accountId rt' := by
  intro id'
  by_cases hne : id' = id
  · subst hne
    have hlast : record ∈ log ++ [record] := List.mem_append_right _ (List.mem_singleton_self _)
    have hsettles : record.Settles id' r := ⟨digest, time, hbody⟩
    obtain ⟨⟨d, hd, hreserved, hquota⟩, hrow, -⟩ := (h id').held a hheld
    obtain ⟨s₀, hs₀⟩ := Option.isSome_iff_exists.mp hrow
    have hrows := h id'
    rw [hledger] at hrows
    obtain ⟨hunsettled, htokens, hcounted⟩ := hrows.full_of_held hlawful hheld hs₀ hd
    have hreport : ∀ record' ∈ log ++ [record], ∀ r', record'.Settles id' r' → r' = r := by
      intro record' hmem r' hr'
      rcases List.mem_append.mp hmem with hmem | hmem
      · exact absurd hr' (hunsettled record' hmem r')
      · obtain rfl := List.mem_singleton.mp hmem
        exact hr'.unique hsettles
    rw [hresolutions, Dict.get?_insert_self, hstarts, resolveStart, Dict.get?_modify, if_pos rfl, hs₀]
    refine ⟨fun e' he' => ?_, fun a' ha' => ?_, fun s hs => ?_⟩
    · cases he'
      refine ⟨⟨d, hd.mono _⟩, record, hlast, r, ?_, he.2.2.symm⟩
      rw [hbody, he.1, he.2.1]
    · rw [hattempts, resolveAttempt] at ha'
      split at ha'
      · rw [Dict.get?_erase_self] at ha'
        cases ha'
      · next hkeeps =>
        rw [Dict.get?_modify, if_pos rfl, hheld] at ha'
        cases ha'
        refine ⟨⟨d, hd.mono _, hreserved, hquota⟩, rfl, fun record' hmem r' hr' => ?_⟩
        obtain rfl := hreport record' hmem r' hr'
        exact ⟨by simpa using hkeeps, rfl⟩
    · cases hs
      refine ⟨d, hd.mono _, .inr ⟨record, hlast, r, hsettles, ?_, ?_⟩⟩
      · show r.actualTokenUnits.getD s₀.tokens = _
        rw [htokens]
      · show (s₀.countedStart && r.actualStarts != some 0) = _
        rw [hcounted, Bool.true_and]
  · -- the record is about another attempt
    have hothers : rt'.attempts.get? id' = rt.attempts.get? id' := by
      rw [hattempts, resolveAttempt]
      split
      · exact Dict.get?_erase_of_ne _ hne
      · rw [Dict.get?_modify, if_neg hne]
    rw [hothers, hstarts, resolveStart, Dict.get?_modify, if_neg hne, hresolutions,
      Dict.get?_insert_of_ne _ _ hne]
    refine (h id').snoc fun r' hr' => ?_
    obtain ⟨digest', time', hbody'⟩ := hr'
    rw [hbody] at hbody'
    cases hbody'
    exact absurd rfl hne

/-- A record about an attempt of another account. -/
theorem elsewhere (h : Backed log other rt) (hlawful : LawfulLog cfg log) (hne : other ≠ accountId)
    (hrecord : ∀ id r, record.Settles id r → ∃ d, Reserves log accountId id d) :
    Backed (log ++ [record]) other rt := by
  refine h.snoc fun id r hr d hd => ?_
  obtain ⟨d', hd'⟩ := hrecord id r hr
  obtain rfl := hlawful.reserved_once hd hd'
  exact hne (hd.2.1.symm.trans hd'.2.1)

/-- A record that reports on no attempt. -/
theorem neutral (h : Backed log accountId rt)
    (hbody : ∀ id r digest time, record.body ≠ .attemptResolved id r digest time) :
    Backed (log ++ [record]) accountId rt := by
  refine h.snoc fun id r hr => ?_
  obtain ⟨digest, time, hresolved⟩ := hr
  exact absurd hresolved (hbody id r digest time)

/-! ### Live -/

/-- A record is about the account, and a report finds its attempt held and not in the ledger. -/
def Own (accountId : AccountId) (rt : AccountRuntime) : RecordBody → Prop
  | .attemptReserved d => d.accountId = accountId
  | .attemptResolved id .. =>
    rt.resolutions.get? id = none ∧ ∃ a, rt.attempts.get? id = some a
  | _ => True

theorem modify (h : Backed log accountId rt) (id : String) (f : Attempt → Attempt)
    (hf : ∀ a, (f a).reservedTokens = a.reservedTokens ∧ (f a).quotaUnits = a.quotaUnits) :
    Backed log accountId { rt with attempts := rt.attempts.modify id f } := by
  refine h.modify_attempts (fun _ => rfl) (fun _ => rfl) fun id' a' ha' => ?_
  have ha' : (rt.attempts.modify id f).get? id' = some a' := ha'
  rw [Dict.get?_modify] at ha'
  split at ha'
  · obtain ⟨a, ha, rfl⟩ := Option.map_eq_some_iff.mp ha'
    exact ⟨a, ha, hf a⟩
  · exact ⟨a', ha', rfl, rfl⟩

theorem filter (h : Backed log accountId rt) (p : String × Attempt → Bool)
    (hattempts : rt'.attempts = rt.attempts.filter p) (hstarts : rt'.starts = rt.starts)
    (hresolutions : rt'.resolutions = rt.resolutions) : Backed log accountId rt' := by
  refine h.modify_attempts (fun _ => by rw [hstarts]) (fun _ => by rw [hresolutions])
    fun id a ha => ⟨a, ?_, rfl, rfl⟩
  rw [hattempts, Dict.get?_filter] at ha
  exact (Option.filter_eq_some_iff.mp ha).1

/-- A record that takes no attempt from its account, or an uncertain one. -/
theorem endRecoveryProbe (h : Backed log accountId rt) (classification : ProbeClassification) :
    Backed log accountId (rt.endRecoveryProbe classification) := by
  rcases endRecoveryProbe_cases rt classification with heq | heq | ⟨oldest, heq⟩
  · rw [heq]
    exact h
  · rw [heq]
    exact h
  · rw [heq]
    exact h.filter (fun q => decide (q.1 ≠ oldest)) rfl rfl rfl

theorem replaceCircuit (h : Backed log accountId rt) (scope : Option DeploymentGenerationId)
    (previous value : CircuitValue) :
    Backed log accountId (rt.replaceCircuit scope previous value) := by
  cases scope <;> exact h

/-- **A record of a live process.** -/
theorem take (h : Backed log accountId rt) (hlawful : LawfulLog cfg log)
    (hpermitted : Permitted cfg log record.body) (hown : Own accountId rt record.body) :
    Backed (log ++ [record]) accountId (rt.take record.receipt record.body) := by
  cases hbody : record.body with
  | attemptReserved d =>
    rw [hbody] at hown
    exact h.reserve hlawful hbody hown hpermitted rfl rfl rfl
  | attemptResolved id r digest time =>
    rw [hbody] at hown
    obtain ⟨hledger, a, ha⟩ := hown
    obtain ⟨s, hs⟩ := Option.isSome_iff_exists.mp ((h id).held a ha).2.1
    simp only [AccountRuntime.take, ha, hs]
    exact h.settle hlawful hbody ha hledger ⟨rfl, rfl, rfl⟩ rfl rfl rfl
  | attemptDispatched id time =>
    refine neutral ?_ fun _ _ _ _ => by rw [hbody]; rintro ⟨⟩
    exact h.modify id _ fun _ => ⟨rfl, rfl⟩
  | attemptUncertain id reason =>
    refine neutral ?_ fun _ _ _ _ => by rw [hbody]; rintro ⟨⟩
    exact h.modify id _ fun _ => ⟨rfl, rfl⟩
  | circuitUpdated other scope value =>
    refine neutral ?_ fun _ _ _ _ => by rw [hbody]; rintro ⟨⟩
    exact h.replaceCircuit scope _ value
  | authoritativeActiveCount other count =>
    refine neutral ?_ fun _ _ _ _ => by rw [hbody]; rintro ⟨⟩
    exact h.filter _ rfl rfl rfl
  | recoveryProbeFinished other probeId classification =>
    refine neutral ?_ fun _ _ _ _ => by rw [hbody]; rintro ⟨⟩
    exact h.endRecoveryProbe classification
  | accountRegistered | recoveryProbeStarted =>
    exact h.neutral fun _ _ _ _ => by rw [hbody]; rintro ⟨⟩

/-! ### Replay -/

/-- **A record that is replayed.** -/
theorem replay (h : Backed log accountId rt) (hlawful : LawfulLog cfg log)
    (hpermitted : Permitted cfg log record.body)
    (haccount : ∀ d, record.body = .attemptReserved d → d.accountId = accountId)
    (happly : rt.applyRecord record = .ok rt') : Backed (log ++ [record]) accountId rt' := by
  unfold AccountRuntime.applyRecord at happly
  cases hbody : record.body with
  | attemptReserved d =>
    simp only [hbody] at happly
    cases happly
    refine h.reserve hlawful hbody (haccount d hbody) hpermitted ?_ ?_ ?_ <;>
      · simp only [replayReserve, AccountRuntime.reserve]
        split <;> rfl
  | attemptResolved id r digest time =>
    simp only [hbody] at happly
    rw [hbody] at hpermitted
    obtain ⟨e, he, -⟩ | ⟨a, hresolves, rfl⟩ := replayResolve_cases happly
    · -- nothing was reported on the attempt before
      obtain ⟨-, record', hmem, r', hbody', -⟩ := (h id).ledger e he
      exact absurd ⟨_, _, hbody'⟩ (hpermitted.1 record' hmem r')
    · exact h.settle hlawful hbody hresolves.held hresolves.unresolved ⟨rfl, rfl, rfl⟩ rfl rfl rfl
  | attemptDispatched id time =>
    simp only [hbody] at happly
    refine neutral ?_ fun _ _ _ _ => by rw [hbody]; rintro ⟨⟩
    obtain ⟨a, -, ⟨-, -, rfl⟩ | ⟨-, rfl⟩⟩ := replayDispatch_cases happly
    · exact h
    · exact h.modify id _ fun _ => ⟨rfl, rfl⟩
  | attemptUncertain id reason =>
    simp only [hbody] at happly
    cases happly
    refine neutral ?_ fun _ _ _ _ => by rw [hbody]; rintro ⟨⟩
    exact h.modify id _ fun _ => ⟨rfl, rfl⟩
  | circuitUpdated other scope value =>
    simp only [hbody] at happly
    cases happly
    refine neutral ?_ fun _ _ _ _ => by rw [hbody]; rintro ⟨⟩
    exact h.replaceCircuit scope _ value
  | authoritativeActiveCount other count =>
    simp only [hbody, recordActiveCount] at happly
    split at happly
    · cases happly
    · cases happly
      refine neutral ?_ fun _ _ _ _ => by rw [hbody]; rintro ⟨⟩
      exact h.filter _ rfl rfl rfl
  | recoveryProbeFinished other probeId classification =>
    simp only [hbody] at happly
    cases happly
    refine neutral ?_ fun _ _ _ _ => by rw [hbody]; rintro ⟨⟩
    exact h.endRecoveryProbe classification
  | accountRegistered | recoveryProbeStarted =>
    simp only [hbody] at happly
    cases happly
    refine neutral ?_ fun _ _ _ _ => by rw [hbody]; rintro ⟨⟩
    exact h

end Backed

end LlmMaxxing
