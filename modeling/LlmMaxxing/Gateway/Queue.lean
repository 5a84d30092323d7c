import LlmMaxxing.Core.Models
import LlmMaxxing.Lib.Dict

/-!
# The hierarchical weighted-deficit queue (`gateway/scheduler.py`, `WDRRQueue`)

Three levels decide which entry is proposed: tier forcing (lower numbers first, with an aging
bound), scarce : flexible classes at 2 : 1, and per-key weighted deficit round robin. A proposal
computes the entry and the successor fairness state; `commit` installs both.

The proposal is cut into the steps the source takes in sequence: the tier, the class, the key,
and the charge.
-/

namespace LlmMaxxing

open Check

/-! ## Entries -/

/-- Whether one account or several can serve a request. -/
inductive Scarcity where
  | scarce | flexible
  deriving DecidableEq, Repr

instance : StrEnum Scarcity where
  value
    | .scarce => "scarce"
    | .flexible => "flexible"
  members := [.scarce, .flexible]

namespace Scarcity

/-- The other class. -/
def other : Scarcity → Scarcity
  | scarce => flexible
  | flexible => scarce

/-- Grants a class receives per round. -/
def quantum : Scarcity → Nat
  | scarce => 2
  | flexible => 1

end Scarcity

/-- Exceptions raised by the queue. -/
inductive QueueError where
  | valueError (message : String)
  | runtimeError (message : String)
  | keyError
  deriving DecidableEq, Repr

/-- What `QueueEntry.__post_init__` accepts. -/
structure EntryWellFormed (keyId : String) (weight : Nat) (legs : List AuthorizedLeg) :
    Prop where
  keyId_ne : keyId ≠ ""
  keyId_le : keyId.toList.length ≤ 160
  weight_pos : 1 ≤ weight
  weight_le : weight ≤ 64
  legs_ne : legs ≠ []
  legs_nodup : (legs.map AuthorizedLeg.legId).Nodup

/-- A queued request: key, tier, weight and authorization ceiling. The scarcity is that of
the entry as first built; contraction keeps it. -/
structure QueueEntry where
  requestId : RequestId
  keyId : String
  tier : Nat
  weight : Nat
  authorizedLegs : List AuthorizedLeg
  scarcity : Scarcity
  wellFormed : EntryWellFormed keyId weight authorizedLegs
  deriving DecidableEq

namespace QueueEntry

/-- `__post_init__`: the checks in the source's order. -/
def check (keyId : String) (weight : Nat) (legs : List AuthorizedLeg) :
    Except QueueError (PLift (EntryWellFormed keyId weight legs)) :=
  if h₁ : keyId ≠ "" ∧ keyId.toList.length ≤ 160 then
    if h₂ : 1 ≤ weight ∧ weight ≤ 64 then
      if h₃ : legs ≠ [] then
        if h₄ : (legs.map AuthorizedLeg.legId).Nodup then
          .ok ⟨⟨h₁.1, h₁.2, h₂.1, h₂.2, h₃, h₄⟩⟩
        else .error (.valueError "queue entry contains duplicate authorized legs")
      else .error (.valueError "queue entry requires an authorization ceiling")
    else .error (.valueError "weight must be in [1, 64]")
  else .error (.valueError "key id is empty or oversized")

/-- One distinct account is scarce, several are flexible. -/
def scarcityOf (legs : List AuthorizedLeg) : Scarcity :=
  if (legs.map AuthorizedLeg.accountId).dedup.length = 1 then .scarce else .flexible

/-- The constructor call. -/
def build (requestId : RequestId) (keyId : String) (tier weight : Nat)
    (legs : List AuthorizedLeg) : Except QueueError QueueEntry := do
  let ok ← check keyId weight legs
  return ⟨requestId, keyId, tier, weight, legs, scarcityOf legs, ok.down⟩

end QueueEntry

/-- `_Queued`: an entry and its arrival number. -/
structure Queued where
  entry : QueueEntry
  sequence : Nat
  deriving DecidableEq

/-- The order of arrival `(sequence, str(request_id))`. -/
def Queued.arrival (q : Queued) : Nat ×ₗ String := toLex (q.sequence, q.entry.requestId.text)

/-! ## Fairness state -/

/-- The stored round-robin state: tuples sorted by their keys. -/
structure FairnessState where
  classDeficits : List ((Nat × Scarcity) × Nat) := []
  classCursors : List (Nat × Scarcity) := []
  keyDeficits : List ((Nat × Scarcity × String) × Nat) := []
  keyCursors : List ((Nat × Scarcity) × String) := []
  higherGrantStreak : Nat := 0
  deriving DecidableEq

/-- The four dictionaries `_decode_state` returns. -/
structure FairnessTables where
  classDeficits : Dict (Nat × Scarcity) Nat
  classCursors : Dict Nat Scarcity
  keyDeficits : Dict (Nat × Scarcity × String) Nat
  keyCursors : Dict (Nat × Scarcity) String

/-- `_decode_state`. -/
def decodeState (s : FairnessState) : FairnessTables where
  classDeficits := Dict.ofList s.classDeficits
  classCursors := Dict.ofList s.classCursors
  keyDeficits := Dict.ofList s.keyDeficits
  keyCursors := Dict.ofList s.keyCursors

/-- `_encode_state`. -/
def encodeState (t : FairnessTables) (streak : Nat) : FairnessState where
  classDeficits :=
    sortOn (fun q => (toLex (q.1.1, StrEnum.value q.1.2) : Nat ×ₗ String)) t.classDeficits.entries
  classCursors := sortOn (fun q => q.1) t.classCursors.entries
  keyDeficits :=
    sortOn (fun q => (toLex (q.1.1, toLex (StrEnum.value q.1.2.1, q.1.2.2)) :
      Nat ×ₗ String ×ₗ String)) t.keyDeficits.entries
  keyCursors :=
    sortOn (fun q => (toLex (q.1.1, StrEnum.value q.1.2) : Nat ×ₗ String)) t.keyCursors.entries
  higherGrantStreak := streak

/-! ## The queue -/

/-- `WDRRQueue`. -/
structure WDRRQueue where
  maxConsecutiveHigherGrants : Nat := 64
  queued : Dict RequestId Queued := Dict.empty
  nextSequence : Nat := 0
  version : Nat := 0
  fairness : FairnessState := {}

/-- A proposal: the entry, the queue version it was computed at, and the successor state. -/
structure QueueSelection where
  entry : QueueEntry
  queueVersion : Nat
  fairness : FairnessState

namespace WDRRQueue

/-- `__init__`. -/
def init (maxConsecutiveHigherGrants : Nat) : Except QueueError WDRRQueue :=
  if maxConsecutiveHigherGrants < 1 then .error (.valueError "aging grant bound must be positive")
  else .ok { maxConsecutiveHigherGrants }

/-- `entries`: the queued entries by arrival number. -/
def entries (q : WDRRQueue) : List QueueEntry :=
  (sortOn Queued.sequence q.queued.values).map Queued.entry

/-- `entry`. -/
def entry (q : WDRRQueue) (r : RequestId) : Except QueueError QueueEntry :=
  match q.queued.get? r with
  | some item => .ok item.entry
  | none => .error .keyError

/-- `key_position`: the entries of the same key that arrived before. -/
def keyPosition (q : WDRRQueue) (r : RequestId) : Except QueueError Nat :=
  match q.queued.get? r with
  | some target =>
    .ok (q.queued.values.countP fun item =>
      decide (item.entry.keyId = target.entry.keyId ∧ item.arrival < target.arrival))
  | none => .error .keyError

/-- `enqueue`. -/
def enqueue (q : WDRRQueue) (e : QueueEntry) : Except QueueError WDRRQueue :=
  if q.queued.contains e.requestId then .error (.valueError "duplicate queued request")
  else
    .ok
      { q with
        queued := q.queued.insert e.requestId ⟨e, q.nextSequence⟩
        nextSequence := q.nextSequence + 1
        version := q.version + 1 }

/-- `cancel`: whether the request was queued, and the queue without it. -/
def cancel (q : WDRRQueue) (r : RequestId) : Bool × WDRRQueue :=
  if q.queued.contains r then
    (true, { q with queued := q.queued.erase r, version := q.version + 1 })
  else (false, q)

/-- `_leg_contracts`. -/
def legContracts (old new : AuthorizedLeg) : Bool := old.intersection new == some new

/-- Every new leg contracts the old leg of its identity. -/
def legsContract (old new : List AuthorizedLeg) : Bool :=
  new.all fun candidate =>
    match old.reverse.find? fun leg => leg.identity = candidate.identity with
    | some previous => legContracts previous candidate
    | none => false

/-- The deficit clamp of `contract`: a lowered weight caps the key's stored deficit. -/
def clampDeficit (s : FairnessState) (old : QueueEntry) (newTier newWeight : Nat) :
    FairnessState :=
  let t := decodeState s
  let key := (old.tier, old.scarcity, old.keyId)
  if newTier = old.tier ∧ newWeight < old.weight then
    match t.keyDeficits.get? key with
    | some d =>
      encodeState { t with keyDeficits := t.keyDeficits.insert key (min d (8 * newWeight)) }
        s.higherGrantStreak
    | none => s
  else s

/-- `contract`: lower the service and the authority of a queued request. -/
def contract (q : WDRRQueue) (r : RequestId) (tier : Option Nat) (weight : Option Nat)
    (legs : Option (List AuthorizedLeg)) : Except QueueError (QueueEntry × WDRRQueue) :=
  match q.queued.get? r with
  | none => .error .keyError
  | some item => do
    let old := item.entry
    let newTier := tier.getD old.tier
    let newWeight := weight.getD old.weight
    let newLegs := legs.getD old.authorizedLegs
    require (old.tier ≤ newTier ∧ newWeight ≤ old.weight)
      (.valueError "activation cannot expand queued QoS")
    require (legsContract old.authorizedLegs newLegs = true)
      (.valueError "activation cannot expand queued authorization")
    let ok ← QueueEntry.check old.keyId newWeight newLegs
    let updated : QueueEntry :=
      ⟨old.requestId, old.keyId, newTier, newWeight, newLegs, old.scarcity, ok.down⟩
    return (updated,
      { q with
        queued := q.queued.insert r ⟨updated, item.sequence⟩
        fairness := clampDeficit q.fairness old newTier newWeight
        version := q.version + 1 })

/-! ## Proposal -/

/-- `_oldest`: the first item in order of arrival. -/
def oldest (items : List Queued) : Option Queued := (sortOn Queued.arrival items).head?

/-- The items that are eligible and not excluded. -/
def available (q : WDRRQueue) (eligible : QueueEntry → Bool) (excluded : List RequestId) :
    List Queued :=
  q.queued.values.filter fun item =>
    decide (item.entry.requestId ∉ excluded) && eligible item.entry

/-- `tiers[0]`: the smallest tier number present. -/
def topTier (items : List Queued) : Option Nat :=
  (items.map fun item => item.entry.tier).min?

/-- The items of a tier below the top one. -/
def lowerItems (items : List Queued) (top : Nat) : List Queued :=
  items.filter fun item => decide (top < item.entry.tier)

/-- The tier served: the top one, unless the aging bound forces the oldest lower item's. -/
def chooseTier (q : WDRRQueue) (items : List Queued) (top : Nat) : Nat :=
  match oldest (lowerItems items top) with
  | some item =>
    if q.maxConsecutiveHigherGrants ≤ q.fairness.higherGrantStreak then item.entry.tier else top
  | none => top

/-- The class served: the cursor's, flipped while it has no item (at most twice). -/
def chooseClass (cursor : Scarcity) (tierItems : List Queued) : Scarcity :=
  let active := tierItems.map fun item => item.entry.scarcity
  if cursor ∈ active then cursor
  else if cursor.other ∈ active then cursor.other
  else cursor

/-- A stored deficit as a proposal reads it: capped at eight quanta, refilled when empty. -/
def replenish (stored quantum : Nat) : Nat :=
  let deficit := min stored (8 * quantum)
  if deficit = 0 then min (deficit + quantum) (8 * quantum) else deficit

/-- `first_sequence`: the smallest arrival number of each key. -/
def firstSequence (classItems : List Queued) : Dict String Nat :=
  classItems.foldl
    (fun d item =>
      d.insert item.entry.keyId (min item.sequence ((d.get? item.entry.keyId).getD item.sequence)))
    Dict.empty

/-- The keys in the order of their first queued arrival. -/
def keyOrder (classItems : List Queued) : List String :=
  let first := firstSequence classItems
  sortOn (fun key => (toLex ((first.get? key).getD 0, key) : Nat ×ₗ String)) first.keys

/-- The key served: the cursor's while it has an item, else the first. -/
def chooseKey (cursor : Option String) (keys : List String) : Option String :=
  match cursor with
  | some key => if key ∈ keys then some key else keys.head?
  | none => keys.head?

/-- The key after `key` in cyclic order. -/
def nextKey (keys : List String) (key : String) : String :=
  keys.getD ((keys.idxOf key + 1) % keys.length) key

/-- The items of one key. -/
def itemsOfKey (items : List Queued) (key : String) : List Queued :=
  items.filter fun item => item.entry.keyId == key

/-- `min(weights)` over the items of the key. -/
def keyQuantum (items : List Queued) : Nat :=
  ((items.map fun item => item.entry.weight).min?).getD 0

/-- The tables after one grant of `key` in `(tier, scarcity)`. -/
def charge (t : FairnessTables) (tier : Nat) (scarcity : Scarcity) (keys : List String)
    (key : String) (quantum : Nat) : FairnessTables :=
  let classKey := (tier, scarcity)
  let keyKey := (tier, scarcity, key)
  let classDeficit := replenish ((t.classDeficits.get? classKey).getD 0) scarcity.quantum - 1
  let keyDeficit := replenish ((t.keyDeficits.get? keyKey).getD 0) quantum - 1
  { classDeficits := t.classDeficits.insert classKey classDeficit
    classCursors := t.classCursors.insert tier
      (if classDeficit = 0 then scarcity.other else scarcity)
    keyDeficits := t.keyDeficits.insert keyKey keyDeficit
    keyCursors := t.keyCursors.insert classKey
      (if keyDeficit = 0 then nextKey keys key else key) }

/-- The class-level half of a proposal: what is served within the chosen tier. -/
def proposeInTier (q : WDRRQueue) (tier : Nat) (tierItems : List Queued) :
    Option (Queued × FairnessTables) :=
  let t := decodeState q.fairness
  let scarcity := chooseClass ((t.classCursors.get? tier).getD .scarce) tierItems
  let classItems := tierItems.filter fun item => item.entry.scarcity == scarcity
  let keys := keyOrder classItems
  match chooseKey (t.keyCursors.get? (tier, scarcity)) keys with
  | none => none
  | some key =>
    let items := itemsOfKey classItems key
    (oldest items).map fun selected =>
      (selected, charge t tier scarcity keys key (keyQuantum items))

/-- `propose`. -/
def propose (q : WDRRQueue) (eligible : QueueEntry → Bool) (excluded : List RequestId) :
    Option QueueSelection :=
  let items := q.available eligible excluded
  match topTier items with
  | none => none
  | some top =>
    let lower := lowerItems items top
    let tier := q.chooseTier items top
    let tierItems := items.filter fun item => item.entry.tier == tier
    let streak :=
      if lower ≠ [] ∧ tier = top then q.fairness.higherGrantStreak + 1 else 0
    (q.proposeInTier tier tierItems).map fun (selected, tables) =>
      { entry := selected.entry
        queueVersion := q.version
        fairness := encodeState tables streak }

/-- `commit`: refuse a stale selection, else install the state and drop the entry. -/
def commit (q : WDRRQueue) (s : QueueSelection) : Except QueueError WDRRQueue :=
  if s.queueVersion = q.version ∧
      (q.queued.get? s.entry.requestId).map Queued.entry = some s.entry then
    .ok
      { q with
        fairness := s.fairness
        queued := q.queued.erase s.entry.requestId
        version := q.version + 1 }
  else .error (.runtimeError "stale WDRR selection")

/-! ## Scarce-account protection -/

/-- `protected_scarce_accounts`. -/
def protectedScarceAccounts (q : WDRRQueue) (candidates : Dict RequestId (List AccountId)) :
    List AccountId :=
  (q.queued.values.filter fun item => item.entry.scarcity == .scarce).flatMap fun item =>
    (candidates.get? item.entry.requestId).getD []

/-- `unprotected_accounts`. -/
def unprotectedAccounts (q : WDRRQueue) (e : QueueEntry) (accounts : List AccountId)
    (candidates : Dict RequestId (List AccountId)) : List AccountId :=
  if e.scarcity = .scarce then accounts
  else accounts.filter fun a => a ∉ q.protectedScarceAccounts candidates

end WDRRQueue

end LlmMaxxing
