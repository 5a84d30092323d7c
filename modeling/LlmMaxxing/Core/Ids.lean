import Mathlib.Algebra.Ring.Nat
import LlmMaxxing.Lib.StrEnum

/-!
# Typed identifiers (`core/ids.py`)

An identifier is a string `tag ++ body` whose body is either a UUID4 or a lowercase
SHA-256 digest. The kind is a type index and the shape is a field, so identifiers of two
kinds cannot be confused and an ill-formed one cannot be built.
-/

namespace LlmMaxxing

/-! ## Character classes -/

/-- `[0-9a-f]`. -/
def isLowerHex (c : Char) : Bool :=
  ('0' ≤ c && c ≤ '9') || ('a' ≤ c && c ≤ 'f')

/-- `[0-9a-f]{n}` over the whole list. -/
def isHexOfLength (n : Nat) (cs : List Char) : Bool :=
  cs.length == n && cs.all isLowerHex

/-- `_UUID4_PATTERN`: `8-4-4-4-12` hex digits, version nibble `4`, variant nibble `[89ab]`. -/
def isUuid4 (cs : List Char) : Bool :=
  cs.length == 36 &&
    cs.zipIdx.all fun (c, i) =>
      if i = 8 ∨ i = 13 ∨ i = 18 ∨ i = 23 then c == '-'
      else if i = 14 then c == '4'
      else if i = 19 then c == '8' || c == '9' || c == 'a' || c == 'b'
      else isLowerHex c

/-! ## Kinds -/

/-- The body pattern of an identifier class (`_UuidId`, `_DigestId`). -/
inductive IdBody where
  | uuid
  | digest
  deriving DecidableEq, Repr

/-- The identifier classes. -/
inductive IdKind where
  | account | request | attempt | event | gatewayBoot | installation | command | ack
  | authLease | probe | routeGroup | routeLeg | policyRevision | deploymentGeneration
  | bundleHash
  deriving DecidableEq, Repr

namespace IdKind

/-- `_prefix`. -/
def tag : IdKind → String
  | account => "acc_"
  | request => "req_"
  | attempt => "att_"
  | event => "evt_"
  | gatewayBoot => "boot_"
  | installation => "inst_"
  | command => "cmd_"
  | ack => "ack_"
  | authLease => "al_"
  | probe => "probe_"
  | routeGroup => "rg_"
  | routeLeg => "leg_"
  | policyRevision => "pol_"
  | deploymentGeneration => "dg1_"
  | bundleHash => "bh_"

/-- `_body_pattern`. -/
def body : IdKind → IdBody
  | deploymentGeneration | bundleHash => .digest
  | _ => .uuid

/-- `re.fullmatch(prefix + body_pattern, text)`. -/
def accepts (k : IdKind) (text : String) : Bool :=
  let cs := text.toList
  let n := k.tag.toList.length
  cs.take n == k.tag.toList &&
    match k.body with
    | .uuid => isUuid4 (cs.drop n)
    | .digest => isHexOfLength 64 (cs.drop n)

end IdKind

/-- `_TypedId`: a string of its kind's shape. -/
structure TypedId (k : IdKind) where
  text : String
  valid : k.accepts text = true
  deriving DecidableEq

namespace TypedId

variable {k : IdKind}

instance instLawfulBEq : LawfulBEq (TypedId k) where
  eq_of_beq := of_decide_eq_true
  rfl := decide_eq_true rfl

@[ext] theorem ext {a b : TypedId k} (h : a.text = b.text) : a = b := by
  cases a; cases b; cases h; rfl

/-- The class call: accept a string of the right shape, else refuse. -/
def ofString? (k : IdKind) (text : String) : Option (TypedId k) :=
  if h : k.accepts text = true then some ⟨text, h⟩ else none

@[simp] theorem ofString?_text (a : TypedId k) : ofString? k a.text = some a := by
  simp [ofString?, a.valid]

end TypedId

/-! ## Numbered identifiers -/

/-- The `width` low hexadecimal digits of a number, least significant first. -/
def hexDigits (width n : Nat) : List Char :=
  (List.range width).map fun i => (n / 16 ^ i % 16).digitChar

theorem isLowerHex_digitChar {d : Nat} (h : d < 16) : isLowerHex d.digitChar = true := by
  have hall : ∀ d : Fin 16, isLowerHex (d : Nat).digitChar = true := by decide
  exact hall ⟨d, h⟩

theorem hexDigits_isLowerHex {width n : Nat} {c : Char} (h : c ∈ hexDigits width n) :
    isLowerHex c = true := by
  obtain ⟨i, -, rfl⟩ := List.mem_map.mp h
  exact isLowerHex_digitChar (Nat.mod_lt _ (by decide))

theorem isHexOfLength_hexDigits (width n : Nat) :
    isHexOfLength width (hexDigits width n) = true := by
  rw [isHexOfLength, Bool.and_eq_true, List.all_eq_true]
  exact ⟨by simp [hexDigits], fun c hc => hexDigits_isLowerHex hc⟩

/-- The fixed part of the numbered UUIDs. -/
def uuidStem : List Char := "00000000-0000-4000-8000-".toList

theorem isUuid4_numbered (n : Nat) : isUuid4 (uuidStem ++ hexDigits 12 n) = true := by
  have hstem : uuidStem.length = 24 := by decide
  have hdigits : (hexDigits 12 n).length = 12 := by simp [hexDigits]
  rw [isUuid4, Bool.and_eq_true, List.zipIdx_append, List.all_append, Bool.and_eq_true,
    List.length_append, hstem, hdigits]
  refine ⟨rfl, by decide, List.all_eq_true.mpr fun q hq => ?_⟩
  obtain ⟨c, i⟩ := q
  have hi := List.le_snd_of_mem_zipIdx hq
  have hc : isLowerHex c = true := hexDigits_isLowerHex (List.fst_mem_of_mem_zipIdx hq)
  have hdash : ¬ (i = 8 ∨ i = 13 ∨ i = 18 ∨ i = 23) := by simp only at hi; omega
  have hversion : i ≠ 14 := by simp only at hi; omega
  have hvariant : i ≠ 19 := by simp only at hi; omega
  simp only [hdash, hversion, hvariant, if_false, hc]

theorem digitChar_injective {a b : Nat} (ha : a < 16) (hb : b < 16)
    (h : a.digitChar = b.digitChar) : a = b := by
  have hall : ∀ a b : Fin 16, (a : Nat).digitChar = (b : Nat).digitChar → a = b := by decide
  exact congrArg Fin.val (hall ⟨a, ha⟩ ⟨b, hb⟩ h)

/-- Numbers with the same low digits are equal as far as the digits go. -/
theorem hexDigits_injective {width n m : Nat} (hn : n < 16 ^ width) (hm : m < 16 ^ width)
    (h : hexDigits width n = hexDigits width m) : n = m := by
  have hdigit : ∀ i < width, n / 16 ^ i % 16 = m / 16 ^ i % 16 := fun i hi =>
    digitChar_injective (Nat.mod_lt _ (by decide)) (Nat.mod_lt _ (by decide))
      (List.map_inj_left.mp h i (List.mem_range.mpr hi))
  clear h
  induction width generalizing n m with
  | zero => omega
  | succ width ih =>
    have hlow := hdigit 0 (by omega)
    have hhigh : n / 16 = m / 16 := by
      refine ih (Nat.div_lt_of_lt_mul (by rw [Nat.pow_succ] at hn; omega))
        (Nat.div_lt_of_lt_mul (by rw [Nat.pow_succ] at hm; omega)) fun i hi => ?_
      have hnext := hdigit (i + 1) (by omega)
      rwa [Nat.pow_succ', ← Nat.div_div_eq_div_mul, ← Nat.div_div_eq_div_mul] at hnext
    simp only [Nat.pow_zero, Nat.div_one] at hlow
    omega

namespace IdKind

/-- The text after the tag. -/
def numberedBody (k : IdKind) (n : Nat) : List Char :=
  match k.body with
  | .uuid => uuidStem ++ hexDigits 12 n
  | .digest => hexDigits 64 n

theorem accepts_numbered (k : IdKind) (n : Nat) :
    k.accepts (String.ofList (k.tag.toList ++ k.numberedBody n)) = true := by
  simp only [accepts, String.toList_ofList, List.take_left, List.drop_left, BEq.rfl, Bool.true_and,
    numberedBody]
  cases k.body with
  | uuid => exact isUuid4_numbered n
  | digest => exact isHexOfLength_hexDigits 64 n

end IdKind

/-- The identifier number `n` of a kind. -/
def TypedId.numbered (k : IdKind) (n : Nat) : TypedId k := ⟨_, k.accepts_numbered n⟩

theorem TypedId.numbered_injective {k : IdKind} {n m : Nat} (hn : n < 16 ^ 12) (hm : m < 16 ^ 12)
    (h : numbered k n = numbered k m) : n = m := by
  have hbody : k.numberedBody n = k.numberedBody m :=
    List.append_cancel_left (String.ofList_injective (congrArg TypedId.text h))
  unfold IdKind.numberedBody at hbody
  cases hk : k.body with
  | uuid =>
    simp only [hk] at hbody
    exact hexDigits_injective hn hm (List.append_cancel_left hbody)
  | digest =>
    simp only [hk] at hbody
    exact hexDigits_injective (Nat.lt_trans hn (by decide)) (Nat.lt_trans hm (by decide)) hbody

abbrev AccountId := TypedId .account
abbrev RequestId := TypedId .request
abbrev AttemptId := TypedId .attempt
abbrev EventId := TypedId .event
abbrev GatewayBootId := TypedId .gatewayBoot
abbrev InstallationId := TypedId .installation
abbrev CommandId := TypedId .command
abbrev AckId := TypedId .ack
abbrev ProbeToken := TypedId .probe
abbrev RouteGroupId := TypedId .routeGroup
abbrev RouteLegId := TypedId .routeLeg
abbrev PolicyRevisionId := TypedId .policyRevision
abbrev DeploymentGenerationId := TypedId .deploymentGeneration
abbrev BundleHash := TypedId .bundleHash

end LlmMaxxing
