import LlmMaxxing.Core.BundleRoundTrip
import LlmMaxxing.Core.Wire
import LlmMaxxing.Lib.JsonReorder

/-!
# What canonical bytes tell apart (`core/canonical.py`, `core/wire.py`)

`canonical_json_faithful` says that canonical bytes are read back to the value, and that values share
them exactly when they agree up to the order of members. It follows that a signed command is fixed by
its signing bytes but for the signature of its seal, and a bundle by its bytes but for the order of its
arrays.
-/

namespace LlmMaxxing

open Json Check

/-- `canonical_json_bytes`. -/
def canonicalJsonBytes (v : Json) : Except CanonicalError Json.Bytes := serialize v

/-! ## Commands as they are signed -/

/-- `_HEX128`. -/
def isHex128 (s : String) : Bool := isHexOfLength 128 s.toList

/-- A letter or a digit of `_KEY_ID`. -/
def isKeyIdHead (c : Char) : Bool :=
  ('A' ≤ c && c ≤ 'Z') || ('a' ≤ c && c ≤ 'z') || ('0' ≤ c && c ≤ '9')

/-- `_KEY_ID`. -/
def isKeyId (s : String) : Bool :=
  match s.toList with
  | [] => false
  | c :: rest => isKeyIdHead c && decide (rest.length ≤ 63) &&
      rest.all fun d => isKeyIdHead d || d == '.' || d == '_' || d == '-'

instance : StrEnum WireCommandKind where
  value
    | .prepare => "prepare"
    | .commit => "commit"
    | .deny => "deny"
    | .clearDeny => "clear_deny"
    | .status => "status"
  members := [.prepare, .commit, .deny, .clearDeny, .status]

/-- `SignedActivationV1`. -/
structure SignedActivationV1 where
  payloadB64 : String
  signature : String
  trustEpoch : Nat
  signerKeyId : String
  payload_length : 1 ≤ payloadB64.length ∧ payloadB64.length ≤ 16 * 1024
  signature_hex : isHex128 signature = true
  trustEpoch_pos : 1 ≤ trustEpoch
  signerKeyId_valid : isKeyId signerKeyId = true

/-- `ChannelSealV1`. -/
structure ChannelSealV1 where
  sealId : String
  trustEpoch : Nat
  signature : String
  sealId_valid : isKeyId sealId = true
  trustEpoch_pos : 1 ≤ trustEpoch
  signature_hex : isHex128 signature = true

/-- `GatewayCommandV1`. The payload is a `dict[str, JsonValue]`: floats among them. -/
structure GatewayCommandV1 where
  commandId : CommandId
  installationId : InstallationId
  channelEpoch : Nat
  securityEpoch : Nat
  dispatcherFence : Nat
  bootId : GatewayBootId
  sequence : Nat
  previousDigest : String
  kind : WireCommandKind
  issuedAtMs : Nat
  payload : List (String × PyValue)
  policy : Option SignedActivationV1
  channelSeal : ChannelSealV1
  channelEpoch_pos : 1 ≤ channelEpoch
  securityEpoch_pos : 1 ≤ securityEpoch
  dispatcherFence_pos : 1 ≤ dispatcherFence
  sequence_pos : 1 ≤ sequence
  previousDigest_hex : isHex64 previousDigest = true
  issuedAtMs_pos : 1 ≤ issuedAtMs
  /-- The names of a Python dictionary are distinct. -/
  payload_distinct : (PyValue.dict payload).distinct = true
  /-- `_policy_presence_is_closed`. -/
  policyPresence : kind ≠ .status ↔ policy.isSome = true

/-- `SignedActivationV1.model_dump(mode="json")`. -/
def SignedActivationV1.dump (p : SignedActivationV1) : PyValue := .dict [
  ("payload_b64", .str p.payloadB64), ("signature", .str p.signature),
  ("trust_epoch", .int p.trustEpoch), ("signer_key_id", .str p.signerKeyId)]

/-- `ChannelSealV1.model_dump(mode="json")`. -/
def ChannelSealV1.dump (s : ChannelSealV1) : PyValue := .dict [
  ("seal_id", .str s.sealId), ("trust_epoch", .int s.trustEpoch), ("signature", .str s.signature)]

/-- `GatewayCommandV1.model_dump(mode="json")`. -/
def GatewayCommandV1.dump (c : GatewayCommandV1) : List (String × PyValue) := [
  ("schema_version", .int 1), ("command_id", .str c.commandId.text),
  ("installation_id", .str c.installationId.text), ("channel_epoch", .int c.channelEpoch),
  ("security_epoch", .int c.securityEpoch), ("dispatcher_fence", .int c.dispatcherFence),
  ("boot_id", .str c.bootId.text), ("sequence", .int c.sequence),
  ("previous_digest", .str c.previousDigest), ("kind", .str (StrEnum.value c.kind)),
  ("issued_at_ms", .int c.issuedAtMs), ("payload", .dict c.payload),
  ("policy", match c.policy with
    | some p => p.dump
    | none => .none),
  ("channel_seal", c.channelSeal.dump)]

/-- The signature that stands for none. -/
def blankSignature : String := String.ofList (List.replicate 128 '0')

/-- `_blanked` on the dump; `none` where it raises. -/
def blanked (payload : List (String × PyValue)) : Option (List (String × PyValue)) :=
  match Dict.lookup "channel_seal" payload with
  | some (.dict fields) =>
    some (Dict.upsert "channel_seal" (.dict (Dict.upsert "signature" (.str blankSignature) fields))
      payload)
  | _ => none

/-- `_COMMAND_DOMAIN`. -/
def commandDomain : Json.Bytes := utf8 "llmmaxxing.gateway-command.v1\x00".toList

/-- `gateway_command_signing_bytes`; `none` where it raises. -/
def gatewayCommandSigningBytes (F : PyValue.FloatText) (c : GatewayCommandV1) : Option Json.Bytes := do
  let payload ← blanked c.dump
  let bytes ← (PyValue.dict payload).canonicalBytes F
  return commandDomain ++ bytes

/-- Two commands that differ in nothing but the signature of the seal. Their payloads are equal as
Python values, with a boolean for a boolean and a number for a number in every place. -/
structure SameButSignature (c c' : GatewayCommandV1) : Prop where
  commandId : c.commandId = c'.commandId
  installationId : c.installationId = c'.installationId
  channelEpoch : c.channelEpoch = c'.channelEpoch
  securityEpoch : c.securityEpoch = c'.securityEpoch
  dispatcherFence : c.dispatcherFence = c'.dispatcherFence
  bootId : c.bootId = c'.bootId
  sequence : c.sequence = c'.sequence
  previousDigest : c.previousDigest = c'.previousDigest
  kind : c.kind = c'.kind
  issuedAtMs : c.issuedAtMs = c'.issuedAtMs
  payload_eq : (PyValue.dict c.payload).eq (.dict c'.payload) = true
  payload_kinds : (PyValue.dict c.payload).sameKinds (.dict c'.payload) = true
  policy : c.policy = c'.policy
  sealId : c.channelSeal.sealId = c'.channelSeal.sealId
  sealEpoch : c.channelSeal.trustEpoch = c'.channelSeal.trustEpoch

/-! ## Alike values -/

theorem alike_str {x y : String} (h : PyValue.Alike (.str x) (.str y)) : x = y := by
  have heq := h.eq_freeze
  rw [PyValue.freeze, PyValue.freeze, PyValue.eq, beq_iff_eq] at heq
  · exact heq
  all_goals
    intros
    contradiction

theorem alike_int {m n : Nat} (h : PyValue.Alike (.int m) (.int n)) : m = n := by
  have heq := h.eq_freeze
  simp only [PyValue.freeze, PyValue.eq, PyValue.number?, beq_iff_eq] at heq
  exact_mod_cast heq

/-- Alike values are equal. -/
theorem eq_of_alike (a : PyValue) : ∀ b : PyValue, PyValue.Alike a b → a.eq b = true := by
  induction a using PyValue.induct with
  | list items ih =>
    intro b h
    have hkinds := h.kinds
    cases b with
    | list bs =>
      rw [PyValue.eq, PyValue.eqItems_iff]
      refine List.forall₂_iff_get.mpr ⟨(PyValue.alike_list_iff.mp h).length_eq, fun i hi hi' => ?_⟩
      exact ih _ (List.get_mem items ⟨i, hi⟩) _
        ((List.forall₂_iff_get.mp (PyValue.alike_list_iff.mp h)).2 i hi hi')
    | _ => simp [PyValue.sameKinds] at hkinds
  | dict fields ih =>
    intro b h
    have hkinds := h.kinds
    cases b with
    | dict bs =>
      obtain ⟨hlen, hall⟩ := PyValue.alike_dict_iff.mp h
      rw [PyValue.eq, Bool.and_eq_true, beq_iff_eq, PyValue.eqFields_iff]
      refine ⟨hlen, fun q hq => ?_⟩
      obtain ⟨v, hv, halike⟩ := hall q hq
      exact ⟨v, hv, ih q hq v halike⟩
    | _ => simp [PyValue.sameKinds] at hkinds
  | tuple items _ =>
    intro b h
    have hkinds := h.kinds
    cases b <;> simp [PyValue.sameKinds] at hkinds
  | secret v _ =>
    intro b h
    have hkinds := h.kinds
    cases b <;> simp [PyValue.sameKinds] at hkinds
  | _ =>
    -- a scalar is frozen already
    intro b h
    have heq := h.eq_freeze
    cases b <;> exact heq

/-! ## Commands -/

/-- The members that are signed. -/
def GatewayCommandV1.signed (c : GatewayCommandV1) : List (String × PyValue) := [
  ("schema_version", .int 1), ("command_id", .str c.commandId.text),
  ("installation_id", .str c.installationId.text), ("channel_epoch", .int c.channelEpoch),
  ("security_epoch", .int c.securityEpoch), ("dispatcher_fence", .int c.dispatcherFence),
  ("boot_id", .str c.bootId.text), ("sequence", .int c.sequence),
  ("previous_digest", .str c.previousDigest), ("kind", .str (StrEnum.value c.kind)),
  ("issued_at_ms", .int c.issuedAtMs), ("payload", .dict c.payload),
  ("policy", match c.policy with
    | some p => p.dump
    | none => .none),
  ("channel_seal", .dict [("seal_id", .str c.channelSeal.sealId),
    ("trust_epoch", .int c.channelSeal.trustEpoch), ("signature", .str blankSignature)])]

theorem blanked_dump (c : GatewayCommandV1) : blanked c.dump = some c.signed := rfl

theorem distinct_signed (c : GatewayCommandV1) : (PyValue.dict c.signed).distinct = true := by
  have hnames : (c.signed.map Prod.fst).Nodup := by
    show ["schema_version", "command_id", "installation_id", "channel_epoch", "security_epoch",
      "dispatcher_fence", "boot_id", "sequence", "previous_digest", "kind", "issued_at_ms",
      "payload", "policy", "channel_seal"].Nodup
    decide
  rw [PyValue.distinct_dict_iff]
  refine ⟨hnames, ?_⟩
  unfold GatewayCommandV1.signed
  simp only [List.forall_mem_cons, List.not_mem_nil, false_implies, implies_true, and_true]
  refine ⟨rfl, rfl, rfl, rfl, rfl, rfl, rfl, rfl, rfl, rfl, rfl, c.payload_distinct, ?_, rfl⟩
  cases c.policy <;> rfl

theorem alike_policy {p p' : SignedActivationV1} (h : PyValue.Alike p.dump p'.dump) : p = p' := by
  obtain ⟨-, hall⟩ := PyValue.alike_dict_iff.mp h
  simp only [List.forall_mem_cons] at hall
  obtain ⟨⟨_, h₁, hpayload⟩, ⟨_, h₂, hsignature⟩, ⟨_, h₃, hepoch⟩, ⟨_, h₄, hsigner⟩, -⟩ := hall
  cases h₁
  cases h₂
  cases h₃
  cases h₄
  cases p
  cases p'
  cases alike_str hpayload
  cases alike_str hsignature
  cases alike_int hepoch
  cases alike_str hsigner
  rfl

theorem alike_optPolicy {p p' : Option SignedActivationV1}
    (h : PyValue.Alike (match p with | some p => p.dump | none => .none)
      (match p' with | some p => p.dump | none => .none)) : p = p' := by
  cases p with
  | none =>
    cases p' with
    | none => rfl
    | some p' => cases h.kinds
  | some p =>
    cases p' with
    | none => cases h.kinds
    | some p' => rw [alike_policy h]

/-- Alike signed members are those of commands that differ in nothing but the signature. -/
theorem sameButSignature_of_alike {c c' : GatewayCommandV1}
    (h : PyValue.Alike (.dict c.signed) (.dict c'.signed)) : SameButSignature c c' := by
  obtain ⟨-, hall⟩ := PyValue.alike_dict_iff.mp h
  -- what stands under a name in the second, and its being alike
  have hmember : ∀ k {v w}, Dict.lookup k c.signed = some v → Dict.lookup k c'.signed = some w →
      PyValue.Alike v w := by
    intro k v w hv hw
    obtain ⟨u, hu, halike⟩ := hall (k, v) (Dict.mem_of_lookup hv)
    rw [hw] at hu
    exact Option.some.inj hu ▸ halike
  have hpayload := hmember "payload" rfl rfl
  obtain ⟨-, hseal⟩ := PyValue.alike_dict_iff.mp
    (hmember "channel_seal" rfl rfl)
  simp only [List.forall_mem_cons] at hseal
  obtain ⟨⟨_, h₁, hsealId⟩, ⟨_, h₂, hsealEpoch⟩, -⟩ := hseal
  cases h₁
  cases h₂
  exact {
    commandId := TypedId.ext (alike_str (hmember "command_id" rfl rfl))
    installationId :=
      TypedId.ext (alike_str (hmember "installation_id" rfl rfl))
    channelEpoch := alike_int (hmember "channel_epoch" rfl rfl)
    securityEpoch := alike_int (hmember "security_epoch" rfl rfl)
    dispatcherFence :=
      alike_int (hmember "dispatcher_fence" rfl rfl)
    bootId := TypedId.ext (alike_str (hmember "boot_id" rfl rfl))
    sequence := alike_int (hmember "sequence" rfl rfl)
    previousDigest := alike_str (hmember "previous_digest" rfl rfl)
    kind := StrEnum.value_injective
      (alike_str (hmember "kind" rfl rfl))
    issuedAtMs := alike_int (hmember "issued_at_ms" rfl rfl)
    payload_eq := eq_of_alike _ _ hpayload
    payload_kinds := hpayload.kinds
    policy := alike_optPolicy (hmember "policy" rfl rfl)
    sealId := alike_str hsealId
    sealEpoch := alike_int hsealEpoch }

/-- Commands of one signing text. -/
theorem sameButSignature_of_signingBytes {F : PyValue.FloatText} {c c' : GatewayCommandV1}
    {p : Json.Bytes} (h : gatewayCommandSigningBytes F c = some p)
    (h' : gatewayCommandSigningBytes F c' = some p) : SameButSignature c c' := by
  have hbytes : ∀ {d : GatewayCommandV1}, gatewayCommandSigningBytes F d = some p →
      ∃ q, (PyValue.dict d.signed).canonicalBytes F = some q ∧ commandDomain ++ q = p := by
    intro d hd
    unfold gatewayCommandSigningBytes at hd
    rw [blanked_dump] at hd
    obtain ⟨m, hm, hd⟩ := Option.bind_eq_some_iff.mp hd
    obtain rfl := Option.some.inj hm
    obtain ⟨q, hq, hp⟩ := Option.bind_eq_some_iff.mp hd
    exact ⟨q, hq, Option.some.inj hp⟩
  obtain ⟨q, hq, hp⟩ := hbytes h
  obtain ⟨q', hq', hp'⟩ := hbytes h'
  obtain rfl : q = q' := List.append_cancel_left (hp.trans hp'.symm)
  have hserializable : (PyValue.dict c'.signed).serializable = true := by
    by_contra hnot
    rw [PyValue.canonicalBytes, if_neg hnot] at hq'
    cases hq'
  exact sameButSignature_of_alike ((PyValue.canonicalBytes_eq_iff (distinct_signed c)
    (distinct_signed c') hserializable).mp (hq.trans hq'.symm))

/-! ## Bundles -/

/-- Sorting the collections is a matter of order. -/
theorem sameCollections_sortCollections (v : Json) :
    ∀ name, SameCollections v (sortCollections name v) := by
  induction v using Json.induct with
  | null => exact fun _ => .refl _
  | bool b => exact fun _ => .refl _
  | num n => exact fun _ => .refl _
  | str s => exact fun _ => .refl _
  | arr items ih =>
    intro name
    have hitems : SameCollections (.arr items) (.arr (sortEach items)) := by
      rw [sortEach_eq]
      exact reordered_map_arr fun v hv => ih v hv none
    rw [sortCollections]
    split
    · exact .trans hitems (.items trivial (SortOn.perm _ _).symm)
    · exact .trans hitems (.items trivial (SortOn.perm _ _).symm)
  | obj fields ih =>
    intro name
    rw [sortCollections_obj]
    exact reordered_map_obj (f := fun k v => sortCollections (some k) v)
      fun q hq => ih q hq (some q.1)

theorem readable_of_serialize {v : Json} {p : Json.Bytes} (hv : v.Holds fun _ => True)
    (h : serialize v = .ok p) : v.Holds Readable ∧ p = utf8 v.render := by
  unfold serialize at h
  split at h
  · rename_i hsafe
    exact ⟨holds_readable_of_safeInts v hv hsafe, (Except.ok.inj h).symm⟩
  · cases h

theorem sameMembers_of_serialize {v w : Json} {p : Json.Bytes} (hv : v.Holds fun _ => True)
    (hw : w.Holds fun _ => True) (h : serialize v = .ok p) (h' : serialize w = .ok p) :
    SameMembers v w := by
  obtain ⟨hreadable, rfl⟩ := readable_of_serialize hv h
  obtain ⟨hreadable', hp⟩ := readable_of_serialize hw h'
  exact (render_eq_iff hreadable hreadable' hv).mp (utf8_injective hp)

/-- Bundles of one canonical text. -/
theorem sameCollections_of_canonicalBundleBytes {b b' : ValidatedBundle} {p : Json.Bytes}
    (h : canonicalBundleBytes b.bundle = .ok p) (h' : canonicalBundleBytes b'.bundle = .ok p) :
    SameCollections (Codec.policyBundle.enc b.bundle) (Codec.policyBundle.enc b'.bundle) := by
  unfold canonicalBundleBytes at h h'
  rw [b.valid] at h
  rw [b'.valid] at h'
  have hsort := sameCollections_sortCollections (Codec.policyBundle.enc b.bundle) none
  have hsort' := sameCollections_sortCollections (Codec.policyBundle.enc b'.bundle) none
  have hmiddle := sameMembers_of_serialize (hsort.holds_iff.mp (Codec.policyBundle.distinct _))
    (hsort'.holds_iff.mp (Codec.policyBundle.distinct _)) h h'
  exact .trans hsort (.trans (hmiddle.mono False.elim) (.symm hsort'))

/-! ## The encoding -/

/-- **Canonical JSON is faithful.** A value without floats whose integers are safe has canonical
bytes; they read back to the value, and two such values share them exactly when they agree up to the
order of object members. Commands of the same signing bytes differ at most in the signature of the
seal, and bundles of the same canonical bytes at most in the order of their arrays. -/
theorem canonical_json_faithful (F : PyValue.FloatText) :
    (∀ v : Json, v.Holds (fun _ => True) → safeInts v = true →
      ∃ p w, canonicalJsonBytes v = .ok p ∧ Json.parse p = some w ∧ SameMembers w v) ∧
    (∀ v w : Json, v.Holds (fun _ => True) → safeInts v = true → w.Holds (fun _ => True) →
      safeInts w = true → (canonicalJsonBytes v = canonicalJsonBytes w ↔ SameMembers v w)) ∧
    (∀ (c c' : GatewayCommandV1) (p : Json.Bytes), gatewayCommandSigningBytes F c = some p →
      gatewayCommandSigningBytes F c' = some p → SameButSignature c c') ∧
    ∀ (b b' : ValidatedBundle) (p : Json.Bytes), canonicalBundleBytes b.bundle = .ok p →
      canonicalBundleBytes b'.bundle = .ok p →
        SameCollections (Codec.policyBundle.enc b.bundle) (Codec.policyBundle.enc b'.bundle) := by
  refine ⟨fun v hv hsafe => ?_, fun v w hv hsafe hw hsafe' => ?_,
    fun c c' p => sameButSignature_of_signingBytes,
    fun b b' p => sameCollections_of_canonicalBundleBytes⟩
  · have hreadable := holds_readable_of_safeInts v hv hsafe
    exact ⟨_, v.norm, if_pos hsafe, parse_utf8_render hreadable, .symm (sameMembers_norm v)⟩
  · have hiff := render_eq_iff (holds_readable_of_safeInts v hv hsafe)
      (holds_readable_of_safeInts w hw hsafe') hv
    rw [canonicalJsonBytes, canonicalJsonBytes, serialize, serialize, if_pos hsafe, if_pos hsafe',
      Except.ok.injEq, ← hiff]
    exact ⟨fun h => utf8_injective h, fun h => h ▸ rfl⟩

/-- Two members in either order. -/
theorem canonicalJsonBytes_swap :
    canonicalJsonBytes (.obj [("b", .num 1), ("a", .null)]) =
      canonicalJsonBytes (.obj [("a", .null), ("b", .num 1)]) := by
  have hdistinct : (Json.obj [("b", .num 1), ("a", .null)]).Holds (fun _ => True) ∧
      (Json.obj [("a", .null), ("b", .num 1)]).Holds fun _ => True :=
    ⟨⟨by decide, trivial, trivial, trivial⟩, ⟨by decide, trivial, trivial, trivial⟩⟩
  refine ((canonical_json_faithful .fractions).2.1 _ _ hdistinct.1 (by decide) hdistinct.2
    (by decide)).mpr ?_
  exact .members (List.Perm.swap _ _ _)

end LlmMaxxing
