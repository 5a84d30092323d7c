import LlmMaxxing.Core.BundleJson

/-!
# Canonical bundle bytes (`core/canonical.py`)

`serialize` is RFC 8785 text for values without floats; `sortCollections` orders every array of
a dumped bundle, legs by `(order, leg_id)` and every other array by the serialized bytes of its
items; `canonicalBundleBytes` is the composition on a revalidated dump. `decodeBundle` is the
way back: parse, build, validate.

`arrange` says what `sortCollections` does to a bundle in terms of the bundle itself:
`sortCollections_policyBundle`.
-/

namespace LlmMaxxing

open Json

/-! ## Serialization -/

/-- `_MAX_SAFE_INTEGER`. -/
def maxSafeInteger : Nat := 2 ^ 53 - 1

mutual

/-- Every integer is in the safe range. -/
def safeInts : Json → Bool
  | .num n => n.natAbs ≤ maxSafeInteger
  | .arr items => safeItems items
  | .obj fields => safeFields fields
  | _ => true

def safeItems : List Json → Bool
  | [] => true
  | v :: rest => safeInts v && safeItems rest

def safeFields : List (String × Json) → Bool
  | [] => true
  | (_, v) :: rest => safeInts v && safeFields rest

end

/-- What `canonical_bundle_bytes` raises. -/
inductive CanonicalError where
  | unsafeInteger
  | invalid (e : ValidationError)
  deriving DecidableEq, Repr

/-- `_serialize`; an integer outside the safe range is refused wherever it stands. -/
def serialize (v : Json) : Except CanonicalError Bytes :=
  if safeInts v then .ok (utf8 v.render) else .error .unsafeInteger

/-! ## Safe integers are readable -/

theorem safeItems_iff {items : List Json} :
    safeItems items = true ↔ ∀ v ∈ items, safeInts v = true := by
  induction items with
  | nil => simp [safeItems]
  | cons v rest ih => simp [safeItems, ih]

theorem safeFields_iff {fields : List (String × Json)} :
    safeFields fields = true ↔ ∀ q ∈ fields, safeInts q.2 = true := by
  induction fields with
  | nil => simp [safeFields]
  | cons q rest ih =>
    obtain ⟨k, v⟩ := q
    simp [safeFields, ih]

theorem holds_readable_of_safeInts (v : Json) (hd : v.Holds fun _ => True)
    (h : safeInts v = true) : v.Holds Readable := by
  induction v using Json.induct with
  | null => trivial
  | bool b => trivial
  | str s => trivial
  | num n =>
    have hn : n.natAbs ≤ maxSafeInteger := by simpa [safeInts] using h
    have hlt : n.natAbs < 10 ^ 16 := lt_of_le_of_lt hn (by decide)
    have hlen := (Nat.length_toDigits_le_iff (by decide) (by decide : 0 < 16)).mpr hlt
    exact hlen.trans (by decide)
  | arr items ih =>
    rw [safeInts, safeItems_iff] at h
    rw [holds_arr] at hd ⊢
    exact fun v hv => ih v hv (hd v hv) (h v hv)
  | obj fields ih =>
    rw [safeInts, safeFields_iff] at h
    rw [holds_obj] at hd ⊢
    exact ⟨hd.1, fun q hq => ih q hq (hd.2 q hq) (h q hq)⟩

section Codec

variable {ε α : Type} (c : JsonCodec ε α) {a b : α} {p : Bytes}

/-- **Serialized bytes parse to the encoded value.** -/
theorem parse_serialize (h : serialize (c.enc a) = .ok p) : parse p = some (c.enc a).norm := by
  rw [serialize] at h
  split at h
  · next hsafe =>
    cases h
    exact parse_utf8_render (holds_readable_of_safeInts _ (c.distinct a) hsafe)
  · cases h

/-- The serialized bytes determine the value. -/
theorem serialize_injective (ha : serialize (c.enc a) = .ok p) (hb : serialize (c.enc b) = .ok p) :
    a = b := by
  have hnorm : (c.enc a).norm = (c.enc b).norm :=
    Option.some.inj ((parse_serialize c ha).symm.trans (parse_serialize c hb))
  have hdec := c.dec_norm_enc a
  rw [hnorm, c.dec_norm_enc b] at hdec
  exact (Except.ok.inj hdec).symm

end Codec

/-! ## Sorting the collections -/

/-- The sort key of an array item. The unchecked bytes serve: an unsafe integer makes the final
serialization raise whatever the order. -/
def serializedKey (v : Json) : List Nat := byteOrder (utf8 v.render)

/-- `(leg["order"], leg["leg_id"])`. -/
def legKey (v : Json) : Int ×ₗ String :=
  match v with
  | .obj fields =>
    match Dict.lookup "order" fields, Dict.lookup "leg_id" fields with
    | some (.num n), some (.str s) => toLex (n, s)
    | _, _ => toLex (0, "")
  | _ => toLex (0, "")

mutual

/-- `_sort_collections`. -/
def sortCollections (fieldName : Option String) : Json → Json
  | .obj fields => .obj (sortMembers fields)
  | .arr items =>
    if fieldName = some "legs" then .arr (sortOn legKey (sortEach items))
    else .arr (sortOn serializedKey (sortEach items))
  | v => v

def sortEach : List Json → List Json
  | [] => []
  | v :: rest => sortCollections none v :: sortEach rest

def sortMembers : List (String × Json) → List (String × Json)
  | [] => []
  | (k, v) :: rest => (k, sortCollections (some k) v) :: sortMembers rest

end

/-- `canonical_bundle_bytes`. -/
def canonicalBundleBytes (b : PolicyBundleV1) : Except CanonicalError Bytes :=
  match b.validate with
  | .ok validated => serialize (sortCollections none (Codec.policyBundle.enc validated))
  | .error e => .error (.invalid e)

/-- `PolicyBundleV1.model_validate(json.loads(payload))`. -/
def decodeBundle (payload : Bytes) : Validation PolicyBundleV1 :=
  match Json.parse payload with
  | none => .error (.value "invalid JSON")
  | some v => do
    let raw ← Codec.policyBundle.dec v
    raw.validate

/-! ## The arrangement of a bundle -/

/-- Sort by the serialized bytes of the encoded items. -/
def sortEncoded {α : Type} (c : JsonCodec ValidationError α) (l : List α) : List α :=
  sortOn (fun a => serializedKey (c.enc a)) l

def LegCapabilities.arrange (c : LegCapabilities) : LegCapabilities :=
  { c with
    endpoints := sortEncoded (Codec.enum _) c.endpoints
    modalities := sortEncoded (Codec.enum _) c.modalities }

def AuthorizedLeg.arrange (leg : AuthorizedLeg) : AuthorizedLeg :=
  { leg with
    allowedTriggers := sortEncoded (Codec.enum _) leg.allowedTriggers
    capabilities := leg.capabilities.arrange }

def RouteLeg.arrange (leg : RouteLeg) : RouteLeg :=
  { leg with
    triggers := sortEncoded (Codec.enum _) leg.triggers
    capabilities := leg.capabilities.arrange }

def RouteGroupRevision.arrange (g : RouteGroupRevision) : RouteGroupRevision :=
  { g with legs := sortOn RouteLeg.sortKey (g.legs.map RouteLeg.arrange) }

def KeyPolicyRevision.arrange (p : KeyPolicyRevision) : KeyPolicyRevision :=
  { p with
    routeGroupIds := sortEncoded (Codec.id _) p.routeGroupIds
    authorizedLegs := sortEncoded Codec.authorizedLeg (p.authorizedLegs.map AuthorizedLeg.arrange) }

def ClientKeyRecord.arrange (k : ClientKeyRecord) : ClientKeyRecord :=
  { k with
    credentialVerifiers := sortEncoded Codec.clientCredentialVerifier k.credentialVerifiers
    legacyVerifiers := sortEncoded Codec.legacyClientCredentialVerifier k.legacyVerifiers }

def PolicyBundleV1.arrange (b : PolicyBundleV1) : PolicyBundleV1 :=
  { b with
    requiredFeatures := sortEncoded (Codec.enum _) b.requiredFeatures
    keys := sortEncoded Codec.clientKeyRecord (b.keys.map ClientKeyRecord.arrange)
    policies := sortEncoded Codec.keyPolicyRevision (b.policies.map KeyPolicyRevision.arrange)
    accounts := sortEncoded Codec.providerAccount b.accounts
    routeGroups :=
      sortEncoded Codec.routeGroupRevision (b.routeGroups.map RouteGroupRevision.arrange) }

/-! ## Sorting a dump is dumping the arrangement -/

theorem sortEach_eq (items : List Json) : sortEach items = items.map (sortCollections none) := by
  induction items with
  | nil => rfl
  | cons v rest ih => rw [sortEach, ih, List.map_cons]

theorem sortMembers_eq (fields : List (String × Json)) :
    sortMembers fields = fields.map fun q => (q.1, sortCollections (some q.1) q.2) := by
  induction fields with
  | nil => rfl
  | cons q rest ih => rw [sortMembers, ih, List.map_cons]

theorem sortCollections_obj (name : Option String) (fields : List (String × Json)) :
    sortCollections name (.obj fields) =
      .obj (fields.map fun q => (q.1, sortCollections (some q.1) q.2)) := by
  rw [sortCollections, sortMembers_eq]

/-- What `sortCollections` does to the encodings of one type: `f` on the type. -/
def Sorts {α : Type} (c : JsonCodec ValidationError α) (f : α → α) : Prop :=
  ∀ a name, sortCollections name (c.enc a) = c.enc (f a)

section Sorts

variable {α : Type}

theorem sorts_nat : Sorts Codec.nat id := fun _ _ => rfl

theorem sorts_string : Sorts Codec.string id := fun _ _ => rfl

theorem sorts_bool : Sorts Codec.bool id := fun _ _ => rfl

theorem sorts_enum [StrEnum α] : Sorts (Codec.enum α) id := fun _ _ => rfl

theorem sorts_id (k : IdKind) : Sorts (Codec.id k) id := fun _ _ => rfl

theorem sorts_optNat : Sorts Codec.optNat id := fun a _ => by cases a <;> rfl

theorem sorts_optString : Sorts Codec.optString id := fun a _ => by cases a <;> rfl

theorem sorts_optEnum [StrEnum α] : Sorts (Codec.optEnum α) id := fun a _ => by cases a <;> rfl

/-- An array under any name but `legs`. -/
theorem sortCollections_list {c : JsonCodec ValidationError α} {f : α → α} (h : Sorts c f)
    {name : Option String} (hname : name ≠ some "legs") (l : List α) :
    sortCollections name ((Codec.list c).enc l) = (Codec.list c).enc (sortEncoded c (l.map f)) := by
  have heach : sortEach (l.map c.enc) = (l.map f).map c.enc := by
    rw [sortEach_eq, List.map_map, List.map_map]
    exact List.map_congr_left fun a _ => h a none
  show sortCollections name (.arr (l.map c.enc)) = .arr ((sortEncoded c (l.map f)).map c.enc)
  rw [sortCollections, if_neg hname, heach, SortOn.map_eq]
  rfl

/-- The legs of a route group, sorted by their order. -/
theorem sortCollections_legs {f : RouteLeg → RouteLeg} (h : Sorts Codec.routeLeg f)
    (l : List RouteLeg) :
    sortCollections (some "legs") ((Codec.list Codec.routeLeg).enc l) =
      (Codec.list Codec.routeLeg).enc (sortOn RouteLeg.sortKey (l.map f)) := by
  have heach : sortEach (l.map Codec.routeLeg.enc) = (l.map f).map Codec.routeLeg.enc := by
    rw [sortEach_eq, List.map_map, List.map_map]
    exact List.map_congr_left fun a _ => h a none
  have hkey : ∀ a b : RouteLeg, legKey (Codec.routeLeg.enc a) ≤ legKey (Codec.routeLeg.enc b) ↔
      a.sortKey ≤ b.sortKey := by
    intro a b
    have henc : ∀ x : RouteLeg, legKey (Codec.routeLeg.enc x) = toLex ((x.order : Int), x.legId.text) :=
      fun x => rfl
    rw [henc, henc, RouteLeg.sortKey, RouteLeg.sortKey, Prod.Lex.toLex_le_toLex,
      Prod.Lex.toLex_le_toLex]
    simp only [Int.ofNat_lt, Int.ofNat_inj]
  show sortCollections (some "legs") (.arr (l.map Codec.routeLeg.enc)) =
    .arr ((sortOn RouteLeg.sortKey (l.map f)).map Codec.routeLeg.enc)
  rw [sortCollections, if_pos rfl, heach, SortOn.map_eq, SortOn.congr hkey]

theorem sorts_quotaDimension : Sorts Codec.quotaDimension id := fun a _ => by
  simp [Codec.quotaDimension, JsonCodec.record, sortCollections_obj, sorts_enum _ _,
    sorts_optNat _ _]

theorem sorts_providerAccount : Sorts Codec.providerAccount id := fun a _ => by
  simp [Codec.providerAccount, JsonCodec.record, sortCollections_obj, sorts_optEnum _ _,
    sorts_optNat _ _, sorts_quotaDimension _ _, sorts_optString _ _, sorts_id _ _ _,
    sorts_string _ _, sorts_nat _ _]

theorem sorts_legCapabilities : Sorts Codec.legCapabilities LegCapabilities.arrange :=
  fun a _ => by
    simp [Codec.legCapabilities, JsonCodec.record, sortCollections_obj,
      sortCollections_list sorts_enum, LegCapabilities.arrange, sorts_bool _ _, sorts_nat _ _]

theorem sorts_authorizedLeg : Sorts Codec.authorizedLeg AuthorizedLeg.arrange := fun a _ => by
  simp [Codec.authorizedLeg, JsonCodec.record, sortCollections_obj,
    sortCollections_list sorts_enum, AuthorizedLeg.arrange, sorts_legCapabilities _ _,
    sorts_id _ _ _, sorts_nat _ _]

theorem sorts_routeLeg : Sorts Codec.routeLeg RouteLeg.arrange := fun a _ => by
  simp [Codec.routeLeg, JsonCodec.record, sortCollections_obj,
    sortCollections_list sorts_enum, RouteLeg.arrange, sorts_legCapabilities _ _, sorts_id _ _ _,
    sorts_nat _ _]

theorem sorts_routeGroupRevision : Sorts Codec.routeGroupRevision RouteGroupRevision.arrange :=
  fun a _ => by
    simp [Codec.routeGroupRevision, JsonCodec.record, sortCollections_obj,
      sortCollections_legs sorts_routeLeg, RouteGroupRevision.arrange, sorts_id _ _ _,
      sorts_string _ _, sorts_enum _ _]

theorem sorts_keyPolicyRevision : Sorts Codec.keyPolicyRevision KeyPolicyRevision.arrange :=
  fun a _ => by
    simp [Codec.keyPolicyRevision, JsonCodec.record, sortCollections_obj,
      sortCollections_list sorts_authorizedLeg, sortCollections_list (sorts_id _),
      KeyPolicyRevision.arrange, sorts_id _ _ _, sorts_string _ _, sorts_nat _ _]

theorem sorts_clientCredentialVerifier : Sorts Codec.clientCredentialVerifier id := fun a _ => by
  simp [Codec.clientCredentialVerifier, JsonCodec.record, sortCollections_obj,
    sorts_string _ _, sorts_nat _ _, sorts_enum _ _]

theorem sorts_legacyClientCredentialVerifier : Sorts Codec.legacyClientCredentialVerifier id :=
  fun a _ => by
    simp [Codec.legacyClientCredentialVerifier, JsonCodec.record, sortCollections_obj,
      sorts_string _ _, sorts_nat _ _, sorts_enum _ _]

theorem sorts_clientKeyRecord : Sorts Codec.clientKeyRecord ClientKeyRecord.arrange :=
  fun a _ => by
    simp [Codec.clientKeyRecord, JsonCodec.record, sortCollections_obj,
      sortCollections_list sorts_clientCredentialVerifier,
      sortCollections_list sorts_legacyClientCredentialVerifier, ClientKeyRecord.arrange,
      sorts_id _ _ _, sorts_string _ _, sorts_nat _ _, sorts_enum _ _]

/-- **Sorting the collections of a dumped bundle is dumping its arrangement.** -/
theorem sortCollections_policyBundle : Sorts Codec.policyBundle PolicyBundleV1.arrange :=
  fun a _ => by
    simp [Codec.policyBundle, JsonCodec.record, sortCollections_obj,
      sortCollections_list sorts_enum, sortCollections_list sorts_clientKeyRecord,
      sortCollections_list sorts_keyPolicyRevision, sortCollections_list sorts_providerAccount,
      sortCollections_list sorts_routeGroupRevision, PolicyBundleV1.arrange, sorts_string _ _,
      sorts_nat _ _]

end Sorts

end LlmMaxxing
