import LlmMaxxing.Lib.Check
import LlmMaxxing.Lib.JsonRoundTrip
import LlmMaxxing.Lib.StrEnum

/-!
# Typed JSON encodings

A codec is an encoder with a decoder that reads every encoded value back, whatever the order of
the object members it is given. Codecs of lists, nullable values and records are built from
codecs of their parts. Since canonical text determines the value up to the order of members,
every codec has an injective canonical text.
-/

open Check

/-- An encoder and its decoder. -/
structure JsonCodec (ε α : Type) where
  enc : α → Json
  dec : Json → Except ε α
  dec_norm_enc : ∀ a, dec (enc a).norm = .ok a
  distinct : ∀ a, (enc a).Holds fun _ => True

namespace JsonCodec

variable {ε α β : Type}

attribute [simp] dec_norm_enc distinct

/-- No value is encoded as `null`. -/
def NeNull (c : JsonCodec ε α) : Prop := ∀ a, (c.enc a).norm ≠ .null

/-- Equal encodings are encodings of the same value. -/
theorem enc_inj (c : JsonCodec ε α) {a a' : α} (h : c.enc a = c.enc a') : a = a' := by
  have hdec := c.dec_norm_enc a
  rw [h, c.dec_norm_enc] at hdec
  exact (Except.ok.inj hdec).symm

/-! ## Scalars -/

/-- Natural numbers; any other input fails with `e`. -/
def nat (e : ε) : JsonCodec ε Nat where
  enc n := .num n
  dec
    | .num n => if 0 ≤ n then .ok n.toNat else .error e
    | _ => .error e
  dec_norm_enc n := by simp [Json.norm]
  distinct n := by simp [Json.Holds]

theorem neNull_nat (e : ε) : (nat e).NeNull := fun n h => by
  simp [nat, Json.norm] at h

/-- Strings accepted by a partial reader that inverts `text`. -/
def text (e : ε) (write : α → String) (read : String → Option α)
    (h : ∀ a, read (write a) = some a) : JsonCodec ε α where
  enc a := .str (write a)
  dec
    | .str s => match read s with
      | some a => .ok a
      | none => .error e
    | _ => .error e
  dec_norm_enc a := by simp [Json.norm, h]
  distinct a := by simp [Json.Holds]

theorem neNull_text (e : ε) (write : α → String) (read : String → Option α)
    (h : ∀ a, read (write a) = some a) : (text e write read h).NeNull := fun a h => by
  simp [text, Json.norm] at h

/-- Strings. -/
def string (e : ε) : JsonCodec ε String := text e id some fun _ => rfl

theorem neNull_string (e : ε) : (string e).NeNull := neNull_text e id some fun _ => rfl

/-- Closed enumerations by their spellings. -/
def enum [StrEnum α] (e : ε) : JsonCodec ε α :=
  text e StrEnum.value StrEnum.ofValue? StrEnum.ofValue?_value

theorem neNull_enum [StrEnum α] (e : ε) : (enum e : JsonCodec ε α).NeNull :=
  neNull_text e StrEnum.value StrEnum.ofValue? StrEnum.ofValue?_value

/-- Booleans. -/
def bool (e : ε) : JsonCodec ε Bool where
  enc b := .bool b
  dec
    | .bool b => .ok b
    | _ => .error e
  dec_norm_enc b := by simp [Json.norm]
  distinct b := by simp [Json.Holds]

/-! ## Lists and nullable values -/

/-- Arrays, in order. -/
def list (e : ε) (c : JsonCodec ε α) : JsonCodec ε (List α) where
  enc l := .arr (l.map c.enc)
  dec
    | .arr items => items.mapM c.dec
    | _ => .error e
  dec_norm_enc l := by
    simp only [Json.norm, Json.normItems_eq]
    rw [mapM_eq_ok_iff, List.map_map, List.forall₂_map_left_iff]
    exact List.forall₂_same.mpr fun a _ => c.dec_norm_enc a
  distinct l := by
    rw [Json.holds_arr]
    intro v hv
    obtain ⟨a, -, rfl⟩ := List.mem_map.mp hv
    exact c.distinct a

/-- `null` or a value. -/
def nullable (c : JsonCodec ε α) (h : c.NeNull) : JsonCodec ε (Option α) where
  enc
    | some a => c.enc a
    | none => .null
  dec v := match v with
    | .null => .ok none
    | v => (c.dec v).map some
  dec_norm_enc o := by
    cases o with
    | none => simp [Json.norm]
    | some a =>
      simp only
      split
      · next heq => exact absurd heq (h a)
      · rw [c.dec_norm_enc]
        rfl
  distinct o := by
    cases o with
    | none => simp [Json.Holds]
    | some a => exact c.distinct a

/-! ## Records -/

/-- Members by name. -/
abbrev Members := String → Option Json

/-- Read a member that must be present. -/
def required (c : JsonCodec ε α) (e : String → ε) (name : String) (get : Members) : Except ε α :=
  match get name with
  | some v => c.dec v
  | none => .error (e name)

/-- Read a member that has a default. -/
def defaulted (c : JsonCodec ε α) (default : α) (name : String) (get : Members) : Except ε α :=
  match get name with
  | some v => c.dec v
  | none => .ok default

/-- Records: `fields` writes the members under `names`; `read` reads them by name. Unknown
members are refused. -/
def record (notObject : ε) (unknown : String → ε) (names : List String)
    (fields : α → List (String × Json)) (read : Members → Except ε α)
    (hnames : ∀ a, (fields a).map Prod.fst = names) (hnd : names.Nodup)
    (hread : ∀ a, read (fun n => (Dict.lookup n (fields a)).map Json.norm) = .ok a)
    (hdistinct : ∀ a, ∀ q ∈ fields a, q.2.Holds fun _ => True) : JsonCodec ε α where
  enc a := .obj (fields a)
  dec
    | .obj members => do
      forEach (fun q => require (q.1 ∈ names) (unknown q.1)) members
      read fun n => Dict.lookup n members
    | _ => .error notObject
  dec_norm_enc a := by
    have hnodup : ((fields a).map Prod.fst).Nodup := hnames a ▸ hnd
    simp only [Json.norm, Json.normFields_eq, SortOn.map_eq]
    rw [bind_eq_ok_iff]
    refine ⟨(), forEach_eq_ok_iff.mpr fun q hq => ?_, ?_⟩
    · obtain ⟨q', hq', rfl⟩ := List.mem_map.mp hq
      rw [require_eq_ok_iff, ← hnames a]
      exact List.mem_map.mpr ⟨q', (SortOn.mem_iff _).mp hq', rfl⟩
    · rw [← hread a]
      congr 1
      funext n
      rw [Dict.lookup_map n fun _ (v : Json) => v.norm]
      congr 1
      exact Dict.lookup_eq_of_perm (((SortOn.perm _ _).map Prod.fst).nodup_iff.mpr hnodup)
        (SortOn.perm _ _)
  distinct a := Json.holds_obj.mpr ⟨hnames a ▸ hnd, hdistinct a⟩

/-! ## Canonical text of encoded values -/

/-- The text of an encoded value determines the value. -/
theorem enc_injective_of_render (c : JsonCodec ε α) {a b : α}
    (ha : (c.enc a).Holds Json.Readable) (hb : (c.enc b).Holds Json.Readable)
    (h : (c.enc a).render = (c.enc b).render) : a = b := by
  have hnorm := Json.norm_eq_of_render_eq ha hb h
  have hdec := c.dec_norm_enc a
  rw [hnorm, c.dec_norm_enc b] at hdec
  exact (Except.ok.inj hdec).symm

end JsonCodec
