import LlmMaxxing.Gateway.Ingress

/-!
# Ingress refuses with its own error

Every check of `validate_http_request` refuses with an `IngressError`; only `int()` can raise
something else, on a `Content-Length` of more than 4300 digits (`answers_iff`). The readers of all
requests share two meters. Every turn keeps them exact (`Tracked.step`), so a read that fails has given
everything back and no release underflows (`run_tracked`).
-/

namespace LlmMaxxing.Ingress

open Check Json Adapters

/-! ## Faults of the module's own type -/

/-- Only an `IngressError` is raised. -/
def Own {α : Type} (x : Except Fault α) : Prop :=
  ∀ e, x = .error e → ∃ status code, e = .ingress status code

section Own

variable {α β : Type}

theorem own_ok (a : α) : Own (.ok a : Except Fault α) := fun _ h => (by cases h)

theorem own_ingress (status : Nat) (code : String) :
    Own (.error (.ingress status code) : Except Fault α) := by
  intro e h
  cases h
  exact ⟨_, _, rfl⟩

theorem own_require {p : Prop} [Decidable p] (status : Nat) (code : String) :
    Own (require p (.ingress status code)) := by
  unfold require
  split
  · exact own_ok _
  · exact own_ingress _ _

theorem own_demand (x : Option α) (status : Nat) (code : String) :
    Own (demand x (.ingress status code)) := by
  cases x with
  | none => exact own_ingress _ _
  | some a => exact own_ok _

/-- A sequence of checks raises its own error when every check does. -/
theorem own_bind_iff {x : Except Fault α} {f : α → Except Fault β} :
    Own (x >>= f) ↔ Own x ∧ ∀ a, x = .ok a → Own (f a) := by
  cases x with
  | error e =>
    constructor
    · intro h
      exact ⟨fun e' he => h e' (by cases he; rfl), fun _ ha => (by cases ha)⟩
    · intro h e' he
      exact h.1 e' (by cases he; rfl)
  | ok a =>
    constructor
    · intro h
      refine ⟨own_ok a, fun b hb => ?_⟩
      cases hb
      exact h
    · intro h
      exact h.2 a rfl

theorem own_bind {x : Except Fault α} {f : α → Except Fault β} (hx : Own x)
    (hf : ∀ a, x = .ok a → Own (f a)) : Own (x >>= f) :=
  own_bind_iff.mpr ⟨hx, hf⟩

end Own

/-! ## The checks of a scope -/

section Scope

variable {limits : IngressLimits} {contract : AdapterContract} {scope : Mapping}
  {headers : List Header}

theorem own_readTarget (limits : IngressLimits) (scope : Mapping) : Own (readTarget limits scope) := by
  unfold readTarget
  refine own_bind (own_require _ _) fun _ _ => ?_
  refine own_bind (own_demand _ _ _) fun _ _ => ?_
  refine own_bind (own_demand _ _ _) fun _ _ => ?_
  refine own_bind (own_demand _ _ _) fun _ _ => ?_
  refine own_bind (own_demand _ _ _) fun _ _ => ?_
  refine own_bind (own_require _ _) fun _ _ => ?_
  refine own_bind (own_demand _ _ _) fun _ _ => ?_
  exact own_bind (own_require _ _) fun _ _ => own_ok _

theorem own_readHeader (limits : IngressLimits) (item : Value) : Own (readHeader limits item) := by
  unfold readHeader
  split
  · exact own_bind (own_require _ _) fun _ _ => own_ok _
  · exact own_ingress _ _

theorem own_collect (limits : IngressLimits) (items : List Value) (total : Nat) :
    Own (collect limits items total) := by
  induction items generalizing total with
  | nil => exact own_ok _
  | cons item rest ih =>
    refine own_bind (own_readHeader limits item) fun h _ => ?_
    refine own_bind (own_require _ _) fun _ _ => ?_
    exact own_bind (ih _) fun _ _ => own_ok _

theorem own_readHeaders (limits : IngressLimits) (scope : Mapping) :
    Own (readHeaders limits scope) := by
  unfold readHeaders
  split
  · refine own_bind (own_require _ _) fun _ _ => ?_
    refine own_bind (own_collect limits _ _) fun _ _ => ?_
    exact own_bind (own_require _ _) fun _ _ => own_ok _
  · exact own_ingress _ _

theorem own_refuseUnsupported (headers : List Header) : Own (refuseUnsupported headers) := by
  unfold refuseUnsupported
  refine own_bind (own_require _ _) fun _ _ => ?_
  exact own_bind (own_require _ _) fun _ _ => own_require _ _

theorem own_findEndpoint (contract : AdapterContract) (method path : String) :
    Own (findEndpoint contract method path) := by
  unfold findEndpoint
  split
  · exact own_ok _
  · split
    · exact own_ingress _ _
    · exact own_ingress _ _

/-- A length that `int()` refuses is converted. -/
def Unconvertible (headers : List Header) : Prop :=
  ∃ value, one headers "content-length" = some value ∧ one headers "transfer-encoding" = none ∧
    isDigits value = true ∧ 4300 < value.length

theorem own_pyInt_iff {digits : Bytes} : Own (pyInt digits) ↔ ¬ 4300 < digits.length := by
  unfold pyInt
  split
  · rename_i hlong
    constructor
    · intro h
      obtain ⟨_, _, he⟩ := h _ rfl
      cases he
    · intro h
      exact absurd hlong h
  · rename_i hshort
    exact ⟨fun _ => hshort, fun _ => own_ok _⟩

theorem own_readLength_iff {value : Bytes} :
    Own (readLength limits value) ↔ ¬ (isDigits value = true ∧ 4300 < value.length) := by
  unfold readLength
  constructor
  · rintro h ⟨hdigits, hlong⟩
    have hconversion := (own_bind_iff.mp h).2 () (require_eq_ok_iff.mpr hdigits)
    exact own_pyInt_iff.mp (own_bind_iff.mp hconversion).1 hlong
  · intro h
    refine own_bind (own_require _ _) fun _ hdigits => ?_
    refine own_bind (own_pyInt_iff.mpr fun hlong => h ⟨require_eq_ok_iff.mp hdigits, hlong⟩)
      fun _ _ => ?_
    exact own_bind (own_require _ _) fun _ _ => own_ok _

theorem own_readFraming_iff : Own (readFraming limits headers) ↔ ¬ Unconvertible headers := by
  unfold readFraming
  constructor
  · rintro h ⟨value, hlength, hte, hoversized⟩
    have hlater := (own_bind_iff.mp h).2 () (require_eq_ok_iff.mpr (by rw [hte]; simp))
    rw [hlength] at hlater
    exact own_readLength_iff.mp (own_bind_iff.mp hlater).1 hoversized
  · intro h
    refine own_bind (own_require _ _) fun _ hframing => ?_
    refine own_bind ?_ fun _ _ => own_bind (own_require _ _) fun _ _ => own_ok _
    cases hlength : one headers "content-length" with
    | none => exact own_ok _
    | some value =>
      -- beside a length there is no transfer encoding
      have hte : one headers "transfer-encoding" = none := by
        rw [require_eq_ok_iff, hlength] at hframing
        cases hte : one headers "transfer-encoding" with
        | none => rfl
        | some te => exact absurd ⟨rfl, by rw [hte]; rfl⟩ hframing
      exact own_readLength_iff.mpr fun hoversized => h ⟨value, hlength, hte, hoversized⟩

/-- The checks before the conversion pass, and the length has more than 4300 digits. -/
def OversizedLength (limits : IngressLimits) (scope : Mapping) : Prop :=
  ∃ target headers, readTarget limits scope = .ok target ∧ readHeaders limits scope = .ok headers ∧
    refuseUnsupported headers = .ok () ∧ Unconvertible headers

theorem own_validate_iff :
    Own (validateHttpRequest limits contract scope) ↔ ¬ OversizedLength limits scope := by
  have hafter : ∀ (target : String × String) (headers : List Header) (n : Option Nat),
      Own (do
        let contentEncoding := lower ((one headers "content-encoding").getD (ascii "identity"))
        require (contentEncoding = [] ∨ contentEncoding = ascii "identity")
          (.ingress 415 "unsupported_content_encoding")
        let endpoint ← findEndpoint contract target.1 target.2
        let contentType ← demand (decodeAscii ((one headers "content-type").getD []))
          (.ingress 415 "unsupported_content_type")
        require (mediaTypeFits endpoint.modelLocator (mediaType contentType) = true)
          (.ingress 415 "unsupported_content_type")
        return ({ endpoint, headers, contentLength := n, contentType,
                  chunked := (one headers "transfer-encoding").isSome } : IngressRequest)) := by
    intro target headers n
    refine own_bind (own_require _ _) fun _ _ => ?_
    refine own_bind (own_findEndpoint _ _ _) fun _ _ => ?_
    refine own_bind (own_demand _ _ _) fun _ _ => ?_
    exact own_bind (own_require _ _) fun _ _ => own_ok _
  unfold validateHttpRequest
  constructor
  · rintro h ⟨target, headers, htarget, hheaders, hsupported, hlong⟩
    have hread := (own_bind_iff.mp h).2 target htarget
    have hsupport := (own_bind_iff.mp hread).2 headers hheaders
    have hframing := (own_bind_iff.mp hsupport).2 () hsupported
    exact own_readFraming_iff.mp (own_bind_iff.mp hframing).1 hlong
  · intro h
    refine own_bind (own_readTarget _ _) fun target htarget => ?_
    refine own_bind (own_readHeaders _ _) fun headers hheaders => ?_
    refine own_bind (own_refuseUnsupported _) fun _ hsupported => ?_
    refine own_bind (own_readFraming_iff.mpr fun hlong => h ⟨_, _, htarget, hheaders, hsupported, hlong⟩)
      fun n _ => hafter target headers n

/-! ## What is accepted -/

/-- The request fits its scope and the limits. -/
structure Fits (limits : IngressLimits) (contract : AdapterContract) (scope : Mapping)
    (r : IngressRequest) : Prop where
  endpoint : r.endpoint ∈ contract.endpoints
  method : (scope.get? "method").bind Value.str? = some r.endpoint.method
  path : (scope.get? "path").bind Value.str? = some r.endpoint.path
  headers : readHeaders limits scope = .ok r.headers
  framing : ¬ ((one r.headers "content-length").isSome = true ∧
    (one r.headers "transfer-encoding").isSome = true)
  declared : r.contentLength.isSome = (one r.headers "content-length").isSome
  length_le : ∀ n, r.contentLength = some n → n ≤ limits.maxBodyBytes
  singletons : ∀ name ∈ singletonHeaders, occurrences r.headers name ≤ 1
  size_le : (r.headers.map headerSize).sum ≤ limits.maxHeaderBytes

theorem demand_eq_ok_iff {α : Type} {x : Option α} {e : Fault} {a : α} :
    demand x e = .ok a ↔ x = some a := by
  cases x with
  | none => simp [demand]
  | some b => simp [demand]

theorem readTarget_eq_ok {method path : String} (h : readTarget limits scope = .ok (method, path)) :
    (scope.get? "method").bind Value.str? = some method ∧
      (scope.get? "path").bind Value.str? = some path := by
  unfold readTarget at h
  simp only [bind_eq_ok_iff, demand_eq_ok_iff, require_eq_ok_iff, exists_unit_and_iff, pure_eq_ok,
    Except.ok.injEq, Prod.mk.injEq] at h
  obtain ⟨-, m, hm, p, hp, -, -, -, -, -, -, -, -, rfl, rfl⟩ := h
  exact ⟨hm, hp⟩

theorem collect_size {items : List Value} {total : Nat} (h : collect limits items total = .ok headers)
    (hle : total ≤ limits.maxHeaderBytes) :
    total + (headers.map headerSize).sum ≤ limits.maxHeaderBytes := by
  induction items generalizing total headers with
  | nil =>
    cases h
    exact hle
  | cons item rest ih =>
    rw [collect] at h
    simp only [bind_eq_ok_iff, require_eq_ok_iff, exists_unit_and_iff, pure_eq_ok,
      Except.ok.injEq] at h
    obtain ⟨header, -, hsize, others, hothers, rfl⟩ := h
    have := ih hothers hsize
    rw [List.map_cons, List.sum_cons]
    omega

theorem readHeaders_eq_ok (h : readHeaders limits scope = .ok headers) :
    (∀ name ∈ singletonHeaders, occurrences headers name ≤ 1) ∧
      (headers.map headerSize).sum ≤ limits.maxHeaderBytes := by
  unfold readHeaders at h
  split at h
  · simp only [bind_eq_ok_iff, require_eq_ok_iff, exists_unit_and_iff, pure_eq_ok,
      Except.ok.injEq] at h
    obtain ⟨-, collected, hcollect, hsingle, rfl⟩ := h
    have := collect_size hcollect (Nat.zero_le _)
    exact ⟨hsingle, by omega⟩
  · cases h

theorem readFraming_eq_ok {n : Option Nat} (h : readFraming limits headers = .ok n) :
    ¬ ((one headers "content-length").isSome = true ∧
        (one headers "transfer-encoding").isSome = true) ∧
      n.isSome = (one headers "content-length").isSome ∧
      ∀ k, n = some k → k ≤ limits.maxBodyBytes := by
  unfold readFraming at h
  simp only [bind_eq_ok_iff, require_eq_ok_iff, exists_unit_and_iff, pure_eq_ok,
    Except.ok.injEq] at h
  obtain ⟨hframing, m, hm, -, rfl⟩ := h
  refine ⟨hframing, ?_⟩
  cases hlength : one headers "content-length" with
  | none =>
    rw [hlength] at hm
    cases hm
    exact ⟨rfl, fun _ hk => (by cases hk)⟩
  | some value =>
    rw [hlength] at hm
    change readLength limits value = .ok m at hm
    simp only [readLength, bind_eq_ok_iff, require_eq_ok_iff, exists_unit_and_iff, pure_eq_ok,
      Except.ok.injEq] at hm
    obtain ⟨-, k, -, hle, rfl⟩ := hm
    refine ⟨rfl, fun k' hk' => ?_⟩
    obtain rfl := Option.some.inj hk'
    exact hle

theorem findEndpoint_eq_ok {method path : String} {e : CertifiedEndpoint}
    (h : findEndpoint contract method path = .ok e) :
    e ∈ contract.endpoints ∧ e.path = path ∧ e.method = method := by
  unfold findEndpoint at h
  split at h
  · rename_i found hfound
    obtain rfl := Except.ok.inj h
    have hmatch := List.find?_some hfound
    rw [Bool.and_eq_true, beq_iff_eq, beq_iff_eq] at hmatch
    exact ⟨List.mem_of_find?_eq_some hfound, hmatch⟩
  · split at h <;> cases h

theorem validateHttpRequest_eq_ok {r : IngressRequest}
    (h : validateHttpRequest limits contract scope = .ok r) : Fits limits contract scope r := by
  unfold validateHttpRequest at h
  simp only [bind_eq_ok_iff, require_eq_ok_iff, exists_unit_and_iff, pure_eq_ok,
    Except.ok.injEq] at h
  obtain ⟨⟨method, path⟩, htarget, headers, hheaders, -, n, hframing, -, endpoint, hendpoint, type, -,
    -, rfl⟩ := h
  obtain ⟨hmethod, hpath⟩ := readTarget_eq_ok htarget
  obtain ⟨hmem, rfl, rfl⟩ := findEndpoint_eq_ok hendpoint
  obtain ⟨hone, hdeclared, hlength⟩ := readFraming_eq_ok hframing
  obtain ⟨hsingle, hsize⟩ := readHeaders_eq_ok hheaders
  exact ⟨hmem, hmethod, hpath, hheaders, hone, hdeclared, hlength, hsingle, hsize⟩

/-- Refused with an `IngressError`, or accepted as a request that fits. -/
def Answers (limits : IngressLimits) (contract : AdapterContract) (scope : Mapping) : Prop :=
  (∃ status code, validateHttpRequest limits contract scope = .error (.ingress status code)) ∨
    ∃ r, validateHttpRequest limits contract scope = .ok r ∧ Fits limits contract scope r

/-- **A scope is answered** unless its length is too long for `int()`. -/
theorem answers_iff : Answers limits contract scope ↔ ¬ OversizedLength limits scope := by
  rw [← @own_validate_iff limits contract scope]
  constructor
  · rintro (⟨status, code, h⟩ | ⟨r, h, -⟩) e he
    · rw [h] at he
      cases he
      exact ⟨status, code, rfl⟩
    · rw [h] at he
      cases he
  · intro h
    cases hresult : validateHttpRequest limits contract scope with
    | error e =>
      obtain ⟨status, code, rfl⟩ := h e hresult
      exact .inl ⟨status, code, hresult⟩
    | ok r => exact .inr ⟨r, hresult, validateHttpRequest_eq_ok hresult⟩

end Scope

/-! ## Holdings of a call -/

/-- The reader that a call holds. -/
def Call.reader : Call → String × Nat
  | .reading st => (st.keyId, 1)
  | .failed keyId _ => (keyId, 0)
  | .returned body => (body.keyId, 0)
  | .released keyId => (keyId, 0)

/-- The bytes that a call holds. -/
def Call.retained : Call → String × Nat
  | .reading st => (st.keyId, st.reserved)
  | .failed keyId _ => (keyId, 0)
  | .returned body => (body.keyId, body.reserved)
  | .released keyId => (keyId, 0)

/-- The counters are what the calls hold. -/
structure System.Accounted (s : System) : Prop where
  readers : s.resources.bodyReaders.Holds (s.calls.map Call.reader)
  retained : s.resources.retained.Holds (s.calls.map Call.retained)

/-! ## What a call is given -/

/-- The requests of the calls, in their order. -/
def started : List Event → List IngressRequest
  | [] => []
  | .start _ request :: rest => request :: started rest
  | _ :: rest => started rest

/-- The chunk of an arrival. -/
def Arrival.chunk (a : Arrival) : Bytes :=
  (a.message.bind fun message => (bodyChunk message).toOption).getD []

/-- The chunks that arrived for a call, one after another. -/
def delivered (i : Nat) : List Event → Bytes
  | [] => []
  | .arrival j a :: rest => if j = i then a.chunk ++ delivered i rest else delivered i rest
  | _ :: rest => delivered i rest

theorem started_concat (es : List Event) (e : Event) : started (es ++ [e]) = started es ++ started [e] := by
  induction es with
  | nil => rfl
  | cons e' rest ih =>
    cases e' with
    | start keyId request => exact congrArg (request :: ·) ih
    | arrival i a => exact ih
    | release i => exact ih

theorem delivered_concat (i : Nat) (es : List Event) (e : Event) :
    delivered i (es ++ [e]) = delivered i es ++ delivered i [e] := by
  induction es with
  | nil => rfl
  | cons e' rest ih =>
    cases e' with
    | start keyId request => exact ih
    | release j => exact ih
    | arrival j a =>
      rw [List.cons_append, delivered, delivered]
      split
      · rw [ih, List.append_assoc]
      · exact ih

/-- How a call stands to its request and the chunks that arrived. -/
def Call.Answered (request : IngressRequest) (body : Bytes) : Call → Prop
  | .reading st => st.request = request ∧ st.file = body ∧ st.size = body.length ∧
      st.reserved = body.length ∧ ∀ n, request.contentLength = some n → body.length ≤ n
  | .failed _ e => ∃ status code, e = .ingress status code
  | .returned b => b.file = body ∧ b.size = body.length ∧ b.reserved = body.length ∧
      ∀ n, request.contentLength = some n → body.length = n
  | .released _ => True

/-! ## One turn -/

section Turn

variable {limits : IngressLimits} {r : IngressResources} {st : BodyRead} {a : Arrival}

theorem own_receive (limits : IngressLimits) (st : BodyRead) (a : Arrival) :
    Own (receive limits st a) := by
  unfold receive
  refine own_bind (own_require _ _) fun _ _ => ?_
  refine own_bind (own_require _ _) fun _ _ => ?_
  refine own_bind (own_demand _ _ _) fun _ _ => ?_
  refine own_bind (own_require _ _) fun _ _ => ?_
  refine own_bind (own_require _ _) fun _ _ => ?_
  refine own_bind (own_demand _ _ _) fun _ _ => ?_
  exact own_bind (own_require _ _) fun _ _ => own_ok _

theorem own_finish (limits : IngressLimits) (st : BodyRead) (a : Arrival) :
    Own (finish limits st a) := by
  unfold finish
  refine own_bind (own_require _ _) fun _ _ => ?_
  exact own_bind (own_require _ _) fun _ _ => own_ok _

theorem receive_eq_ok {chunk : Bytes} {more : Bool} (h : receive limits st a = .ok (chunk, more)) :
    a.chunk = chunk ∧ ∀ n, st.request.contentLength = some n → st.size + chunk.length ≤ n := by
  unfold receive at h
  simp only [bind_eq_ok_iff, demand_eq_ok_iff, require_eq_ok_iff, exists_unit_and_iff, pure_eq_ok,
    Except.ok.injEq, Prod.mk.injEq] at h
  obtain ⟨-, -, message, hmessage, -, -, chunk', hchunk, hlength, rfl, -⟩ := h
  refine ⟨?_, fun n hn => ?_⟩
  · rw [Arrival.chunk, hmessage, Option.bind_some, hchunk]
    rfl
  · rw [hn] at hlength
    exact of_decide_eq_true hlength

theorem finish_eq_ok {b : RetainedBody} (h : finish limits st a = .ok b) :
    b.keyId = st.keyId ∧ b.reserved = st.reserved ∧ b.file = st.file ∧ b.size = st.size ∧
      ∀ n, st.request.contentLength = some n → st.size = n := by
  unfold finish at h
  simp only [bind_eq_ok_iff, require_eq_ok_iff, exists_unit_and_iff, pure_eq_ok,
    Except.ok.injEq] at h
  obtain ⟨hlength, -, rfl⟩ := h
  refine ⟨rfl, rfl, rfl, rfl, fun n hn => ?_⟩
  rw [hn] at hlength
  exact beq_iff_eq.mp hlength

/-- What a reservation takes is added to the share of its key. -/
theorem grow_holds {r' : IngressResources} {keyId : String} {current amount : Nat}
    {calls : List (String × Nat)} {i : Nat} (h : r.retained.Holds calls)
    (hi : calls[i]? = some (keyId, current)) (hgrow : grow limits r keyId current amount = some r') :
    r'.bodyReaders = r.bodyReaders ∧
      r'.retained.Holds (calls.set i (keyId, current + amount)) := by
  unfold grow at hgrow
  split at hgrow
  · rename_i hzero
    obtain rfl := Option.some.inj hgrow
    have hsame : calls.set i (keyId, current + amount) = calls := by
      rw [hzero, Nat.add_zero]
      exact Meter.set_eq_self hi
    refine ⟨rfl, ?_⟩
    rw [hsame]
    exact h
  · split at hgrow
    · cases hgrow
    · obtain rfl := Option.some.inj hgrow
      exact ⟨rfl, h.add hi amount⟩

/-- **A turn** keeps the reader, books its chunk and ends as the module says. -/
theorem turn_spec {retained : List (String × Nat)} {i : Nat} (h : r.retained.Holds retained)
    (hi : retained[i]? = some (st.keyId, st.reserved)) :
    ∃ r' st' result, turn limits r st a = (r', st', result) ∧
      r'.bodyReaders = r.bodyReaders ∧ st'.keyId = st.keyId ∧
      r'.retained.Holds (retained.set i (st.keyId, st'.reserved)) ∧ Own result ∧
      ((∃ e, result = .error e) ∨
        (st'.request = st.request ∧ st'.file = st.file ++ a.chunk ∧
          st'.size = st.size + a.chunk.length ∧ st'.reserved = st.reserved + a.chunk.length ∧
          (∀ n, st.request.contentLength = some n → st'.size ≤ n) ∧
          ∀ body, result = .ok (some body) → body.keyId = st.keyId ∧ body.reserved = st'.reserved ∧
            body.file = st'.file ∧ body.size = st'.size ∧
            ∀ n, st.request.contentLength = some n → st'.size = n)) := by
  have hsame : retained.set i (st.keyId, st.reserved) = retained := Meter.set_eq_self hi
  unfold turn
  dsimp only
  cases hreceive : receive limits { st with events := st.events + 1 } a with
  | error e =>
    refine ⟨r, { st with events := st.events + 1 }, .error e, rfl, rfl, rfl, ?_, ?_, .inl ⟨e, rfl⟩⟩
    · exact hsame.symm ▸ h
    · intro e' he'
      cases he'
      exact own_receive _ _ _ e hreceive
  | ok q =>
    obtain ⟨chunk, more⟩ := q
    obtain ⟨hchunk, hfits⟩ := receive_eq_ok hreceive
    dsimp only
    cases hgrow : grow limits r st.keyId st.reserved chunk.length with
    | none =>
      refine ⟨r, { st with events := st.events + 1 }, _, rfl, rfl, rfl, hsame.symm ▸ h, ?_, .inl ⟨_, rfl⟩⟩
      split
      · exact own_ingress _ _
      · exact own_ingress _ _
    | some r' =>
      obtain ⟨hreaders, hholds⟩ := grow_holds h hi hgrow
      refine ⟨r', _, _, rfl, hreaders, rfl, hholds, ?_, ?_⟩
      · split
        · exact own_ok _
        · intro e he
          cases hfinish : finish limits { st with
              reserved := st.reserved + chunk.length
              size := st.size + chunk.length
              events := st.events + 1
              file := st.file ++ chunk } a with
          | error e' =>
            rw [hfinish] at he
            cases he
            exact own_finish _ _ _ e hfinish
          | ok b =>
            rw [hfinish] at he
            cases he
      · refine .inr ⟨rfl, by rw [hchunk], by rw [hchunk], by rw [hchunk], hfits, fun body hbody => ?_⟩
        split at hbody
        · cases hbody
        · cases hfinish : finish limits { st with
              reserved := st.reserved + chunk.length
              size := st.size + chunk.length
              events := st.events + 1
              file := st.file ++ chunk } a with
          | error e' =>
            rw [hfinish] at hbody
            cases hbody
          | ok b =>
            rw [hfinish] at hbody
            cases hbody
            exact finish_eq_ok hfinish

end Turn

/-! ## Runs -/

section Runs

variable {limits : IngressLimits} {s s' : System}

/-- The reader of a call that ends is given back. -/
theorem endCall_eq {r : IngressResources} {readers : List (String × Nat)} {i : Nat} {keyId : String}
    (h : r.bodyReaders.Holds readers) (hi : readers[i]? = some (keyId, 1)) (c : Call) :
    ∃ r', endCall r keyId c = (r', c) ∧ r'.retained = r.retained ∧
      r'.bodyReaders.Holds (readers.set i (keyId, 0)) := by
  obtain ⟨m, hrelease, hholds⟩ := h.release hi (le_refl 1)
  refine ⟨{ r with bodyReaders := m }, ?_, rfl, hholds⟩
  rw [endCall, releaseBodyReader, hrelease]

theorem releaseBody_eq {r : IngressResources} {retained : List (String × Nat)} {i n : Nat}
    {keyId : String} (h : r.retained.Holds retained) (hi : retained[i]? = some (keyId, n)) :
    ∃ r', releaseBody r keyId n = .ok r' ∧ r'.bodyReaders = r.bodyReaders ∧
      r'.retained.Holds (retained.set i (keyId, 0)) := by
  obtain ⟨m, hrelease, hholds⟩ := h.release hi (le_refl n)
  rw [Nat.sub_self] at hholds
  refine ⟨{ r with retained := m }, ?_, rfl, hholds⟩
  rw [releaseBody, hrelease]

theorem getElem?_set_of_some {α : Type*} {l : List α} {i : Nat} {b : α} (h : l[i]? = some b) (a : α) :
    (l.set i a)[i]? = some a := by
  obtain ⟨hlt, -⟩ := List.getElem?_eq_some_iff.mp h
  exact List.getElem?_set_self hlt

/-- **A turn of a call** keeps the counters exact, and answers the call. -/
theorem advance_spec (h : s.Accounted) {i : Nat} {st : BodyRead}
    (hi : s.calls[i]? = some (.reading st)) (a : Arrival) {request : IngressRequest} {body : Bytes}
    (hst : (Call.reading st).Answered request body) :
    ∃ r c, advance limits s.resources st a = (r, c) ∧
      (⟨r, s.calls.set i c⟩ : System).Accounted ∧ c.Answered request (body ++ a.chunk) := by
  have hreader : (s.calls.map Call.reader)[i]? = some (st.keyId, 1) := by
    rw [List.getElem?_map, hi]
    rfl
  have hretained : (s.calls.map Call.retained)[i]? = some (st.keyId, st.reserved) := by
    rw [List.getElem?_map, hi]
    rfl
  obtain ⟨rfl, hfile, hsize, hreserved, hle⟩ := hst
  obtain ⟨r', st', result, hturn, hreaders, hkey, hholds, hown, hend⟩ :=
    @turn_spec limits s.resources st a _ i h.retained hretained
  have hr' : r'.bodyReaders.Holds (s.calls.map Call.reader) := hreaders ▸ h.readers
  have hi' := getElem?_set_of_some hretained (st.keyId, st'.reserved)
  unfold advance
  rw [hturn]
  cases result with
  | error e =>
    -- the handler gives the reservation back, then the reader
    obtain ⟨r₁, hrelease, hreaders₁, hholds₁⟩ := releaseBody_eq hholds hi'
    obtain ⟨r₂, hended, hretained₂, hholds₂⟩ :=
      endCall_eq (hreaders₁ ▸ hr') hreader (.failed st.keyId e)
    refine ⟨r₂, .failed st.keyId e, ?_, ⟨?_, ?_⟩, hown e rfl⟩
    · dsimp only
      rw [hkey, hrelease]
      exact hended
    · rw [List.map_set]
      exact hholds₂
    · rw [List.map_set, hretained₂]
      rwa [List.set_set] at hholds₁
  | ok found =>
    obtain ⟨e, he⟩ | ⟨hrequest, hfile', hsize', hreserved', hle', hbody⟩ := hend
    · cases he
    cases found with
    | none =>
      refine ⟨r', .reading st', rfl, ⟨?_, ?_⟩, hrequest, ?_, ?_, ?_, fun n hn => ?_⟩
      · rw [List.map_set]
        show r'.bodyReaders.Holds (List.set _ i (st'.keyId, 1))
        rw [hkey, Meter.set_eq_self hreader]
        exact hr'
      · rw [List.map_set]
        show r'.retained.Holds (List.set _ i (st'.keyId, st'.reserved))
        rw [hkey]
        exact hholds
      · rw [hfile', hfile]
      · rw [hsize', hsize, List.length_append]
      · rw [hreserved', hreserved, List.length_append]
      · rw [List.length_append, ← hsize, ← hsize']
        exact hle' n hn
    | some b =>
      obtain ⟨hbkey, hbreserved, hbfile, hbsize, hblength⟩ := hbody b rfl
      obtain ⟨r₂, hended, hretained₂, hholds₂⟩ := endCall_eq hr' hreader (.returned b)
      refine ⟨r₂, .returned b, ?_, ⟨?_, ?_⟩, ?_, ?_, ?_, fun n hn => ?_⟩
      · dsimp only
        rw [hkey]
        exact hended
      · rw [List.map_set]
        show r₂.bodyReaders.Holds (List.set _ i (b.keyId, 0))
        rw [hbkey]
        exact hholds₂
      · rw [List.map_set]
        show r₂.retained.Holds (List.set _ i (b.keyId, b.reserved))
        rw [hbkey, hbreserved, hretained₂]
        exact hholds
      · rw [hbfile, hfile', hfile]
      · rw [hbsize, hsize', hsize, List.length_append]
      · rw [hbreserved, hreserved', hreserved, List.length_append]
      · rw [List.length_append, ← hsize, ← hsize']
        exact hblength n hn

/-- What a run keeps: the counters are exact, and every call is answered. -/
structure Tracked (es : List Event) (s : System) : Prop where
  accounted : s.Accounted
  count : s.calls.length = (started es).length
  answered : ∀ (i : Nat) (c : Call), s.calls[i]? = some c →
    ∃ request, (started es)[i]? = some request ∧ c.Answered request (delivered i es)
  silent : ∀ i, s.calls.length ≤ i → delivered i es = []

theorem tracked_fresh : Tracked [] .fresh :=
  ⟨⟨Meter.holds_empty, Meter.holds_empty⟩, rfl, fun _ _ h => (by cases h), fun _ _ => rfl⟩

/-- A call that is replaced where nothing arrives for the others. -/
theorem Tracked.replace {es : List Event} (h : Tracked es s) {e : Event} {i : Nat} {c c' : Call}
    {r : IngressResources} (hi : s.calls[i]? = some c) (hstarted : started [e] = [])
    (hother : ∀ j, j ≠ i → delivered j [e] = [])
    (haccounted : (⟨r, s.calls.set i c'⟩ : System).Accounted)
    (hanswered : ∀ request, (started es)[i]? = some request → c.Answered request (delivered i es) →
      c'.Answered request (delivered i es ++ delivered i [e])) :
    Tracked (es ++ [e]) ⟨r, s.calls.set i c'⟩ := by
  have hsame : started (es ++ [e]) = started es := by
    rw [started_concat, hstarted, List.append_nil]
  refine ⟨haccounted, ?_, fun j c₁ hj => ?_, fun j hj => ?_⟩
  · rw [hsame, ← h.count]
    exact List.length_set
  · rw [hsame, delivered_concat]
    by_cases hji : j = i
    · subst hji
      rw [getElem?_set_of_some hi] at hj
      obtain rfl := Option.some.inj hj
      obtain ⟨request, hrequest, hc⟩ := h.answered j c hi
      exact ⟨request, hrequest, hanswered request hrequest hc⟩
    · have hj' : s.calls[j]? = some c₁ := by rwa [List.getElem?_set_ne (Ne.symm hji)] at hj
      obtain ⟨request, hrequest, hc⟩ := h.answered j c₁ hj'
      rw [hother j hji, List.append_nil]
      exact ⟨request, hrequest, hc⟩
  · have hj' : s.calls.length ≤ j := by
      rw [List.length_set] at hj
      exact hj
    have hne : j ≠ i := by
      rintro rfl
      obtain ⟨hlt, -⟩ := List.getElem?_eq_some_iff.mp hi
      omega
    rw [delivered_concat, h.silent j hj', hother j hne]
    rfl

/-- A call is added. -/
theorem Tracked.push {es : List Event} (h : Tracked es s) {keyId : String} {request : IngressRequest}
    {c : Call} {r : IngressResources}
    (haccounted : (⟨r, s.calls ++ [c]⟩ : System).Accounted) (hc : c.Answered request []) :
    Tracked (es ++ [.start keyId request]) ⟨r, s.calls ++ [c]⟩ := by
  have hdelivered : ∀ j, delivered j (es ++ [.start keyId request]) = delivered j es := fun j => by
    rw [delivered_concat]
    exact List.append_nil _
  refine ⟨haccounted, ?_, fun j c₁ hj => ?_, fun j hj => ?_⟩
  · rw [started_concat, List.length_append, List.length_append, h.count]
    rfl
  · rw [started_concat, hdelivered]
    by_cases hlt : j < s.calls.length
    · rw [List.getElem?_append_left hlt] at hj
      rw [List.getElem?_append_left (h.count ▸ hlt)]
      exact h.answered j c₁ hj
    · have hj' : j = s.calls.length := by
        obtain ⟨hbound, -⟩ := List.getElem?_eq_some_iff.mp hj
        rw [List.length_append, List.length_singleton] at hbound
        omega
      subst hj'
      rw [List.getElem?_append_right (le_refl _), Nat.sub_self] at hj
      obtain rfl := Option.some.inj hj
      refine ⟨request, ?_, ?_⟩
      · rw [h.count, List.getElem?_append_right (le_refl _), Nat.sub_self]
        rfl
      · rw [h.silent _ (le_refl _)]
        exact hc
  · rw [hdelivered]
    apply h.silent
    rw [List.length_append] at hj
    omega

/-- **One step.** -/
theorem Tracked.step {es : List Event} (h : Tracked es s) {e : Event} (hstep : step limits s e = some s') :
    Tracked (es ++ [e]) s' := by
  cases e with
  | start keyId request =>
    simp only [Ingress.step] at hstep
    cases hreader : tryBodyReader limits s.resources keyId with
    | none =>
      rw [hreader] at hstep
      obtain rfl := Option.some.inj hstep
      refine h.push ⟨?_, ?_⟩ ⟨_, _, rfl⟩
      · rw [List.map_append]
        exact h.accounted.readers.append_none keyId
      · rw [List.map_append]
        exact h.accounted.retained.append_none keyId
    | some r =>
      rw [hreader] at hstep
      obtain rfl := Option.some.inj hstep
      unfold tryBodyReader at hreader
      split at hreader
      · cases hreader
      · obtain rfl := Option.some.inj hreader
        refine h.push ⟨?_, ?_⟩ ⟨rfl, rfl, rfl, rfl, fun n _ => Nat.zero_le n⟩
        · -- the new call holds nothing, then takes a reader
          have hlast : (s.calls.map Call.reader ++ [(keyId, 0)])[s.calls.length]? =
              some (keyId, 0) := by
            rw [List.getElem?_append_right (by rw [List.length_map]), List.length_map, Nat.sub_self]
            rfl
          have hadd := (h.accounted.readers.append_none keyId).add hlast 1
          rw [List.set_append_right _ _ (by rw [List.length_map]), List.length_map,
            Nat.sub_self] at hadd
          rw [List.map_append]
          exact hadd
        · rw [List.map_append]
          exact h.accounted.retained.append_none keyId
  | arrival i a =>
    simp only [Ingress.step] at hstep
    split at hstep
    · rename_i st hi
      obtain ⟨request, hrequest, hst⟩ := h.answered i _ hi
      obtain ⟨r, c, hadvance, haccounted, hc⟩ := @advance_spec limits s h.accounted i st hi a _ _ hst
      rw [hadvance] at hstep
      obtain rfl := Option.some.inj hstep
      refine h.replace hi rfl (fun j hj => ?_) haccounted fun request' hrequest' _ => ?_
      · rw [delivered, if_neg (Ne.symm hj)]
        rfl
      · obtain rfl := Option.some.inj (hrequest.symm.trans hrequest')
        rw [delivered, if_pos rfl, delivered, List.append_nil]
        exact hc
    · cases hstep
  | release i =>
    simp only [Ingress.step] at hstep
    split at hstep
    · rename_i body hi
      have hretained : (s.calls.map Call.retained)[i]? = some (body.keyId, body.reserved) := by
        rw [List.getElem?_map, hi]
        rfl
      have hreader : (s.calls.map Call.reader)[i]? = some (body.keyId, 0) := by
        rw [List.getElem?_map, hi]
        rfl
      obtain ⟨r, hrelease, hreaders, hholds⟩ := releaseBody_eq h.accounted.retained hretained
      rw [hrelease] at hstep
      obtain rfl := Option.some.inj hstep
      refine h.replace hi rfl (fun _ _ => rfl) ⟨?_, ?_⟩ fun _ _ _ => trivial
      · rw [List.map_set]
        show r.bodyReaders.Holds (List.set _ i (body.keyId, 0))
        rw [Meter.set_eq_self hreader, hreaders]
        exact h.accounted.readers
      · rw [List.map_set]
        exact hholds
    · cases hstep

theorem Tracked.run {es₀ es : List Event} (h : Tracked es₀ s) (hrun : run limits s es = some s') :
    Tracked (es₀ ++ es) s' := by
  induction es generalizing es₀ s with
  | nil =>
    obtain rfl := Option.some.inj hrun
    rwa [List.append_nil]
  | cons e rest ih =>
    rw [Ingress.run] at hrun
    obtain ⟨s₁, hstep, hrest⟩ := Option.bind_eq_some_iff.mp hrun
    have := ih (h.step hstep) hrest
    rwa [List.append_assoc] at this

/-- **Every run** of any number of requests, from a fresh process. -/
theorem run_tracked {es : List Event} (h : run limits .fresh es = some s) : Tracked es s := tracked_fresh.run h

end Runs

/-- **Ingress rejects through its own error**, except where `int()` refuses the declared length:
every other scope is refused with an `IngressError` or accepted as a request that fits. In every run
of any number of reads, a read ends in an `IngressError` or in the chunks that arrived for it, of
the declared length, and the shared counters are what open reads and retained bodies hold. -/
theorem ingress_rejects_own_iff (limits : IngressLimits) (contract : AdapterContract) :
    (∀ scope, Answers limits contract scope ↔ ¬ OversizedLength limits scope) ∧
      ∀ (es : List Event) (s : System), run limits .fresh es = some s →
        s.Accounted ∧ ∀ (i : Nat) (c : Call), s.calls[i]? = some c →
          ∃ request, (started es)[i]? = some request ∧ c.Answered request (delivered i es) := by
  refine ⟨fun scope => answers_iff, fun es s hrun => ?_⟩
  have htracked := run_tracked hrun
  exact ⟨htracked.accounted, htracked.answered⟩

/-! ### A length of 4301 digits -/

/-- The limits of the source. -/
def defaultLimits : IngressLimits where
  positive := by decide
  readers_ordered := by decide
  body_le := by decide
  retained_ordered := by decide

/-- A chat request whose declared length has one digit more than `int()` takes. -/
def longLengthScope : Mapping := ⟨[
  ("type", .str "http"), ("method", .str "POST"), ("path", .str "/v1/chat/completions"),
  ("raw_path", .bytes (ascii "/v1/chat/completions")),
  ("headers", .seq [.seq [.bytes (ascii "Content-Length"), .bytes (List.replicate 4301 0x31)]])],
  by decide⟩

theorem readHeaders_longLength : readHeaders defaultLimits longLengthScope =
    .ok [(ascii "content-length", List.replicate 4301 0x31)] := by
  have hheader : readHeader defaultLimits
      (.seq [.bytes (ascii "Content-Length"), .bytes (List.replicate 4301 0x31)]) =
        .ok (ascii "content-length", List.replicate 4301 0x31) := by
    rw [readHeader, bind_eq_ok_iff]
    refine ⟨(), require_eq_ok_iff.mpr ⟨by decide, by decide, ?_, by decide, ?_, ?_, ?_⟩, rfl⟩
    · rw [List.length_replicate]
      decide
    all_goals
      intro h
      exact absurd (List.eq_of_mem_replicate h) (by decide)
  show ((do
    require (1 ≤ defaultLimits.maxHeaderCount) (.ingress 431 "too_many_headers")
    let headers ← collect defaultLimits
      [.seq [.bytes (ascii "Content-Length"), .bytes (List.replicate 4301 0x31)]] 0
    require (∀ name ∈ singletonHeaders, occurrences headers name ≤ 1)
      (.ingress 400 "duplicate_singleton_header")
    return headers : Except Fault (List Header))) = _
  have hcollect : collect defaultLimits
      [.seq [.bytes (ascii "Content-Length"), .bytes (List.replicate 4301 0x31)]] 0 =
        .ok [(ascii "content-length", List.replicate 4301 0x31)] := by
    rw [collect, hheader, ok_bind, bind_eq_ok_iff]
    refine ⟨(), require_eq_ok_iff.mpr ?_, rfl⟩
    rw [headerSize, List.length_replicate]
    decide
  rw [hcollect, bind_eq_ok_iff]
  refine ⟨(), require_eq_ok_iff.mpr (by decide), ?_⟩
  rw [ok_bind, bind_eq_ok_iff]
  refine ⟨(), require_eq_ok_iff.mpr fun name _ => ?_, rfl⟩
  exact List.countP_le_length

/-- `int()` raises a `ValueError` that is no `IngressError`. -/
theorem long_length_unanswered : ¬ Answers defaultLimits certifiedContract longLengthScope := by
  rw [answers_iff, not_not]
  refine ⟨("POST", "/v1/chat/completions"), _, by decide +kernel, readHeaders_longLength, rfl,
    List.replicate 4301 0x31, rfl, rfl, ?_, ?_⟩
  · rw [isDigits, List.all_replicate]
    rfl
  · rw [List.length_replicate]
    decide

end LlmMaxxing.Ingress
