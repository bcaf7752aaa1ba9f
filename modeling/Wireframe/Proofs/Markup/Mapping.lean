import Mathlib.Data.List.Forall2
import Mathlib.Data.List.Nodup
import Wireframe.Markup.Mapping
import Wireframe.Proofs.Json.Order

/-!
# What a mapping table says

A table is asked for the entries of kinds, one at a time or for a whole design, and it is written as
JSON. When it has an entry for each of some kinds, nothing that is asked about them fails.

* `MappingTable.unmappedFrom_eq` — the kinds without an entry, with their places.
* `MappingTable.checkAll_of_covers`, `MappingTable.checkAll_of_not_covers` — what the check says.
* `MappingTable.exists_importsFor` — the modules of kinds with entries: the union of what the entries
  need, in order, each once.
* `MappingTable.toJson_eq` — a table as JSON, entry by entry.
-/

set_option autoImplicit false

namespace Wireframe

theorem Json.sortKeysOfFields_eq (fields : Fields) :
    Json.sortKeysOfFields fields = fields.map fun (key, v) => (key, Json.sortKeys v) := by
  induction fields with
  | nil => rfl
  | cons e fields ih =>
    obtain ⟨key, v⟩ := e
    rw [Json.sortKeysOfFields, ih, List.map_cons]

/-- A kind without an entry, as it is reported at a place. -/
def UnmappedKind.at (place : Nat × Kind) : UnmappedKind := ⟨some (.ofNat place.1), place.2.toJson⟩

namespace MappingTable

variable {table : MappingTable} {kinds : List Kind}

/-- A table with an entry for each of some kinds. -/
def Covers (table : MappingTable) (kinds : List Kind) : Prop :=
  ∀ k ∈ kinds, (table.find? k.tag).isSome = true

theorem covers_standard (kinds : List Kind) : standard.Covers kinds := by
  intro k _
  cases k <;> rfl

theorem findValue?_toJson (table : MappingTable) (k : Kind) :
    table.findValue? k.toJson = table.find? k.tag := rfl

theorem entryFor_toJson {k : Kind} {entry : MappingEntry} (h : table.find? k.tag = some entry) :
    table.entryFor k.toJson = .ok entry := by
  unfold entryFor
  rw [findValue?_toJson, h]

/-! ## Kinds without an entry -/

/-- The kinds without an entry, each with its place, counted from `start`. -/
def lackingFrom (table : MappingTable) (start : Nat) (kinds : List Kind) : List (Nat × Kind) :=
  ((kinds.zipIdx start).filter fun p => (table.find? p.1.tag).isNone).map Prod.swap

theorem unmappedFrom_eq (start : Nat) (kinds : List Kind) :
    table.unmappedFrom start (kinds.map (·.toJson)) =
      (table.lackingFrom start kinds).map .at := by
  induction kinds generalizing start with
  | nil => rfl
  | cons k kinds ih =>
    rw [List.map_cons, unmappedFrom, findValue?_toJson, ih]
    unfold lackingFrom
    rw [List.zipIdx_cons]
    cases hentry : table.find? k.tag with
    | some entry => simp [hentry]
    | none => simp [hentry, UnmappedKind.at]

theorem mem_lackingFrom {i : Nat} {k : Kind} :
    (i, k) ∈ table.lackingFrom 0 kinds ↔ kinds[i]? = some k ∧ table.find? k.tag = none := by
  simp [lackingFrom, List.mem_zipIdx_iff_getElem?, and_comm]

/-- The places of kinds without an entry ascend. -/
theorem pairwise_lackingFrom (table : MappingTable) (kinds : List Kind) :
    (table.lackingFrom 0 kinds).Pairwise fun p q => p.1 < q.1 := by
  have hplaces : (kinds.zipIdx.map (·.2)).Pairwise (· < ·) := by
    rw [List.zipIdx_map_snd]
    exact List.pairwise_lt_range'
  exact List.pairwise_map.2 ((List.pairwise_map.1 hplaces).filter _)

theorem lackingFrom_eq_nil_iff : table.lackingFrom 0 kinds = [] ↔ table.Covers kinds := by
  rw [List.eq_nil_iff_forall_not_mem]
  constructor
  · intro h k hk
    obtain ⟨i, hi⟩ := List.mem_iff_getElem?.1 hk
    rw [← Option.ne_none_iff_isSome]
    exact fun hnone => h (i, k) (mem_lackingFrom.2 ⟨hi, hnone⟩)
  · rintro h ⟨i, k⟩ hmem
    obtain ⟨hi, hnone⟩ := mem_lackingFrom.1 hmem
    have hsome := h k (List.mem_of_getElem? hi)
    rw [hnone] at hsome
    cases hsome

theorem checkAll_of_covers (h : table.Covers kinds) :
    table.checkAll (kinds.map (·.toJson)) = .ok () := by
  unfold checkAll
  rw [unmappedFrom_eq, lackingFrom_eq_nil_iff.2 h, List.map_nil]

theorem checkAll_of_not_covers (h : ¬table.Covers kinds) :
    table.checkAll (kinds.map (·.toJson)) =
      .error (.fault (.unmapped ((table.lackingFrom 0 kinds).map .at))) := by
  unfold checkAll
  rw [unmappedFrom_eq]
  split
  · rename_i hnil
    exact absurd (lackingFrom_eq_nil_iff.1 (List.map_eq_nil_iff.1 hnil)) h
  · rfl

/-! ## The modules of a design -/

theorem exists_mapM_entryFor (h : table.Covers kinds) :
    ∃ entries, (kinds.map (·.toJson)).mapM table.entryFor = .ok entries ∧
      List.Forall₂ (fun k entry => table.find? k.tag = some entry) kinds entries := by
  induction kinds with
  | nil => exact ⟨[], rfl, .nil⟩
  | cons k kinds ih =>
    obtain ⟨hk, hkinds⟩ := List.forall_mem_cons.1 h
    obtain ⟨entry, hentry⟩ := Option.isSome_iff_exists.1 hk
    obtain ⟨entries, hentries, hall⟩ := ih hkinds
    refine ⟨entry :: entries, ?_, .cons hentry hall⟩
    rw [List.map_cons, List.mapM_cons, entryFor_toJson hentry, hentries]
    rfl

theorem mem_flatMap_imports {entries : List MappingEntry} {m : String}
    (h : List.Forall₂ (fun k entry => table.find? k.tag = some entry) kinds entries) :
    m ∈ entries.flatMap (·.imports) ↔
      ∃ k ∈ kinds, ∃ entry, table.find? k.tag = some entry ∧ m ∈ entry.imports := by
  induction h with
  | nil => simp
  | cons hentry _ ih => simp [ih, hentry]

/-- The modules that kinds with entries need are those of the entries, in order, each once. -/
theorem exists_importsFor (h : table.Covers kinds) :
    ∃ imports, table.importsFor (kinds.map (·.toJson)) = .ok imports ∧ imports.Pairwise (· < ·) ∧
      ∀ m, m ∈ imports ↔
        ∃ k ∈ kinds, ∃ entry, table.find? k.tag = some entry ∧ m ∈ entry.imports := by
  obtain ⟨entries, hentries, hall⟩ := exists_mapM_entryFor h
  refine ⟨sortedDistinct (entries.flatMap (·.imports)), ?_, pairwise_sortedDistinct _, fun m => ?_⟩
  · unfold importsFor
    rw [hentries]
    rfl
  · rw [mem_sortedDistinct, mem_flatMap_imports hall]

/-! ## Tables as JSON -/

/-- A table as JSON: its entries, each with its fields in order, in the order of their kinds. -/
theorem toJson_eq (table : MappingTable) :
    table.toJson = .obj ((table.map fun (kind, entry) => (kind, entry.toJson.sortKeys)).mergeSort
      fun a b => textLE a.1 b.1) := by
  rw [toJson, Json.sortKeys, Json.sortKeysOfFields_eq, List.map_map]
  rfl

end MappingTable

end Wireframe
