import Mathlib.Data.List.Perm.Subperm
import Stratos.Lib.JsObject

/-!
# The selected rows of a list

The rows of a list can be selected one by one, or all together with the tick in the header
(`selectedRowToggle`, `selectAllFilteredRows` and `selectClear` of `ListDataSource`). A row can be
disabled, and is not selected then.

The tick is a flag of its own. It is toggled, or computed from the number of selected rows, and
`selectClear` leaves it as it is. `tellsTruth_iff` says for which runs it is what the rows are.
-/

open Lib

namespace Stratos

namespace ListSelection

variable {T : Type}

/-! ## The code -/

/-- What a data source knows of a row. -/
structure RowAccess (T : Type) where
  getRowUniqueId : T → String
  /-- `disabled` of the state of the row. -/
  disabled : T → Bool

/-- The parts of a data source that the selection reads and writes. -/
structure ListDataSource (T : Type) where
  /-- The selected rows by their ids. -/
  selectedRows : JsObject T
  filteredRows : List T
  selectAllChecked : Bool
  isSelecting : Bool

/-- A source with no rows, of which none is selected. -/
def ListDataSource.initial : ListDataSource T := ⟨.empty, [], false, false⟩

/-- The number of selected rows. -/
def size (rows : JsObject T) : ℕ := rows.keys.length

section Code

variable (access : RowAccess T) (source : ListDataSource T)

/-- The row is selected or not any more, if it is not disabled. -/
def selectedRowToggle (row : T) (multiMode : Bool) : ListDataSource T :=
  let id := access.getRowUniqueId row
  if access.disabled row then source
  else if (source.selectedRows.get? id).isSome then
    let selectedRows := source.selectedRows.erase id
    { source with
      selectedRows := selectedRows
      selectAllChecked := false
      isSelecting := multiMode && decide (size selectedRows > 0) }
  else
    let selectedRows := (if multiMode then source.selectedRows else .empty).set id row
    { source with
      selectedRows := selectedRows
      selectAllChecked := multiMode && size selectedRows == source.filteredRows.length
      isSelecting := multiMode && decide (size selectedRows > 0) }

/-- The rows after those of the list are added or removed, but for disabled ones. -/
def selectRows (checked : Bool) (rows : List T) (selectedRows : JsObject T) : JsObject T :=
  rows.foldl (fun selectedRows row =>
    if access.disabled row then selectedRows
    else if checked then selectedRows.set (access.getRowUniqueId row) row
    else selectedRows.erase (access.getRowUniqueId row)) selectedRows

/-- `combineLatest` of no rows emits nothing. -/
def selectAllFilteredRows : ListDataSource T :=
  let selectAllChecked := !source.selectAllChecked
  let selectedRows := selectRows access selectAllChecked source.filteredRows source.selectedRows
  { source with
    selectAllChecked := selectAllChecked
    selectedRows := selectedRows
    isSelecting :=
      if source.filteredRows = [] then source.isSelecting else decide (size selectedRows > 0) }

/-- No row is selected any more. -/
def selectClear : ListDataSource T :=
  { source with selectedRows := .empty, isSelecting := false }

/-- The operations on rows, in multi mode, and a change of the rows that are shown. -/
inductive Event (T : Type)
  | toggle (row : T)
  | selectAll
  | clear
  | filtered (rows : List T)

/-- The source after an event. -/
def apply : Event T → ListDataSource T
  | .toggle row => selectedRowToggle access source row true
  | .selectAll => selectAllFilteredRows access source
  | .clear => selectClear source
  | .filtered rows => { source with filteredRows := rows }

end Code

/-! ## What should hold -/

section Property

variable (access : RowAccess T)

/-- Some of the rows can be selected, and all that can are. -/
def AllSelected (rows : List T) (selectedRows : JsObject T) : Prop :=
  (∃ row ∈ rows, access.disabled row = false) ∧
    ∀ row ∈ rows, access.disabled row = false → access.getRowUniqueId row ∈ selectedRows.keys

/-- What holds after an operation. -/
structure TruthAfter (source : ListDataSource T) : Prop where
  enabled : ∀ id row, source.selectedRows.get? id = some row → access.disabled row = false
  selecting : source.isSelecting = true ↔ source.selectedRows.keys ≠ []
  checked : source.selectAllChecked = true ↔ AllSelected access source.filteredRows
    source.selectedRows

/-- The event is an operation of the user. -/
def Event.isOperation : Event T → Bool
  | filtered _ => false
  | _ => true

/-- The selection tells the truth after every operation of the run. -/
def TellsTruth : List (Event T) → ListDataSource T → Prop
  | [], _ => True
  | e :: events, source =>
    (e.isOperation = true → TruthAfter access (apply access source e)) ∧
      TellsTruth events (apply access source e)

/-- What an operation needs of the state before it. -/
def Event.Safe (source : ListDataSource T) : Event T → Prop
  | toggle row =>
    let id := access.getRowUniqueId row
    if access.disabled row then
      -- nothing happens, so the tick has to be right before
      source.selectAllChecked = true ↔ AllSelected access source.filteredRows source.selectedRows
    else if id ∈ source.selectedRows.keys then
      -- the row that is left out is one of those shown, or another one is missing
      ¬AllSelected access source.filteredRows (source.selectedRows.erase id)
    else
      source.selectedRows.keys.length + 1 = source.filteredRows.length ↔
        AllSelected access source.filteredRows (source.selectedRows.set id row)
  | selectAll => source.selectAllChecked = true ∨
      ∃ row ∈ source.filteredRows, access.disabled row = false
  | clear => source.selectAllChecked = false
  | filtered _ => True

/-- Every operation of the run is safe when it comes. -/
def RunSafe : List (Event T) → ListDataSource T → Prop
  | [], _ => True
  | e :: events, source => e.Safe access source ∧ RunSafe events (apply access source e)

end Property

/-! ## The rows -/

variable {access : RowAccess T}

theorem size_pos_iff {rows : JsObject T} : size rows > 0 ↔ rows.keys ≠ [] :=
  List.length_pos_iff

theorem mem_keys_erase {rows : JsObject T} {id id' : String} :
    id' ∈ (rows.erase id).keys ↔ id' ≠ id ∧ id' ∈ rows.keys := by
  rw [← JsObject.isSome_get?_iff, ← JsObject.isSome_get?_iff, JsObject.get?_erase]
  split_ifs with h <;> simp [h]

/-- All selected rows are enabled. -/
def AllEnabled (access : RowAccess T) (rows : JsObject T) : Prop :=
  ∀ id row, rows.get? id = some row → access.disabled row = false

theorem AllEnabled.set {rows : JsObject T} (h : AllEnabled access rows) {row : T}
    (hrow : access.disabled row = false) (id : String) : AllEnabled access (rows.set id row) := by
  intro id' row' hget
  rw [JsObject.get?_set] at hget
  split_ifs at hget with hid
  · obtain rfl := Option.some.inj hget
    exact hrow
  · exact h id' row' hget

theorem AllEnabled.erase {rows : JsObject T} (h : AllEnabled access rows) (id : String) :
    AllEnabled access (rows.erase id) := by
  intro id' row' hget
  rw [JsObject.get?_erase] at hget
  split_ifs at hget with hid
  exact h id' row' hget

theorem AllEnabled.selectRows {selectedRows : JsObject T} (h : AllEnabled access selectedRows)
    (checked : Bool) (rows : List T) :
    AllEnabled access (selectRows access checked rows selectedRows) := by
  unfold ListSelection.selectRows
  induction rows generalizing selectedRows with
  | nil => exact h
  | cons row rows ih =>
    rw [List.foldl_cons]
    apply ih
    split_ifs with hdisabled
    · exact h
    · exact h.set (by simpa using hdisabled) _
    · exact h.erase _

theorem mem_keys_selectRows_true {selectedRows : JsObject T} {rows : List T} {id : String} :
    id ∈ (selectRows access true rows selectedRows).keys ↔ id ∈ selectedRows.keys ∨
      ∃ row ∈ rows, access.disabled row = false ∧ access.getRowUniqueId row = id := by
  unfold selectRows
  induction rows generalizing selectedRows with
  | nil => simp
  | cons row rows ih =>
    rw [List.foldl_cons, ih]
    cases hrow : access.disabled row with
    | true => simp [hrow]
    | false =>
      simp only [hrow, Bool.false_eq_true, if_false, if_true, JsObject.mem_keys_set,
        List.exists_mem_cons_iff, true_and, eq_comm (a := id), or_assoc]

theorem mem_keys_selectRows_false {selectedRows : JsObject T} {rows : List T} {id : String} :
    id ∈ (selectRows access false rows selectedRows).keys ↔ id ∈ selectedRows.keys ∧
      ∀ row ∈ rows, access.disabled row = false → access.getRowUniqueId row ≠ id := by
  unfold selectRows
  induction rows generalizing selectedRows with
  | nil => simp
  | cons row rows ih =>
    rw [List.foldl_cons, ih]
    cases hrow : access.disabled row with
    | true => simp [hrow]
    | false =>
      simp only [hrow, Bool.false_eq_true, if_false, mem_keys_erase, List.forall_mem_cons,
        true_imp_iff, ne_comm (a := id)]
      tauto

/-! ## One operation -/

/-- What holds after every operation, whatever the tick is. -/
structure Consistent (access : RowAccess T) (source : ListDataSource T) : Prop where
  enabled : AllEnabled access source.selectedRows
  selecting : source.isSelecting = true ↔ source.selectedRows.keys ≠ []

/-- The tick says what the rows are. -/
def TickRight (access : RowAccess T) (source : ListDataSource T) : Prop :=
  source.selectAllChecked = true ↔ AllSelected access source.filteredRows source.selectedRows

theorem truthAfter_iff {source : ListDataSource T} :
    TruthAfter access source ↔ Consistent access source ∧ TickRight access source :=
  ⟨fun h => ⟨⟨h.enabled, h.selecting⟩, h.checked⟩,
    fun h => ⟨h.1.enabled, h.1.selecting, h.2⟩⟩

variable {source : ListDataSource T}

/-- A toggle in multi mode. -/
theorem selectedRowToggle_true (row : T) :
    selectedRowToggle access source row true =
      if access.disabled row = true then source
      else if access.getRowUniqueId row ∈ source.selectedRows.keys then
        { source with
          selectedRows := source.selectedRows.erase (access.getRowUniqueId row)
          selectAllChecked := false
          isSelecting := decide (size (source.selectedRows.erase (access.getRowUniqueId row)) > 0) }
      else
        { source with
          selectedRows := source.selectedRows.set (access.getRowUniqueId row) row
          selectAllChecked := size (source.selectedRows.set (access.getRowUniqueId row) row) ==
            source.filteredRows.length
          isSelecting :=
            decide (size (source.selectedRows.set (access.getRowUniqueId row) row) > 0) } := by
  simp only [selectedRowToggle, if_true, Bool.true_and, JsObject.isSome_get?_iff]

theorem Consistent.toggle (h : Consistent access source) (row : T) :
    Consistent access (selectedRowToggle access source row true) := by
  rw [selectedRowToggle_true]
  split_ifs with hdisabled hexists
  · exact h
  · exact ⟨h.enabled.erase _, by simp [size_pos_iff]⟩
  · exact ⟨h.enabled.set (by simpa using hdisabled) _, by simp [size_pos_iff]⟩

theorem Consistent.selectAll (h : Consistent access source) :
    Consistent access (selectAllFilteredRows access source) := by
  refine ⟨h.enabled.selectRows _ _, ?_⟩
  rw [selectAllFilteredRows]
  dsimp only
  split_ifs with hempty
  · rw [hempty]
    exact h.selecting
  · simp [size_pos_iff]

theorem Consistent.apply (h : Consistent access source) (e : Event T) :
    Consistent access (apply access source e) := by
  cases e with
  | toggle row => exact h.toggle row
  | selectAll => exact h.selectAll
  | clear => exact ⟨fun _ _ hget => (by cases hget), by simp [ListSelection.apply, selectClear]⟩
  | filtered rows => exact ⟨h.enabled, h.selecting⟩

theorem tickRight_toggle_iff (row : T) :
    TickRight access (selectedRowToggle access source row true) ↔
      (Event.toggle row).Safe access source := by
  rw [selectedRowToggle_true, Event.Safe]
  split_ifs with hdisabled hexists
  · exact Iff.rfl
  · simp [TickRight]
  · have hsize : size (source.selectedRows.set (access.getRowUniqueId row) row) =
        source.selectedRows.keys.length + 1 := by
      simp [size, JsObject.keys_set, hexists]
    simp [TickRight, hsize]

/-- Ticked, every row that can be selected is. Otherwise none of them is. -/
theorem tickRight_selectAll_iff :
    TickRight access (selectAllFilteredRows access source) ↔
      (Event.selectAll).Safe access source := by
  rw [TickRight, selectAllFilteredRows, Event.Safe]
  dsimp only
  cases source.selectAllChecked with
  | false =>
    have hall : ∀ row ∈ source.filteredRows, access.disabled row = false →
        access.getRowUniqueId row ∈
          (selectRows access true source.filteredRows source.selectedRows).keys :=
      fun row hrow hdisabled => mem_keys_selectRows_true.2 (.inr ⟨row, hrow, hdisabled, rfl⟩)
    simp only [Bool.not_false, AllSelected, true_iff, Bool.false_eq_true, false_or]
    exact and_iff_left hall
  | true =>
    simp only [Bool.not_true, Bool.false_eq_true, false_iff, true_or, iff_true]
    rintro ⟨⟨row, hrow, hdisabled⟩, hall⟩
    exact (mem_keys_selectRows_false.1 (hall row hrow hdisabled)).2 row hrow hdisabled rfl

theorem tickRight_clear_iff :
    TickRight access (selectClear source) ↔ (Event.clear : Event T).Safe access source := by
  have hnone : ¬AllSelected access source.filteredRows (JsObject.empty : JsObject T) := by
    rintro ⟨⟨row, hrow, hdisabled⟩, hall⟩
    exact absurd (hall row hrow hdisabled) (by simp)
  simp [TickRight, selectClear, Event.Safe, hnone]

theorem truthAfter_apply_iff (h : Consistent access source) {e : Event T}
    (he : e.isOperation = true) :
    TruthAfter access (apply access source e) ↔ e.Safe access source := by
  rw [truthAfter_iff, and_iff_right (h.apply e)]
  cases e with
  | toggle row => exact tickRight_toggle_iff row
  | selectAll => exact tickRight_selectAll_iff
  | clear => exact tickRight_clear_iff
  | filtered rows => cases he

/-! ## Runs -/

theorem tellsTruth_iff_of (h : Consistent access source) (events : List (Event T)) :
    TellsTruth access events source ↔ RunSafe access events source := by
  induction events generalizing source with
  | nil => exact Iff.rfl
  | cons e events ih =>
    rw [TellsTruth, RunSafe, ih (h.apply e)]
    refine and_congr_left fun _ => ?_
    by_cases he : e.isOperation = true
    · rw [truthAfter_apply_iff h he]
      simp [he]
    · cases e with
      | filtered rows => simp [Event.isOperation, Event.Safe]
      | _ => exact absurd rfl he

theorem consistent_initial : Consistent access ListDataSource.initial :=
  ⟨fun _ _ hget => (by cases hget), by simp [ListDataSource.initial]⟩

/-- The selection tells the truth after every operation exactly where every operation is safe. -/
theorem tellsTruth_iff (access : RowAccess T) (events : List (Event T)) :
    TellsTruth access events .initial ↔ RunSafe access events .initial :=
  tellsTruth_iff_of consistent_initial events

/-- A tick is left behind when all rows of the selection are cleared. -/
theorem tick_stays_after_clear :
    ¬TellsTruth (⟨id, fun _ => false⟩ : RowAccess String)
      [.filtered ["a"], .selectAll, .clear] .initial := by
  rintro ⟨-, -, hclear, -⟩
  obtain ⟨⟨row, hrow, -⟩, hall⟩ := (hclear rfl).checked.1 rfl
  exact absurd (hall row hrow rfl) (by simp [apply, selectClear])

/-! ## Lists without disabled rows -/

/-- Where all rows are enabled and only rows that are shown are selected, the number of selected
rows says whether all are, and toggling a row is safe. -/
theorem safe_toggle_of_enabled {row : T} (hrow : row ∈ source.filteredRows)
    (henabled : ∀ row ∈ source.filteredRows, access.disabled row = false)
    (hnodup : (source.filteredRows.map access.getRowUniqueId).Nodup)
    (hshown : source.selectedRows.keys ⊆ source.filteredRows.map access.getRowUniqueId) :
    (Event.toggle row).Safe access source := by
  rw [Event.Safe, henabled row hrow, if_neg (by decide)]
  split_ifs with hexists
  · rintro ⟨-, hall⟩
    exact (mem_keys_erase.1 (hall row hrow (henabled row hrow))).1 rfl
  · have hkeys : (source.selectedRows.set (access.getRowUniqueId row) row).keys =
        source.selectedRows.keys ++ [access.getRowUniqueId row] := by
      rw [JsObject.keys_set, if_neg hexists]
    have hsubset : (source.selectedRows.set (access.getRowUniqueId row) row).keys ⊆
        source.filteredRows.map access.getRowUniqueId := by
      rw [hkeys]
      exact List.append_subset.2 ⟨hshown, by simpa using ⟨row, hrow, rfl⟩⟩
    have hsubperm := (JsObject.nodup_keys _).subperm hsubset
    have hlength : source.selectedRows.keys.length + 1 =
        (source.selectedRows.set (access.getRowUniqueId row) row).keys.length := by
      simp [hkeys]
    rw [hlength, ← List.length_map access.getRowUniqueId]
    constructor
    · intro heq
      refine ⟨⟨row, hrow, henabled row hrow⟩, fun row' hrow' _ => ?_⟩
      exact (hsubperm.perm_of_length_le heq.ge).mem_iff.2 (List.mem_map_of_mem hrow')
    · rintro ⟨-, hall⟩
      refine le_antisymm hsubperm.length_le (hnodup.subperm ?_).length_le
      intro id hid
      obtain ⟨row', hrow', rfl⟩ := List.mem_map.1 hid
      exact hall row' hrow' (henabled row' hrow')

end ListSelection

end Stratos
