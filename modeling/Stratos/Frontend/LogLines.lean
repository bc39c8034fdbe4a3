import Mathlib.Data.List.Basic
import Mathlib.Algebra.Order.Ring.Int

/-!
# The lines of the log viewer

The log viewer shows the lines of a batch in one element, and counts the lines that it shows
(`addedLogs$`). When there are more than `maxLogLines`, it takes the oldest element out and uses it
again for the new batch (`binElement`). An element of several lines has their number as an
attribute.

One element at most is taken out for a batch, which may not be enough. And an element that is used
again for a single line keeps the attribute of the lines before. `countsLines_iff` says for which
batches the count stays right and bounded.
-/

namespace Stratos

namespace LogLines

variable {α : Type}

/-! ## The code -/

/-- The element of a batch, with its lines. -/
structure BatchElement (α : Type) where
  /-- `batchLength` -/
  countAttribute : Option ℕ
  lines : List α

/-- The elements of the content, and the count. -/
structure LogViewer (α : Type) where
  content : List (BatchElement α)
  logLinesCount : ℤ

/-- A viewer that shows nothing yet. -/
def LogViewer.initial : LogViewer α := ⟨[], 0⟩

/-- `removedEle.getAttribute(this.countAttribute) || 1` -/
def BatchElement.count (e : BatchElement α) : ℕ := (e.countAttribute.filter (· ≠ 0)).getD 1

/-- The element that is taken out, and the viewer without it. -/
def LogViewer.binElement (viewer : LogViewer α) : Option (BatchElement α) × LogViewer α :=
  match viewer.content with
  | [] => (none, viewer)
  | toRemove :: content => (some toRemove, ⟨content, viewer.logLinesCount - toRemove.count⟩)

/-- The element with the lines of a batch. -/
def batchElement (removedElement : Option (BatchElement α)) (logs : List α) : BatchElement α where
  countAttribute :=
    if logs.length > 1 then some logs.length else removedElement.bind (·.countAttribute)
  lines := logs

/-- A batch that is not empty. -/
def LogViewer.append (maxLogLines : ℕ) (viewer : LogViewer α) (logs : List α) : LogViewer α :=
  let counted : LogViewer α := { viewer with logLinesCount := viewer.logLinesCount + logs.length }
  let (removedElement, binned) :=
    if counted.logLinesCount > maxLogLines then counted.binElement else (none, counted)
  { binned with content := binned.content ++ [batchElement removedElement logs] }

/-- The step of `addedLogs$`, where `filter` gives the line that is shown for a log, unless it is
empty. -/
def LogViewer.addedLogs (maxLogLines : ℕ) (filter : α → Option α) (viewer : LogViewer α)
    (logs : List α) : LogViewer α :=
  if logs.filterMap filter = [] then viewer else viewer.append maxLogLines (logs.filterMap filter)

/-! ## The lines that are kept -/

/-- The line elements of the content. -/
def LogViewer.lines (viewer : LogViewer α) : List α := viewer.content.flatMap (·.lines)

/-- What should hold after a batch, where `seen` are the lines of all batches. -/
structure RightAfter (maxLogLines : ℕ) (logs seen : List α) (viewer : LogViewer α) : Prop where
  counted : viewer.logLinesCount = viewer.lines.length
  bounded : logs.length ≤ maxLogLines → viewer.lines.length ≤ maxLogLines
  recent : viewer.lines <:+ seen

/-- The count is right and bounded after every batch that has lines. -/
def CountsLines (maxLogLines : ℕ) (filter : α → Option α) :
    List (List α) → List α → LogViewer α → Prop
  | [], _, _ => True
  | logs :: batches, seen, viewer =>
    let seen := seen ++ logs.filterMap filter
    let viewer := viewer.addedLogs maxLogLines filter logs
    (logs.filterMap filter ≠ [] → RightAfter maxLogLines (logs.filterMap filter) seen viewer) ∧
      CountsLines maxLogLines filter batches seen viewer

/-- When the lines and those of the batch are too many, the oldest element is counted as what it
has, and to take it out is enough, unless the batch alone is too long. -/
def Fits (maxLogLines : ℕ) (logs : List α) (viewer : LogViewer α) : Prop :=
  maxLogLines < viewer.lines.length + logs.length → ∀ e ∈ viewer.content.head?,
    e.count = e.lines.length ∧
      (logs.length ≤ maxLogLines →
        viewer.lines.length + logs.length ≤ maxLogLines + e.lines.length)

/-- Every batch fits. -/
def BatchesFit (maxLogLines : ℕ) (filter : α → Option α) :
    List (List α) → LogViewer α → Prop
  | [], _ => True
  | logs :: batches, viewer =>
    (logs.filterMap filter ≠ [] → Fits maxLogLines (logs.filterMap filter) viewer) ∧
      BatchesFit maxLogLines filter batches (viewer.addedLogs maxLogLines filter logs)

/-! ## One batch -/

variable {maxLogLines : ℕ} {logs seen : List α} {viewer : LogViewer α}

/-- The viewer after a batch that is not too much. -/
theorem append_of_le (hcount : viewer.logLinesCount = viewer.lines.length)
    (hle : viewer.lines.length + logs.length ≤ maxLogLines) :
    viewer.append maxLogLines logs =
      ⟨viewer.content ++ [batchElement none logs], viewer.logLinesCount + logs.length⟩ := by
  have hnot : ¬viewer.logLinesCount + logs.length > maxLogLines := by
    rw [hcount]
    omega
  simp only [LogViewer.append, hnot, if_false]

/-- The viewer after a batch that is too much, and takes out the oldest element. -/
theorem append_of_lt (hcount : viewer.logLinesCount = viewer.lines.length)
    (hlt : maxLogLines < viewer.lines.length + logs.length) :
    viewer.append maxLogLines logs =
      match viewer.content with
      | [] => ⟨[batchElement none logs], viewer.logLinesCount + logs.length⟩
      | e :: content => ⟨content ++ [batchElement (some e) logs],
          viewer.logLinesCount + logs.length - e.count⟩ := by
  have hgt : viewer.logLinesCount + logs.length > maxLogLines := by
    rw [hcount]
    omega
  simp only [LogViewer.append, hgt, if_true, LogViewer.binElement]
  cases viewer.content <;> rfl

theorem lines_append (content : List (BatchElement α)) (removed : Option (BatchElement α))
    (logs : List α) (count : ℤ) :
    LogViewer.lines ⟨content ++ [batchElement removed logs], count⟩ =
      content.flatMap (·.lines) ++ logs := by
  simp [LogViewer.lines, batchElement]

/-- A batch keeps the count right and bounded exactly where it fits. -/
theorem rightAfter_append_iff (hcount : viewer.logLinesCount = viewer.lines.length)
    (hrecent : viewer.lines <:+ seen) :
    RightAfter maxLogLines logs (seen ++ logs) (viewer.append maxLogLines logs) ↔
      Fits maxLogLines logs viewer := by
  obtain ⟨older, rfl⟩ := hrecent
  rcases Nat.lt_or_ge maxLogLines (viewer.lines.length + logs.length) with hlt | hle
  · rw [append_of_lt hcount hlt, Fits]
    obtain ⟨content, count⟩ := viewer
    cases content with
    | nil =>
      have hlines : LogViewer.lines ⟨[batchElement none logs], count + logs.length⟩ = logs :=
        lines_append [] none logs _
      have hzero : count = 0 := hcount
      refine iff_of_true ⟨?_, ?_, ?_⟩ fun _ e he => by cases he
      · rw [hlines, hzero, zero_add]
      · rw [hlines]
        exact id
      · rw [hlines]
        exact List.suffix_append _ _
    | cons e content =>
      have hold : LogViewer.lines ⟨e :: content, count⟩ = e.lines ++ content.flatMap (·.lines) :=
        List.flatMap_cons
      have hnew := lines_append content (some e) logs (count + logs.length - e.count)
      replace hcount : count = e.lines.length + (content.flatMap (·.lines)).length := by
        simpa [hold] using hcount
      rw [hold, List.length_append] at hlt
      simp only [hold, List.length_append, hlt, List.head?_cons, Option.mem_some_iff, forall_eq',
        true_imp_iff]
      constructor
      · rintro ⟨hcounted, hbounded, -⟩
        rw [hnew, List.length_append] at hcounted hbounded
        refine ⟨?_, fun hle => ?_⟩
        · dsimp only at hcounted
          omega
        · have hkept := hbounded hle
          omega
      · rintro ⟨hcounted, hbounded⟩
        refine ⟨?_, fun hle => ?_, ?_⟩
        · rw [hnew, List.length_append]
          dsimp only
          omega
        · rw [hnew, List.length_append]
          have hkept := hbounded hle
          omega
        · rw [hnew, ← List.append_assoc, List.append_assoc]
          exact List.suffix_append _ _
  · rw [append_of_le hcount hle]
    refine iff_of_true ⟨?_, ?_, ?_⟩ fun hlt => absurd hlt (Nat.not_lt.2 hle)
    · rw [lines_append, ← LogViewer.lines]
      simp [hcount]
    · rw [lines_append, ← LogViewer.lines]
      simpa using fun _ => hle
    · rw [lines_append, ← LogViewer.lines, List.append_assoc]
      exact List.suffix_append _ _

/-! ## Runs -/

theorem countsLines_iff_of (filter : α → Option α) (batches : List (List α))
    (hcount : viewer.logLinesCount = viewer.lines.length) (hrecent : viewer.lines <:+ seen) :
    CountsLines maxLogLines filter batches seen viewer ↔
      BatchesFit maxLogLines filter batches viewer := by
  induction batches generalizing seen viewer with
  | nil => exact Iff.rfl
  | cons logs batches ih =>
    rw [CountsLines, BatchesFit, LogViewer.addedLogs]
    by_cases hempty : logs.filterMap filter = []
    · simp only [hempty, ne_eq, not_true_eq_false, false_imp_iff, true_and, if_true,
        List.append_nil]
      exact ih hcount hrecent
    · simp only [hempty, ne_eq, not_false_eq_true, true_imp_iff, if_false,
        rightAfter_append_iff hcount hrecent]
      refine and_congr_right fun hfits => ?_
      have hright := (rightAfter_append_iff hcount hrecent).2 hfits
      exact ih hright.counted hright.recent

/-- In every run the count is right and bounded exactly where every batch fits. -/
theorem countsLines_iff (maxLogLines : ℕ) (filter : α → Option α) (batches : List (List α)) :
    CountsLines maxLogLines filter batches [] .initial ↔
      BatchesFit maxLogLines filter batches .initial :=
  countsLines_iff_of filter batches rfl List.nil_suffix

/-- A longer batch after single lines takes out one line only. -/
theorem longer_batch_not_bounded :
    ¬CountsLines 5 some [[1], [2], [3], [4], [5], [6, 7, 8, 9, 10]] [] LogViewer.initial := by
  rintro ⟨-, -, -, -, -, hlast, -⟩
  have hbounded := (hlast (by decide)).bounded (by decide)
  exact absurd hbounded (by decide)

/-! ## Batches of one length -/

/-- Every element has as many lines, and is counted so. -/
def Uniform (b : ℕ) (viewer : LogViewer α) : Prop :=
  ∀ e ∈ viewer.content, e.lines.length = b ∧ e.count = b

theorem count_batchElement {b : ℕ} {removed : Option (BatchElement α)}
    (hremoved : ∀ e ∈ removed, e.count = b) (hb : logs.length = b) (hne : logs ≠ []) :
    (batchElement removed logs).count = b := by
  have hpos := List.length_pos_iff.2 hne
  rw [batchElement, BatchElement.count]
  by_cases hone : logs.length > 1
  · have hb0 : b ≠ 0 := by omega
    rw [hb] at hone
    simp [hb, hone, Option.filter, hb0]
  · obtain rfl : b = 1 := by omega
    cases removed with
    | none => simp [hone]
    | some e => simpa [hone, BatchElement.count] using hremoved e rfl

theorem uniform_append {b : ℕ} (hcount : viewer.logLinesCount = viewer.lines.length)
    (huniform : Uniform b viewer) (hb : logs.length = b) (hne : logs ≠ []) :
    Uniform b (viewer.append maxLogLines logs) := by
  rcases Nat.lt_or_ge maxLogLines (viewer.lines.length + logs.length) with hlt | hle
  · rw [append_of_lt hcount hlt]
    obtain ⟨content, count⟩ := viewer
    cases content with
    | nil =>
      intro e he
      obtain rfl := List.mem_singleton.1 he
      exact ⟨hb, count_batchElement (fun _ h => by cases h) hb hne⟩
    | cons e content =>
      intro e' he'
      rcases List.mem_append.1 he' with hmem | hmem
      · exact huniform e' (List.mem_cons_of_mem _ hmem)
      · obtain rfl := List.mem_singleton.1 hmem
        refine ⟨hb, count_batchElement (fun d hd => ?_) hb hne⟩
        obtain rfl := Option.mem_some_iff.1 hd
        exact (huniform _ List.mem_cons_self).2
  · rw [append_of_le hcount hle]
    intro e' he'
    rcases List.mem_append.1 he' with hmem | hmem
    · exact huniform e' hmem
    · obtain rfl := List.mem_singleton.1 hmem
      exact ⟨hb, count_batchElement (fun _ h => by cases h) hb hne⟩

theorem batchesFit_of_uniform (filter : α → Option α) {b : ℕ} (batches : List (List α))
    (hbatches : ∀ logs ∈ batches, logs.filterMap filter = [] ∨ (logs.filterMap filter).length = b)
    (hcount : viewer.logLinesCount = viewer.lines.length) (huniform : Uniform b viewer)
    (hbounded : b ≤ maxLogLines → viewer.lines.length ≤ maxLogLines) :
    BatchesFit maxLogLines filter batches viewer := by
  induction batches generalizing viewer with
  | nil => trivial
  | cons logs batches ih =>
    obtain ⟨hlogs, hrest⟩ := List.forall_mem_cons.1 hbatches
    rw [BatchesFit, LogViewer.addedLogs]
    rcases hlogs with hempty | hb
    · simp only [hempty, ne_eq, not_true_eq_false, false_imp_iff, true_and, if_true]
      exact ih hrest hcount huniform hbounded
    · have hfits : Fits maxLogLines (logs.filterMap filter) viewer := by
        intro _ e he
        obtain ⟨hlines, hecount⟩ := huniform e (List.mem_of_mem_head? he)
        refine ⟨hecount.trans hlines.symm, fun hle => ?_⟩
        rw [hb, hlines]
        exact Nat.add_le_add_right (hbounded (hb ▸ hle)) b
      refine ⟨fun _ => hfits, ?_⟩
      by_cases hempty : logs.filterMap filter = []
      · rw [if_pos hempty]
        exact ih hrest hcount huniform hbounded
      · rw [if_neg hempty]
        have hright := (rightAfter_append_iff hcount (List.suffix_refl _)).2 hfits
        exact ih hrest hright.counted (uniform_append hcount huniform hb hempty)
          fun hle => hright.bounded (hb ▸ hle)

/-- Batches of one length, such as single lines, are counted right and bounded. -/
theorem countsLines_of_uniform (filter : α → Option α) {b : ℕ} (batches : List (List α))
    (hbatches : ∀ logs ∈ batches,
      logs.filterMap filter = [] ∨ (logs.filterMap filter).length = b) :
    CountsLines maxLogLines filter batches [] .initial := by
  have hrecent : (LogViewer.initial : LogViewer α).lines <:+ [] := List.suffix_refl []
  refine (countsLines_iff_of filter batches rfl hrecent).2 ?_
  exact batchesFit_of_uniform filter batches hbatches rfl (fun _ h => by cases h)
    fun _ => Nat.zero_le _

end LogLines

end Stratos
