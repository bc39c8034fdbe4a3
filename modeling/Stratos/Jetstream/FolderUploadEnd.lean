import Mathlib.Order.RelClasses
import Stratos.Jetstream.FolderUploadRuns

/-!
# The end of the upload of a folder

No order of the steps goes on for ever (`wellFounded_step`) : the server gets on with its program,
or else the client with what it was sent. So every upload that is scheduled to the end delivers
(`upload_ends`).
-/

open Lib

namespace Stratos.FolderUpload

/-! ## Every order of the steps ends -/

/-- What a step makes smaller, the first of these that it changes. -/
def System.left (s : System) : Upload (FolderSourceInfo × Path) × ℕ × ℕ × ℕ :=
  (s.server, s.toClient.length, s.deployer.reading.length, if s.deployed then 0 else 1)

/-- The first of the parts that differs is smaller. -/
def Smaller : Upload (FolderSourceInfo × Path) × ℕ × ℕ × ℕ →
    Upload (FolderSourceInfo × Path) × ℕ × ℕ × ℕ → Prop :=
  Prod.Lex Prog.Rest (Prod.Lex (· < ·) (Prod.Lex (· < ·) (· < ·)))

theorem wellFounded_smaller : WellFounded Smaller :=
  Prog.wellFounded_rest.prod_lex (wellFounded_lt.prod_lex (wellFounded_lt.prod_lex wellFounded_lt))

section End

variable {wire : Wire} {tempDir : Path} {disk : TempDisk tempDir} {tree : ScannedTree}

theorem rest_exec (st : UploadStmt) (k : st.Reply → Upload (FolderSourceInfo × Path))
    (r : st.Reply) : Prog.Rest (k r) (.exec st k) :=
  .exec st k r

theorem smaller_of_step {s s' : System} (h : Step wire disk s s') : Smaller s'.left s.left := by
  rcases h with h | h
  · cases h with
    | @event e k h =>
      refine Prod.Lex.left _ _ ?_
      rw [h]
      exact rest_exec (.sendEvent e) k ()
    | @read frame frames k h hframes =>
      refine Prod.Lex.left _ _ ?_
      rw [h]
      exact rest_exec .readMessage k (some frame)
    | @act st k hst h =>
      refine Prod.Lex.left _ _ ?_
      rw [h]
      exact rest_exec st k _
  · cases h with
    | receive now h =>
      refine Prod.Lex.right _ (Prod.Lex.left _ _ ?_)
      rw [h]
      exact Nat.lt_succ_self _
    | load h =>
      refine Prod.Lex.right _ (Prod.Lex.right _ (Prod.Lex.left _ _ ?_))
      rw [h, Deployer.onload, List.length_append, List.length_append, List.length_cons]
      exact Nat.lt_succ_self _
    | deploy now hvalid h =>
      refine Prod.Lex.right _ (Prod.Lex.right _ (Prod.Lex.right _ ?_))
      rw [h]
      exact Nat.one_pos

/-- There is no endless run. -/
theorem wellFounded_step (wire : Wire) (disk : TempDisk tempDir) :
    WellFounded fun s' s => Step wire disk s s' :=
  Subrelation.wf smaller_of_step (InvImage.wf System.left wellFounded_smaller)

/-- No step is possible any more. -/
def System.Final (wire : Wire) (disk : TempDisk tempDir) (s : System) : Prop :=
  ∀ s', ¬Step wire disk s s'

/-- At its end the upload has delivered. -/
structure UploadEnds (wire : Wire) (disk : TempDisk tempDir) (tree : ScannedTree) (s : System) :
    Prop where
  /-- Any order of the steps comes to an end. -/
  ends : Acc (fun s' s => Step wire disk s s') s
  reaches : ∃ s', Relation.ReflTransGen (Step wire disk) s s' ∧ s'.Final wire disk
  /-- Where no step is left, all is there, and counted. -/
  delivered : s.Final wire disk → s.Ended ∧
    writesOf s.done = tree.allFiles.map (writeOf tempDir) ∧
    (∀ p ∈ tree.allFolders, makeOf tempDir p ∈ s.done) ∧ s.Counted tree

theorem final_reached (s : System) :
    ∃ s', Relation.ReflTransGen (Step wire disk) s s' ∧ s'.Final wire disk := by
  induction s using (wellFounded_step wire disk).induction with
  | _ s ih =>
    by_cases hfinal : s.Final wire disk
    · exact ⟨s, .refl, hfinal⟩
    · obtain ⟨s', hstep⟩ := not_forall_not.1 hfinal
      obtain ⟨s'', hrun, hfinal⟩ := ih s' hstep
      exact ⟨s'', .head hstep hrun, hfinal⟩

/-- A program that has ended acknowledges nothing. -/
theorem System.Ended.lastAckSent {s : System} (h : s.Ended) : s.LastAckSent := by
  obtain ⟨r, hr⟩ := h
  rw [LastAckSent, hr]
  exact Prog.all_ret r

theorem System.Final.toClient_eq_nil {s : System} (h : s.Final wire disk) : s.toClient = [] := by
  rcases hevents : s.toClient with _ | ⟨e, events⟩
  · rfl
  · exact (h _ (Or.inr (.receive epoch hevents))).elim

/-- Every schedule of an upload ends, with all the files and folders of the tree on the disk and
counted by the client. -/
theorem upload_ends (wire : Wire) (disk : TempDisk tempDir) (tree : ScannedTree) (total : ℕ)
    (now : Seconds) (s : System) (h : Reachable wire disk ⟨total, tree.toFolderContext⟩ now s) :
    UploadEnds wire disk tree s where
  ends := (wellFounded_step wire disk).apply s
  reaches := final_reached s
  delivered := by
    intro hfinal
    have hs := inv_of_reachable h
    have hdelivers := delivers_of_inv disk hs
    have hended : s.Ended := hdelivers.progress.resolve_right fun ⟨s', hstep⟩ => hfinal s' hstep
    obtain ⟨hwrites, hfolders⟩ := hdelivers.complete hended
    exact ⟨hended, hwrites, hfolders, hs.counts hended.lastAckSent hfinal.toClient_eq_nil⟩

/-- The upload of a nested folder ends, after the first file was delivered. -/
theorem upload_ends_nestedFiles :
    UploadEnds jsonWire (TempDisk.willing (Path.ofNames [])) nestedFiles nestedAsking :=
  upload_ends jsonWire _ nestedFiles 3 epoch _ reachable_nestedAsking

/-! ## When the last acknowledgement is sent -/

/-- After the files nothing is acknowledged. -/
theorem all_of_finishing {α : Type} {waits : Bool} {p : Upload α}
    (h : Finishing wire tempDir waits p) : p.All (· ≠ .sendEvent sourceFileAck) := by
  induction p generalizing waits with
  | ret r => exact Prog.all_ret r
  | exec st k ih =>
    cases st with
    | sendEvent | writeFile => exact h.elim
    | readMessage => exact ⟨(fun heq => by cases heq), fun r => ih r (h.2.2.2 r)⟩
    | mkdir path => exact ⟨(fun heq => by cases heq), fun r => ih r (h.2 r)⟩
    | openArchive | readDir | now => exact ⟨(fun heq => by cases heq), fun r => ih r (h r)⟩

end End

/-- When the last acknowledgement is sent, the client has not counted the last file yet. -/
theorem not_counted_when_sent : ¬∀ (wire : Wire) (tempDir : Path) (disk : TempDisk tempDir)
    (tree : ScannedTree) (total : ℕ) (now : Seconds) (s : System),
      Reachable wire disk ⟨total, tree.toFolderContext⟩ now s →
        DeliversCountedWhenSent wire disk tree s := by
  intro h
  have hrun := @file_run jsonWire _ (TempDisk.willing (Path.ofNames [])) oneFile 0 [] []
    ([⟨"a", by decide⟩], ⟨⟨"a", by decide⟩, []⟩) rfl epoch
  have hstart := @start_eq jsonWire (Path.ofNames []) oneFile epoch 0
  have hall : ∀ s, Relation.ReflTransGen (Step jsonWire (TempDisk.willing (Path.ofNames [])))
      ⟨sentClient oneFile 0 [] oneFile.allFiles,
        making jsonWire (Path.ofNames []) oneFile.allFiles oneFile.allFolders oneFile.allFolders,
        [], [], [], false⟩ s →
          DeliversCountedWhenSent jsonWire (TempDisk.willing (Path.ofNames [])) oneFile s := by
    intro s hs
    refine h jsonWire _ _ oneFile 0 epoch s ?_
    rw [Reachable, hstart]
    exact hs
  have hdelivers := hall _ (hrun.tail (Or.inl (.event (closing_eq _))))
  have hcounted := (hdelivers.counted (all_of_finishing (finishing_finishSource _))).1
  cases hcounted

end Stratos.FolderUpload
