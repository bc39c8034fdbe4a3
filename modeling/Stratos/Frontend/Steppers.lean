import Mathlib.Algebra.Order.Ring.Int
import Stratos.Lib.Ranks

/-!
# The steps of a wizard

A wizard shows one of its steps. `currentIndex` is the place of that step in the list of the
visible steps, which is filtered again whenever a step is hidden or shown. `goNext` waits for the
answer of the step, and `setActive` then searches for a step that is not skipped, in the direction
of the move, after it has left the step before.

The place of a step is the number of visible steps before it, so the wizard loses it when one of
these is hidden or another is shown. It also leaves a step for nothing when the search finds none,
or finds the same step again at the end. `keepsPlace_iff` says in which runs none of this happens.
-/

namespace Stratos

open Lib

namespace Wizard

/-! ## The code -/

/-- The inputs of a step, which its template may change. -/
structure Inputs where
  hidden : Bool := false
  valid : Bool := true
  disablePrevious : Bool := false
  blocked : Bool := false
  destructiveStep : Bool := false
  skip : Bool := false

/-- A step, with what it is given and its progress. -/
structure StepComponent extends Inputs where
  active : Bool := false
  complete : Bool := false
  error : Bool := false
  busy : Bool := false

/-- The calls of the functions of the steps. -/
inductive Call
  | onEnter (step : ℕ)
  | onLeave (step : ℕ) (isNext : Bool)
  deriving DecidableEq

/-- A step is its place in `allSteps`. -/
structure SteppersComponent where
  allSteps : List StepComponent
  steps : List ℕ
  currentIndex : ℕ
  /-- The step whose `onNext` has not answered yet. -/
  nextSub : Option ℕ
  calls : List Call

namespace SteppersComponent

/-- The step is there and has the flag. -/
def is (s : SteppersComponent) (flag : StepComponent → Bool) (step : ℕ) : Bool :=
  s.allSteps[step]?.any flag

/-- The step is there and not hidden. -/
def visible (s : SteppersComponent) : ℕ → Bool := s.is fun step => !step.hidden

/-- The step that is shown. -/
def shown (s : SteppersComponent) : Option ℕ := s.steps[s.currentIndex]?

/-- The steps that are shown are those that are not hidden. -/
def filterSteps (s : SteppersComponent) : SteppersComponent :=
  { s with steps := (List.range s.allSteps.length).filter s.visible }

/-- The step can be gone to from the current one. -/
def canGoto (s : SteppersComponent) (index : ℤ) : Bool :=
  match s.shown.bind (s.allSteps[·]?) with
  | none => false
  | some step =>
    if step.busy || step.disablePrevious || step.skip then false
    else if index = s.currentIndex then true
    else if index < 0 || index > s.steps.length then false
    else if index < s.currentIndex then true
    else if step.error then false
    else step.valid

/-- The step at an index is not skipped. -/
def found (s : SteppersComponent) (index : ℕ) : Bool :=
  s.steps[index]?.any (s.is fun step => !step.skip)

/-- The loop of `findValidStep` in the next direction, with the number of steps after the index. -/
def findNext (s : SteppersComponent) (index : ℕ) : ℕ → Option ℕ
  | 0 => if s.found index then some index else none
  | left + 1 => if s.found index then some index else s.findNext (index + 1) left

/-- The loop of `findValidStep` in the previous direction. -/
def findPrevious (s : SteppersComponent) : ℕ → Option ℕ
  | 0 => if s.found 0 then some 0 else none
  | index + 1 => if s.found (index + 1) then some (index + 1) else s.findPrevious index

/-- The step that can be shown next to the index, in the direction. -/
def findValidStep (s : SteppersComponent) (index : ℕ) (isNextDirection : Bool) : Option ℕ :=
  let index := min index (s.steps.length - 1)
  if isNextDirection then s.findNext index (s.steps.length - 1 - index)
  else s.findPrevious index

/-- `step._onEnter()`. A destructive step is busy for a second. -/
def enter (s : SteppersComponent) (step : ℕ) : SteppersComponent :=
  { s with
    allSteps := s.allSteps.modify step fun c => { c with busy := c.busy || c.destructiveStep }
    calls := s.calls ++ [.onEnter step] }

/-- The step at the index is shown, and those before it are complete. -/
def activate (s : SteppersComponent) (index : ℕ) : SteppersComponent :=
  { s with
    allSteps := s.allSteps.mapIdx fun step c =>
      if step ∈ s.steps then
        { c with complete := s.steps.idxOf step < index, active := s.steps.idxOf step = index }
      else c
    currentIndex := index }

/-- The timer for the first step is left out: it runs before that step is entered. -/
def setActive (s : SteppersComponent) (index : ℤ) : SteppersComponent :=
  if s.canGoto index then
    let isNextDirection : Bool := index > s.currentIndex
    let left := { s with calls := s.calls ++ s.shown.toList.map (.onLeave · isNextDirection) }
    match s.findValidStep index.toNat isNextDirection with
    | none => left
    | some index => s.steps[index]?.elim (left.activate index) (left.activate index).enter
  else s

end SteppersComponent

/-- The answer of `onNext`, without a redirect. -/
inductive NextResult
  | success
  /-- A success that is ignored. -/
  | ignored
  | failure
  deriving DecidableEq

/-- What can happen to the stepper. -/
inductive Event
  /-- The button for the next step, if it is not disabled. -/
  | next
  | nextResult (result : NextResult)
  /-- The button for the previous step, if it is not disabled. -/
  | previous
  | change (step : ℕ) (inputs : Inputs)
  /-- The second after which a destructive step is not busy. -/
  | timeout (step : ℕ)

namespace SteppersComponent

/-- One of the steps changed. -/
def modifyStep (s : SteppersComponent) (step : ℕ) (f : StepComponent → StepComponent) :
    SteppersComponent :=
  { s with allSteps := s.allSteps.modify step f }

/-- `!(step.busy || step.blocked || !canGoNext(currentIndex))` -/
def nextEnabled (s : SteppersComponent) : Bool :=
  s.shown.any (s.is fun step => !step.busy && !step.blocked && step.valid)

/-- `goNext`, until the answer. -/
def goNext (s : SteppersComponent) : SteppersComponent :=
  s.shown.elim s fun step =>
    { s.modifyStep step fun c => { c with busy := true } with nextSub := some step }

/-- The step after the answer of its `onNext`. -/
def answer (s : SteppersComponent) (step : ℕ) (result : NextResult) : SteppersComponent :=
  { s.modifyStep step fun c => { c with error := result = .failure, busy := false } with
    nextSub := none }

/-- What `goNext` does with the answer. -/
def nextResult (s : SteppersComponent) (step : ℕ) (result : NextResult) : SteppersComponent :=
  let answered := s.answer step result
  if result = .success then answered.setActive (s.currentIndex + 1) else answered

/-- The stepper after an event. -/
def step (s : SteppersComponent) : Event → SteppersComponent
  | .next => if s.nextEnabled then s.goNext else s
  | .nextResult result => s.nextSub.elim s fun step => s.nextResult step result
  | .previous => if s.canGoto (s.currentIndex - 1) then s.setActive (s.currentIndex - 1) else s
  | .change step inputs => (s.modifyStep step fun c => { c with toInputs := inputs }).filterSteps
  | .timeout step => s.modifyStep step fun c => { c with busy := false }

/-- The steps after the first of them was entered. -/
def start (first : Inputs) (others : List Inputs) : SteppersComponent :=
  filterSteps
    { allSteps := { first with active := true, busy := first.destructiveStep } ::
        others.map fun inputs => { inputs with }
      steps := []
      currentIndex := 0
      nextSub := none
      calls := [.onEnter 0] }

end SteppersComponent

/-! ## The place -/

namespace SteppersComponent

/-- The nearest following step that is neither hidden nor skipped. -/
def following (s : SteppersComponent) (step : ℕ) : Option ℕ :=
  (List.range s.allSteps.length).find? fun j =>
    step < j && s.is (fun c => !c.hidden && !c.skip) j

/-- The nearest preceding step that is neither hidden nor skipped. -/
def preceding (s : SteppersComponent) (step : ℕ) : Option ℕ :=
  (List.range step).reverse.find? (s.is fun c => !c.hidden && !c.skip)

end SteppersComponent

/-- The step whose `onEnter` ran last. -/
def lastEntered (calls : List Call) : Option ℕ :=
  (calls.filterMap fun
    | .onEnter step => some step
    | .onLeave _ _ => none).getLast?

/-- The step that is shown is the only active one and the last that was entered, and the visible
steps before it are complete. -/
structure Placed (s : SteppersComponent) (current : ℕ) : Prop where
  shown : s.shown = some current
  active : ∀ step, s.is (·.active) step = true ↔ step = current
  entered : lastEntered s.calls = some current
  complete : ∀ step, s.is (·.complete) step = true ↔ s.visible step = true ∧ step < current

/-- Nothing changes about the place. -/
structure Stays (s s' : SteppersComponent) : Prop where
  shown : s'.shown = s.shown
  calls : s'.calls = s.calls
  active : ∀ step, s'.is (·.active) step = s.is (·.active) step
  complete : ∀ step, s'.is (·.complete) step = s.is (·.complete) step

/-- The step is left for the target. -/
structure Moves (s s' : SteppersComponent) (isNext : Bool) (target : ℕ) : Prop where
  shown : s'.shown = some target
  calls : s'.calls =
    s.calls ++ s.shown.toList.map (.onLeave · isNext) ++ [.onEnter target]

/-- The direction of an event that should move. -/
def direction (s : SteppersComponent) : Event → Option Bool
  | .nextResult .success => if s.nextSub.isSome then some true else none
  | .previous => if s.canGoto (s.currentIndex - 1) then some false else none
  | _ => none

/-- The step to which an event should move. -/
def target (s : SteppersComponent) (isNext : Bool) : Option ℕ :=
  s.shown.bind fun step => if isNext then s.following step else s.preceding step

/-- What an event should do. -/
def RightStep (s : SteppersComponent) (e : Event) (s' : SteppersComponent) : Prop :=
  match direction s e with
  | none => Stays s s'
  | some isNext => (target s isNext).elim (Stays s s') (Moves s s' isNext)

/-- Every event does what it should, and a step is in its place. -/
def KeepsPlace : SteppersComponent → List Event → Prop
  | s, [] => ∃ current, Placed s current
  | s, e :: events =>
    (∃ current, Placed s current) ∧ RightStep s e (s.step e) ∧ KeepsPlace (s.step e) events

/-- The steps up to the one that is shown stay hidden or visible, and it can be left exactly when
there is a step to go to. -/
def Steady (s : SteppersComponent) : Event → Prop
  | .change step inputs => ∀ shown ∈ s.shown, step ≤ shown →
      s.is (·.hidden != inputs.hidden) step = false
  | .nextResult .success => ∀ step ∈ s.nextSub,
      (s.answer step .success).canGoto (s.currentIndex + 1) = (target s true).isSome
  | .previous => s.canGoto (s.currentIndex - 1) = true → (target s false).isSome
  | _ => True

/-- Every event of the run is steady when it comes. -/
def SteadyRun : SteppersComponent → List Event → Prop
  | _, [] => True
  | s, e :: events => Steady s e ∧ SteadyRun (s.step e) events

/-! ## Flags -/

variable {s s' : SteppersComponent} {current : ℕ}

/-- A flag that one step does not change. -/
theorem is_of_modify {flag : StepComponent → Bool} {f : StepComponent → StepComponent} {step : ℕ}
    (hs : s'.allSteps = s.allSteps.modify step f) (h : ∀ c, flag (f c) = flag c) :
    s'.is flag = s.is flag := by
  funext j
  rw [SteppersComponent.is, SteppersComponent.is, hs, List.getElem?_modify]
  cases s.allSteps[j]? with
  | none => rfl
  | some c =>
    by_cases hj : step = j
    · simp [hj, h]
    · simp [hj]

/-- The steps are the visible ones. -/
def Filtered (s : SteppersComponent) : Prop :=
  s.steps = (List.range s.allSteps.length).filter s.visible

theorem is_eq_true {flag : StepComponent → Bool} {step : ℕ} :
    s.is flag step = true ↔ ∃ c, s.allSteps[step]? = some c ∧ flag c = true :=
  Option.any_eq_true _ _

theorem lt_length_of_is {flag : StepComponent → Bool} {step : ℕ} (h : s.is flag step = true) :
    step < s.allSteps.length := by
  obtain ⟨c, hc, -⟩ := is_eq_true.1 h
  exact (List.getElem?_eq_some_iff.1 hc).1

theorem getElem?_steps (h : Filtered s) {index step : ℕ} :
    s.steps[index]? = some step ↔ s.visible step = true ∧ rank s.visible step = index := by
  rw [h, getElem?_filter_range]
  exact ⟨fun h => h.2, fun h => ⟨lt_length_of_is h.1, h⟩⟩

theorem stays_refl (s : SteppersComponent) : Stays s s :=
  ⟨rfl, rfl, fun _ => rfl, fun _ => rfl⟩

/-- A change of other flags of one step. -/
theorem stays_of_modify (h : Filtered s) {f : StepComponent → StepComponent} {step : ℕ}
    (hs : s'.allSteps = s.allSteps.modify step f) (hsteps : s'.steps = s.steps)
    (hindex : s'.currentIndex = s.currentIndex) (hcalls : s'.calls = s.calls)
    (hhidden : ∀ c, (f c).hidden = c.hidden) (hactive : ∀ c, (f c).active = c.active)
    (hcomplete : ∀ c, (f c).complete = c.complete) :
    Filtered s' ∧ Stays s s' ∧ s'.visible = s.visible := by
  have hlength : s'.allSteps.length = s.allSteps.length := by
    rw [hs, List.length_modify]
  have hvisible : s'.visible = s.visible := is_of_modify hs fun c => by rw [hhidden]
  refine ⟨?_, ⟨?_, hcalls, fun j => congrFun (is_of_modify hs hactive) j,
    fun j => congrFun (is_of_modify hs hcomplete) j⟩, hvisible⟩
  · rw [Filtered, hsteps, hlength, hvisible]
    exact h
  · rw [SteppersComponent.shown, SteppersComponent.shown, hsteps, hindex]

/-- A step stays in its place if what is hidden before it does. -/
theorem Placed.of_stays (h : Placed s current) (hstays : Stays s s')
    (hvisible : ∀ step, step < current → s'.visible step = s.visible step) :
    Placed s' current where
  shown := hstays.shown.trans h.shown
  active step := by rw [hstays.active, h.active]
  entered := by rw [hstays.calls, h.entered]
  complete step := by
    rw [hstays.complete, h.complete]
    exact and_congr_left fun hlt => by rw [hvisible step hlt]

/-! ## The search for a step -/

/-- A step that can be shown. -/
abbrev canShow (s : SteppersComponent) : ℕ → Bool := s.is fun c => !c.hidden && !c.skip

theorem canShow_eq_true {step : ℕ} : canShow s step = true ↔
    s.visible step = true ∧ s.is (fun c => !c.skip) step = true := by
  simp only [canShow, SteppersComponent.visible, is_eq_true, Bool.and_eq_true]
  constructor
  · rintro ⟨c, hc, hhidden, hskip⟩
    exact ⟨⟨c, hc, hhidden⟩, c, hc, hskip⟩
  · rintro ⟨⟨c, hc, hhidden⟩, c', hc', hskip⟩
    obtain rfl := Option.some.inj (hc.symm.trans hc')
    exact ⟨c, hc, hhidden, hskip⟩

theorem following_eq_some {step t : ℕ} (h : s.following step = some t) :
    step < t ∧ canShow s t = true ∧ ∀ j, step < j → j < t → canShow s j = false := by
  obtain ⟨ht, -, hnot⟩ := List.find?_range_eq_some.1 h
  rw [Bool.and_eq_true, decide_eq_true_eq] at ht
  refine ⟨ht.1, ht.2, fun j hj hjt => ?_⟩
  simpa [hj] using hnot j hjt

theorem preceding_eq_some {step t : ℕ} (h : s.preceding step = some t) :
    t < step ∧ canShow s t = true ∧ ∀ j, t < j → j < step → canShow s j = false := by
  rw [SteppersComponent.preceding] at h
  induction step with
  | zero => cases h
  | succ step ih =>
    rw [List.range_succ, List.reverse_append, List.reverse_singleton, List.singleton_append,
      List.find?_cons] at h
    split at h
    · next hshow =>
      cases h
      exact ⟨Nat.lt_succ_self _, hshow, fun j hj hjt => absurd hj (by omega)⟩
    · next hshow =>
      obtain ⟨hlt, ht, hnot⟩ := ih h
      refine ⟨hlt.trans (Nat.lt_succ_self _), ht, fun j hj hjt => ?_⟩
      rcases Nat.lt_succ_iff_lt_or_eq.1 hjt with hjt | rfl
      · exact hnot j hj hjt
      · exact hshow

theorem found_rank (h : Filtered s) {step : ℕ} (hvisible : s.visible step = true) :
    s.found (rank s.visible step) = s.is (fun c => !c.skip) step := by
  rw [SteppersComponent.found, (getElem?_steps h).2 ⟨hvisible, rfl⟩]
  rfl

/-- An index whose step is not skipped is that of a step that can be shown. -/
theorem exists_of_found (h : Filtered s) {index : ℕ} (hfound : s.found index = true) :
    ∃ step, rank s.visible step = index ∧ canShow s step = true := by
  obtain ⟨step, hstep, hskip⟩ := (Option.any_eq_true _ _).1 hfound
  obtain ⟨hvisible, hrank⟩ := (getElem?_steps h).1 hstep
  exact ⟨step, hrank, canShow_eq_true.2 ⟨hvisible, hskip⟩⟩

theorem findNext_eq {i k left : ℕ} (hfound : s.found k = true) (hle : i ≤ k) (hlt : k ≤ i + left)
    (hnot : ∀ j, i ≤ j → j < k → s.found j = false) : s.findNext i left = some k := by
  induction left generalizing i with
  | zero =>
    obtain rfl := Nat.le_antisymm hle hlt
    rw [SteppersComponent.findNext, if_pos hfound]
  | succ left ih =>
    rcases Nat.lt_or_eq_of_le hle with hik | rfl
    · have hhere : ¬s.found i = true := by
        rw [hnot i le_rfl hik]
        exact Bool.false_ne_true
      rw [SteppersComponent.findNext, if_neg hhere]
      exact ih hik (by omega) fun j hj hjk => hnot j (by omega) hjk
    · rw [SteppersComponent.findNext, if_pos hfound]

theorem findPrevious_eq {i k : ℕ} (hfound : s.found k = true) (hle : k ≤ i)
    (hnot : ∀ j, k < j → j ≤ i → s.found j = false) : s.findPrevious i = some k := by
  induction i with
  | zero =>
    obtain rfl := Nat.le_zero.1 hle
    rw [SteppersComponent.findPrevious, if_pos hfound]
  | succ i ih =>
    rcases Nat.lt_or_ge k (i + 1) with hlt | hge
    · have hhere : ¬s.found (i + 1) = true := by
        rw [hnot (i + 1) hlt le_rfl]
        exact Bool.false_ne_true
      rw [SteppersComponent.findPrevious, if_neg hhere]
      exact ih (by omega) fun j hj hji => hnot j hj (by omega)
    · obtain rfl := Nat.le_antisymm hle hge
      rw [SteppersComponent.findPrevious, if_pos hfound]

/-- The search for the next step finds the nearest one. -/
theorem findValidStep_next (h : Filtered s) {t : ℕ} (hvisible : s.visible current = true)
    (ht : s.following current = some t) :
    s.findValidStep (rank s.visible current + 1) true = some (rank s.visible t) := by
  obtain ⟨hlt, hshow, hnot⟩ := following_eq_some ht
  obtain ⟨htvisible, htskip⟩ := canShow_eq_true.1 hshow
  have hrank := rank_lt_rank hvisible hlt
  have hlength : rank s.visible t < s.steps.length :=
    (List.getElem?_eq_some_iff.1 ((getElem?_steps h).2 ⟨htvisible, rfl⟩)).1
  have hmin : min (rank s.visible current + 1) (s.steps.length - 1) =
      rank s.visible current + 1 := by omega
  simp only [SteppersComponent.findValidStep, hmin, if_true]
  refine findNext_eq ((found_rank h htvisible).trans htskip) hrank (by omega) fun j hj hjt => ?_
  refine Bool.eq_false_iff.2 fun hfound => ?_
  obtain ⟨step, rfl, hstep⟩ := exists_of_found h hfound
  rw [hnot step (lt_of_rank_lt hj) (lt_of_rank_lt hjt)] at hstep
  cases hstep

/-- The search for the previous step finds the nearest one. -/
theorem findValidStep_previous (h : Filtered s) {t : ℕ} (hvisible : s.visible current = true)
    (ht : s.preceding current = some t) :
    s.findValidStep (rank s.visible current - 1) false = some (rank s.visible t) := by
  obtain ⟨hlt, hshow, hnot⟩ := preceding_eq_some ht
  obtain ⟨htvisible, htskip⟩ := canShow_eq_true.1 hshow
  have hrank := rank_lt_rank htvisible hlt
  have hlength : rank s.visible current < s.steps.length :=
    (List.getElem?_eq_some_iff.1 ((getElem?_steps h).2 ⟨hvisible, rfl⟩)).1
  have hmin : min (rank s.visible current - 1) (s.steps.length - 1) =
      rank s.visible current - 1 := by omega
  simp only [SteppersComponent.findValidStep, hmin, Bool.false_eq_true, if_false]
  refine findPrevious_eq ((found_rank h htvisible).trans htskip) (by omega) fun j hj hji => ?_
  refine Bool.eq_false_iff.2 fun hfound => ?_
  obtain ⟨step, rfl, hstep⟩ := exists_of_found h hfound
  rw [hnot step (lt_of_rank_lt hj) (lt_of_rank_lt (by omega : rank s.visible step <
    rank s.visible current))] at hstep
  cases hstep

/-! ## To another step -/

theorem is_activate (h : Filtered s) (index : ℕ) {flag : StepComponent → Bool} (step : ℕ) :
    (s.activate index).is flag step =
      if s.visible step then
        s.is (fun c => flag { c with complete := rank s.visible step < index,
                                     active := rank s.visible step = index }) step
      else s.is flag step := by
  have hnodup : s.steps.Nodup := by
    rw [h]
    exact List.nodup_range.filter _
  rw [SteppersComponent.is, SteppersComponent.activate, List.getElem?_mapIdx]
  by_cases hvisible : s.visible step = true
  · rw [if_pos hvisible]
    have hget := (getElem?_steps h).2 ⟨hvisible, rfl⟩
    obtain ⟨hlt, hget⟩ := List.getElem?_eq_some_iff.1 hget
    have hindex : s.steps.idxOf step = rank s.visible step := by
      have hidx := hnodup.idxOf_getElem (rank s.visible step) hlt
      rwa [hget] at hidx
    have hmem : step ∈ s.steps := hget ▸ List.getElem_mem hlt
    rw [SteppersComponent.is]
    cases s.allSteps[step]? with
    | none => rfl
    | some c => simp [hmem, hindex]
  · rw [if_neg hvisible]
    have hmem : step ∉ s.steps := by
      intro hmem
      obtain ⟨i, hi⟩ := List.getElem?_of_mem hmem
      exact hvisible ((getElem?_steps h).1 hi).1
    rw [SteppersComponent.is]
    cases s.allSteps[step]? with
    | none => rfl
    | some c => simp [hmem]

theorem is_enter {flag : StepComponent → Bool} (h : ∀ c b, flag { c with busy := b } = flag c)
    (step : ℕ) : (s.enter step).is flag = s.is flag :=
  is_of_modify rfl fun c => h c _

/-- The steps when `t` is entered. -/
def arrive (s : SteppersComponent) (calls : List Call) (t : ℕ) : SteppersComponent :=
  ({ s with calls := calls }.activate (rank s.visible t)).enter t

theorem is_arrive (h : Filtered s) (calls : List Call) (t : ℕ) {flag : StepComponent → Bool}
    (hbusy : ∀ c b, flag { c with busy := b } = flag c) (step : ℕ) :
    (arrive s calls t).is flag step =
      if s.visible step then
        s.is (fun c => flag { c with complete := rank s.visible step < rank s.visible t,
                                     active := rank s.visible step = rank s.visible t }) step
      else s.is flag step := by
  rw [arrive, is_enter hbusy]
  exact is_activate (s := { s with calls := calls }) h _ step

theorem visible_arrive (h : Filtered s) (calls : List Call) (t : ℕ) :
    (arrive s calls t).visible = s.visible := by
  funext step
  rw [SteppersComponent.visible, is_arrive h calls t fun _ _ => rfl]
  split_ifs <;> rfl

theorem filtered_arrive (h : Filtered s) (calls : List Call) (t : ℕ) :
    Filtered (arrive s calls t) := by
  have hlength : (arrive s calls t).allSteps.length = s.allSteps.length := by
    simp [arrive, SteppersComponent.enter, SteppersComponent.activate]
  rw [Filtered, visible_arrive h, hlength]
  exact h

/-- A flag that does not depend on the step is that of every step there is. -/
theorem is_const {step : ℕ} (h : s.visible step = true) (b : Bool) :
    s.is (fun _ => b) step = b := by
  obtain ⟨c, hc, -⟩ := is_eq_true.1 h
  rw [SteppersComponent.is, hc]
  rfl

/-- The step that is entered is in its place. -/
theorem placed_arrive (h : Filtered s) (hplaced : Placed s current) {t : ℕ}
    (ht : s.visible t = true) (calls : List Call) : Placed (arrive s calls t) t where
  shown := (getElem?_steps h).2 ⟨ht, rfl⟩
  active step := by
    rw [is_arrive h calls t fun _ _ => rfl]
    split_ifs with hstep
    · rw [is_const hstep, decide_eq_true_eq]
      exact ⟨fun heq => eq_of_rank_eq hstep ht heq, fun heq => heq ▸ rfl⟩
    · have hcurrent := ((getElem?_steps h).1 hplaced.shown).1
      rw [hplaced.active]
      exact iff_of_false (fun heq => hstep (heq ▸ hcurrent)) fun heq => hstep (heq ▸ ht)
  entered := by simp [lastEntered, arrive, SteppersComponent.enter, SteppersComponent.activate]
  complete step := by
    rw [is_arrive h calls t fun _ _ => rfl, visible_arrive h]
    split_ifs with hstep
    · rw [is_const hstep, decide_eq_true_eq]
      exact ⟨fun hlt => ⟨hstep, lt_of_rank_lt hlt⟩, fun hlt => rank_lt_rank hstep hlt.2⟩
    · rw [hplaced.complete]
      exact iff_of_false (fun hc => hstep hc.1) fun hc => hstep hc.1

theorem visible_of_target {isNext : Bool} {t : ℕ} (ht : target s isNext = some t) :
    s.visible t = true := by
  obtain ⟨step, -, ht⟩ := Option.bind_eq_some_iff.1 ht
  cases isNext with
  | true => exact (canShow_eq_true.1 (following_eq_some ht).2.1).1
  | false => exact (canShow_eq_true.1 (preceding_eq_some ht).2.1).1

/-- One goes to the target if there is one, and leaves the step in any case. -/
theorem setActive_spec (h : Filtered s) (hplaced : Placed s current) {index : ℤ} {isNext : Bool}
    (hindex : index = if isNext then (s.currentIndex : ℤ) + 1 else s.currentIndex - 1)
    (hgoto : s.canGoto index = true) :
    (∀ t, target s isNext = some t → s.setActive index =
      arrive s (s.calls ++ s.shown.toList.map (.onLeave · isNext)) t) ∧
    (s.setActive index).calls ≠ s.calls := by
  obtain ⟨hvisible, hrank⟩ := (getElem?_steps h).1 hplaced.shown
  have hdirection : decide (index > (s.currentIndex : ℤ)) = isNext := by
    cases isNext <;> simp [hindex]
  rw [SteppersComponent.setActive, if_pos hgoto]
  dsimp only
  rw [hdirection]
  constructor
  · intro t ht
    have hfind : s.findValidStep index.toNat isNext = some (rank s.visible t) := by
      rw [target, hplaced.shown, Option.bind_some] at ht
      cases isNext with
      | true =>
        have hnat : index.toNat = rank s.visible current + 1 := by
          rw [hindex, if_pos rfl, hrank]
          omega
        rw [hnat]
        exact findValidStep_next h hvisible ht
      | false =>
        have hnat : index.toNat = rank s.visible current - 1 := by
          rw [hindex, hrank]
          simp
        rw [hnat]
        exact findValidStep_previous h hvisible ht
    rw [hfind]
    dsimp only
    rw [(getElem?_steps h).2 ⟨visible_of_target ht, rfl⟩]
    rfl
  · have hleave : s.calls ++ s.shown.toList.map (.onLeave · isNext) ≠ s.calls := by
      simp [hplaced.shown]
    cases hfind : s.findValidStep index.toNat isNext with
    | none => exact hleave
    | some k =>
      dsimp only
      cases s.steps[k]? with
      | none => exact hleave
      | some t =>
        simp [SteppersComponent.enter, SteppersComponent.activate, hplaced.shown]

/-- The move is right exactly when it is allowed just if there is a target. -/
theorem rightMove_iff (h : Filtered s) (hplaced : Placed s current) {index : ℤ} {isNext : Bool}
    (hindex : index = if isNext then (s.currentIndex : ℤ) + 1 else s.currentIndex - 1) :
    (target s isNext).elim (Stays s (s.setActive index)) (Moves s (s.setActive index) isNext) ↔
      s.canGoto index = (target s isNext).isSome := by
  cases hgoto : s.canGoto index with
  | false =>
    have hstay : s.setActive index = s := by
      rw [SteppersComponent.setActive, if_neg (by simp [hgoto])]
    rw [hstay]
    cases target s isNext with
    | none => exact iff_of_true (stays_refl s) rfl
    | some t =>
      refine iff_of_false (fun hmoves => ?_) (by simp)
      have hcalls := congrArg List.length hmoves.calls
      simp at hcalls
  | true =>
    obtain ⟨htarget, hcalls⟩ := setActive_spec h hplaced hindex hgoto
    cases ht : target s isNext with
    | none => exact iff_of_false (fun hstays => hcalls hstays.calls) (by simp)
    | some t =>
      refine iff_of_true ?_ rfl
      rw [htarget t ht]
      exact ⟨(placed_arrive h hplaced (visible_of_target ht) _).shown, rfl⟩

/-- After a move a step is in its place. -/
theorem placed_setActive (h : Filtered s) (hplaced : Placed s current) {index : ℤ} {isNext : Bool}
    (hindex : index = if isNext then (s.currentIndex : ℤ) + 1 else s.currentIndex - 1)
    (hgoto : s.canGoto index = (target s isNext).isSome) :
    Filtered (s.setActive index) ∧ ∃ current', Placed (s.setActive index) current' := by
  cases ht : target s isNext with
  | none =>
    rw [ht] at hgoto
    rw [SteppersComponent.setActive, if_neg (by simp [hgoto])]
    exact ⟨h, current, hplaced⟩
  | some t =>
    rw [ht] at hgoto
    rw [(setActive_spec h hplaced hindex hgoto).1 t ht]
    exact ⟨filtered_arrive h _ t, t, placed_arrive h hplaced (visible_of_target ht) _⟩

/-! ## One event -/

/-- What there is to show about an event. -/
def StepSpec (s : SteppersComponent) (e : Event) : Prop :=
  (RightStep s e (s.step e) ↔ Steady s e) ∧
    (Steady s e → Filtered (s.step e) ∧ ∃ current, Placed (s.step e) current)

/-- An event that changes nothing about the place. -/
theorem stepSpec_of_stays (hplaced : Placed s current) {e : Event}
    (hdirection : direction s e = none) (he : Steady s e)
    (h : Filtered (s.step e) ∧ Stays s (s.step e) ∧ (s.step e).visible = s.visible) :
    StepSpec s e := by
  obtain ⟨hfiltered, hstays, hvisible⟩ := h
  refine ⟨iff_of_true ?_ he, fun _ => ⟨hfiltered, current, ?_⟩⟩
  · rw [RightStep, hdirection]
    exact hstays
  · exact hplaced.of_stays hstays fun step _ => congrFun hvisible step

theorem stepSpec_next (h : Filtered s) (hplaced : Placed s current) : StepSpec s .next := by
  refine stepSpec_of_stays hplaced rfl trivial ?_
  rw [SteppersComponent.step, SteppersComponent.goNext, hplaced.shown]
  split_ifs
  · exact stays_of_modify h rfl rfl rfl rfl (fun _ => rfl) (fun _ => rfl) fun _ => rfl
  · exact ⟨h, stays_refl s, rfl⟩

theorem stepSpec_timeout (h : Filtered s) (hplaced : Placed s current) (step : ℕ) :
    StepSpec s (.timeout step) :=
  stepSpec_of_stays hplaced rfl trivial
    (stays_of_modify h rfl rfl rfl rfl (fun _ => rfl) (fun _ => rfl) fun _ => rfl)

theorem stepSpec_previous (h : Filtered s) (hplaced : Placed s current) :
    StepSpec s .previous := by
  cases hgoto : s.canGoto (s.currentIndex - 1) with
  | false =>
    have hstep : s.step .previous = s := if_neg (by simp [hgoto])
    refine stepSpec_of_stays hplaced ?_ (fun htrue => ?_) ?_
    · rw [direction, if_neg (by simp [hgoto])]
    · rw [hgoto] at htrue
      cases htrue
    · rw [hstep]
      exact ⟨h, stays_refl s, rfl⟩
  | true =>
    have hstep : s.step .previous = s.setActive (s.currentIndex - 1) := if_pos hgoto
    have hsteady : Steady s .previous ↔
        s.canGoto (s.currentIndex - 1) = (target s false).isSome := by
      rw [Steady, hgoto]
      exact ⟨fun h => (h rfl).symm, fun h _ => h.symm⟩
    rw [StepSpec, hstep, hsteady, RightStep, direction, if_pos hgoto]
    exact ⟨rightMove_iff h hplaced rfl, placed_setActive h hplaced rfl⟩

theorem stepSpec_nextResult (h : Filtered s) (hplaced : Placed s current) (result : NextResult) :
    StepSpec s (.nextResult result) := by
  cases hsub : s.nextSub with
  | none =>
    have hstep : s.step (.nextResult result) = s := by
      rw [SteppersComponent.step, hsub, Option.elim_none]
    refine stepSpec_of_stays hplaced ?_ ?_ ?_
    · cases result with
      | success => rw [direction, hsub]; rfl
      | ignored => rfl
      | failure => rfl
    · cases result with
      | success => simp [Steady, hsub]
      | ignored => trivial
      | failure => trivial
    · rw [hstep]
      exact ⟨h, stays_refl s, rfl⟩
  | some step =>
    have hanswer : Filtered (s.answer step result) ∧ Stays s (s.answer step result) ∧
        (s.answer step result).visible = s.visible :=
      stays_of_modify h rfl rfl rfl rfl (fun _ => rfl) (fun _ => rfl) fun _ => rfl
    cases result with
    | ignored | failure =>
      refine stepSpec_of_stays hplaced rfl trivial ?_
      rw [SteppersComponent.step, hsub]
      exact hanswer
    | success =>
      obtain ⟨hfiltered, hstays, hvisible⟩ := hanswer
      have hplaced' := hplaced.of_stays hstays fun step _ => congrFun hvisible step
      have htarget : target (s.answer step .success) true = target s true := by
        have hlength : (s.answer step .success).allSteps.length = s.allSteps.length :=
          List.length_modify ..
        have hcanShow : (s.answer step .success).is (fun c => !c.hidden && !c.skip) =
            s.is fun c => !c.hidden && !c.skip := is_of_modify rfl fun _ => rfl
        rw [target, target, hstays.shown]
        refine congrArg _ (funext fun shown => ?_)
        rw [if_pos rfl, if_pos rfl, SteppersComponent.following, SteppersComponent.following,
          hlength, hcanShow]
      have hstep : s.step (.nextResult .success) =
          (s.answer step .success).setActive (s.currentIndex + 1) := by
        rw [SteppersComponent.step, hsub]
        rfl
      have hsteady : Steady s (.nextResult .success) ↔
          (s.answer step .success).canGoto (s.currentIndex + 1) = (target s true).isSome := by
        simp [Steady, hsub]
      have hmove := @rightMove_iff (s.answer step .success) current hfiltered hplaced'
        (s.currentIndex + 1) true rfl
      have hafter := @placed_setActive (s.answer step .success) current hfiltered hplaced'
        (s.currentIndex + 1) true rfl
      rw [htarget] at hmove hafter
      rw [StepSpec, hstep, hsteady, RightStep, direction, hsub]
      refine ⟨Iff.trans ?_ hmove, hafter⟩
      change (target s true).elim (Stays s _) (Moves s _ true) ↔ _
      cases target s true with
      | none =>
        constructor
        · rintro ⟨hshown, hcalls, hactive, hcomplete⟩
          exact ⟨hshown.trans hstays.shown.symm, hcalls, fun j =>
            (hactive j).trans (hstays.active j).symm, fun j =>
            (hcomplete j).trans (hstays.complete j).symm⟩
        · rintro ⟨hshown, hcalls, hactive, hcomplete⟩
          exact ⟨hshown.trans hstays.shown, hcalls, fun j =>
            (hactive j).trans (hstays.active j), fun j => (hcomplete j).trans (hstays.complete j)⟩
      | some t => exact ⟨fun h => ⟨h.shown, h.calls⟩, fun h => ⟨h.shown, h.calls⟩⟩

/-- A change of what is hidden before the step that is shown moves it. -/
theorem stepSpec_change (h : Filtered s) (hplaced : Placed s current) (step : ℕ)
    (inputs : Inputs) : StepSpec s (.change step inputs) := by
  have hfiltered : Filtered (s.step (.change step inputs)) := rfl
  obtain ⟨hcurrent, hrank⟩ := (getElem?_steps h).1 hplaced.shown
  have hother : ∀ j, j ≠ step → (s.step (.change step inputs)).visible j = s.visible j := by
    intro j hj
    simp [SteppersComponent.visible, SteppersComponent.is, SteppersComponent.step,
      SteppersComponent.filterSteps, SteppersComponent.modifyStep, hj.symm]
  have hsame : (s.step (.change step inputs)).visible step = s.visible step ↔
      s.is (·.hidden != inputs.hidden) step = false := by
    simp only [SteppersComponent.visible, SteppersComponent.is, SteppersComponent.step,
      SteppersComponent.filterSteps, SteppersComponent.modifyStep, List.getElem?_modify_eq]
    cases s.allSteps[step]? with
    | none => exact iff_of_true rfl rfl
    | some c => cases hc : c.hidden <;> cases hi : inputs.hidden <;> simp [hc, hi]
  have hstays : Steady s (.change step inputs) ↔
      ∀ j ≤ current, (s.step (.change step inputs)).visible j = s.visible j := by
    rw [Steady, hplaced.shown]
    simp only [Option.mem_some_iff, forall_eq', ← hsame]
    constructor
    · intro hsteady j hj
      by_cases hstep : j = step
      · exact hstep ▸ hsteady (hstep ▸ hj)
      · exact hother j hstep
    · exact fun hall => hall step
  have hshown : (s.step (.change step inputs)).shown = some current ↔
      ∀ j ≤ current, (s.step (.change step inputs)).visible j = s.visible j := by
    have hindex : (s.step (.change step inputs)).currentIndex = s.currentIndex := rfl
    rw [SteppersComponent.shown, getElem?_steps hfiltered, hindex]
    constructor
    · rintro ⟨hvisible, hrank'⟩ j hj
      by_cases hstep : j = step
      · subst hstep
        rcases Nat.lt_or_eq_of_le hj with hlt | rfl
        · by_contra hne
          exact rank_ne hother hne hlt (hrank'.trans hrank.symm)
        · rw [hvisible, hcurrent]
      · exact hother j hstep
    · intro hall
      exact ⟨(hall current le_rfl).trans hcurrent,
        (rank_congr fun j hj => hall j hj.le).trans hrank⟩
  have hflags : ∀ flag : StepComponent → Bool, (∀ c, flag { c with toInputs := inputs } = flag c) →
      (s.step (.change step inputs)).is flag = s.is flag := fun flag hflag =>
    is_of_modify rfl hflag
  have hplace : (s.step (.change step inputs)).shown = some current →
      Stays s (s.step (.change step inputs)) := fun hcurrent' =>
    ⟨hcurrent'.trans hplaced.shown.symm, rfl, fun j => congrFun (hflags _ fun _ => rfl) j,
      fun j => congrFun (hflags _ fun _ => rfl) j⟩
  rw [StepSpec, hstays, ← hshown, RightStep]
  refine ⟨⟨fun h => h.shown.trans hplaced.shown, hplace⟩, fun hcurrent' => ?_⟩
  exact ⟨hfiltered, current, hplaced.of_stays (hplace hcurrent') fun j hj =>
    hshown.1 hcurrent' j hj.le⟩

theorem stepSpec (h : Filtered s) (hplaced : Placed s current) (e : Event) : StepSpec s e := by
  cases e with
  | next => exact stepSpec_next h hplaced
  | nextResult result => exact stepSpec_nextResult h hplaced result
  | previous => exact stepSpec_previous h hplaced
  | change step inputs => exact stepSpec_change h hplaced step inputs
  | timeout step => exact stepSpec_timeout h hplaced step

/-- A run keeps the place exactly when it is steady. -/
theorem keepsPlace_iff_of_placed (h : Filtered s) (hplaced : Placed s current)
    (events : List Event) : KeepsPlace s events ↔ SteadyRun s events := by
  induction events generalizing s current with
  | nil => exact iff_of_true ⟨current, hplaced⟩ trivial
  | cons e events ih =>
    obtain ⟨hright, hafter⟩ := stepSpec h hplaced e
    rw [KeepsPlace, SteadyRun, hright]
    constructor
    · rintro ⟨-, he, hevents⟩
      obtain ⟨hfiltered, current', hplaced'⟩ := hafter he
      exact ⟨he, (ih hfiltered hplaced').1 hevents⟩
    · rintro ⟨he, hevents⟩
      obtain ⟨hfiltered, current', hplaced'⟩ := hafter he
      exact ⟨⟨current, hplaced⟩, he, (ih hfiltered hplaced').2 hevents⟩

/-! ## Runs -/

/-- The first step is in its place when it was entered. -/
theorem placed_start {first : Inputs} (hfirst : first.hidden = false) (others : List Inputs) :
    Filtered (SteppersComponent.start first others) ∧
      Placed (SteppersComponent.start first others) 0 := by
  have hfiltered : Filtered (SteppersComponent.start first others) := rfl
  have hothers : ∀ flag : StepComponent → Bool, (∀ inputs : Inputs, flag { inputs with } = false) →
      ∀ step, (SteppersComponent.start first others).is flag (step + 1) = false := by
    intro flag hflag step
    change ((others.map _)[step]?).any flag = false
    rw [List.getElem?_map]
    cases others[step]? with
    | none => rfl
    | some inputs => exact hflag inputs
  refine ⟨hfiltered, ?_, fun step => ?_, rfl, fun step => ?_⟩
  · refine (getElem?_steps hfiltered).2 ⟨?_, rfl⟩
    change (!first.hidden) = true
    rw [hfirst]
    rfl
  · cases step with
    | zero => exact iff_of_true rfl rfl
    | succ step =>
      rw [hothers _ (fun _ => rfl)]
      exact iff_of_false (fun h => nomatch h) (Nat.succ_ne_zero step)
  · refine iff_of_false (fun h => ?_) fun h => Nat.not_lt_zero step h.2
    cases step with
    | zero => cases h
    | succ step =>
      rw [hothers _ (fun _ => rfl)] at h
      cases h

/-- A wizard keeps its place exactly in the steady runs. -/
theorem keepsPlace_iff {first : Inputs} (hfirst : first.hidden = false) (others : List Inputs)
    (events : List Event) :
    KeepsPlace (SteppersComponent.start first others) events ↔
      SteadyRun (SteppersComponent.start first others) events :=
  keepsPlace_iff_of_placed (placed_start hfirst others).1 (placed_start hfirst others).2 events

/-- To hide a later step, and to go on and back again. -/
theorem keepsPlace_hidden : KeepsPlace (SteppersComponent.start {} [{}, {}])
    [.change 2 { hidden := true }, .next, .nextResult .success, .previous] := by
  refine (keepsPlace_iff rfl [{}, {}] _).2 ⟨?_, trivial, ?_, ?_, trivial⟩
  · rintro _ ⟨⟩ hle
    cases hle
  · rintro _ ⟨⟩
    rfl
  · exact fun _ => rfl

/-- When the first step is hidden, the second is not shown any more. -/
theorem not_keepsPlace_hidden : ¬KeepsPlace (SteppersComponent.start {} [{}, {}])
    [.next, .nextResult .success, .change 0 { hidden := true }] := by
  rintro ⟨-, -, -, -, -, hstays, -⟩
  exact absurd hstays.shown (by decide)

end Wizard

end Stratos
