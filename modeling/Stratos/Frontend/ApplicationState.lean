import Mathlib.Data.List.Basic
import Mathlib.Algebra.Order.Ring.Int

/-!
# The state of an application

`ApplicationStateService.get` classifies an application by its state, the state of its package and
the states of its instances. The instances are counted, and the counts are written into the key of
a table, as nothing (`0`), some (`N`) or unknown (`?`).

Every key that the instances of a started application lead to is in the table, and the entry says
what the instances do (`get_classifies`).
-/

namespace Stratos

namespace ApplicationState

/-! ## The table -/

/-- The indicators of a card. -/
inductive CardStatus
  | none
  | ok
  | warning
  | tentative
  | incomplete
  | error
  | busy
  deriving DecidableEq

/-- What is shown of an application's state. -/
structure ApplicationStateData where
  label : String
  subLabel : Option String := .none
  indicator : CardStatus
  /-- The names of the actions, which the constructor of the service makes a map of. -/
  actions : Option (List String) := .none
  deriving DecidableEq

/-- The entries for an application state, by package state and counts. -/
abbrev AppStateMatch := List (String × ApplicationStateData)

/-- The states of an application that is started. -/
def startedMetadata : AppStateMatch :=
  [("NO_INSTANCES",
      ⟨"Deployed", some "No Instances", .ok, some ["stop", "restart", "cli", "restage"]⟩),
    ("PENDING", ⟨"Staging App", .none, .busy, some ["delete"]⟩),
    ("STAGED(?,?,?)", ⟨"Deployed", .none, .tentative, some ["stop", "restart", "cli", "restage"]⟩),
    ("STAGED(0,0,0)", ⟨"Deployed", some "Starting App", .busy, some ["stop", "restart", "cli"]⟩),
    ("STAGED(N,0,0,N)",
      ⟨"Deployed", some "Scaling App", .ok, some ["stop", "restart", "launch", "cli"]⟩),
    ("STAGED(0,0,0,N)", ⟨"Deployed", some "Starting App", .busy, some ["stop", "restart", "cli"]⟩),
    ("STAGED(N,0,0)",
      ⟨"Deployed", some "Online", .ok, some ["stop", "restart", "launch", "cli", "restage"]⟩),
    ("STAGED(0,N,0)",
      ⟨"Deployed", some "Crashed", .error, some ["stop", "restart", "cli", "restage"]⟩),
    ("STAGED(0,0,N)", ⟨"Deployed", some "Starting App", .warning, some ["stop", "restart", "cli"]⟩),
    ("STAGED(0,N,N)",
      ⟨"Deployed", some "Crashed", .error, some ["stop", "restart", "cli", "restage"]⟩),
    ("STAGED(0,N,N,N)",
      ⟨"Deployed", some "Crashed", .error, some ["stop", "restart", "cli", "restage"]⟩),
    ("CRASHING",
      ⟨"Deployed", some "Crashing", .warning, some ["stop", "restart", "cli", "restage"]⟩),
    ("STAGED(N,N,0)",
      ⟨"Deployed", some "Crashing", .warning,
        some ["stop", "restart", "launch", "cli", "restage"]⟩),
    ("STAGED(N,N,N)",
      ⟨"Deployed", some "Crashing", .warning,
        some ["stop", "restart", "launch", "cli", "restage"]⟩),
    ("STAGED(N,0,N)",
      ⟨"Deployed", some "Partially Online", .warning,
        some ["stop", "restart", "launch", "cli", "restage"]⟩)]

/-- By the state of the application, and by `?` whatever that is. -/
def stateMetadata : List (String × AppStateMatch) :=
  [("?", [("FAILED", ⟨"Staging Failed", .none, .error, some ["delete", "restage"]⟩)]),
    ("PENDING", [("?", ⟨"Pending", .none, .busy, some ["delete"]⟩)]),
    ("LOADING", [("?", ⟨"Loading", .none, .busy, .none⟩)]),
    ("STOPPED",
      [("PENDING", ⟨"Offline while Updating", .none, .warning, some ["delete"]⟩),
        ("STAGED", ⟨"Offline", .none, .warning, some ["start", "delete", "cli", "restage"]⟩),
        ("*NONE*", ⟨"Incomplete", .none, .incomplete, some ["delete", "cli", "restage"]⟩)]),
    ("STARTED", startedMetadata)]

/-- What is answered without an entry. -/
def unknownState : ApplicationStateData := ⟨"Unknown", .none, .error, .none⟩

/-! ## The service -/

/-- The parts of a summary that the state depends on. -/
structure AppSummary where
  state : String
  package_state : Option String
  package_updated_at : Option String
  /-- The number of instances that are asked for. -/
  instances : Option ℤ

/-- One instance of an application. -/
structure AppInstance where
  state : String

/-- The string, unless it is empty. -/
def nonEmpty (s : Option String) : Option String := s.filter (· ≠ "")

/-- Without the time of its last update, a pending package of a stopped application is none. -/
def getPackageState (appState : String) (summary : Option AppSummary) : String :=
  let pkgState := (nonEmpty (summary.bind (·.package_state))).getD "*NONE*"
  if appState = "STOPPED" ∧ pkgState = "PENDING" then
    if (nonEmpty (summary.bind (·.package_updated_at))).isSome then "PENDING" else "*NONE*"
  else pkgState

/-- The count, where the instances are known, unless it is given. -/
def getCount (value : Option ℤ) (appInstances : Option (List AppInstance))
    (instanceState : String) : ℤ :=
  match value.filter (· ≠ 0), appInstances with
  | some value, _ => value
  | .none, some appInstances => (appInstances.filter (·.state = instanceState)).length
  | .none, .none => -1

/-- How many instances are in which state. -/
structure Counts where
  running : ℤ
  starting : ℤ
  okay : ℤ
  expected : ℤ
  crashed : ℤ
  flapping : ℤ

/-- The counts of the instances, where those that are neither running nor crashed are flapping. -/
def getCounts (appInstances : List AppInstance) : Counts :=
  let running := getCount .none (some appInstances) "RUNNING"
  let starting := getCount .none (some appInstances) "STARTING"
  let expected : ℤ := appInstances.length
  let crashed := if running = expected then 0 else getCount .none (some appInstances) "CRASHED"
  let flapping := if running = expected then 0
    else if crashed ≥ 0 then expected - crashed - running else -1
  ⟨running, starting, running + starting, expected, crashed, flapping⟩

/-- The state that is looked for before the one of the counts. -/
def checkSpecialCases (pkgState : String) (counts : Counts) : Option String :=
  if counts.starting > 0 ∧ counts.running > 0 ∧ counts.okay = counts.expected then
    some (pkgState ++ "(N,0,0,N)")
  else if counts.starting > 0 ∧ counts.okay = counts.expected then some (pkgState ++ "(0,0,0,N)")
  else if counts.starting > 0 ∧ counts.running > 0 ∧ counts.crashed > 0 then some "CRASHING"
  else .none

/-- A count as the table writes it : none, some, or unknown. -/
def formatCount (value : ℤ) : String :=
  if value = 0 then "0" else if value > 0 then "N" else "?"

/-- The key of the entry for a package state and the instances. -/
def extState (pkgState : String) (appInstances : Option (List AppInstance)) : String :=
  match appInstances with
  | some appInstances =>
    let counts := getCounts appInstances
    (checkSpecialCases pkgState counts).getD
      (pkgState ++ "(" ++ formatCount counts.running ++ "," ++ formatCount counts.crashed ++ "," ++
        formatCount counts.flapping ++ ")")
  | .none => pkgState ++ "(?,?,?)"

/-- The state of an application, by its summary and its instances. -/
def get (summary : Option AppSummary) (appInstances : Option (List AppInstance)) :
    Option ApplicationStateData :=
  let appState := (summary.map (·.state)).getD "UNKNOWN"
  let pkgState := getPackageState appState summary
  match (stateMetadata.lookup "?").bind (·.lookup pkgState) with
  | some data => some data
  | .none =>
    match stateMetadata.lookup appState with
    | .none => some unknownState
    | some appStateMatch =>
      match appStateMatch.lookup pkgState, appStateMatch.lookup "?" with
      | some data, _ => some data
      | .none, some data => some data
      | .none, .none =>
        if summary.bind (·.instances) = some 0 then appStateMatch.lookup "NO_INSTANCES"
        else some ((appStateMatch.lookup (extState pkgState appInstances)).getD unknownState)

/-! ## Counting instances -/

/-- The number of instances in a state. -/
def countOf (instances : List AppInstance) (state : String) : ℕ :=
  (instances.filter (·.state = state)).length

theorem getCount_eq (instances : List AppInstance) (state : String) :
    getCount .none (some instances) state = countOf instances state :=
  rfl

theorem countOf_eq_length_iff {instances : List AppInstance} {state : String} :
    countOf instances state = instances.length ↔ ∀ i ∈ instances, i.state = state := by
  simp [countOf, List.length_filter_eq_length_iff]

theorem countOf_eq_zero_iff {instances : List AppInstance} {state : String} :
    countOf instances state = 0 ↔ ∀ i ∈ instances, i.state ≠ state := by
  simp [countOf]

/-- An instance is in one of the states at most. -/
theorem countOf_add_le (instances : List AppInstance) :
    countOf instances "RUNNING" + countOf instances "STARTING" + countOf instances "CRASHED" ≤
      instances.length := by
  induction instances with
  | nil => exact Nat.le_refl 0
  | cons i instances ih =>
    simp only [countOf, List.filter_cons, List.length_cons] at ih ⊢
    by_cases hr : i.state = "RUNNING"
    · simp [hr]
      omega
    · by_cases hs : i.state = "STARTING"
      · simp [hs]
        omega
      · by_cases hc : i.state = "CRASHED"
        · simp [hc]
          omega
        · simp [hr, hs, hc]
          omega

theorem formatCount_eq (n : ℕ) : formatCount n = if n = 0 then "0" else "N" := by
  cases n with
  | zero => rfl
  | succ n =>
    have hne : ((n + 1 : ℕ) : ℤ) ≠ 0 := by omega
    have hpos : ((n + 1 : ℕ) : ℤ) > 0 := by omega
    rw [formatCount, if_neg hne, if_pos hpos, if_neg n.succ_ne_zero]

/-- What is neither running nor crashed counts as flapping. -/
theorem getCounts_eq (instances : List AppInstance) :
    getCounts instances =
      { running := countOf instances "RUNNING"
        starting := countOf instances "STARTING"
        okay := (countOf instances "RUNNING" + countOf instances "STARTING" : ℕ)
        expected := instances.length
        crashed := countOf instances "CRASHED"
        flapping := (instances.length - countOf instances "CRASHED" - countOf instances "RUNNING" :
          ℕ) } := by
  have hle := countOf_add_le instances
  rw [getCounts, getCount_eq, getCount_eq, getCount_eq]
  by_cases hall : (countOf instances "RUNNING" : ℤ) = instances.length
  · have hcrashed : countOf instances "CRASHED" = 0 := by omega
    have hflapping : instances.length - 0 - countOf instances "RUNNING" = 0 := by omega
    simp only [hall, if_true, hcrashed, hflapping]
    simp [← hall]
  · have hflapping : ((instances.length - countOf instances "CRASHED" -
        countOf instances "RUNNING" : ℕ) : ℤ) =
          instances.length - countOf instances "CRASHED" - countOf instances "RUNNING" := by omega
    have hcrashed : (countOf instances "CRASHED" : ℤ) ≥ 0 := by omega
    simp only [hall, if_false, hcrashed, if_true, hflapping, Nat.cast_add]

/-! ## What the instances lead to -/

/-- The key, by the numbers of running, starting and crashed instances and of all. -/
def keyOf (r s c n : ℕ) : String :=
  if 0 < s ∧ 0 < r ∧ r + s = n then "STAGED(N,0,0,N)"
  else if 0 < s ∧ r + s = n then "STAGED(0,0,0,N)"
  else if 0 < s ∧ 0 < r ∧ 0 < c then "CRASHING"
  else if r = 0 then
    if c = 0 then if n = 0 then "STAGED(0,0,0)" else "STAGED(0,0,N)"
    else if c = n then "STAGED(0,N,0)" else "STAGED(0,N,N)"
  else if c = 0 then if r = n then "STAGED(N,0,0)" else "STAGED(N,0,N)"
  else if r + c = n then "STAGED(N,N,0)" else "STAGED(N,N,N)"

/-- The key that the counts are formatted into. -/
theorem formatted_eq {r c n : ℕ} (hle : r + c ≤ n) :
    "STAGED" ++ "(" ++ (if r = 0 then "0" else "N") ++ "," ++ (if c = 0 then "0" else "N") ++ "," ++
        (if n - c - r = 0 then "0" else "N") ++ ")" =
      if r = 0 then
        if c = 0 then if n = 0 then "STAGED(0,0,0)" else "STAGED(0,0,N)"
        else if c = n then "STAGED(0,N,0)" else "STAGED(0,N,N)"
      else if c = 0 then if r = n then "STAGED(N,0,0)" else "STAGED(N,0,N)"
      else if r + c = n then "STAGED(N,N,0)" else "STAGED(N,N,N)" := by
  have hflapping : n - c - r = 0 ↔ r + c = n := by omega
  by_cases hr : r = 0
  · by_cases hc : c = 0
    · have hn : r + c = n ↔ n = 0 := by omega
      simp only [hflapping, hn]
      simp only [hr, hc, if_true]
      split_ifs <;> rfl
    · have hn : r + c = n ↔ c = n := by omega
      simp only [hflapping, hn]
      simp only [hr, hc, if_true, if_false]
      split_ifs <;> rfl
  · by_cases hc : c = 0
    · have hn : r + c = n ↔ r = n := by omega
      simp only [hflapping, hn]
      simp only [hr, hc, if_true, if_false]
      split_ifs <;> rfl
    · simp only [hflapping, hr, hc, if_false]
      split_ifs <;> rfl

theorem extState_eq (instances : List AppInstance) :
    extState "STAGED" (some instances) = keyOf (countOf instances "RUNNING")
      (countOf instances "STARTING") (countOf instances "CRASHED") instances.length := by
  have hle := countOf_add_le instances
  simp only [extState, getCounts_eq, checkSpecialCases, formatCount_eq, keyOf]
  generalize countOf instances "RUNNING" = r at *
  generalize countOf instances "STARTING" = s at *
  generalize countOf instances "CRASHED" = c at *
  generalize instances.length = n at *
  have hokay : ((r + s : ℕ) : ℤ) = n ↔ r + s = n := by omega
  simp only [gt_iff_lt, Int.natCast_pos, hokay]
  by_cases hspecial₁ : 0 < s ∧ 0 < r ∧ r + s = n
  · rw [if_pos hspecial₁, if_pos hspecial₁]
    rfl
  by_cases hspecial₂ : 0 < s ∧ r + s = n
  · rw [if_neg hspecial₁, if_pos hspecial₂, if_neg hspecial₁, if_pos hspecial₂]
    rfl
  by_cases hspecial₃ : 0 < s ∧ 0 < r ∧ 0 < c
  · rw [if_neg hspecial₁, if_neg hspecial₂, if_pos hspecial₃, if_neg hspecial₁, if_neg hspecial₂,
      if_pos hspecial₃]
    rfl
  rw [if_neg hspecial₁, if_neg hspecial₂, if_neg hspecial₃, if_neg hspecial₁, if_neg hspecial₂,
    if_neg hspecial₃, Option.getD_none]
  exact formatted_eq (by omega)

/-! ## What the entries say -/

/-- The entry says when the application is online, when it failed, and nothing of starting when
instances crashed. -/
structure Says (data : ApplicationStateData) (online failed crashed : Prop) : Prop where
  known : data.label ≠ "Unknown"
  online_iff : data.subLabel = some "Online" ↔ online
  error_iff : data.indicator = .error ↔ failed
  starting : data.subLabel = some "Starting App" ∨ data.subLabel = some "Scaling App" → ¬crashed

/-- The entry for a key of a started application. -/
def startedEntry (key : String) : ApplicationStateData :=
  (startedMetadata.lookup key).getD unknownState

theorem startedEntry_says {r s c n : ℕ} (hle : r + s + c ≤ n) :
    Says (startedEntry (keyOf r s c n)) (n ≠ 0 ∧ r = n) (r = 0 ∧ 0 < c) (0 < c) := by
  unfold keyOf
  split_ifs
  -- only running and starting
  · exact ⟨by decide, iff_of_false (by decide) (by omega), iff_of_false (by decide) (by omega),
      fun _ => by omega⟩
  · exact ⟨by decide, iff_of_false (by decide) (by omega), iff_of_false (by decide) (by omega),
      fun _ => by omega⟩
  -- running, starting and crashed
  · exact ⟨by decide, iff_of_false (by decide) (by omega), iff_of_false (by decide) (by omega),
      fun h => absurd h (by decide)⟩
  -- none is running
  · exact ⟨by decide, iff_of_false (by decide) (by omega), iff_of_false (by decide) (by omega),
      fun _ => by omega⟩
  · exact ⟨by decide, iff_of_false (by decide) (by omega), iff_of_false (by decide) (by omega),
      fun _ => by omega⟩
  · exact ⟨by decide, iff_of_false (by decide) (by omega), iff_of_true (by decide) (by omega),
      fun h => absurd h (by decide)⟩
  · exact ⟨by decide, iff_of_false (by decide) (by omega), iff_of_true (by decide) (by omega),
      fun h => absurd h (by decide)⟩
  -- some are running
  · exact ⟨by decide, iff_of_true (by decide) (by omega), iff_of_false (by decide) (by omega),
      fun h => absurd h (by decide)⟩
  · exact ⟨by decide, iff_of_false (by decide) (by omega), iff_of_false (by decide) (by omega),
      fun h => absurd h (by decide)⟩
  · exact ⟨by decide, iff_of_false (by decide) (by omega), iff_of_false (by decide) (by omega),
      fun h => absurd h (by decide)⟩
  · exact ⟨by decide, iff_of_false (by decide) (by omega), iff_of_false (by decide) (by omega),
      fun h => absurd h (by decide)⟩

theorem get_started {summary : AppSummary} (hstate : summary.state = "STARTED")
    (hpackage : summary.package_state = some "STAGED") (hinstances : summary.instances ≠ some 0)
    (appInstances : Option (List AppInstance)) :
    get (some summary) appInstances = some (startedEntry (extState "STAGED" appInstances)) := by
  have hpkgState : getPackageState "STARTED" (some summary) = "STAGED" := by
    rw [getPackageState, Option.bind_some, hpackage]
    rfl
  simp only [get, Option.map_some, Option.getD_some, hstate, hpkgState, Option.bind_some,
    hinstances, if_false]
  rfl

/-- The state of a started application with a staged package says what its instances do. -/
theorem get_classifies {summary : AppSummary} (hstate : summary.state = "STARTED")
    (hpackage : summary.package_state = some "STAGED") (hinstances : summary.instances ≠ some 0)
    (instances : List AppInstance) :
    ∃ data, get (some summary) (some instances) = some data ∧
      Says data (instances ≠ [] ∧ ∀ i ∈ instances, i.state = "RUNNING")
        ((∀ i ∈ instances, i.state ≠ "RUNNING") ∧ ∃ i ∈ instances, i.state = "CRASHED")
        (∃ i ∈ instances, i.state = "CRASHED") := by
  refine ⟨_, get_started hstate hpackage hinstances _, ?_⟩
  have hcrashed : 0 < countOf instances "CRASHED" ↔ ∃ i ∈ instances, i.state = "CRASHED" := by
    simp [Nat.pos_iff_ne_zero, countOf_eq_zero_iff]
  rw [extState_eq, ← hcrashed, ← countOf_eq_zero_iff, ← countOf_eq_length_iff,
    ← List.length_pos_iff, Nat.pos_iff_ne_zero]
  exact startedEntry_says (countOf_add_le instances)

/-- One instance has crashed and one is starting. -/
theorem get_classifies_crashed_and_starting :
    ∃ data, get (some ⟨"STARTED", some "STAGED", .none, some 2⟩)
        (some [⟨"CRASHED"⟩, ⟨"STARTING"⟩]) = some data ∧
      Says data False True True := by
  obtain ⟨data, hdata, hsays⟩ := @get_classifies ⟨"STARTED", some "STAGED", .none, some 2⟩ rfl rfl
    (by decide) [⟨"CRASHED"⟩, ⟨"STARTING"⟩]
  refine ⟨data, hdata, ?_⟩
  simpa using hsays

end ApplicationState

end Stratos
