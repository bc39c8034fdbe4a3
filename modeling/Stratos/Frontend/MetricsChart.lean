import Mathlib.Data.Rat.Floor
import Mathlib.Tactic.FieldSimp
import Mathlib.Tactic.LinearCombination
import Mathlib.Tactic.Linarith
import Stratos.Lib.Lists

/-!
# The samples of a metrics chart

A chart shows the samples that Prometheus returns for a range of time, which lie on a grid of
fifty steps (`getNewDateRangeAction`). `mapMatrix` names a sample by its date, in whole seconds, and
`fillOutTimeOrderedChartSeries` goes along the grid and the samples and fills what is missing with
zero. A sample is taken when its date comes before the next time of the grid.

The dates have no fractions but the grid has. A sample after a gap is then taken one step early,
unless its time is a whole second, and its own place is filled with zero. `chartsSamples_iff` says
for which samples the chart is right.
-/

open Lib

namespace Stratos

namespace MetricsChart

/-! ## The code -/

/-- A date without fractions of a second. -/
structure Date where
  seconds : ℤ
  deriving DecidableEq

/-- `date.setUTCSeconds(value)`, which drops fractions. -/
def getDateSeriesName (value : ℚ) : Date := ⟨if 0 ≤ value then ⌊value⌋ else ⌈value⌉⟩

/-- The value of a sample is a text, that of a point which is filled in a number. -/
inductive PointValue
  | text (s : String)
  | number (n : ℚ)
  deriving DecidableEq

/-- A point of a series. -/
structure SeriesItem where
  name : Date
  value : PointValue
  deriving DecidableEq

/-- A series of a chart. -/
structure ChartSeries where
  name : String
  series : List SeriesItem
  deriving DecidableEq

/-- `[unixTimeStamp, sampleValue]` -/
abbrev IMetricSample := ℚ × String

/-- The samples of one metric. -/
structure IMetricMatrixResult (T : Type) where
  metric : T
  values : List IMetricSample

/-- The configuration, which names points with `getDateSeriesName`. -/
structure MetricsConfig (T : Type) where
  getSeriesName : T → String
  mapSeriesItemValue : Option (String → String)

variable {T : Type}

/-- The value of a point, as the configuration maps it. -/
def MetricsConfig.itemValue (metricsConfig : MetricsConfig T) (value : String) : PointValue :=
  .text ((metricsConfig.mapSeriesItemValue.getD id) value)

/-- The date is before the time. -/
def dateLessThanUnix (date : Date) (unix : ℚ) : Prop := (date.seconds : ℚ) < unix

instance (date : Date) (unix : ℚ) : Decidable (dateLessThanUnix date unix) :=
  inferInstanceAs (Decidable (_ < _))

/-- `step` of the action for a range. -/
def rangeStep (startUnix endUnix : ℤ) : ℚ := max ((endUnix - startUnix) / 50) 0

/-- A series for each metric, with a point for each sample. -/
def mapMatrix (result : List (IMetricMatrixResult T)) (metricsConfig : MetricsConfig T) :
    List ChartSeries :=
  result.map fun result =>
    { name := metricsConfig.getSeriesName result.metric
      series := result.values.map fun val =>
        { name := getDateSeriesName val.1, value := metricsConfig.itemValue val.2 } }

/-- The point for the time `t`, and the position after it. -/
def nextPoint (series : List SeriesItem) (step t : ℚ) (pos : ℕ) : SeriesItem × ℕ :=
  match series[pos]? with
  | some current =>
    if dateLessThanUnix current.name (t + step) then (current, pos + 1)
    else (⟨getDateSeriesName t, .number 0⟩, pos)
  | none => (⟨getDateSeriesName t, .number 0⟩, pos)

/-- The loop over the times from `t` on. -/
def fillLoop (series : List SeriesItem) (endTime step : ℚ) (hstep : 0 < step) (t : ℚ) (pos : ℕ) :
    List SeriesItem :=
  if t ≤ endTime then
    let point := nextPoint series step t pos
    point.1 :: fillLoop series endTime step hstep (t + step) point.2
  else []
termination_by (⌊(endTime - t) / step⌋ + 1).toNat
decreasing_by
  rename_i hle
  have hnonneg : 0 ≤ ⌊(endTime - t) / step⌋ :=
    Int.floor_nonneg.2 (div_nonneg (sub_nonneg.2 hle) hstep.le)
  have hdiv : (endTime - (t + step)) / step = (endTime - t) / step - 1 := by field_simp; ring
  have hfloor : ⌊(endTime - (t + step)) / step⌋ = ⌊(endTime - t) / step⌋ - 1 := by
    rw [hdiv]
    exact Int.floor_sub_one _
  omega

/-- `none` where a loop has no end. -/
def fillOutTimeOrderedChartSeries (timeOrdered : List ChartSeries) (start endTime step : ℚ) :
    Option (List ChartSeries) :=
  timeOrdered.mapM fun series =>
    if hstep : 0 < step then
      some { name := series.name, series := fillLoop series.series endTime step hstep start 0 }
    else if start ≤ endTime then none
    else some { name := series.name, series := [] }

/-! ## The grid -/

section Grid

variable (start endTime : ℤ)

/-- The time of a point. -/
def gridTime (k : ℕ) : ℚ := start + k * rangeStep start endTime

/-- The samples of a series, one at most for each of the 51 times of the grid. -/
abbrev Samples := ℕ → Option String

/-- The values that Prometheus returns for the samples. -/
def gridValues (samples : Samples) : List IMetricSample :=
  (List.range 51).filterMap fun k => (samples k).map fun value => (gridTime start endTime k, value)

variable (metricsConfig : MetricsConfig T)

/-- The point that should be there for a time of the grid. -/
def pointAt (samples : Samples) (k : ℕ) : SeriesItem where
  name := getDateSeriesName (gridTime start endTime k)
  value := ((samples k).map metricsConfig.itemValue).getD (.number 0)

/-- Every series has one point for each time of the grid, with the value of the sample that is
there, or zero. -/
def ChartsSamples (result : List (T × Samples)) : Prop :=
  fillOutTimeOrderedChartSeries
      (mapMatrix (result.map fun r => ⟨r.1, gridValues start endTime r.2⟩) metricsConfig)
      start endTime (rangeStep start endTime) =
    some (result.map fun r =>
      ⟨metricsConfig.getSeriesName r.1,
        (List.range 51).map (pointAt start endTime metricsConfig r.2)⟩)

/-- The samples are taken at their times. -/
structure InStep (samples : Samples) : Prop where
  /-- The date of a sample is before the next time. -/
  before : ∀ k ≤ 50, (samples k).isSome →
    dateLessThanUnix (getDateSeriesName (gridTime start endTime k)) (gridTime start endTime (k + 1))
  /-- After a gap, a sample is not before its own time. -/
  after_gap : ∀ k < 50, samples k = none → (samples (k + 1)).isSome →
    ¬dateLessThanUnix (getDateSeriesName (gridTime start endTime (k + 1)))
      (gridTime start endTime (k + 1))

/-! ## The loop -/

variable {start endTime}

theorem rangeStep_eq (h : start < endTime) :
    rangeStep start endTime = ((endTime : ℚ) - start) / 50 := by
  have hlt : (start : ℚ) < endTime := by exact_mod_cast h
  exact max_eq_left (by linarith)

theorem rangeStep_pos (h : start < endTime) : 0 < rangeStep start endTime := by
  have hlt : (start : ℚ) < endTime := by exact_mod_cast h
  rw [rangeStep_eq h]
  linarith

theorem gridTime_succ (k : ℕ) :
    gridTime start endTime k + rangeStep start endTime = gridTime start endTime (k + 1) := by
  simp only [gridTime, Nat.cast_add, Nat.cast_one]
  ring

theorem gridTime_le_iff (h : start < endTime) (k : ℕ) :
    gridTime start endTime k ≤ endTime ↔ k ≤ 50 := by
  have hpos := rangeStep_pos h
  have hend : (endTime : ℚ) = start + 50 * rangeStep start endTime := by
    rw [rangeStep_eq h]
    ring
  rw [gridTime, hend, add_le_add_iff_left, mul_le_mul_iff_left₀ hpos]
  exact_mod_cast Iff.rfl

theorem gridTime_mono (h : start < endTime) : Monotone (gridTime start endTime) := by
  intro i j hij
  have hpos := rangeStep_pos h
  have hcast : (i : ℚ) ≤ j := by exact_mod_cast hij
  simp only [gridTime]
  nlinarith

/-- The item of a sample. -/
def itemAt (start endTime : ℤ) (metricsConfig : MetricsConfig T) (samples : Samples) (k : ℕ) :
    Option SeriesItem :=
  (samples k).map fun value =>
    ⟨getDateSeriesName (gridTime start endTime k), metricsConfig.itemValue value⟩

/-- The items of the samples at `m` times from the `k`-th on. -/
def itemsFrom (start endTime : ℤ) (metricsConfig : MetricsConfig T) (samples : Samples)
    (k m : ℕ) : List SeriesItem :=
  (List.range' k m).filterMap (itemAt start endTime metricsConfig samples)

/-- At the `k`-th time the loop makes the right point, where the items after it are `items`. -/
def RightAt (start endTime : ℤ) (samples : Samples) (k : ℕ) (items : List SeriesItem) : Prop :=
  if (samples k).isSome then
    dateLessThanUnix (getDateSeriesName (gridTime start endTime k)) (gridTime start endTime (k + 1))
  else ∀ item ∈ items.head?, ¬dateLessThanUnix item.name (gridTime start endTime (k + 1))

theorem itemsFrom_succ_of_some {metricsConfig : MetricsConfig T} {samples : Samples} {k : ℕ}
    {item : SeriesItem} (m : ℕ) (h : itemAt start endTime metricsConfig samples k = some item) :
    itemsFrom start endTime metricsConfig samples k (m + 1) =
      item :: itemsFrom start endTime metricsConfig samples (k + 1) m := by
  rw [itemsFrom, List.range'_succ, List.filterMap_cons_some h]
  rfl

theorem itemsFrom_succ_of_none {metricsConfig : MetricsConfig T} {samples : Samples} {k : ℕ}
    (m : ℕ) (h : itemAt start endTime metricsConfig samples k = none) :
    itemsFrom start endTime metricsConfig samples k (m + 1) =
      itemsFrom start endTime metricsConfig samples (k + 1) m := by
  rw [itemsFrom, List.range'_succ, List.filterMap_cons_none h]
  rfl

theorem nextPoint_append (taken rest : List SeriesItem) (step t : ℚ) :
    nextPoint (taken ++ rest) step t taken.length =
      match rest.head? with
      | some current =>
        if dateLessThanUnix current.name (t + step) then (current, taken.length + 1)
        else (⟨getDateSeriesName t, .number 0⟩, taken.length)
      | none => (⟨getDateSeriesName t, .number 0⟩, taken.length) := by
  rw [nextPoint, List.getElem?_append_right (Nat.le_refl _), Nat.sub_self, ← List.head?_eq_getElem?]

variable {metricsConfig : MetricsConfig T} {samples : Samples}

/-- The value of an item is that of a sample. -/
theorem value_of_mem_itemsFrom {k m : ℕ} {item : SeriesItem}
    (h : item ∈ itemsFrom start endTime metricsConfig samples k m) :
    item.value ≠ .number 0 := by
  obtain ⟨i, -, hi⟩ := List.mem_filterMap.1 h
  obtain ⟨value, -, rfl⟩ := Option.map_eq_some_iff.1 hi
  exact fun hvalue => by cases hvalue

/-- The right point, and then the items after it. -/
theorem nextPoint_of_rightAt {k m : ℕ} (taken : List SeriesItem)
    (h : RightAt start endTime samples k
      (itemsFrom start endTime metricsConfig samples (k + 1) m)) :
    ∃ taken', taken' ++ itemsFrom start endTime metricsConfig samples (k + 1) m =
        taken ++ itemsFrom start endTime metricsConfig samples k (m + 1) ∧
      nextPoint (taken ++ itemsFrom start endTime metricsConfig samples k (m + 1))
          (rangeStep start endTime) (gridTime start endTime k) taken.length =
        (pointAt start endTime metricsConfig samples k, taken'.length) := by
  rw [nextPoint_append, gridTime_succ]
  cases hsample : samples k with
  | some value =>
    rw [RightAt, hsample, Option.isSome_some, if_pos rfl] at h
    rw [itemsFrom_succ_of_some m (by rw [itemAt, hsample]; rfl)]
    refine ⟨taken ++ [⟨getDateSeriesName (gridTime start endTime k),
      metricsConfig.itemValue value⟩], by simp, ?_⟩
    simp [h, pointAt, hsample]
  | none =>
    rw [RightAt, hsample, Option.isSome_none, if_neg (by decide)] at h
    rw [itemsFrom_succ_of_none m (by rw [itemAt, hsample]; rfl)]
    refine ⟨taken, rfl, ?_⟩
    cases hhead : (itemsFrom start endTime metricsConfig samples (k + 1) m).head? with
    | none => simp [pointAt, hsample]
    | some current => simp [pointAt, hsample, h current hhead]

/-- Where a sample is taken too early or too late, the point is wrong. -/
theorem nextPoint_of_not_rightAt {k m : ℕ} (taken : List SeriesItem)
    (h : ¬RightAt start endTime samples k
      (itemsFrom start endTime metricsConfig samples (k + 1) m)) :
    (nextPoint (taken ++ itemsFrom start endTime metricsConfig samples k (m + 1))
        (rangeStep start endTime) (gridTime start endTime k) taken.length).1 ≠
      pointAt start endTime metricsConfig samples k := by
  rw [nextPoint_append, gridTime_succ]
  cases hsample : samples k with
  | some value =>
    rw [RightAt, hsample, Option.isSome_some, if_pos rfl] at h
    rw [itemsFrom_succ_of_some m (by rw [itemAt, hsample]; rfl)]
    simp [h, pointAt, hsample, MetricsConfig.itemValue]
  | none =>
    rw [RightAt, hsample, Option.isSome_none, if_neg (by decide)] at h
    rw [itemsFrom_succ_of_none m (by rw [itemAt, hsample]; rfl)]
    obtain ⟨current, hhead, hless⟩ : ∃ current ∈
        (itemsFrom start endTime metricsConfig samples (k + 1) m).head?,
        dateLessThanUnix current.name (gridTime start endTime (k + 1)) := by
      by_contra hnone
      exact h fun item hitem hless => hnone ⟨item, hitem, hless⟩
    rw [Option.mem_def.1 hhead]
    intro heq
    have hvalue := value_of_mem_itemsFrom (List.mem_of_mem_head? hhead)
    simp only [hless, if_true] at heq
    rw [heq] at hvalue
    simp [pointAt, hsample] at hvalue

/-- From the `k`-th time on, the loop makes the right points exactly where each is right. -/
theorem fillLoop_eq_iff (metricsConfig : MetricsConfig T) (samples : Samples)
    (h : start < endTime) : ∀ (m k : ℕ), k + m = 51 → ∀ taken : List SeriesItem,
      (fillLoop (taken ++ itemsFrom start endTime metricsConfig samples k m) endTime
          (rangeStep start endTime) (rangeStep_pos h) (gridTime start endTime k) taken.length =
        (List.range' k m).map (pointAt start endTime metricsConfig samples) ↔
      ∀ i, k ≤ i → i < 51 → RightAt start endTime samples i
        (itemsFrom start endTime metricsConfig samples (i + 1) (50 - i)))
  | 0, k, hk, taken => by
    have hend : ¬gridTime start endTime k ≤ endTime := by
      rw [gridTime_le_iff h]
      omega
    rw [fillLoop, if_neg hend]
    exact iff_of_true rfl fun i hki hi => absurd hi (by omega)
  | m + 1, k, hk, taken => by
    have hle : gridTime start endTime k ≤ endTime := (gridTime_le_iff h k).2 (by omega)
    have hm : 50 - k = m := by omega
    rw [fillLoop, if_pos hle, List.range'_succ, List.map_cons, List.cons_eq_cons, gridTime_succ]
    by_cases hright : RightAt start endTime samples k
        (itemsFrom start endTime metricsConfig samples (k + 1) m)
    · obtain ⟨taken', hitems, hpoint⟩ := nextPoint_of_rightAt taken hright
      rw [hpoint, ← hitems, and_iff_right rfl,
        fillLoop_eq_iff metricsConfig samples h m (k + 1) (by omega) taken']
      refine ⟨fun hrest i hki hi => ?_, fun hall i hki hi => hall i (by omega) hi⟩
      rcases Nat.eq_or_lt_of_le hki with rfl | hlt
      · rwa [hm]
      · exact hrest i hlt hi
    · refine iff_of_false (fun heq => nextPoint_of_not_rightAt taken hright heq.1) fun hall => ?_
      have hk' := hall k le_rfl (by omega)
      rw [hm] at hk'
      exact hright hk'

/-- The first item is that of the next sample. -/
theorem exists_of_head_itemsFrom {item : SeriesItem} : ∀ {m k : ℕ},
    (itemsFrom start endTime metricsConfig samples k m).head? = some item →
    ∃ j, k ≤ j ∧ j < k + m ∧ (samples j).isSome ∧
      item.name = getDateSeriesName (gridTime start endTime j) ∧
      ∀ i, k ≤ i → i < j → samples i = none
  | 0, _, h => by cases h
  | m + 1, k, h => by
    cases hsample : samples k with
    | some value =>
      rw [itemsFrom_succ_of_some m (by rw [itemAt, hsample]; rfl)] at h
      obtain rfl := Option.some.inj h
      exact ⟨k, le_rfl, by omega, by rw [hsample]; rfl, rfl, fun i hki hik => absurd hki (by omega)⟩
    | none =>
      rw [itemsFrom_succ_of_none m (by rw [itemAt, hsample]; rfl)] at h
      obtain ⟨j, hkj, hj, hsome, hname, hgap⟩ := exists_of_head_itemsFrom h
      refine ⟨j, by omega, by omega, hsome, hname, fun i hki hij => ?_⟩
      rcases Nat.eq_or_lt_of_le hki with rfl | hlt
      · exact hsample
      · exact hgap i hlt hij

/-- Only the sample right after a gap can be taken too early. -/
theorem rightAt_iff_inStep (metricsConfig : MetricsConfig T) (samples : Samples)
    (h : start < endTime) :
    (∀ i < 51, RightAt start endTime samples i
      (itemsFrom start endTime metricsConfig samples (i + 1) (50 - i))) ↔
      InStep start endTime samples := by
  constructor
  · intro hall
    refine ⟨fun k hk hsome => ?_, fun k hk hnone hsome => ?_⟩
    · have hright := hall k (by omega)
      rwa [RightAt, if_pos hsome] at hright
    · have hright := hall k (by omega)
      obtain ⟨value, hvalue⟩ := Option.isSome_iff_exists.1 hsome
      have hitem : itemAt start endTime metricsConfig samples (k + 1) =
          some ⟨getDateSeriesName (gridTime start endTime (k + 1)),
            metricsConfig.itemValue value⟩ := by
        rw [itemAt, hvalue, Option.map_some]
      obtain ⟨m, hm⟩ : ∃ m, 50 - k = m + 1 := ⟨49 - k, by omega⟩
      rw [RightAt, hnone, Option.isSome_none, if_neg (by decide), hm,
        itemsFrom_succ_of_some m hitem, List.head?_cons] at hright
      have hnext := hright _ (Option.mem_some_self _)
      exact hnext
  · intro hstep i hi
    rw [RightAt]
    split_ifs with hsome
    · exact hstep.before i (by omega) hsome
    · intro item hitem hless
      obtain ⟨j, hij, hj, hjsome, hname, hgap⟩ := exists_of_head_itemsFrom (Option.mem_def.1 hitem)
      obtain ⟨j, rfl⟩ : ∃ j', j = j' + 1 := ⟨j - 1, by omega⟩
      have hnone : samples j = none := by
        rcases Nat.eq_or_lt_of_le (Nat.le_of_succ_le_succ hij) with rfl | hlt
        · simpa using hsome
        · exact hgap j hlt (by omega)
      refine hstep.after_gap j (by omega) hnone hjsome ?_
      rw [hname] at hless
      exact lt_of_lt_of_le hless (gridTime_mono h hij)

/-- The items of a whole series. -/
theorem map_gridValues (metricsConfig : MetricsConfig T) (samples : Samples) :
    (gridValues start endTime samples).map (fun val =>
        (⟨getDateSeriesName val.1, metricsConfig.itemValue val.2⟩ : SeriesItem)) =
      itemsFrom start endTime metricsConfig samples 0 51 := by
  rw [gridValues, List.map_filterMap, itemsFrom, List.range_eq_range']
  refine List.filterMap_congr fun k _ => ?_
  rw [itemAt, Option.map_map]
  rfl

theorem fillLoop_gridValues_iff (h : start < endTime) (metricsConfig : MetricsConfig T)
    (samples : Samples) :
    fillLoop ((gridValues start endTime samples).map fun val =>
          ⟨getDateSeriesName val.1, metricsConfig.itemValue val.2⟩) endTime
        (rangeStep start endTime) (rangeStep_pos h) start 0 =
      (List.range 51).map (pointAt start endTime metricsConfig samples) ↔
    InStep start endTime samples := by
  have hloop := fillLoop_eq_iff metricsConfig samples h 51 0 rfl []
  have hzero : gridTime start endTime 0 = start := by simp [gridTime]
  rw [List.nil_append, hzero, List.length_nil, ← List.range_eq_range'] at hloop
  rw [map_gridValues, hloop, ← rightAt_iff_inStep metricsConfig samples h]
  simp

/-- The chart is right where the loop is right for each series. -/
theorem chartsSamples_iff_forall (h : start < endTime) (metricsConfig : MetricsConfig T)
    (result : List (T × Samples)) :
    ChartsSamples start endTime metricsConfig result ↔ ∀ r ∈ result,
      fillLoop ((gridValues start endTime r.2).map fun val =>
            ⟨getDateSeriesName val.1, metricsConfig.itemValue val.2⟩) endTime
          (rangeStep start endTime) (rangeStep_pos h) start 0 =
        (List.range 51).map (pointAt start endTime metricsConfig r.2) := by
  have hsteps : ∀ series : ChartSeries,
      (if hstep : 0 < rangeStep start endTime then
          some (⟨series.name, fillLoop series.series endTime (rangeStep start endTime) hstep start
            0⟩ : ChartSeries)
        else if (start : ℚ) ≤ endTime then none else some ⟨series.name, []⟩) =
      some ⟨series.name, fillLoop series.series endTime (rangeStep start endTime)
        (rangeStep_pos h) start 0⟩ := fun series => dif_pos (rangeStep_pos h)
  rw [ChartsSamples, fillOutTimeOrderedChartSeries,
    mapM_eq_map fun series _ => hsteps series, mapMatrix, List.map_map, List.map_map,
    Option.some_inj, List.map_inj_left]
  simp [Function.comp_def]

/-- The chart is right exactly when the samples are in step with the grid. -/
theorem chartsSamples_iff (h : start < endTime) (metricsConfig : MetricsConfig T)
    (result : List (T × Samples)) :
    ChartsSamples start endTime metricsConfig result ↔
      ∀ r ∈ result, InStep start endTime r.2 := by
  rw [chartsSamples_iff_forall h]
  exact forall₂_congr fun r _ => fillLoop_gridValues_iff h metricsConfig r.2

/-- From the epoch on, only a sample after a gap that is not at a whole second is misplaced. -/
theorem inStep_iff_dvd (h : start < endTime) (hstart : 0 ≤ start) :
    InStep start endTime samples ↔ ∀ k < 50, samples k = none → (samples (k + 1)).isSome →
      50 ∣ ((k + 1 : ℕ) : ℤ) * (endTime - start) := by
  have hstart' : (0 : ℚ) ≤ start := by exact_mod_cast hstart
  have hpos := rangeStep_pos h
  have hdate : ∀ k, (getDateSeriesName (gridTime start endTime k)).seconds =
      ⌊gridTime start endTime k⌋ := by
    intro k
    have hnonneg : 0 ≤ gridTime start endTime k := by
      rw [gridTime]
      positivity
    rw [getDateSeriesName, if_pos hnonneg]
  have hwhole : ∀ k : ℕ, ¬dateLessThanUnix (getDateSeriesName (gridTime start endTime k))
      (gridTime start endTime k) ↔ 50 ∣ (k : ℤ) * (endTime - start) := by
    intro k
    rw [dateLessThanUnix, hdate, not_lt]
    have htime : gridTime start endTime k * 50 = start * 50 + k * (endTime - start) := by
      rw [gridTime, rangeStep_eq h]
      ring
    constructor
    · intro hle
      refine ⟨⌊gridTime start endTime k⌋ - start, ?_⟩
      have heq := le_antisymm hle (Int.floor_le _)
      have hcast : (k : ℚ) * (endTime - start) = 50 * (⌊gridTime start endTime k⌋ - start) := by
        rw [← heq]
        linarith
      exact_mod_cast hcast
    · rintro ⟨c, hc⟩
      have hcast : (k : ℚ) * (endTime - start) = 50 * c := by exact_mod_cast hc
      have heq : gridTime start endTime k = ((start + c : ℤ) : ℚ) := by
        push_cast
        linarith
      rw [heq, Int.floor_intCast]
  constructor
  · exact fun hstep k hk hnone hsome => (hwhole (k + 1)).1 (hstep.after_gap k hk hnone hsome)
  · intro hdvd
    refine ⟨fun k _ _ => ?_, fun k hk hnone hsome =>
      (hwhole (k + 1)).2 (hdvd k hk hnone hsome)⟩
    rw [dateLessThanUnix, hdate, ← gridTime_succ]
    have hfloor := Int.floor_le (gridTime start endTime k)
    linarith

end Grid

/-- With a step of two seconds, a sample is placed wherever it is. -/
theorem chartsSamples_two_seconds :
    ChartsSamples 100 200 (⟨id, none⟩ : MetricsConfig String)
      [("app", fun k => if k = 7 then some "3" else none)] := by
  refine (chartsSamples_iff (by decide) _ _).2 ?_
  intro r hr
  obtain rfl := List.mem_singleton.1 hr
  rw [inStep_iff_dvd (by decide) (by decide)]
  intro k _ _ _
  exact ⟨(k + 1 : ℕ) * 2, by ring⟩

/-- With a step of 1.2 seconds, a sample that follows a gap is taken for the time before. -/
theorem sample_after_gap_misplaced :
    ¬ChartsSamples 100 160 (⟨id, none⟩ : MetricsConfig String)
      [("app", fun k => if k = 1 then some "3" else none)] := by
  intro hcharts
  have hloop := (chartsSamples_iff_forall (by decide) _ _).1 hcharts _ List.mem_cons_self
  have hdvd := (inStep_iff_dvd (by decide) (by decide)).1
    ((fillLoop_gridValues_iff (by decide) _ _).1 hloop) 0 (by decide) (by decide) (by decide)
  revert hdvd
  decide

end MetricsChart

end Stratos
