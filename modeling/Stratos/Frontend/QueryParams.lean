import Stratos.Frontend.StaleResponses
import Stratos.Lib.Keyed

/-!
# The query parameters of a section

`SET_PARAMS`, `SET_INITIAL_PARAMS`, `ADD_PARAMS` and `REMOVE_PARAMS` edit the parameters of a
section. `q`, the list of filters that goes on the wire, must not hold two entries of one key,
nor an entry without a value (`UniqueQ`), and an edit must change what it names and nothing else
(`EditIsExact`).

`getUniqueQParams` writes the entries of the action over those of the section, the last of a key
last, and drops those that are falsy (`mem_getUniqueQParams_iff`). A list is never falsy, so an
empty one stays and is sent. And a removal cannot name the empty key : `find` returns that key,
which is falsy. Both hold in any run whose edits have neither, and in no other
(`editsAreExact_iff`).
-/

open Lib

namespace Stratos

namespace QueryParams

/-! ## What an edit is for -/

/-- The entries of `q`. -/
def qOf (params : PaginationParam) : List QParam := params.q.getD []

/-- The text that is sent for the value is empty. -/
def QValue.IsEmpty : QValue → Prop
  | .text s => s = ""
  | .list values => ",".intercalate values = ""

instance : DecidablePred QValue.IsEmpty
  | .text s => inferInstanceAs (Decidable (s = ""))
  | .list values => inferInstanceAs (Decidable (",".intercalate values = ""))

/-- At most one entry per key, and none with an empty value. -/
structure UniqueQ (params : PaginationParam) : Prop where
  nodup : ((qOf params).map QParam.key).Nodup
  notEmpty : ∀ p ∈ qOf params, ¬QValue.IsEmpty p.value

/-- No other parameter is empty. -/
def NoEmpty (params : PaginationParam) : Prop :=
  ∀ k v, params.others.get? k = some v → v.truthy = true

/-- The entry of a key once `new` is written over `old` : the last of several entries wins, and
an empty value removes the key. -/
def overridden (old new : PaginationParam) (k : String) : Option QParam :=
  ((lookupLast QParam.key (qOf new) k).or (lookup QParam.key (qOf old) k)).filter
    fun p => ¬QValue.IsEmpty p.value

/-- `q` is exactly `old` overridden by `new`. -/
def QOverridden (old new params : PaginationParam) : Prop :=
  ∀ p, p ∈ qOf params ↔ overridden old new p.key = some p

/-- What an edit leaves in a section. -/
def EditIsExact (state : PaginationEntityState) : ParamEdit → Prop
  | .set action =>
    if action.overwrite then
      QOverridden state.params action.params (paginationSetParams state action).params
    else (∀ q, state.params.q = some q → (paginationSetParams state action).params.q = some q) ∧
      ∀ k v, state.params.others.get? k = some v →
        (paginationSetParams state action).params.others.get? k = some v
  | .add params =>
    QOverridden state.params params (paginationAddParams state params).params ∧
      (∀ k, params.others.get? k = none →
        (paginationAddParams state params).params.others.get? k = state.params.others.get? k) ∧
      paginationAddParams (paginationAddParams state params) params =
        paginationAddParams state params
  | .remove action =>
    (∀ k, (paginationRemoveParams state action).params.others.get? k =
      if k ∈ action.params then none else state.params.others.get? k) ∧
    (paginationRemoveParams state action).params.q = if "q" ∈ action.params then none
      else state.params.q.map fun q => q.filter fun p => p.key ∉ action.qs

/-- In every state of the run `q` is unique, and every edit is exact. -/
def EditsAreExact : PaginationEntityState → List ParamEdit → Prop
  | state, [] => UniqueQ state.params
  | state, edit :: edits =>
    UniqueQ state.params ∧ EditIsExact state edit ∧ EditsAreExact (edit.apply state) edits

/-! ### The edits that do -/

/-- A key is not given a list that is empty. -/
def GivesNoEmptyList (params : PaginationParam) : Prop :=
  ∀ k p, lookupLast QParam.key (qOf params) k = some p → QValue.IsEmpty p.value →
    p.value = .text ""

/-- Entries are written with no empty list, unless those of the section are kept. An entry with the
empty key is not removed. -/
def EditFits (state : PaginationEntityState) : ParamEdit → Prop
  | .set action =>
    action.overwrite = true ∨ state.params.q = none → GivesNoEmptyList action.params
  | .add params => GivesNoEmptyList params
  | .remove action => "" ∈ action.qs → "q" ∉ action.params → ∀ p ∈ qOf state.params, p.key ≠ ""

/-- Every edit fits the section it meets. -/
def EditsFit : PaginationEntityState → List ParamEdit → Prop
  | _, [] => True
  | state, edit :: edits => EditFits state edit ∧ EditsFit (edit.apply state) edits

/-! ## Unique entries -/

section Unique

theorem truthy_of_not_isEmpty {v : QValue} (h : ¬QValue.IsEmpty v) : v.truthy = true := by
  cases v with
  | text s => exact decide_eq_true h
  | list values => rfl

theorem UniqueQ.truthy {params : PaginationParam} (h : UniqueQ params) :
    ∀ p ∈ qOf params, p.value.truthy = true :=
  fun p hp => truthy_of_not_isEmpty (h.notEmpty p hp)

theorem updateQParam_eq (qs : List QParam) (p : QParam) :
    updateQParam qs p = upsert QParam.key qs p := by
  induction qs with
  | nil => rfl
  | cons q qs ih =>
    unfold updateQParam at ih ⊢
    rw [List.findIdx?_cons, upsert]
    by_cases h : q.key = p.key
    · simp [h]
    · rcases hidx : qs.findIdx? (fun q => decide (q.key = p.key)) with _ | i <;>
        simp [h, hidx, ← ih]

/-- Entries behind one of their key are dropped. -/
theorem firstOfKey_append {qs qs' : List QParam} (hnd : (qs.map QParam.key).Nodup)
    (hsub : ∀ p ∈ qs', p.key ∈ qs.map QParam.key) : firstOfKey (qs ++ qs') = qs := by
  have hidx : ∀ {k}, k ∈ qs.map QParam.key → (qs ++ qs').findIdx? (fun q => decide (q.key = k)) =
      qs.findIdx? fun q => decide (q.key = k) := fun {k} hk => by
    obtain ⟨q, hq, rfl⟩ := List.mem_map.1 hk
    rw [List.findIdx?_append, Option.or_of_isSome]
    exact List.findIdx?_isSome.trans (List.any_eq_true.2 ⟨q, hq, by simp⟩)
  have hkeep : ∀ e ∈ qs.zipIdx, (qs ++ qs').findIdx? (fun q => decide (q.key = e.1.key)) =
      some e.2 := by
    rintro ⟨q, i⟩ he
    have hget : qs[i]? = some q := List.mem_zipIdx_iff_getElem?.1 he
    rw [hidx (List.mem_map_of_mem (List.mem_of_getElem? hget)), List.findIdx?_eq_some_iff_getElem]
    obtain ⟨hi, rfl⟩ := List.getElem?_eq_some_iff.1 hget
    refine ⟨hi, by simp, fun j hj => ?_⟩
    have hne := (List.pairwise_iff_getElem.1 hnd) j i (by simpa using hj.trans hi)
      (by simpa using hi) hj
    simpa using hne
  have hdrop : ∀ e ∈ qs'.zipIdx qs.length,
      (qs ++ qs').findIdx? (fun q => decide (q.key = e.1.key)) ≠ some e.2 := by
    rintro ⟨q, i⟩ he h
    obtain ⟨hi, -, -⟩ := List.mem_zipIdx he
    rw [hidx (hsub _ (List.fst_mem_of_mem_zipIdx he))] at h
    have hlt := (List.findIdx?_eq_some_iff_getElem.1 h).1
    omega
  unfold firstOfKey
  rw [List.zipIdx_append, List.filter_append, List.filter_eq_self.2, List.filter_eq_nil_iff.2,
    List.append_nil, List.zipIdx_map_fst]
  · simpa using hdrop
  · simpa using hkeep

/-- What `getUniqueQParams` returns. -/
theorem getUniqueQParams_eq {actionParams stateParams : PaginationParam}
    (h : UniqueQ stateParams) : getUniqueQParams actionParams stateParams =
      ((qOf actionParams).foldl (upsert QParam.key) (qOf stateParams)).filter
        (·.value.truthy) := by
  have hupdate : updateQParam = upsert QParam.key := by
    funext qs p
    exact updateQParam_eq qs p
  unfold getUniqueQParams qOf
  rw [hupdate]
  cases hq : actionParams.q with
  | none => exact (List.filter_eq_self.2 h.truthy).symm
  | some qs =>
    refine congrArg (List.filter _) (firstOfKey_append (nodup_foldl_upsert h.nodup _) ?_)
    exact fun p hp => mem_keys_foldl_upsert (List.mem_map_of_mem hp)

theorem nodup_getUniqueQParams {actionParams stateParams : PaginationParam}
    (h : UniqueQ stateParams) :
    ((getUniqueQParams actionParams stateParams).map QParam.key).Nodup := by
  rw [getUniqueQParams_eq h]
  exact (nodup_foldl_upsert h.nodup _).sublist (List.filter_sublist.map _)

/-- The entry of a key in what `getUniqueQParams` returns. -/
def uniqueQParam (old new : PaginationParam) (k : String) : Option QParam :=
  ((lookupLast QParam.key (qOf new) k).or (lookup QParam.key (qOf old) k)).filter (·.value.truthy)

/-- A parameter stays exactly if it is the one of its key. -/
theorem mem_getUniqueQParams_iff {actionParams stateParams : PaginationParam}
    (h : UniqueQ stateParams) (p : QParam) : p ∈ getUniqueQParams actionParams stateParams ↔
      uniqueQParam stateParams actionParams p.key = some p := by
  have hlookup : lookup QParam.key (getUniqueQParams actionParams stateParams) p.key =
      uniqueQParam stateParams actionParams p.key := by
    rw [getUniqueQParams_eq h, lookup_filter (nodup_foldl_upsert h.nodup _), lookup_foldl_upsert]
    rfl
  rw [← hlookup]
  exact ⟨lookup_of_mem (nodup_getUniqueQParams h), mem_of_lookup⟩

/-- Without an empty list what is falsy is what is empty. -/
theorem uniqueQParam_eq_overridden {old new : PaginationParam} (h : UniqueQ old)
    (hgives : GivesNoEmptyList new) (k : String) :
    uniqueQParam old new k = overridden old new k := by
  rw [uniqueQParam, overridden]
  cases hp : (lookupLast QParam.key (qOf new) k).or (lookup QParam.key (qOf old) k) with
  | none => rfl
  | some p =>
    by_cases hempty : QValue.IsEmpty p.value
    · rcases Option.or_eq_some_iff.1 hp with hnew | ⟨-, hold⟩
      · simp [hgives k p hnew hempty, QValue.truthy, QValue.IsEmpty, Option.filter_some]
      · exact absurd hempty (h.notEmpty p (mem_of_lookup hold))
    · simp [hempty, truthy_of_not_isEmpty hempty, Option.filter_some]

/-- The helper leaves an empty value only where it is given an empty list. -/
theorem notEmpty_getUniqueQParams_iff {actionParams stateParams : PaginationParam}
    (h : UniqueQ stateParams) :
    (∀ p ∈ getUniqueQParams actionParams stateParams, ¬QValue.IsEmpty p.value) ↔
      GivesNoEmptyList actionParams := by
  constructor
  · intro hnot k p hp hempty
    by_contra hvalue
    have hkey : p.key = k := key_of_lookup hp
    have htruthy : p.value.truthy = true := by
      rcases hv : p.value with s | values
      · rw [hv] at hempty hvalue
        exact absurd (congrArg QValue.text hempty) hvalue
      · rfl
    refine hnot p ((mem_getUniqueQParams_iff h p).2 ?_) hempty
    rw [uniqueQParam, hkey, hp, Option.some_or, Option.filter_some, if_pos htruthy]
  · intro hgives p hp
    rw [mem_getUniqueQParams_iff h, uniqueQParam_eq_overridden h hgives, overridden,
      Option.filter_eq_some_iff] at hp
    simpa using hp.2

theorem UniqueQ.of_sublist {params stateParams : PaginationParam} (h : UniqueQ stateParams)
    (hsub : (qOf params).Sublist (qOf stateParams)) : UniqueQ params :=
  ⟨h.nodup.sublist (hsub.map _), fun p hp => h.notEmpty p (hsub.subset hp)⟩

/-- What the helper returns is unique unless it is given an empty list. -/
theorem uniqueQ_iff_of_q_eq {params actionParams stateParams : PaginationParam}
    (h : UniqueQ stateParams) (hq : params.q = some (getUniqueQParams actionParams stateParams)) :
    UniqueQ params ↔ GivesNoEmptyList actionParams := by
  have hqOf : qOf params = getUniqueQParams actionParams stateParams := by rw [qOf, hq]; rfl
  rw [← notEmpty_getUniqueQParams_iff h, ← hqOf]
  refine ⟨UniqueQ.notEmpty, fun hnot => ⟨?_, hnot⟩⟩
  rw [hqOf]
  exact nodup_getUniqueQParams h

end Unique

/-! ## The other parameters -/

section Others

theorem get?_removeEmptyParams (params : PaginationParam) (k : String) :
    (removeEmptyParams params).others.get? k =
      (params.others.get? k).filter ParamValue.truthy := by
  refine (JsObject.get?_foldl
    (g := fun k v => ((params.others.get? k).filter ParamValue.truthy).or v) ?_
    (JsObject.nodup_ownKeys _) JsObject.empty k).trans ?_
  · intro newObject k k'
    rcases params.others.get? k with _ | v
    · by_cases hk : k' = k <;> simp [hk]
    · by_cases hv : v.truthy = true
      · simp [hv, JsObject.get?_set, Option.filter_some]
      · by_cases hk : k' = k <;> simp [hv, hk, Option.filter_some]
  · rw [JsObject.get?_empty, Option.or_none]
    split_ifs with hk
    · rfl
    · rw [JsObject.get?_eq_none_iff.2 (mt JsObject.mem_ownKeys.2 hk)]
      rfl

theorem noEmpty_removeEmptyParams (params : PaginationParam) :
    NoEmpty (removeEmptyParams params) := by
  intro k v hv
  rw [get?_removeEmptyParams, Option.filter_eq_some_iff] at hv
  exact hv.2

theorem keys_removeEmptyParams (params : PaginationParam) :
    (removeEmptyParams params).others.keys =
      params.others.ownKeys.filter fun k => (params.others.get? k).any ParamValue.truthy := by
  refine JsObject.keys_foldl (p := fun k => (params.others.get? k).any ParamValue.truthy)
    (fun o k hk => ?_) (JsObject.nodup_ownKeys _) (o := JsObject.empty) (by simp)
  rcases params.others.get? k with _ | v
  · simp
  · by_cases hv : v.truthy = true
    · simp [hv, JsObject.keys_set, hk]
    · simp [hv]

theorem ownKeys_removeEmptyParams (params : PaginationParam) :
    (removeEmptyParams params).others.ownKeys = (removeEmptyParams params).others.keys := by
  rw [JsObject.ownKeys, keys_removeEmptyParams, ← JsObject.visitOrder_filter, JsObject.ownKeys,
    JsObject.visitOrder_visitOrder]

/-- Parameters without empty ones, written over what they made, make the same again. -/
theorem removeEmptyParams_spread (state params : PaginationParam) :
    (removeEmptyParams ((removeEmptyParams (state.spread params)).spread params)).others =
      (removeEmptyParams (state.spread params)).others := by
  set once := removeEmptyParams (state.spread params) with honce
  have hget : ∀ k, ((once.spread params).others.get? k).filter ParamValue.truthy =
      once.others.get? k := by
    intro k
    rw [honce, PaginationParam.spread, JsObject.get?_spread, get?_removeEmptyParams,
      PaginationParam.spread, JsObject.get?_spread]
    rcases params.others.get? k with _ | v
    · rw [Option.none_or, Option.filter_filter]
      simp
    · rfl
  refine JsObject.ext_get? ?_ fun k => (get?_removeEmptyParams _ k).trans (hget k)
  obtain ⟨ks, hks⟩ := JsObject.exists_keys_spread once.others params.others
  have hwanted : ∀ k, ((once.spread params).others.get? k).any ParamValue.truthy =
      (once.others.get? k).isSome := by
    intro k
    rw [← hget k]
    cases (once.spread params).others.get? k with
    | none => rfl
    | some v => by_cases hv : v.truthy = true <;> simp [hv, Option.filter_some]
  have hnd : (once.others.keys ++ ks).Nodup := hks ▸ JsObject.nodup_keys _
  rw [keys_removeEmptyParams, JsObject.ownKeys, JsObject.visitOrder_filter]
  simp only [hwanted]
  rw [PaginationParam.spread, hks, List.filter_append, List.filter_eq_self.2,
    List.filter_eq_nil_iff.2, List.append_nil]
  · exact ownKeys_removeEmptyParams _
  · intro k hk
    have hnot : k ∉ once.others.keys := fun h => (List.nodup_append.1 hnd).2.2 k h k hk rfl
    simp [JsObject.get?_eq_none_iff.2 hnot]
  · exact fun k hk => JsObject.isSome_get?_iff.2 hk

end Others

/-! ## Edits -/

section Edits

variable {state : PaginationEntityState}

/-- What every edit that fits keeps. -/
structure Kept (params : PaginationParam) : Prop where
  q : UniqueQ params
  others : NoEmpty params

theorem noEmpty_apply (h : NoEmpty state.params) (edit : ParamEdit) :
    NoEmpty (edit.apply state).params := by
  cases edit with
  | set action => exact noEmpty_removeEmptyParams _
  | add params => exact noEmpty_removeEmptyParams _
  | remove action =>
    intro k v hv
    have hsub : ∀ (keys : List String) (others : JsObject ParamValue),
        (keys.foldl JsObject.erase others).get? k = some v → others.get? k = some v := by
      intro keys
      induction keys with
      | nil => exact fun _ => id
      | cons key keys ih =>
        intro others hget
        have := ih _ hget
        rw [JsObject.get?_erase] at this
        split_ifs at this
        exact this
    exact h k v (hsub _ _ hv)

/-- `q` of a section that is set is what the helper returns, unless it is kept. -/
theorem q_paginationSetParams {action : SetParams}
    (h : action.overwrite = true ∨ state.params.q = none) :
    (paginationSetParams state action).params.q =
      some (getUniqueQParams action.params state.params) := by
  simp only [paginationSetParams, removeEmptyParams]
  split_ifs with hoverwrite
  · rfl
  · rw [PaginationParam.spread, h.resolve_left hoverwrite]
    rfl

theorem uniqueQ_removeParams (h : UniqueQ state.params) (action : RemoveParams) :
    UniqueQ (paginationRemoveParams state action).params := by
  refine h.of_sublist ?_
  simp only [paginationRemoveParams, qOf]
  split_ifs
  · exact List.nil_sublist _
  · cases state.params.q <;> simp

theorem qOverridden_of_q_eq {params actionParams stateParams : PaginationParam}
    (h : UniqueQ stateParams) (hq : params.q = some (getUniqueQParams actionParams stateParams))
    (hgives : GivesNoEmptyList actionParams) : QOverridden stateParams actionParams params := by
  intro p
  rw [qOf, hq, ← uniqueQParam_eq_overridden h hgives]
  exact mem_getUniqueQParams_iff h p

theorem set_keeps (h : NoEmpty state.params) {action : SetParams}
    (hoverwrite : action.overwrite = false) :
    (∀ q, state.params.q = some q → (paginationSetParams state action).params.q = some q) ∧
      ∀ k v, state.params.others.get? k = some v →
        (paginationSetParams state action).params.others.get? k = some v := by
  refine ⟨fun q hq => ?_, fun k v hv => ?_⟩
  · simp [paginationSetParams, hoverwrite, removeEmptyParams, PaginationParam.spread, hq]
  · simp only [paginationSetParams, hoverwrite, get?_removeEmptyParams, PaginationParam.spread]
    rw [if_neg Bool.false_ne_true, JsObject.get?_spread, hv, Option.some_or, Option.filter_some,
      if_pos (h k v hv)]

theorem add_keeps (h : NoEmpty state.params) {params : PaginationParam} {k : String}
    (hk : params.others.get? k = none) :
    (paginationAddParams state params).params.others.get? k = state.params.others.get? k := by
  simp only [paginationAddParams, get?_removeEmptyParams, PaginationParam.spread]
  rw [JsObject.get?_spread, hk, Option.none_or]
  cases hv : state.params.others.get? k with
  | none => rfl
  | some v => rw [Option.filter_some, if_pos (h k v hv)]

/-- Adding the same parameters again changes nothing, not even an order. -/
theorem add_add (h : UniqueQ state.params) {params : PaginationParam}
    (hgives : GivesNoEmptyList params) :
    paginationAddParams (paginationAddParams state params) params =
      paginationAddParams state params := by
  have hq : getUniqueQParams params (paginationAddParams state params).params =
      getUniqueQParams params state.params := by
    have hq' : qOf (paginationAddParams state params).params =
        getUniqueQParams params state.params := rfl
    have hunique : UniqueQ (paginationAddParams state params).params := 
      (uniqueQ_iff_of_q_eq h rfl).2 hgives
    rw [getUniqueQParams_eq hunique, hq', getUniqueQParams_eq h]
    exact filter_foldl_upsert h.nodup _
  have hothers : (paginationAddParams (paginationAddParams state params) params).params.others =
      (paginationAddParams state params).params.others :=
    removeEmptyParams_spread state.params params
  have hparams : (paginationAddParams (paginationAddParams state params) params).params =
      (paginationAddParams state params).params :=
    congrArg₂ PaginationParam.mk (congrArg some hq) hothers
  exact congrArg (fun params => { state with params := params }) hparams

theorem get?_foldl_erase (keys : List String) (others : JsObject ParamValue) (k : String) :
    (keys.foldl JsObject.erase others).get? k = if k ∈ keys then none else others.get? k := by
  induction keys generalizing others with
  | nil => simp
  | cons key keys ih =>
    rw [List.foldl_cons, ih, JsObject.get?_erase]
    by_cases hk : k = key <;> simp [hk]

/-- The removal keeps the entries with the empty key. -/
theorem remove_iff {action : RemoveParams} :
    (paginationRemoveParams state action).params.q = (if "q" ∈ action.params then none
      else state.params.q.map fun q => q.filter fun p => p.key ∉ action.qs) ↔
    EditFits state (.remove action) := by
  simp only [paginationRemoveParams, EditFits, qOf]
  split_ifs with hq
  · simp [hq]
  · rcases state.params.q with _ | q
    · simp
    · simp only [Option.map_some, Option.some.injEq, Option.getD_some, hq, not_false_eq_true,
        true_implies]
      constructor
      · intro h hempty p hp hkey
        have hmem : p ∈ q.filter fun p => p.key = "" ∨ p.key ∉ action.qs :=
          List.mem_filter.2 ⟨hp, by simp [hkey]⟩
        rw [h] at hmem
        have hnot : p.key ∉ action.qs := by simpa using (List.mem_filter.1 hmem).2
        exact hnot (hkey ▸ hempty)
      · intro h
        refine List.filter_congr fun p hp => ?_
        by_cases hkey : p.key = ""
        · have hnot : "" ∉ action.qs := fun hempty => h hempty p hp hkey
          simp [hkey, hnot]
        · simp [hkey]

/-- From a section that is kept an edit is exact, and leaves a unique `q`, if and only if it
fits. -/
theorem editIsExact_iff (h : Kept state.params) (edit : ParamEdit) :
    (EditIsExact state edit ∧ UniqueQ (edit.apply state).params) ↔ EditFits state edit := by
  cases edit with
  | set action =>
    by_cases hcase : action.overwrite = true ∨ state.params.q = none
    · have hq := q_paginationSetParams hcase
      have hunique := uniqueQ_iff_of_q_eq h.q hq
      refine ⟨fun hboth _ => hunique.1 hboth.2, fun hfits => ⟨?_, hunique.2 (hfits hcase)⟩⟩
      cases hoverwrite : action.overwrite with
      | true =>
        rw [EditIsExact, if_pos hoverwrite]
        exact qOverridden_of_q_eq h.q hq (hfits hcase)
      | false =>
        rw [EditIsExact, if_neg (by simp [hoverwrite])]
        exact set_keeps h.others hoverwrite
    · refine iff_of_true ⟨?_, ?_⟩ fun hboth => absurd hboth hcase
      · have hoverwrite : action.overwrite = false := by
          simpa using fun hoverwrite => hcase (Or.inl hoverwrite)
        rw [EditIsExact, if_neg (by simp [hoverwrite])]
        exact set_keeps h.others hoverwrite
      · refine h.q.of_sublist ?_
        obtain ⟨q, hq⟩ := Option.ne_none_iff_exists'.1 fun hq => hcase (Or.inr hq)
        have hoverwrite : ¬action.overwrite = true := fun hoverwrite => hcase (Or.inl hoverwrite)
        simp [ParamEdit.apply, paginationSetParams, hoverwrite, qOf, removeEmptyParams,
          PaginationParam.spread, hq]
  | add params =>
    have hunique : UniqueQ (paginationAddParams state params).params ↔ GivesNoEmptyList params :=
      uniqueQ_iff_of_q_eq h.q rfl
    refine ⟨fun hboth => hunique.1 hboth.2, fun hgives => ⟨?_, hunique.2 hgives⟩⟩
    exact ⟨qOverridden_of_q_eq h.q rfl hgives, fun k hk => add_keeps h.others hk,
      add_add h.q hgives⟩
  | remove action =>
    have hothers : ∀ k, (paginationRemoveParams state action).params.others.get? k =
        if k ∈ action.params then none else state.params.others.get? k := get?_foldl_erase _ _
    have hunique : UniqueQ (ParamEdit.apply state (.remove action)).params :=
      uniqueQ_removeParams h.q action
    rw [and_iff_left hunique, EditIsExact, and_iff_right hothers]
    exact remove_iff

end Edits

/-- From a section that is kept every edit of a run is exact if and only if it fits. -/
theorem editsAreExact_iff_of_kept {state : PaginationEntityState} (h : Kept state.params)
    (edits : List ParamEdit) : EditsAreExact state edits ↔ EditsFit state edits := by
  induction edits generalizing state with
  | nil => exact iff_of_true h.q trivial
  | cons edit edits ih =>
    have hstart : ∀ {state}, EditsAreExact state edits → UniqueQ state.params := by
      intro state hexact
      cases edits with
      | nil => exact hexact
      | cons => exact hexact.1
    constructor
    · rintro ⟨-, hexact, hrest⟩
      have hunique := hstart hrest
      exact ⟨(editIsExact_iff h edit).1 ⟨hexact, hunique⟩,
        (ih ⟨hunique, noEmpty_apply h.others edit⟩).1 hrest⟩
    · rintro ⟨hfits, hrest⟩
      obtain ⟨hexact, hunique⟩ := (editIsExact_iff h edit).2 hfits
      exact ⟨h.q, hexact, (ih ⟨hunique, noEmpty_apply h.others edit⟩).2 hrest⟩

/-- In a run from the start `q` stays unique and every edit is exact if and only if every edit
fits. -/
theorem editsAreExact_iff (edits : List ParamEdit) :
    EditsAreExact getDefaultPaginationEntityState edits ↔
      EditsFit getDefaultPaginationEntityState edits :=
  @editsAreExact_iff_of_kept getDefaultPaginationEntityState
    ⟨⟨List.nodup_nil, fun _ h => (List.not_mem_nil h).elim⟩,
      fun _ _ h => (Option.some_ne_none _ h.symm).elim⟩ edits

/-- The entry with the empty key is named, and stays. -/
theorem not_editsAreExact_emptyKey : ¬EditsAreExact getDefaultPaginationEntityState
    [.add ⟨some [⟨"", .text "x", .colon⟩], JsObject.empty⟩, .remove ⟨[], [""]⟩] := by
  rintro ⟨-, -, -, ⟨-, hq⟩, -⟩
  revert hq
  decide

end QueryParams

end Stratos
