import Stratos.Frontend.ApiRequest
import Stratos.Frontend.EntityTreeCache
import Stratos.Lib.Lists

/-!
# What issuing a request leaves behind

`OnlyReads` says that issuing a request leaves the store and the action's `initialParams` as
they were, that issuing it again sends the same endpoint list and the same parameters, and that
no filter is sent twice.

`onlyReads_iff` says exactly when that is so. An endpoint that is being disconnected is deleted
from the store (`not_onlyReads_disconnecting`), `q` is deleted from the `initialParams`, and
the depth of the relations is counted again on the second request.
-/

open Lib

namespace Stratos

/-! ## The property and its condition -/

/-- Issuing the request only reads the store and the action : it can be issued again, with the
same endpoint list and the same parameters. -/
def OnlyReads (localeLE : String → String → Bool) (w : ApiWorld) : Prop :=
  ∃ req w', doApiRequest localeLE w = some (req, w') ∧ w'.state = w.state ∧
    w'.action.initialParams = w.action.initialParams ∧
    (∃ req' w'', doApiRequest localeLE w' = some (req', w'') ∧
      req'.headers.get? endpointHeader = req.headers.get? endpointHeader ∧
      req'.params = req.params) ∧
    ((req.params.getD JsObject.empty).getAll "q").Nodup

/-- The filters of the section of the store, or of the options of an action that is not
paginated. -/
def requestFilters (w : ApiWorld) : List ParamValue :=
  match w.action.paginationKey with
  | some paginationKey =>
    (qParamsToString ((getPaginationParams (selectPaginationState w.action.entityKey paginationKey
      w.state.pagination)).q.getD [])).map .text
  | none => (w.action.params.getD JsObject.empty).getAll "q"

section Inlined

variable (localeLE : String → String → Bool) (cache : JsObject EntityTree)
  (action : EntityInlineParentAction)

/-- The tree that the request finds for the action, in the cache or from the schema. -/
def foundTree : EntityTree :=
  (cache.get? (generateCacheKey localeLE action.entity.key action)).getD
    (createEntityTree action.entity action.isArray)

/-- None of its first relations is included. -/
def HasNoInlined : Prop :=
  ∀ t ∈ (foundTree localeLE cache action).rootRelation.children, isIncluded action.included
    (foundTree localeLE cache action).rootRelation.label t.label = false

/-- The depth that the tree has, and one for each relation that keeps relations. -/
def inlinedDepth : ℕ :=
  (foundTree localeLE cache action).maxDepth + RoseTree.inner
    (RoseTree.pruneTree (isIncluded action.included) (foundTree localeLE cache action).rootRelation)

end Inlined

/-- What a request needs to be made of the action and the store, without a throw. -/
structure RequestIsClean (localeLE : String → String → Bool) (w : ApiWorld) : Prop where
  /-- A request that is flattened has parameters. -/
  params : w.action.flattenPagination = true →
    w.action.paginationKey.isSome ∨ w.action.params.isSome
  /-- Without an endpoint of its own, no endpoint is being disconnected. -/
  connected : w.action.endpointGuid = none → ∀ guid ∈ w.state.endpoint.keys,
    isDisconnecting w.state guid = some false
  /-- The initial parameters of a paginated action have no filters. -/
  initial : w.action.paginationKey.isSome → ∀ params, w.action.initialParams = some params →
    params.q = none
  /-- The filters are distinct. -/
  filters : (requestFilters w).Nodup
  /-- Of the relations that the action inlines, none is included, or their depth is at its
  bound. -/
  depth : ∀ action, w.action.relations = some action →
    HasNoInlined localeLE w.entityTreeCache action ∨
      2 ≤ inlinedDepth localeLE w.entityTreeCache action

/-! ## Parameters -/

section Params

theorem getAll_set_of_ne {params : URLSearchParams} {name key : String} {values : List ParamValue}
    (h : name ≠ key) : URLSearchParams.getAll (params.set key values) name =
      params.getAll name := by
  rw [URLSearchParams.getAll, JsObject.get?_set, if_neg h, URLSearchParams.getAll]

/-- `setRequestParams` appends the filters. -/
theorem getAll_setRequestParams (requestParams : URLSearchParams) (params : PaginationParam) :
    (setRequestParams requestParams params).1.getAll "q" =
      requestParams.getAll "q" ++ (qParamsToString (params.q.getD [])).map .text := by
  have happend : ∀ (qs : List String) (ps : URLSearchParams),
      (qs.foldl (fun ps q => ps.append "q" (.text q)) ps).getAll "q" =
        ps.getAll "q" ++ qs.map .text := by
    intro qs
    induction qs with
    | nil => simp
    | cons q qs ih =>
      intro ps
      rw [List.foldl_cons, ih, URLSearchParams.append, URLSearchParams.getAll,
        JsObject.get?_set_self, Option.getD_some, List.map_cons, URLSearchParams.getAll,
        List.append_assoc, List.singleton_append]
  have hq : ∀ others : JsObject ParamValue, "q" ∉ (others.erase "q").ownKeys := by
    intro others hmem
    rw [JsObject.mem_ownKeys, ← JsObject.isSome_get?_iff, JsObject.get?_erase] at hmem
    simp at hmem
  unfold setRequestParams
  -- The loop over the other parameters sets no filter.
  refine List.foldlRecOn (motive := fun ps : URLSearchParams => ps.getAll "q" = _) _ _ ?_ ?_
  · cases params.q with
    | none => simp [qParamsToString]
    | some qs => exact happend _ _
  · intro ps hps key hkey
    have hne : "q" ≠ key := by
      rintro rfl
      exact hq _ hkey
    split
    · exact (getAll_set_of_ne hne).trans hps
    · exact hps

/-- Without filters the object is left as it was. -/
theorem setRequestParams_snd {requestParams : URLSearchParams} {params : PaginationParam}
    (h : params.q = none) : (setRequestParams requestParams params).2 = params := by
  simp only [setRequestParams, h]

/-- The filters are taken out of the object. -/
theorem q_setRequestParams_snd (requestParams : URLSearchParams) (params : PaginationParam) :
    (setRequestParams requestParams params).2.q = none := by
  unfold setRequestParams
  cases h : params.q with
  | none => exact h
  | some qs => rfl

end Params

/-! ## The endpoints -/

theorem get?_foldl_erase {α : Type*} (ks : List String) (o : JsObject α) (k : String) :
    (ks.foldl JsObject.erase o).get? k = if k ∈ ks then none else o.get? k := by
  induction ks generalizing o with
  | nil => simp
  | cons a ks ih =>
    rw [List.foldl_cons, ih, JsObject.get?_erase]
    by_cases hmem : k ∈ ks
    · simp [hmem]
    · simp [hmem]

/-- The endpoints are all available when none is being disconnected. -/
theorem availableEndpoints_eq_iff {state : ApiState} :
    availableEndpoints state = some state.endpoint ↔
      ∀ guid ∈ state.endpoint.keys, isDisconnecting state guid = some false := by
  constructor
  · intro h guid hguid
    simp only [availableEndpoints, Option.bind_eq_bind, Option.pure_def,
      Option.bind_eq_some_iff] at h
    obtain ⟨guids, hguids, herase⟩ := h
    obtain ⟨hsome, rfl⟩ := filterM_eq_some.1 hguids
    have hmem := JsObject.mem_ownKeys.2 hguid
    obtain ⟨b, hb⟩ := Option.isSome_iff_exists.1 (hsome guid hmem)
    cases b with
    | false => exact hb
    | true =>
      have hget := congrArg (·.get? guid) (Option.some.inj herase)
      simp only [get?_foldl_erase] at hget
      rw [if_pos (List.mem_filter.2 ⟨hmem, by simp [hb]⟩)] at hget
      exact absurd hguid (JsObject.get?_eq_none_iff.1 hget.symm)
  · intro h
    have hguids : state.endpoint.ownKeys.filterM (isDisconnecting state) = some [] := by
      refine filterM_eq_some.2 ⟨fun guid hguid => ?_, ?_⟩
      · rw [h guid (JsObject.mem_ownKeys.1 hguid)]
        rfl
      · refine (List.filter_eq_nil_iff.2 fun guid hguid => ?_).symm
        simp [h guid (JsObject.mem_ownKeys.1 hguid)]
    simp only [availableEndpoints, hguids]
    rfl

theorem requestEndpoints_eq_iff {endpointGuid : Option String} {state : ApiState} :
    requestEndpoints endpointGuid state = some state.endpoint ↔
      (endpointGuid = none → ∀ guid ∈ state.endpoint.keys,
        isDisconnecting state guid = some false) := by
  cases endpointGuid with
  | some guid => exact iff_of_true rfl fun h => (by cases h)
  | none => exact availableEndpoints_eq_iff.trans ⟨fun h _ => h, fun h => h rfl⟩

/-! ## The relations -/

/-- Relations whose parameters are all known add none. -/
theorem parseChildren_names (includeRelations : List String) (parent : EntityRelation)
    (ts : List EntityTreeRelation) (info : TreeInfo)
    (h : ∀ n, RoseTree.Occurs (fun r => r.paramName = n)
      (RoseTree.prune (isIncluded includeRelations) parent ts) → n ∈ info.requiredParamNames) :
    (parseChildren includeRelations parent ts info).2.requiredParamNames =
      info.requiredParamNames := by
  induction ts using RoseTree.forest_induction generalizing parent info with
  | nil => rfl
  | cons r cs ts ihc iht =>
    by_cases hk : isIncluded includeRelations parent r = true
    · rw [RoseTree.prune, RoseTree.label_node, if_pos hk, RoseTree.pruneTree] at h
      have hadd : (info.addName r.paramName) = info := by
        rw [TreeInfo.addName, if_pos (h _ (RoseTree.occurs_cons.2 (Or.inl rfl)))]
      have hnode := (parseEntityTree_node includeRelations r cs info).2.1
      rw [ihc r info fun n hn => h n (RoseTree.occurs_cons.2 (Or.inr (Or.inl hn)))] at hnode
      rw [parseChildren, RoseTree.label_node, if_pos hk, hadd]
      refine (iht parent _ fun n hn => ?_).trans hnode
      rw [hnode]
      exact h n (RoseTree.occurs_cons.2 (Or.inr (Or.inr hn)))
    · rw [RoseTree.prune, RoseTree.label_node, if_neg hk] at h
      rw [parseChildren, RoseTree.label_node, if_neg hk]
      exact iht parent info h

section Relations

variable (localeLE : String → String → Bool) (cache : JsObject EntityTree)
  (action : EntityInlineParentAction)

/-- The tree that a request uses keeps no relation, or has the bound as its depth. -/
theorem fetchEntityTree_depth_iff :
    ((fetchEntityTree localeLE cache action true).1.rootRelation.children = [] ∨
        2 ≤ (fetchEntityTree localeLE cache action true).1.maxDepth) ↔
      (HasNoInlined localeLE cache action ∨ 2 ≤ inlinedDepth localeLE cache action) := by
  have hfound : (fetchEntityTree localeLE cache action true).1 =
      ⟨(parseEntityTree action.included (foundTree localeLE cache action).rootRelation
          ⟨(foundTree localeLE cache action).requiredParamNames,
            (foundTree localeLE cache action).maxDepth⟩).2.maxDepth,
        .node (foundTree localeLE cache action).rootRelation.label
          (parseEntityTree action.included (foundTree localeLE cache action).rootRelation
            ⟨(foundTree localeLE cache action).requiredParamNames,
              (foundTree localeLE cache action).maxDepth⟩).1,
        (parseEntityTree action.included (foundTree localeLE cache action).rootRelation
          ⟨(foundTree localeLE cache action).requiredParamNames,
            (foundTree localeLE cache action).maxDepth⟩).2.requiredParamNames⟩ := by
    simp only [fetchEntityTree, foundTree]
    cases cache.get? (generateCacheKey localeLE action.entity.key action) <;> rfl
  rw [hfound, HasNoInlined, inlinedDepth]
  generalize foundTree localeLE cache action = tree
  obtain ⟨maxDepth, ⟨root, children⟩, names⟩ := tree
  obtain ⟨hrel, hdepth, -, -⟩ := parseEntityTree_spec action.included (.node root children)
    ⟨names, maxDepth⟩
  rw [RoseTree.label_node, RoseTree.children_node] at hrel hdepth
  rw [RoseTree.children_node, hrel, hdepth, RoseTree.prune_eq_nil_iff]
  rfl

/-- The tree that a call returns is pruned, its parameters are those of its relations and more,
and its depth is at least the number of relations that keep relations. -/
theorem fetchEntityTree_parsed (fromCache : Bool) :
    let tree := (fetchEntityTree localeLE cache action fromCache).1
    RoseTree.prune (isIncluded action.included) tree.rootRelation.label tree.rootRelation.children =
        tree.rootRelation.children ∧
      (∀ n, RoseTree.Occurs (fun r => r.paramName = n) tree.rootRelation.children →
        n ∈ tree.requiredParamNames) ∧
      RoseTree.inner tree.rootRelation ≤ tree.maxDepth := by
  intro tree
  obtain ⟨t, info, htree⟩ : ∃ (t : EntityTreeRelation) (info : TreeInfo),
      tree = ⟨(parseEntityTree action.included t info).2.maxDepth,
        .node t.label (parseEntityTree action.included t info).1,
        (parseEntityTree action.included t info).2.requiredParamNames⟩ := ⟨_, _, rfl⟩
  obtain ⟨hrel, hdepth, hnames, -⟩ := parseEntityTree_spec action.included t info
  rw [htree]
  refine ⟨?_, fun n hn => (hnames n).2 (Or.inr ?_), ?_⟩
  · rw [RoseTree.label_node, RoseTree.children_node, hrel, RoseTree.prune_prune]
  · rw [← hrel]
    exact hn
  · rw [hrel, hdepth]
    exact Nat.le_add_left _ _

theorem fetchEntityTree_cached {tree : EntityTree}
    (h : cache.get? (generateCacheKey localeLE action.entity.key action) = some tree) :
    let r := parseEntityTree action.included tree.rootRelation
      ⟨tree.requiredParamNames, tree.maxDepth⟩
    (fetchEntityTree localeLE cache action true).1 =
      ⟨r.2.maxDepth, .node tree.rootRelation.label r.1, r.2.requiredParamNames⟩ := by
  simp only [fetchEntityTree, h]

theorem get?_fetchEntityTree (fromCache : Bool) :
    (fetchEntityTree localeLE cache action fromCache).2.get?
        (generateCacheKey localeLE action.entity.key action) =
      some (fetchEntityTree localeLE cache action fromCache).1 :=
  JsObject.get?_set_self _ _ _

/-- The next call returns the same tree, with the depth counted again. -/
theorem fetchEntityTree_again (fromCache : Bool) :
    (fetchEntityTree localeLE (fetchEntityTree localeLE cache action fromCache).2 action true).1 =
      { (fetchEntityTree localeLE cache action fromCache).1 with
        maxDepth := (fetchEntityTree localeLE cache action fromCache).1.maxDepth +
          RoseTree.inner (fetchEntityTree localeLE cache action fromCache).1.rootRelation } := by
  obtain ⟨hprune, hnames, -⟩ := fetchEntityTree_parsed localeLE cache action fromCache
  have hget := get?_fetchEntityTree localeLE cache action fromCache
  rw [fetchEntityTree_cached _ _ _ hget]
  generalize (fetchEntityTree localeLE cache action fromCache).1 = tree at hprune hnames
  obtain ⟨maxDepth, ⟨root, children⟩, requiredParamNames⟩ := tree
  change RoseTree.prune (isIncluded action.included) root children = children at hprune
  obtain ⟨hrel, hdepth, -, -⟩ := parseEntityTree_spec action.included (.node root children)
    ⟨requiredParamNames, maxDepth⟩
  have hkept := parseChildren_names action.included root children ⟨requiredParamNames, maxDepth⟩
    (by rw [hprune]; exact hnames)
  have hnode := (parseEntityTree_node action.included root children
    ⟨requiredParamNames, maxDepth⟩).2.1
  rw [hkept] at hnode
  rw [RoseTree.label_node, RoseTree.children_node, hprune] at hrel hdepth
  rw [hrel, hdepth, hnode]
  rfl

end Relations

section RelationParams

theorem get?_setRelationParams (params : URLSearchParams) (tree : EntityTree) :
    (setRelationParams params tree).get? "inline-relations-depth" = if tree.maxDepth > 0 then
        some [.number (if tree.maxDepth > 2 then 2 else tree.maxDepth)]
      else params.get? "inline-relations-depth" := by
  unfold setRelationParams
  split_ifs <;> simp [JsObject.get?_set]

theorem getAll_setRelationParams (params : URLSearchParams) (tree : EntityTree) :
    (setRelationParams params tree).getAll "q" = params.getAll "q" := by
  unfold setRelationParams
  split_ifs <;> simp [URLSearchParams.getAll, JsObject.get?_set]

theorem get?_page_setRelationParams (params : URLSearchParams) (tree : EntityTree) :
    (setRelationParams params tree).get? "page" = params.get? "page" := by
  unfold setRelationParams
  split_ifs <;> simp [JsObject.get?_set]

theorem setRelationParams_eq_self {params : URLSearchParams} {tree : EntityTree}
    (hdepth : tree.maxDepth > 0 → params.get? "inline-relations-depth" =
      some [.number (if tree.maxDepth > 2 then 2 else tree.maxDepth)])
    (hnames : tree.requiredParamNames.isEmpty ≠ true → params.get? "include-relations" =
      some [.text (",".intercalate (tree.requiredParamNames.map fun name => name.getD ""))]) :
    setRelationParams params tree = params := by
  have hset : (if tree.maxDepth > 0 then params.set "inline-relations-depth"
      [.number (if tree.maxDepth > 2 then 2 else tree.maxDepth)] else params) = params := by
    by_cases hpos : tree.maxDepth > 0
    · rw [if_pos hpos, JsObject.set_eq_self (hdepth hpos)]
    · rw [if_neg hpos]
  unfold setRelationParams
  rw [hset]
  split_ifs with hempty
  · rfl
  · exact JsObject.set_eq_self (hnames hempty)

/-- Setting the parameters again changes nothing. -/
theorem setRelationParams_self (params : URLSearchParams) (tree : EntityTree) :
    setRelationParams (setRelationParams params tree) tree = setRelationParams params tree := by
  refine setRelationParams_eq_self (fun hpos => ?_) fun hne => ?_
  · rw [get?_setRelationParams, if_pos hpos]
  · rw [setRelationParams, if_neg hne, JsObject.get?_set_self]

variable {localeLE : String → String → Bool} {params params' : Option URLSearchParams}
  {cache : JsObject EntityTree} {relations : Option EntityInlineParentAction}

/-- The parameters are the same the next time, on the same parameters or on those of the first
time, when no relation is kept or the depth is at its bound. -/
theorem addRelationParams_again
    (h : params' = params ∨ params' = (addRelationParams localeLE params cache relations).1) :
    (addRelationParams localeLE params' (addRelationParams localeLE params cache relations).2
        relations).1 = (addRelationParams localeLE params cache relations).1 ↔
      ∀ action, relations = some action →
        (fetchEntityTree localeLE cache action true).1.rootRelation.children = [] ∨
          2 ≤ (fetchEntityTree localeLE cache action true).1.maxDepth := by
  cases relations with
  | none => exact iff_of_true (h.elim id id) fun _ h => (by cases h)
  | some action =>
    have hagain := fetchEntityTree_again localeLE cache action true
    have hinner := (fetchEntityTree_parsed localeLE cache action true).2.2
    have hself : setRelationParams (params'.getD JsObject.empty)
        (fetchEntityTree localeLE cache action true).1 =
        setRelationParams (params.getD JsObject.empty)
          (fetchEntityTree localeLE cache action true).1 := by
      rcases h with rfl | rfl
      · rfl
      · exact setRelationParams_self _ _
    simp only [addRelationParams, Option.some_inj, forall_eq', hagain] at h ⊢
    generalize (fetchEntityTree localeLE cache action true).1 = tree at hinner hself
    rw [← hself]
    obtain ⟨maxDepth, ⟨root, children⟩, names⟩ := tree
    dsimp only [RoseTree.children_node] at hinner ⊢
    constructor
    · intro heq
      have hget := congrArg (·.get? "inline-relations-depth") heq
      simp only [get?_setRelationParams] at hget
      rw [← RoseTree.inner_eq_zero_iff (a := root)]
      by_cases hpos : maxDepth > 0
      · rw [if_pos (by omega), if_pos hpos] at hget
        have hclamp := (ParamValue.number.injEq _ _).mp (by simpa using hget)
        split_ifs at hclamp <;> omega
      · omega
    · intro hor
      have hsame : (if maxDepth + RoseTree.inner (.node root children) > 2 then 2
          else ((maxDepth + RoseTree.inner (.node root children) : ℕ) : ℤ)) =
          if maxDepth > 2 then 2 else (maxDepth : ℤ) := by
        rw [← RoseTree.inner_eq_zero_iff (a := root)] at hor
        split_ifs <;> omega
      have hpos : maxDepth + RoseTree.inner (.node root children) > 0 ↔ maxDepth > 0 := by omega
      simp only [setRelationParams, hsame, hpos]

end RelationParams

/-! ## The request -/

section Requests

variable {localeLE : String → String → Bool} {w w' : ApiWorld} {req : ApiRequest}

/-- The first page is left as it was. -/
theorem setFirstPage_self {flatten : Bool} {params params' : Option URLSearchParams}
    (h : setFirstPage flatten params = some params') :
    setFirstPage flatten params' = some params' := by
  cases flatten with
  | false => rfl
  | true =>
    cases params with
    | none => simp [setFirstPage] at h
    | some ps =>
      obtain rfl : some (ps.set "page" [.text "1"]) = params' := by simpa [setFirstPage] using h
      simp [setFirstPage, JsObject.set_eq_self]

theorem getAll_setFirstPage {flatten : Bool} {params params' : Option URLSearchParams}
    (h : setFirstPage flatten params = some params') :
    (params'.getD JsObject.empty).getAll "q" = (params.getD JsObject.empty).getAll "q" := by
  cases flatten with
  | false =>
    obtain rfl : params = params' := Option.some.inj h
    rfl
  | true =>
    cases params with
    | none => simp [setFirstPage] at h
    | some ps =>
      obtain rfl : some (ps.set "page" [.text "1"]) = params' := by simpa [setFirstPage] using h
      exact getAll_set_of_ne (by decide)

theorem setFirstPage_addRelationParams {flatten : Bool} {params params' : Option URLSearchParams}
    {cache : JsObject EntityTree} {relations : Option EntityInlineParentAction}
    (h : setFirstPage flatten params = some params') :
    setFirstPage flatten (addRelationParams localeLE params' cache relations).1 =
      some (addRelationParams localeLE params' cache relations).1 := by
  have hself := setFirstPage_self h
  cases relations with
  | none => exact hself
  | some action =>
    cases flatten with
    | false => rfl
    | true =>
      cases params with
      | none => simp [setFirstPage] at h
      | some ps =>
        obtain rfl : some (ps.set "page" [.text "1"]) = params' := by
          simpa [setFirstPage] using h
        simp [setFirstPage, addRelationParams, JsObject.set_eq_self, get?_page_setRelationParams]

theorem getAll_addRelationParams (params : Option URLSearchParams) (cache : JsObject EntityTree)
    (relations : Option EntityInlineParentAction) :
    ((addRelationParams localeLE params cache relations).1.getD JsObject.empty).getAll "q" =
      (params.getD JsObject.empty).getAll "q" := by
  cases relations with
  | none => rfl
  | some action => exact getAll_setRelationParams _ _

/-- The parameters of a request whose initial parameters have no filters : they can be built
again, and their filters are those of the section. -/
theorem paginationParams_clean
    (hinitial : w.action.paginationKey.isSome → ∀ params, w.action.initialParams = some params →
      params.q = none) :
    ∃ params, paginationParams w = (params, w.action.initialParams) ∧
      (params.getD JsObject.empty).getAll "q" = requestFilters w ∧
      (w.action.paginationKey = none → params = w.action.params) ∧
      (w.action.paginationKey.isSome → params.isSome) := by
  cases hkey : w.action.paginationKey with
  | none =>
    refine ⟨w.action.params, by simp only [paginationParams, hkey], ?_, fun _ => rfl, by simp⟩
    simp only [requestFilters, hkey]
  | some paginationKey =>
    rw [hkey] at hinitial
    have hsnd : (w.action.initialParams.map (setRequestParams JsObject.empty)).map Prod.snd =
        w.action.initialParams := by
      cases hparams : w.action.initialParams with
      | none => rfl
      | some params => exact congrArg some (setRequestParams_snd (hinitial rfl params hparams))
    have hfst : (((w.action.initialParams.map (setRequestParams JsObject.empty)).map
        Prod.fst).getD JsObject.empty).getAll "q" = [] := by
      cases hparams : w.action.initialParams with
      | none => rfl
      | some params =>
        refine (getAll_setRequestParams _ _).trans ?_
        rw [hinitial rfl params hparams]
        rfl
    simp only [paginationParams, hkey, hsnd]
    refine ⟨_, rfl, ?_, by simp, by simp⟩
    simp only [requestFilters, hkey, Option.getD_some]
    split_ifs
    · rw [getAll_setRequestParams, hfst, List.nil_append]
    · rw [getAll_set_of_ne (by decide), getAll_setRequestParams, hfst, List.nil_append]

/-- What a request that is sent has read. -/
theorem doApiRequest_eq_some (h : doApiRequest localeLE w = some (req, w')) :
    ∃ params params' initialParams endpoint,
      paginationParams w = (params, initialParams) ∧
      requestEndpoints w.action.endpointGuid w.state = some endpoint ∧
      setFirstPage w.action.flattenPagination params = some params' ∧
      req.params =
        (addRelationParams localeLE params' w.entityTreeCache w.action.relations).1 ∧
      req.headers = addBaseHeaders w.action.endpointGuid endpoint w.action.headers ∧
      w'.entityTreeCache =
        (addRelationParams localeLE params' w.entityTreeCache w.action.relations).2 ∧
      w'.state = { w.state with endpoint := endpoint } ∧
      w'.action = { w.action with
        initialParams := initialParams
        params := if w.action.paginationKey.isNone ∧ w.action.params.isSome then req.params
          else w.action.params
        headers := w.action.headers.map fun _ => req.headers } := by
  simp only [doApiRequest, Option.bind_eq_bind, Option.bind_eq_some_iff, Option.pure_def] at h
  obtain ⟨endpoint, hendpoint, params', hfirst, heq⟩ := h
  obtain ⟨rfl, rfl⟩ := Prod.ext_iff.1 (Option.some.inj heq)
  exact ⟨_, params', _, endpoint, rfl, hendpoint, hfirst, rfl, rfl, rfl, rfl, rfl⟩

/-- A request whose parameters and endpoints are there is sent. -/
theorem doApiRequest_of (localeLE : String → String → Bool)
    {params params' : Option URLSearchParams} {initialParams : Option PaginationParam}
    {endpoint : JsObject EndpointModel}
    (hparams : paginationParams w = (params, initialParams))
    (hendpoint : requestEndpoints w.action.endpointGuid w.state = some endpoint)
    (hfirst : setFirstPage w.action.flattenPagination params = some params') :
    ∃ req w', doApiRequest localeLE w = some (req, w') ∧
      req.headers = addBaseHeaders w.action.endpointGuid endpoint w.action.headers ∧
      req.params =
        (addRelationParams localeLE params' w.entityTreeCache w.action.relations).1 := by
  simp only [doApiRequest, hparams, hendpoint, hfirst, Option.bind_eq_bind, Option.bind_some,
    Option.pure_def]
  exact ⟨_, _, rfl, rfl, rfl⟩

/-- The parameters that the request reads are there the next time. -/
theorem paginationParams_again {params params' : Option URLSearchParams}
    {initialParams : Option PaginationParam}
    (hparams : paginationParams w = (params, initialParams))
    (hfirst : setFirstPage w.action.flattenPagination params = some params')
    (hstate : w'.state = w.state) (hkey : w'.action.paginationKey = w.action.paginationKey)
    (hentity : w'.action.entityKey = w.action.entityKey)
    (hinitial : w'.action.initialParams = w.action.initialParams)
    (hps : w'.action.params = if w.action.paginationKey.isNone ∧ w.action.params.isSome then
        (addRelationParams localeLE params' w.entityTreeCache w.action.relations).1
      else w.action.params) :
    ∃ params₂ params₂' initialParams₂, paginationParams w' = (params₂, initialParams₂) ∧
      setFirstPage w.action.flattenPagination params₂ = some params₂' ∧
      (params₂' = params' ∨ params₂' =
        (addRelationParams localeLE params' w.entityTreeCache w.action.relations).1) := by
  cases hpk : w.action.paginationKey with
  | some paginationKey =>
    refine ⟨params, params', initialParams, ?_, hfirst, Or.inl rfl⟩
    rw [← hparams]
    simp only [paginationParams, hkey, hentity, hinitial, hstate, hpk]
  | none =>
    have hread : paginationParams w = (w.action.params, w.action.initialParams) := by
      simp only [paginationParams, hpk]
    have hread' : paginationParams w' = (w'.action.params, w'.action.initialParams) := by
      simp only [paginationParams, hkey, hpk]
    rw [hread, Prod.mk.injEq] at hparams
    rw [← hparams.1] at hfirst
    cases hparam : w.action.params with
    | none =>
      rw [hparam, if_neg (by simp)] at hps
      rw [hparam, ← hps] at hfirst
      exact ⟨_, params', _, hread', hfirst, Or.inl rfl⟩
    | some ps =>
      rw [hpk, hparam, if_pos (by simp)] at hps
      refine ⟨_, _, _, hread', ?_, Or.inr rfl⟩
      rw [hps]
      exact setFirstPage_addRelationParams hfirst

/-- A request that left the store and the initial parameters is sent again with the same endpoint
list. The parameters are the same when no relation is kept or the depth is at its bound. -/
theorem doApiRequest_again (h : doApiRequest localeLE w = some (req, w'))
    (hstate : w'.state = w.state) (hinitial : w'.action.initialParams = w.action.initialParams) :
    ∃ req' w'', doApiRequest localeLE w' = some (req', w'') ∧
      req'.headers.get? endpointHeader = req.headers.get? endpointHeader ∧
      (req'.params = req.params ↔ ∀ action, w.action.relations = some action →
        (fetchEntityTree localeLE w.entityTreeCache action true).1.rootRelation.children = [] ∨
          2 ≤ (fetchEntityTree localeLE w.entityTreeCache action true).1.maxDepth) := by
  obtain ⟨params, params', initialParams, endpoint, hparams, hendpoint, hfirst, hreq, hheaders,
    hcache, -, haction⟩ := doApiRequest_eq_some h
  obtain ⟨params₂, params₂', initialParams₂, hparams₂, hfirst₂, hor⟩ :=
    paginationParams_again hparams hfirst hstate (by rw [haction]) (by rw [haction]) hinitial
      (by rw [haction, ← hreq])
  have hguid : w'.action.endpointGuid = w.action.endpointGuid := by rw [haction]
  have hflatten : w'.action.flattenPagination = w.action.flattenPagination := by rw [haction]
  have hrelations : w'.action.relations = w.action.relations := by rw [haction]
  rw [← hstate, ← hguid] at hendpoint
  rw [← hflatten] at hfirst₂
  obtain ⟨req', w'', hreq', hheaders', hparams'⟩ :=
    doApiRequest_of localeLE hparams₂ hendpoint hfirst₂
  refine ⟨req', w'', hreq', ?_, ?_⟩
  · rw [hheaders', hheaders, hguid]
    simp [addBaseHeaders]
  · rw [hparams', hreq, hcache, hrelations]
    exact addRelationParams_again hor

/-- A request that only reads, and can be repeated, is clean. -/
theorem OnlyReads.isClean (h : OnlyReads localeLE w) : RequestIsClean localeLE w := by
  obtain ⟨req, w', h, hstate, hinitial, ⟨req', w'', h', hheader, hparam⟩, hnodup⟩ := h
  obtain ⟨params, params', initialParams, endpoint, hparams, hendpoint, hfirst, hreq, -, -,
    hstate', haction⟩ := doApiRequest_eq_some h
  have hsame : initialParams = w.action.initialParams := by rw [← hinitial, haction]
  have hclean : w.action.paginationKey.isSome → ∀ params, w.action.initialParams = some params →
      params.q = none := by
    intro hsome ps hps
    obtain ⟨paginationKey, hkey⟩ := Option.isSome_iff_exists.1 hsome
    simp only [paginationParams, hkey, Prod.mk.injEq] at hparams
    obtain ⟨-, rfl⟩ := hparams
    rw [hps, Option.map_some, Option.map_some, Option.some_inj] at hsame
    rw [← hsame]
    exact q_setRequestParams_snd _ _
  obtain ⟨ps, hps, hfilters, hown, -⟩ := paginationParams_clean hclean
  obtain ⟨rfl, -⟩ := Prod.mk.inj (hparams.symm.trans hps)
  refine ⟨fun hflatten => ?_, ?_, hclean, ?_, ?_⟩
  · cases hkey : w.action.paginationKey with
    | some paginationKey => exact Or.inl rfl
    | none =>
      rw [hflatten, hown hkey] at hfirst
      refine Or.inr (Option.isSome_iff_ne_none.2 fun hnone => ?_)
      simp [hnone, setFirstPage] at hfirst
  · rw [hstate] at hstate'
    rw [← requestEndpoints_eq_iff, hendpoint, hstate']
  · rw [hreq, getAll_addRelationParams, getAll_setFirstPage hfirst, hfilters] at hnodup
    exact hnodup
  · obtain ⟨req₂, w₂, h₂, -, hiff⟩ := doApiRequest_again h hstate hinitial
    obtain ⟨rfl, -⟩ := Prod.mk.inj (Option.some.inj (h'.symm.trans h₂))
    exact fun action haction =>
      (fetchEntityTree_depth_iff localeLE _ action).1 (hiff.1 hparam action haction)

theorem onlyReads_of_clean (h : RequestIsClean localeLE w) : OnlyReads localeLE w := by
  obtain ⟨params, hparams, hfilters, hown, hsome⟩ := paginationParams_clean h.initial
  have hendpoint := requestEndpoints_eq_iff.2 h.connected
  obtain ⟨params', hfirst⟩ : ∃ params',
      setFirstPage w.action.flattenPagination params = some params' := by
    cases hflatten : w.action.flattenPagination with
    | false => exact ⟨_, rfl⟩
    | true =>
      have hisSome : params.isSome := by
        cases hkey : w.action.paginationKey with
        | some paginationKey => exact hsome (by rw [hkey]; rfl)
        | none =>
          rw [hown hkey]
          exact (h.params hflatten).resolve_left (by simp [hkey])
      obtain ⟨ps, rfl⟩ := Option.isSome_iff_exists.1 hisSome
      exact ⟨_, rfl⟩
  obtain ⟨req, w', hreq, -, hparam⟩ :=
    doApiRequest_of localeLE hparams hendpoint hfirst
  obtain ⟨params₁, params₁', initialParams, endpoint, hparams₁, hendpoint₁, -, -, -, -, hstate,
    haction⟩ := doApiRequest_eq_some hreq
  obtain ⟨-, rfl⟩ := Prod.mk.inj (hparams₁.symm.trans hparams)
  obtain rfl := Option.some.inj (hendpoint₁.symm.trans hendpoint)
  have hinitial : w'.action.initialParams = w.action.initialParams := by rw [haction]
  obtain ⟨req', w'', hreq', hheader, hiff⟩ := doApiRequest_again hreq hstate hinitial
  have hdepth := hiff.2 fun action haction =>
    (fetchEntityTree_depth_iff localeLE _ action).2 (h.depth action haction)
  refine ⟨req, w', hreq, hstate, hinitial, ⟨req', w'', hreq', hheader, hdepth⟩, ?_⟩
  rw [hparam, getAll_addRelationParams, getAll_setFirstPage hfirst, hfilters]
  exact h.filters

/-- Issuing a request only reads the store and the action, and can be repeated, exactly when it is
clean. -/
theorem onlyReads_iff (localeLE : String → String → Bool) (w : ApiWorld) :
    OnlyReads localeLE w ↔ RequestIsClean localeLE w :=
  ⟨OnlyReads.isClean, onlyReads_of_clean⟩

end Requests

/-! ## An endpoint that is being disconnected -/

/-- A store with one endpoint, which is being disconnected, and an action without parameters. -/
def disconnectingWorld : ApiWorld where
  state :=
    { endpoint := JsObject.empty.set "e" ⟨some .connected, JsObject.empty⟩
      request := JsObject.empty.set endpointSchemaKey (JsObject.empty.set "e"
        { getDefaultRequestState with
          updating := JsObject.empty.set disconnectingKey
            { getDefaultActionState with busy := true } })
      pagination := JsObject.empty }
  entityTreeCache := JsObject.empty
  action :=
    { entityKey := "application"
      endpointGuid := none
      paginationKey := none
      flattenPagination := false
      url := "apps"
      relations := none
      initialParams := none
      params := none
      headers := none }

/-- The request deletes the endpoint from the store. -/
theorem not_onlyReads_disconnecting :
    ¬∀ (localeLE : String → String → Bool) (w : ApiWorld), OnlyReads localeLE w := by
  intro h
  obtain ⟨req, w', hrequest, hstate, -⟩ := h (fun _ _ => true) disconnectingWorld
  obtain ⟨-, -, -, endpoint, -, hendpoint, -, -, -, -, hstate', -⟩ := doApiRequest_eq_some hrequest
  obtain rfl : disconnectingWorld.state.endpoint = endpoint := by
    rw [hstate] at hstate'
    exact congrArg ApiState.endpoint hstate'
  have hconnected := requestEndpoints_eq_iff.1 hendpoint rfl "e" (by decide)
  have hdisconnecting : isDisconnecting disconnectingWorld.state "e" = some true := by decide
  rw [hdisconnecting] at hconnected
  cases hconnected

end Stratos
