import Mathlib.Data.List.Induction
import Mathlib.Data.Option.Basic
import Mathlib.Data.Set.Basic
import Stratos.Lib.JsObject
import Stratos.Lib.Lists

/-!
# The child lists of spaces and service instances

A space lists the guids of its applications, a service instance those of its bindings. Two
reducers edit the lists when a child is created or deleted
(`application-add-remove-reducer.ts`, `service-instance.reducer.ts`). `Follows` is what they are
for : after any actions a list holds what it held, with what was created and without what was
deleted since, each once.

They do so exactly when every action is one they handle (`follows_iff`, `Handled`). What they do
not handle :

* two new applications of one space in a response : the second replaces the first;
* an application of a space, or a binding of a service instance, that is not loaded : they throw;
* a child that is created again : it is listed twice;
* a binding of a service instance without a list : `undefined` is listed before it;
* the deletion of a binding that another service instance lists too.
-/

open Lib

namespace Stratos

namespace ChildLists

variable {α : Type}

/-! ## The entities -/

/-- `APIResource<ISpace>` : the guids of the applications, and what the reducer does not read. -/
structure SpaceResource (α : Type) where
  apps : Option (List String)
  rest : α
  deriving DecidableEq

/-- `APIResource<IApp>` : `metadata.guid` and `entity.space_guid`. -/
structure AppResource where
  guid : String
  spaceGuid : String
  deriving DecidableEq

/-- `APIResource<IServiceInstance>`. A guid in the list may be `undefined`. -/
structure ServiceInstanceResource (α : Type) where
  serviceBindings : Option (List (Option String))
  name : Option String
  tags : Option (List String)
  params : Option α
  rest : α
  deriving DecidableEq

/-- The two slices of the request data. -/
structure EntityStore (α : Type) where
  spaces : JsObject (SpaceResource α)
  serviceInstances : JsObject (ServiceInstanceResource α)
  deriving DecidableEq

/-- The response to the creation of a binding : the guids of its bindings by their keys. -/
structure BindingResponse where
  serviceBinding : JsObject String
  result : List String
  deriving DecidableEq

/-- The successes that create or delete a child. -/
inductive ChildAction
  /-- `CREATE_SUCCESS` with `response.entities.application`. -/
  | createApp (application : Option (JsObject AppResource))
  /-- `DELETE_SUCCESS` -/
  | deleteApp (guid : String)
  /-- `CREATE_SERVICE_BINDING_ACTION_SUCCESS` -/
  | createBinding (serviceInstanceGuid : String) (response : BindingResponse)
  /-- `DELETE_SERVICE_BINDING_ACTION_SUCCESS` -/
  | deleteBinding (serviceInstanceGuid guid : String)

/-- What the reducers are called with. -/
inductive StoreAction (α : Type)
  | child (action : ChildAction)
  /-- `UPDATE_SERVICE_INSTANCE_SUCCESS` -/
  | updateServiceInstance (guid : String) (name : Option String) (tags : Option (List String))
      (params : Option α)
  | other

/-! ## The reducers -/

/-- `apps` replaced. -/
def SpaceResource.withApps (space : SpaceResource α) (apps : List String) : SpaceResource α :=
  { space with apps := some apps }

/-- `deepMergeState` of entities that have nothing but `entity.apps` : the other fields and the
metadata of the loaded spaces stay. -/
def deepMergeState (state : JsObject (SpaceResource α)) (updatedSpaces : JsObject (List String)) :
    JsObject (SpaceResource α) :=
  state.mapValues fun spaceGuid space =>
    match updatedSpaces.get? spaceGuid with
    | some apps => space.withApps apps
    | none => space

/-- The end of both reducers of the spaces. -/
def mergeUpdated (state : JsObject (SpaceResource α)) (updatedSpaces : JsObject (List String)) :
    JsObject (SpaceResource α) :=
  if updatedSpaces.keys = [] then state else deepMergeState state updatedSpaces

/-- The applications of a response, in the order of `Object.keys`. -/
def createdApps (application : Option (JsObject AppResource)) : List AppResource :=
  match application with
  | some apps => apps.ownKeys.filterMap apps.get?
  | none => []

/-- A space that is not loaded has no `entity` : the read throws. -/
def collectApp (state : JsObject (SpaceResource α)) (updatedSpaces : JsObject (List String))
    (app : AppResource) : Option (JsObject (List String)) :=
  (state.get? app.spaceGuid).map fun space =>
    match space.apps with
    | some apps => updatedSpaces.set app.spaceGuid (apps ++ [app.guid])
    | none => updatedSpaces

/-- A created application is listed by its spaces, as far as these are in the store. -/
def addApplicationToSpace (state : JsObject (SpaceResource α))
    (application : Option (JsObject AppResource)) : Option (JsObject (SpaceResource α)) :=
  ((createdApps application).foldlM (collectApp state) JsObject.empty).map (mergeUpdated state)

/-- The space without the application, if it lists it. -/
def collectSpace (state : JsObject (SpaceResource α)) (appGuid : String)
    (updatedSpaces : JsObject (List String)) (spaceGuid : String) : JsObject (List String) :=
  match (state.get? spaceGuid).bind SpaceResource.apps with
  | some apps =>
    if appGuid ∈ apps then updatedSpaces.set spaceGuid (apps.filter (· ≠ appGuid))
    else updatedSpaces
  | none => updatedSpaces

/-- No space lists the deleted application any more. -/
def deleteApplicationFromSpace (state : JsObject (SpaceResource α)) (appGuid : String) :
    JsObject (SpaceResource α) :=
  mergeUpdated state (state.ownKeys.foldl (collectSpace state appGuid) JsObject.empty)

/-- The spaces after an application is created or deleted. -/
def applicationAddRemoveReducer (state : JsObject (SpaceResource α)) :
    StoreAction α → Option (JsObject (SpaceResource α))
  | .child (.createApp application) => addApplicationToSpace state application
  | .child (.deleteApp guid) => some (deleteApplicationFromSpace state guid)
  | _ => some state

/-- The bindings but those with the guid. -/
def removeBinding (bindings : Option (List (Option String))) (guid : String) :
    Option (List (Option String)) :=
  bindings.map fun bindings => bindings.filter (· ≠ some guid)

/-- `[].concat(bindings, guid)`. What is absent is appended as `undefined`. -/
def concatBinding (bindings : Option (List (Option String))) (guid : String) :
    Option (List (Option String)) :=
  some (bindings.getD [none] ++ [some guid])

/-- `response.entities.serviceBinding[response.result[0]].metadata.guid` -/
def BindingResponse.guid? (response : BindingResponse) : Option String :=
  response.result.head?.bind response.serviceBinding.get?

/-- The service instances after a binding is deleted or an instance updated. -/
def serviceInstanceReducer (state : JsObject (ServiceInstanceResource α)) :
    StoreAction α → Option (JsObject (ServiceInstanceResource α))
  | .child (.deleteBinding serviceInstanceGuid serviceBindingGuid) => do
    let serviceInstanceEntity ← state.get? serviceInstanceGuid
    return state.set serviceInstanceGuid { serviceInstanceEntity with
      serviceBindings := removeBinding serviceInstanceEntity.serviceBindings serviceBindingGuid }
  | .updateServiceInstance serviceInstanceGuid name tags params => do
    let serviceInstanceEntity ← state.get? serviceInstanceGuid
    return state.set serviceInstanceGuid { serviceInstanceEntity with
      name := name
      tags := tags
      params := params }
  | .child (.createBinding serviceInstanceGuid response) => do
    let serviceBindingGuid ← response.guid?
    let serviceInstanceEntity ← state.get? serviceInstanceGuid
    return state.set serviceInstanceGuid { serviceInstanceEntity with
      serviceBindings := concatBinding serviceInstanceEntity.serviceBindings serviceBindingGuid }
  | _ => some state

/-- Both slices get every action. -/
def reduce (s : EntityStore α) (action : StoreAction α) : Option (EntityStore α) := do
  let spaces ← applicationAddRemoveReducer s.spaces action
  let serviceInstances ← serviceInstanceReducer s.serviceInstances action
  return ⟨spaces, serviceInstances⟩

/-- The store after a list of actions. -/
def run (s : EntityStore α) (actions : List ChildAction) : Option (EntityStore α) :=
  actions.foldlM (fun s action => reduce s (.child action)) s

/-! ## What the lists are for -/

/-- The applications of a space after one more action. -/
def spaceStep (spaceGuid : String) (members : Set String) : ChildAction → Set String
  | .createApp application =>
    members ∪ {guid | ∃ app ∈ createdApps application, app.spaceGuid = spaceGuid ∧ app.guid = guid}
  | .deleteApp guid => members \ {guid}
  | _ => members

/-- The bindings of a service instance after one more action. -/
def instanceStep (serviceInstanceGuid : String) (members : Set String) : ChildAction → Set String
  | .createBinding guid response =>
    members ∪ {binding | guid = serviceInstanceGuid ∧ response.guid? = some binding}
  | .deleteBinding _ guid => members \ {guid}
  | _ => members

/-- Each member is listed, once. -/
def Lists (l : List String) (members : Set String) : Prop :=
  l.Nodup ∧ ∀ guid, guid ∈ l ↔ guid ∈ members

/-- No list is as good as an empty one, and `undefined` is no member. -/
def ListsBindings (bindings : Option (List (Option String))) (members : Set String) : Prop :=
  ∃ guids, bindings.getD [] = guids.map some ∧ Lists guids members

/-- A space then and now. -/
structure SpaceFollows (spaceGuid : String) (actions : List ChildAction)
    (space space' : SpaceResource α) : Prop where
  rest : space'.rest = space.rest
  unlisted : space.apps = none → space'.apps = none
  listed : ∀ apps, space.apps = some apps → ∃ apps', space'.apps = some apps' ∧
    Lists apps' (actions.foldl (spaceStep spaceGuid) {guid | guid ∈ apps})

/-- A service instance then and now. -/
structure InstanceFollows (serviceInstanceGuid : String) (actions : List ChildAction)
    (entity entity' : ServiceInstanceResource α) : Prop where
  others : entity'.name = entity.name ∧ entity'.tags = entity.tags ∧
    entity'.params = entity.params ∧ entity'.rest = entity.rest
  listed : ListsBindings entity'.serviceBindings (actions.foldl (instanceStep serviceInstanceGuid)
    {guid | some guid ∈ entity.serviceBindings.getD []})

/-- The store after the actions has the same entities, each as before up to its list. -/
structure Follows (initial : EntityStore α) (actions : List ChildAction) (s : EntityStore α) :
    Prop where
  space : ∀ guid, Option.Rel (SpaceFollows guid actions) (initial.spaces.get? guid)
    (s.spaces.get? guid)
  serviceInstance : ∀ guid, Option.Rel (InstanceFollows guid actions)
    (initial.serviceInstances.get? guid) (s.serviceInstances.get? guid)

/-! ## What is handled -/

/-- The last application of a space in a response. -/
def lastApp? (spaceGuid : String) (apps : List AppResource) : Option AppResource :=
  (apps.filter (·.spaceGuid = spaceGuid)).getLast?

/-- Of the applications of a listed space the last one is new, and no other is. -/
def OneNew (spaceGuid : String) (created : List AppResource) (apps : List String) : Prop :=
  ∀ last, lastApp? spaceGuid created = some last → last.guid ∉ apps ∧
    ∀ app ∈ created, app.spaceGuid = spaceGuid → app.guid ∈ apps ∨ app.guid = last.guid

/-- The actions the reducers handle. -/
def Handled (s : EntityStore α) : ChildAction → Prop
  | .createApp application => ∀ app ∈ createdApps application,
    ∃ space, s.spaces.get? app.spaceGuid = some space ∧
      ∀ apps, space.apps = some apps → OneNew app.spaceGuid (createdApps application) apps
  | .deleteApp _ => True
  | .createBinding serviceInstanceGuid response =>
    ∃ entity bindings guid, s.serviceInstances.get? serviceInstanceGuid = some entity ∧
      entity.serviceBindings = some bindings ∧ response.guid? = some guid ∧ some guid ∉ bindings
  | .deleteBinding serviceInstanceGuid guid =>
    (s.serviceInstances.get? serviceInstanceGuid).isSome ∧
      ∀ other entity, other ≠ serviceInstanceGuid → s.serviceInstances.get? other = some entity →
        some guid ∉ entity.serviceBindings.getD []

/-- An action throws when it reads an entity that is not there. -/
def Accepted (s : EntityStore α) : ChildAction → Prop
  | .createApp application =>
    ∀ app ∈ createdApps application, (s.spaces.get? app.spaceGuid).isSome
  | .deleteApp _ => True
  | .createBinding serviceInstanceGuid response =>
    response.guid?.isSome ∧ (s.serviceInstances.get? serviceInstanceGuid).isSome
  | .deleteBinding serviceInstanceGuid _ => (s.serviceInstances.get? serviceInstanceGuid).isSome

/-- The lists of a store repeat nothing, and hold no `undefined`. -/
structure Clean (s : EntityStore α) : Prop where
  space : ∀ guid space apps, s.spaces.get? guid = some space → space.apps = some apps → apps.Nodup
  serviceInstance : ∀ guid entity, s.serviceInstances.get? guid = some entity →
    ∃ bindings : List String, entity.serviceBindings.getD [] = bindings.map some ∧ bindings.Nodup

/-! ## What the reducers do to the lists -/

/-- The list of a space after one action. -/
def appsAfter (spaceGuid : String) (action : ChildAction) (apps : List String) : List String :=
  match action with
  | .createApp application =>
    apps ++ ((lastApp? spaceGuid (createdApps application)).map AppResource.guid).toList
  | .deleteApp guid => apps.filter (· ≠ guid)
  | _ => apps

/-- The list of a service instance after one action. -/
def bindingsAfter (serviceInstanceGuid : String) (action : ChildAction)
    (bindings : Option (List (Option String))) : Option (List (Option String)) :=
  match action with
  | .createBinding guid response =>
    if guid = serviceInstanceGuid then (response.guid?.map (concatBinding bindings)).getD bindings
    else bindings
  | .deleteBinding guid binding =>
    if guid = serviceInstanceGuid then removeBinding bindings binding else bindings
  | _ => bindings

/-- The space with its list of applications changed. -/
def SpaceResource.mapApps (f : List String → List String) (space : SpaceResource α) :
    SpaceResource α :=
  { space with apps := space.apps.map f }

/-- The instance with its list of bindings changed. -/
def ServiceInstanceResource.mapBindings
    (f : Option (List (Option String)) → Option (List (Option String)))
    (entity : ServiceInstanceResource α) : ServiceInstanceResource α :=
  { entity with serviceBindings := f entity.serviceBindings }

section Reducers

variable {state state' : JsObject (SpaceResource α)} {guid : String}

theorem get?_mergeUpdated (state : JsObject (SpaceResource α))
    (updatedSpaces : JsObject (List String)) (guid : String) :
    (mergeUpdated state updatedSpaces).get? guid = (state.get? guid).map fun space =>
      { space with apps := (updatedSpaces.get? guid).or space.apps } := by
  have hmerge : (deepMergeState state updatedSpaces).get? guid = (state.get? guid).map fun space =>
      { space with apps := (updatedSpaces.get? guid).or space.apps } := by
    rw [deepMergeState, JsObject.get?_mapValues]
    cases updatedSpaces.get? guid <;> rfl
  unfold mergeUpdated
  split_ifs with hkeys
  · have hnone : updatedSpaces.get? guid = none := by
      rw [JsObject.get?_eq_none_iff, hkeys]
      exact List.not_mem_nil
    simp [hnone]
  · exact hmerge

theorem lastApp?_cons (spaceGuid : String) (app : AppResource) (apps : List AppResource) :
    lastApp? spaceGuid (app :: apps) =
      if app.spaceGuid = spaceGuid then some ((lastApp? spaceGuid apps).getD app)
      else lastApp? spaceGuid apps := by
  unfold lastApp?
  by_cases h : app.spaceGuid = spaceGuid
  · simp [h, List.getLast?_cons]
  · simp [h]

theorem get?_collectApp {updatedSpaces updatedSpaces' : JsObject (List String)} {app : AppResource}
    (h : collectApp state updatedSpaces app = some updatedSpaces') (guid : String) :
    updatedSpaces'.get? guid = (if app.spaceGuid = guid then
      ((state.get? guid).bind SpaceResource.apps).map (· ++ [app.guid]) else none).or
        (updatedSpaces.get? guid) := by
  obtain ⟨space, hspace, rfl⟩ := Option.map_eq_some_iff.1 h
  rcases eq_or_ne app.spaceGuid guid with rfl | hne
  · cases hlist : space.apps <;> simp [hspace, hlist]
  · cases hlist : space.apps <;> simp [JsObject.get?_set, hne, hne.symm]

/-- Of the applications of one space the last is written. -/
theorem get?_collectApps {apps : List AppResource} {updatedSpaces updatedSpaces' : JsObject _}
    (h : apps.foldlM (collectApp state) updatedSpaces = some updatedSpaces') (guid : String) :
    updatedSpaces'.get? guid = ((lastApp? guid apps).bind fun app =>
      ((state.get? guid).bind SpaceResource.apps).map (· ++ [app.guid])).or
        (updatedSpaces.get? guid) := by
  induction apps generalizing updatedSpaces with
  | nil =>
    obtain rfl := Option.some.inj h
    rfl
  | cons app apps ih =>
    rw [List.foldlM_cons] at h
    obtain ⟨updated, hupdated, h⟩ := Option.bind_eq_some_iff.1 h
    rw [ih h, get?_collectApp hupdated, lastApp?_cons]
    by_cases hguid : app.spaceGuid = guid
    · cases lastApp? guid apps <;> cases (state.get? guid).bind SpaceResource.apps <;> simp [hguid]
    · simp [hguid]

theorem addApplicationToSpace_isSome_iff {application : Option (JsObject AppResource)} :
    (addApplicationToSpace state application).isSome ↔
      ∀ app ∈ createdApps application, (state.get? app.spaceGuid).isSome := by
  rw [addApplicationToSpace, Option.isSome_map]
  exact foldlM_isSome_iff (fun _ _ _ => by rw [collectApp, Option.isSome_map]) _

theorem get?_addApplicationToSpace {application : Option (JsObject AppResource)}
    (h : addApplicationToSpace state application = some state') (guid : String) :
    state'.get? guid =
      (state.get? guid).map (SpaceResource.mapApps (appsAfter guid (.createApp application))) := by
  obtain ⟨updated, hupdated, rfl⟩ := Option.map_eq_some_iff.1 h
  rw [get?_mergeUpdated]
  refine Option.map_congr fun space hspace => ?_
  rw [get?_collectApps hupdated, hspace]
  rcases hlast : lastApp? guid (createdApps application) with _ | last <;>
    rcases hlist : space.apps with _ | apps <;>
      simp [SpaceResource.mapApps, appsAfter, hlast, hlist]

theorem get?_deleteApplicationFromSpace (state : JsObject (SpaceResource α))
    (appGuid guid : String) : (deleteApplicationFromSpace state appGuid).get? guid =
      (state.get? guid).map (SpaceResource.mapApps (appsAfter guid (.deleteApp appGuid))) := by
  rw [deleteApplicationFromSpace, get?_mergeUpdated]
  refine Option.map_congr fun space hspace => ?_
  have hstep : ∀ (updated : JsObject (List String)) (spaceGuid guid : String),
      (collectSpace state appGuid updated spaceGuid).get? guid =
        if guid = spaceGuid then
          (((state.get? spaceGuid).bind SpaceResource.apps).bind fun apps =>
            if appGuid ∈ apps then some (apps.filter (· ≠ appGuid)) else none).or
              (updated.get? spaceGuid)
        else updated.get? guid := by
    intro updated spaceGuid guid
    unfold collectSpace
    rcases (state.get? spaceGuid).bind SpaceResource.apps with _ | apps
    · split_ifs with h <;> simp [h]
    · by_cases hmem : appGuid ∈ apps
      · simp [hmem, JsObject.get?_set]
      · by_cases h : guid = spaceGuid <;> simp [hmem, h]
  have hfold := @JsObject.get?_foldl _ _ (fun spaceGuid updated =>
      (((state.get? spaceGuid).bind SpaceResource.apps).bind fun apps =>
        if appGuid ∈ apps then some (apps.filter (· ≠ appGuid)) else none).or updated)
    hstep _ (JsObject.nodup_ownKeys state) JsObject.empty guid
  rw [hfold, if_pos (JsObject.mem_ownKeys.2 (JsObject.mem_keys_of_get? hspace)), hspace]
  rcases hlist : space.apps with _ | apps
  · simp [SpaceResource.mapApps, hlist]
  · by_cases hmem : appGuid ∈ apps
    · simp [SpaceResource.mapApps, appsAfter, hlist, hmem]
    · have hself : apps.filter (· ≠ appGuid) = apps :=
        List.filter_eq_self.2 fun guid hguid => by
          have hne : guid ≠ appGuid := fun h => hmem (h ▸ hguid)
          simp [hne]
      simpa [SpaceResource.mapApps, appsAfter, hlist, hmem] using hself.symm

theorem map_mapApps_self {f : List String → List String} (hf : ∀ apps, f apps = apps)
    (space : Option (SpaceResource α)) : space.map (SpaceResource.mapApps f) = space := by
  obtain rfl : f = id := funext hf
  cases space <;> simp [SpaceResource.mapApps]

theorem map_mapBindings_self
    {f : Option (List (Option String)) → Option (List (Option String))}
    (hf : ∀ bindings, f bindings = bindings) (entity : Option (ServiceInstanceResource α)) :
    entity.map (ServiceInstanceResource.mapBindings f) = entity := by
  obtain rfl : f = id := funext hf
  cases entity <;> rfl

end Reducers

section Step

variable {s s' : EntityStore α} {action : ChildAction}

theorem reduce_cases (h : reduce s (.child action) = some s') :
    applicationAddRemoveReducer s.spaces (.child action) = some s'.spaces ∧
      serviceInstanceReducer s.serviceInstances (.child action) = some s'.serviceInstances := by
  obtain ⟨spaces, hspaces, h⟩ := Option.bind_eq_some_iff.1 h
  obtain ⟨serviceInstances, hinstances, h⟩ := Option.bind_eq_some_iff.1 h
  obtain rfl := Option.some.inj h
  exact ⟨hspaces, hinstances⟩

theorem get?_spaces_reduce (h : reduce s (.child action) = some s') (guid : String) :
    s'.spaces.get? guid =
      (s.spaces.get? guid).map (SpaceResource.mapApps (appsAfter guid action)) := by
  have hspaces := (reduce_cases h).1
  cases action with
  | createApp application => exact get?_addApplicationToSpace hspaces guid
  | deleteApp appGuid =>
    rw [← Option.some.inj hspaces]
    exact get?_deleteApplicationFromSpace s.spaces appGuid guid
  | createBinding _ _ =>
    rw [← Option.some.inj hspaces]
    exact (map_mapApps_self (fun _ => rfl) _).symm
  | deleteBinding _ _ =>
    rw [← Option.some.inj hspaces]
    exact (map_mapApps_self (fun _ => rfl) _).symm

theorem get?_serviceInstances_reduce (h : reduce s (.child action) = some s') (guid : String) :
    s'.serviceInstances.get? guid = (s.serviceInstances.get? guid).map
      (ServiceInstanceResource.mapBindings (bindingsAfter guid action)) := by
  have hinstances := (reduce_cases h).2
  cases action with
  | createApp _ =>
    rw [← Option.some.inj hinstances]
    exact (map_mapBindings_self (fun _ => rfl) _).symm
  | deleteApp _ =>
    rw [← Option.some.inj hinstances]
    exact (map_mapBindings_self (fun _ => rfl) _).symm
  | createBinding serviceInstanceGuid response =>
    obtain ⟨binding, hbinding, hinstances⟩ := Option.bind_eq_some_iff.1 hinstances
    obtain ⟨entity, hentity, hinstances⟩ := Option.bind_eq_some_iff.1 hinstances
    rw [← Option.some.inj hinstances, JsObject.get?_set]
    by_cases hguid : guid = serviceInstanceGuid
    · subst hguid
      simp [hentity, bindingsAfter, hbinding, ServiceInstanceResource.mapBindings]
    · rw [if_neg hguid]
      exact (map_mapBindings_self (fun _ => if_neg (Ne.symm hguid)) _).symm
  | deleteBinding serviceInstanceGuid binding =>
    obtain ⟨entity, hentity, hinstances⟩ := Option.bind_eq_some_iff.1 hinstances
    rw [← Option.some.inj hinstances, JsObject.get?_set]
    by_cases hguid : guid = serviceInstanceGuid
    · subst hguid
      simp [hentity, bindingsAfter, ServiceInstanceResource.mapBindings]
    · rw [if_neg hguid]
      exact (map_mapBindings_self (fun _ => if_neg (Ne.symm hguid)) _).symm

end Step

/-! ## One action -/

section Lists

theorem mem_createdApps_of_lastApp? {spaceGuid : String} {created : List AppResource}
    {last : AppResource} (h : lastApp? spaceGuid created = some last) :
    last ∈ created ∧ last.spaceGuid = spaceGuid := by
  simpa using List.mem_filter.1 (List.mem_of_getLast? h)

theorem exists_lastApp? {created : List AppResource} {app : AppResource} (h : app ∈ created) :
    ∃ last, lastApp? app.spaceGuid created = some last := by
  refine Option.isSome_iff_exists.1 (List.getLast?_isSome.2 ?_)
  exact List.ne_nil_of_mem (List.mem_filter.2 ⟨h, by simp⟩)

/-- A list that holds one new application more is right when there is one. -/
theorem lists_createApp_iff {spaceGuid : String} {application : Option (JsObject AppResource)}
    {apps : List String} (hnodup : apps.Nodup) :
    Lists (appsAfter spaceGuid (.createApp application) apps)
        (spaceStep spaceGuid {guid | guid ∈ apps} (.createApp application)) ↔
      OneNew spaceGuid (createdApps application) apps := by
  simp only [Lists, appsAfter, spaceStep, OneNew]
  rcases hlast : lastApp? spaceGuid (createdApps application) with _ | last
  · refine iff_of_true ⟨by simpa using hnodup, fun guid => ?_⟩ (fun last h => by simp at h)
    have hno : ∀ app ∈ createdApps application, app.spaceGuid = spaceGuid → app.guid ≠ guid := by
      rintro app happ rfl _
      obtain ⟨last, h⟩ := exists_lastApp? happ
      simp [h] at hlast
    simpa using fun app happ hguid h => absurd h (hno app happ hguid)
  · obtain ⟨hmem, hspace⟩ := mem_createdApps_of_lastApp? hlast
    constructor
    · rintro ⟨hnd, hiff⟩ _ ⟨⟩
      refine ⟨fun h => ?_, fun app happ hguid => ?_⟩
      · exact (List.nodup_append.1 hnd).2.2 _ h _ (by simp) rfl
      · simpa using (hiff app.guid).2 (Or.inr ⟨app, happ, hguid, rfl⟩)
    · intro h
      obtain ⟨hnew, hrest⟩ := h last rfl
      refine ⟨?_, fun guid => ?_⟩
      · have hne : ∀ guid ∈ apps, guid ≠ last.guid := fun guid hguid h => hnew (h ▸ hguid)
        simpa [List.nodup_append, hnodup] using hne
      · simp only [Option.map_some, Option.toList_some, List.mem_append, List.mem_singleton]
        refine ⟨fun h => h.imp id ?_, ?_⟩
        · rintro rfl
          exact ⟨last, hmem, hspace, rfl⟩
        · rintro (h | ⟨app, happ, hguid, rfl⟩)
          · exact Or.inl h
          · exact hrest app happ hguid

theorem lists_deleteApp {spaceGuid guid : String} {apps : List String} (hnodup : apps.Nodup) :
    Lists (appsAfter spaceGuid (.deleteApp guid) apps)
      (spaceStep spaceGuid {guid | guid ∈ apps} (.deleteApp guid)) :=
  ⟨hnodup.filter _, fun app => by simp [appsAfter, spaceStep]⟩

theorem ListsBindings.eq {bindings : Option (List (Option String))} {members : Set String}
    (h : ListsBindings bindings members) : members = {guid | some guid ∈ bindings.getD []} := by
  obtain ⟨guids, hguids, -, hiff⟩ := h
  ext guid
  simp [hguids, ← hiff]

/-- A binding is appended rightly to a list that is there and does not hold it. -/
theorem listsBindings_concat_iff {bindings : Option (List (Option String))} {guid : String}
    {members : Set String} (h : ListsBindings bindings members) :
    ListsBindings (concatBinding bindings guid) (members ∪ {guid}) ↔
      ∃ guids, bindings = some guids ∧ some guid ∉ guids := by
  obtain ⟨guids, hguids, hnodup, hiff⟩ := h
  rcases bindings with _ | bindings
  · refine iff_of_false ?_ (by simp)
    rintro ⟨guids', h, -⟩
    have hnone : none ∈ guids'.map some := by simp [← h, concatBinding]
    simp at hnone
  · obtain rfl : bindings = guids.map some := hguids
    have hmap : guids.map some ++ [some guid] = (guids ++ [guid]).map some := by simp
    constructor
    · rintro ⟨guids', h, hnd, -⟩
      obtain rfl : guids ++ [guid] = guids' :=
        (List.map_injective_iff.2 (Option.some_injective _)) (hmap.symm.trans h)
      refine ⟨_, rfl, fun hmem => ?_⟩
      exact (List.nodup_append.1 hnd).2.2 _ (by simpa using hmem) _ (by simp) rfl
    · rintro ⟨_, ⟨⟩, hnew⟩
      refine ⟨guids ++ [guid], hmap, ?_, fun x => by simp [hiff x, or_comm]⟩
      have hne : ∀ x ∈ guids, x ≠ guid := fun x hx h => hnew (by simpa [h] using hx)
      simpa [List.nodup_append, hnodup] using hne

theorem listsBindings_remove {bindings : Option (List (Option String))} {guid : String}
    {members : Set String} (h : ListsBindings bindings members) :
    ListsBindings (removeBinding bindings guid) (members \ {guid}) := by
  obtain ⟨guids, hguids, hnodup, hiff⟩ := h
  refine ⟨guids.filter (· ≠ guid), ?_, hnodup.filter _, fun x => by simp [hiff x]⟩
  rcases bindings with _ | bindings
  · obtain rfl : guids = [] := by simpa using hguids.symm
    rfl
  · obtain rfl : bindings = guids.map some := hguids
    simp [removeBinding, List.filter_map, Function.comp_def]

/-- The list of another service instance stays, so it must not hold what is deleted. -/
theorem listsBindings_diff_iff {bindings : Option (List (Option String))} {guid : String}
    {members : Set String} (h : ListsBindings bindings members) :
    ListsBindings bindings (members \ {guid}) ↔ some guid ∉ bindings.getD [] := by
  constructor
  · intro h' hmem
    have hset := h'.eq
    have hin : guid ∈ {guid | some guid ∈ bindings.getD []} := hmem
    rw [← hset] at hin
    exact hin.2 rfl
  · intro hnot
    have hself : members \ {guid} = members := by
      refine Set.sdiff_singleton_eq_self ?_
      rwa [h.eq]
    rwa [hself]

end Lists

/-! ## Runs -/

section Run

variable {initial s s' : EntityStore α} {done : List ChildAction} {action : ChildAction}

theorem reduce_isSome_iff : (reduce s (.child action)).isSome ↔ Accepted s action := by
  cases action with
  | createApp application =>
    simp only [reduce, applicationAddRemoveReducer, serviceInstanceReducer, Accepted,
      ← addApplicationToSpace_isSome_iff]
    cases addApplicationToSpace s.spaces application <;> simp
  | deleteApp guid => simp [reduce, applicationAddRemoveReducer, serviceInstanceReducer, Accepted]
  | createBinding serviceInstanceGuid response =>
    simp only [reduce, applicationAddRemoveReducer, serviceInstanceReducer, Accepted]
    cases response.guid? <;> cases s.serviceInstances.get? serviceInstanceGuid <;> simp
  | deleteBinding serviceInstanceGuid guid =>
    simp only [reduce, applicationAddRemoveReducer, serviceInstanceReducer, Accepted]
    cases s.serviceInstances.get? serviceInstanceGuid <;> simp

theorem rel_map_iff {β γ : Type} {r r' : β → γ → Prop} {f : γ → γ} {p : γ → Prop} {b : Option β}
    {c : Option γ} (h : Option.Rel r b c) (hstep : ∀ x y, r x y → (r' x (f y) ↔ p y)) :
    Option.Rel r' b (c.map f) ↔ ∀ y, c = some y → p y := by
  cases h with
  | none => exact iff_of_true Option.Rel.none fun y h => by simp at h
  | @some x y h =>
    rw [Option.map_some, Option.rel_some_some, hstep x y h]
    simp

theorem exists_of_rel_some {β γ : Type} {r : β → γ → Prop} {b : Option β} {y : γ}
    (h : Option.Rel r b (some y)) : ∃ x, b = some x ∧ r x y := by
  cases h with
  | some h => exact ⟨_, rfl, h⟩

theorem Lists.eq {l : List String} {members : Set String} (h : Lists l members) :
    members = {guid | guid ∈ l} :=
  Set.ext fun guid => (h.2 guid).symm

theorem spaceFollows_step {guid : String} {space space' : SpaceResource α}
    (h : SpaceFollows guid done space space') :
    SpaceFollows guid (done ++ [action]) space (space'.mapApps (appsAfter guid action)) ↔
      ∀ apps, space'.apps = some apps →
        Lists (appsAfter guid action apps) (spaceStep guid {guid | guid ∈ apps} action) := by
  have hfold : ∀ members : Set String, (done ++ [action]).foldl (spaceStep guid) members =
      spaceStep guid (done.foldl (spaceStep guid) members) action := fun members => by simp
  constructor
  · intro h' apps hlist
    rcases hthen : space.apps with _ | initially
    · rw [h.unlisted hthen] at hlist
      simp at hlist
    · obtain ⟨apps₁, happs₁, hlists⟩ := h.listed _ hthen
      obtain rfl : apps₁ = apps := Option.some.inj (happs₁.symm.trans hlist)
      obtain ⟨apps₂, happs₂, hlists'⟩ := h'.listed _ hthen
      obtain rfl : appsAfter guid action apps₁ = apps₂ := by
        simpa [SpaceResource.mapApps, hlist] using happs₂
      rwa [hfold, hlists.eq] at hlists'
  · intro h'
    refine ⟨h.rest, fun hnone => by simp [SpaceResource.mapApps, h.unlisted hnone], ?_⟩
    intro initially hthen
    obtain ⟨apps, happs, hlists⟩ := h.listed _ hthen
    refine ⟨appsAfter guid action apps, by simp [SpaceResource.mapApps, happs], ?_⟩
    rw [hfold, hlists.eq]
    exact h' apps happs

theorem instanceFollows_step {guid : String} {entity entity' : ServiceInstanceResource α}
    (h : InstanceFollows guid done entity entity') :
    InstanceFollows guid (done ++ [action]) entity
        (entity'.mapBindings (bindingsAfter guid action)) ↔
      ListsBindings (bindingsAfter guid action entity'.serviceBindings)
        (instanceStep guid {guid | some guid ∈ entity'.serviceBindings.getD []} action) := by
  have hfold : ∀ members : Set String, (done ++ [action]).foldl (instanceStep guid) members =
      instanceStep guid (done.foldl (instanceStep guid) members) action := fun members => by simp
  rw [← h.listed.eq, ← hfold]
  exact ⟨InstanceFollows.listed, fun h' => ⟨h.others, h'⟩⟩

/-- What an action must do to every list. -/
theorem follows_step (h : Follows initial done s) (hs' : reduce s (.child action) = some s') :
    Follows initial (done ++ [action]) s' ↔
      (∀ guid space, s.spaces.get? guid = some space → ∀ apps, space.apps = some apps →
        Lists (appsAfter guid action apps) (spaceStep guid {guid | guid ∈ apps} action)) ∧
      ∀ guid entity, s.serviceInstances.get? guid = some entity →
        ListsBindings (bindingsAfter guid action entity.serviceBindings)
          (instanceStep guid {guid | some guid ∈ entity.serviceBindings.getD []} action) := by
  have hspace := fun guid => rel_map_iff (h.space guid) fun _ _ hspace =>
    show _ ↔ ∀ apps, _ → Lists (appsAfter guid action apps) _ from spaceFollows_step hspace
  have hinstance := fun guid => rel_map_iff (h.serviceInstance guid) fun _ _ hinstance =>
    show _ ↔ ListsBindings (bindingsAfter guid action _) _ from instanceFollows_step hinstance
  simp only [← get?_spaces_reduce hs'] at hspace
  simp only [← get?_serviceInstances_reduce hs'] at hinstance
  exact ⟨fun h' => ⟨fun guid => (hspace guid).1 (h'.space guid),
      fun guid => (hinstance guid).1 (h'.serviceInstance guid)⟩,
    fun h' => ⟨fun guid => (hspace guid).2 (h'.1 guid), fun guid => (hinstance guid).2 (h'.2 guid)⟩⟩

theorem Follows.clean (h : Follows initial done s) : Clean s where
  space guid space apps hget hlist := by
    have hrel := h.space guid
    rw [hget] at hrel
    obtain ⟨space₀, -, hspace⟩ := exists_of_rel_some hrel
    rcases hthen : space₀.apps with _ | initially
    · rw [hspace.unlisted hthen] at hlist
      simp at hlist
    · obtain ⟨apps', happs', hlists⟩ := hspace.listed _ hthen
      obtain rfl : apps' = apps := Option.some.inj (happs'.symm.trans hlist)
      exact hlists.1
  serviceInstance guid entity hget := by
    have hrel := h.serviceInstance guid
    rw [hget] at hrel
    obtain ⟨_, -, hinstance⟩ := exists_of_rel_some hrel
    obtain ⟨bindings, hbindings, hlists⟩ := hinstance.listed
    exact ⟨bindings, hbindings, hlists.1⟩

theorem Clean.listsBindings (h : Clean s) {guid : String} {entity : ServiceInstanceResource α}
    (hget : s.serviceInstances.get? guid = some entity) :
    ListsBindings entity.serviceBindings {guid | some guid ∈ entity.serviceBindings.getD []} := by
  obtain ⟨bindings, hbindings, hnodup⟩ := h.serviceInstance guid entity hget
  exact ⟨bindings, hbindings, hnodup, fun x => by simp [hbindings]⟩

theorem follows_nil_iff : Follows initial [] initial ↔ Clean initial := by
  refine ⟨Follows.clean, fun h => ⟨fun guid => ?_, fun guid => ?_⟩⟩
  · cases hget : initial.spaces.get? guid with
    | none => exact Option.Rel.none
    | some space =>
      refine Option.Rel.some ⟨rfl, id, fun apps hlist => ⟨apps, hlist, ?_⟩⟩
      exact ⟨h.space guid space apps hget hlist, fun _ => Iff.rfl⟩
  · cases hget : initial.serviceInstances.get? guid with
    | none => exact Option.Rel.none
    | some entity => exact Option.Rel.some ⟨⟨rfl, rfl, rfl, rfl⟩, h.listsBindings hget⟩

theorem handled_createApp_iff {application : Option (JsObject AppResource)} :
    Handled s (.createApp application) ↔ Accepted s (.createApp application) ∧
      ∀ guid space, s.spaces.get? guid = some space → ∀ apps, space.apps = some apps →
        OneNew guid (createdApps application) apps := by
  constructor
  · intro h
    refine ⟨fun app happ => ?_, fun guid space hspace apps hlist last hlast => ?_⟩
    · obtain ⟨space, hspace, -⟩ := h app happ
      simp [hspace]
    · obtain ⟨hmem, rfl⟩ := mem_createdApps_of_lastApp? hlast
      obtain ⟨space', hspace', hone⟩ := h last hmem
      obtain rfl : space' = space := Option.some.inj (hspace'.symm.trans hspace)
      exact hone apps hlist last hlast
  · intro h app happ
    obtain ⟨space, hspace⟩ := Option.isSome_iff_exists.1 (h.1 app happ)
    exact ⟨space, hspace, h.2 _ space hspace⟩

theorem handled_createBinding_iff (hclean : Clean s) {serviceInstanceGuid : String}
    {response : BindingResponse} : Handled s (.createBinding serviceInstanceGuid response) ↔
      Accepted s (.createBinding serviceInstanceGuid response) ∧
      ∀ guid entity, s.serviceInstances.get? guid = some entity →
        ListsBindings
          (bindingsAfter guid (.createBinding serviceInstanceGuid response) entity.serviceBindings)
          (instanceStep guid {guid | some guid ∈ entity.serviceBindings.getD []}
            (.createBinding serviceInstanceGuid response)) := by
  have hother : ∀ guid entity, guid ≠ serviceInstanceGuid →
      s.serviceInstances.get? guid = some entity → ListsBindings
        (bindingsAfter guid (.createBinding serviceInstanceGuid response) entity.serviceBindings)
        (instanceStep guid {guid | some guid ∈ entity.serviceBindings.getD []}
          (.createBinding serviceInstanceGuid response)) := fun guid entity hne hget => by
    simpa [bindingsAfter, instanceStep, hne.symm] using hclean.listsBindings hget
  have hthis : ∀ entity binding, s.serviceInstances.get? serviceInstanceGuid = some entity →
      response.guid? = some binding → (ListsBindings
        (bindingsAfter serviceInstanceGuid (.createBinding serviceInstanceGuid response)
          entity.serviceBindings)
        (instanceStep serviceInstanceGuid {guid | some guid ∈ entity.serviceBindings.getD []}
          (.createBinding serviceInstanceGuid response)) ↔
        ∃ guids, entity.serviceBindings = some guids ∧ some binding ∉ guids) :=
    fun entity binding hget hbinding => by
      have hcreated : {guid | serviceInstanceGuid = serviceInstanceGuid ∧
          response.guid? = some guid} = {binding} := by
        ext guid
        simp [hbinding, eq_comm]
      rw [← listsBindings_concat_iff (hclean.listsBindings hget), instanceStep, hcreated,
        bindingsAfter, if_pos rfl, hbinding]
      rfl
  constructor
  · rintro ⟨entity, bindings, binding, hget, hlist, hbinding, hnew⟩
    refine ⟨⟨by simp [hbinding], by simp [hget]⟩, fun guid entity' hget' => ?_⟩
    rcases eq_or_ne guid serviceInstanceGuid with rfl | hne
    · obtain rfl : entity = entity' := Option.some.inj (hget.symm.trans hget')
      exact (hthis entity binding hget hbinding).2 ⟨bindings, hlist, hnew⟩
    · exact hother guid entity' hne hget'
  · rintro ⟨⟨hresponse, hloaded⟩, h⟩
    obtain ⟨binding, hbinding⟩ := Option.isSome_iff_exists.1 hresponse
    obtain ⟨entity, hget⟩ := Option.isSome_iff_exists.1 hloaded
    obtain ⟨bindings, hlist, hnew⟩ := (hthis entity binding hget hbinding).1 (h _ entity hget)
    exact ⟨entity, bindings, binding, hget, hlist, hbinding, hnew⟩

theorem handled_deleteBinding_iff (hclean : Clean s) {serviceInstanceGuid binding : String} :
    Handled s (.deleteBinding serviceInstanceGuid binding) ↔
      Accepted s (.deleteBinding serviceInstanceGuid binding) ∧
      ∀ guid entity, s.serviceInstances.get? guid = some entity →
        ListsBindings
          (bindingsAfter guid (.deleteBinding serviceInstanceGuid binding) entity.serviceBindings)
          (instanceStep guid {guid | some guid ∈ entity.serviceBindings.getD []}
            (.deleteBinding serviceInstanceGuid binding)) := by
  refine and_congr_right fun _ => forall_congr' fun guid => forall_congr' fun entity => ?_
  rcases eq_or_ne guid serviceInstanceGuid with rfl | hne
  · refine iff_of_true (fun h => absurd rfl h) fun hget => ?_
    simpa [bindingsAfter, instanceStep] using listsBindings_remove (hclean.listsBindings hget)
  · rw [forall_prop_of_true hne]
    refine forall_congr' fun hget => ?_
    rw [← listsBindings_diff_iff (hclean.listsBindings hget)]
    simp [bindingsAfter, instanceStep, hne.symm]

/-- The actions after which the lists still follow. -/
theorem handled_iff_follows (h : Follows initial done s) : Handled s action ↔
    ∃ s', reduce s (.child action) = some s' ∧ Follows initial (done ++ [action]) s' := by
  have hclean := h.clean
  have hsplit : (∃ s', reduce s (.child action) = some s' ∧
      Follows initial (done ++ [action]) s') ↔ Accepted s action ∧
      (∀ guid space, s.spaces.get? guid = some space → ∀ apps, space.apps = some apps →
        Lists (appsAfter guid action apps) (spaceStep guid {guid | guid ∈ apps} action)) ∧
      ∀ guid entity, s.serviceInstances.get? guid = some entity →
        ListsBindings (bindingsAfter guid action entity.serviceBindings)
          (instanceStep guid {guid | some guid ∈ entity.serviceBindings.getD []} action) := by
    rw [← reduce_isSome_iff, Option.isSome_iff_exists, exists_and_right.symm]
    exact exists_congr fun s' => and_congr_right fun hs' => follows_step h hs'
  rw [hsplit]
  cases action with
  | createApp application =>
    rw [handled_createApp_iff]
    refine and_congr_right fun _ => Iff.trans ?_
      (and_iff_left fun guid entity hget => hclean.listsBindings hget).symm
    exact forall₅_congr fun guid space hspace apps hlist =>
      (lists_createApp_iff (hclean.space guid space apps hspace hlist)).symm
  | deleteApp guid =>
    refine iff_of_true trivial ⟨trivial, fun space _ hspace apps hlist => ?_,
      fun _ _ hget => hclean.listsBindings hget⟩
    exact lists_deleteApp (hclean.space _ _ apps hspace hlist)
  | createBinding serviceInstanceGuid response =>
    rw [handled_createBinding_iff hclean]
    refine and_congr_right fun _ => (and_iff_right fun guid space hspace apps hlist => ?_).symm
    exact ⟨hclean.space guid space apps hspace hlist, fun _ => Iff.rfl⟩
  | deleteBinding serviceInstanceGuid binding =>
    rw [handled_deleteBinding_iff hclean]
    refine and_congr_right fun _ => (and_iff_right fun guid space hspace apps hlist => ?_).symm
    exact ⟨hclean.space guid space apps hspace hlist, fun _ => Iff.rfl⟩

theorem run_append (s : EntityStore α) (done : List ChildAction) (action : ChildAction) :
    run s (done ++ [action]) = (run s done).bind fun s => reduce s (.child action) := by
  simp [run, List.foldlM_append]

/-- The lists follow the actions all along exactly when they do at first and each action is one
the reducers handle. -/
theorem follows_iff (initial : EntityStore α) (actions : List ChildAction) :
    (∀ done rest, actions = done ++ rest →
      ∃ s, run initial done = some s ∧ Follows initial done s) ↔
    Clean initial ∧ ∀ done action rest s, actions = done ++ action :: rest →
      run initial done = some s → Handled s action := by
  constructor
  · intro h
    refine ⟨?_, fun done action rest s hsplit hrun => ?_⟩
    · obtain ⟨s, hs, hfollows⟩ := h [] actions rfl
      obtain rfl := Option.some.inj hs
      exact follows_nil_iff.1 hfollows
    · obtain ⟨s₁, hs₁, hfollows⟩ := h done (action :: rest) hsplit
      obtain rfl : s₁ = s := Option.some.inj (hs₁.symm.trans hrun)
      rw [handled_iff_follows hfollows]
      obtain ⟨s', hs', hfollows'⟩ := h (done ++ [action]) rest (by simpa using hsplit)
      rw [run_append, hrun] at hs'
      exact ⟨s', hs', hfollows'⟩
  · rintro ⟨hclean, hhandled⟩ done
    induction done using List.reverseRec with
    | nil => exact fun _ _ => ⟨initial, rfl, follows_nil_iff.2 hclean⟩
    | append_singleton done action ih =>
      intro rest hsplit
      have hsplit' : actions = done ++ action :: rest := by simpa using hsplit
      obtain ⟨s, hs, hfollows⟩ := ih _ hsplit'
      have hhandled' := hhandled done action rest s hsplit' hs
      obtain ⟨s', hs', hfollows'⟩ := (handled_iff_follows hfollows).1 hhandled'
      exact ⟨s', by rw [run_append, hs]; exact hs', hfollows'⟩

/-- Two applications are created in one space : the second alone is listed. -/
theorem second_app_replaces_first :
    ¬∃ s, run (⟨JsObject.empty.set "s" ⟨some [], ()⟩, JsObject.empty⟩ : EntityStore Unit)
        [.createApp (some ((JsObject.empty.set "a" ⟨"a", "s"⟩).set "b" ⟨"b", "s"⟩))] = some s ∧
      Follows ⟨JsObject.empty.set "s" ⟨some [], ()⟩, JsObject.empty⟩
        [.createApp (some ((JsObject.empty.set "a" ⟨"a", "s"⟩).set "b" ⟨"b", "s"⟩))] s := by
  rintro ⟨s, hs, hfollows⟩
  obtain rfl : (⟨JsObject.empty.set "s" ⟨some ["b"], ()⟩, JsObject.empty⟩ : EntityStore Unit) = s :=
    Option.some.inj (Eq.trans (by decide) hs)
  have hrel := hfollows.space "s"
  rw [JsObject.get?_set_self, JsObject.get?_set_self, Option.rel_some_some] at hrel
  obtain ⟨apps, happs, -, hiff⟩ := hrel.listed [] rfl
  obtain rfl : ["b"] = apps := Option.some.inj happs
  have ha : "a" ∈ ["b"] := (hiff "a").2 (Or.inr ⟨⟨"a", "s"⟩, by decide, rfl, rfl⟩)
  simp at ha

end Run

end ChildLists

end Stratos
