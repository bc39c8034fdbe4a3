import Stratos.Frontend.RequestState
import Stratos.Lib.Lists

/-!
# Routes and applications

An application lists the routes that are mapped to it, and a route lists its applications. The
answer to an assignment, an unmapping or a deletion of a route changes both sides
(`updateApplicationRoutesReducer`, `routeReducer`), and the summaries of applications
(`updateAppSummaryRoutesReducer`). When an application changes, all applications are filed anew,
each under the guid of its metadata (`applyNewRoutes`).

Nothing looks whether the route is there or already mapped, and of the applications of a deleted
route only one is read (`appGuid`, never `appGuids`). `keepsAgreement_iff` says for which sequences
of answers the two sides keep describing the same relation.
-/

open Lib

namespace Stratos

/-! ## The slices -/

/-- The metadata of a resource. -/
structure ResourceMetadata where
  guid : String
  deriving DecidableEq

/-- A resource of the store, with its metadata and its entity where it has them. -/
structure StoredResource (E : Type) where
  metadata : Option ResourceMetadata
  entity : Option E
  deriving DecidableEq

/-- The routes of an application, if it has any. -/
structure AppEntity where
  routes : Option (List String)
  deriving DecidableEq

/-- The applications of a route, if it has any. -/
structure RouteEntity where
  apps : Option (List String)
  deriving DecidableEq

/-- A route in a summary : its entity, where it has one, and the guid of that. -/
structure SummaryRoute where
  entity : Option (Option String)
  deriving DecidableEq

/-- The part of a summary that routes change. -/
structure AppSummary where
  routes : Option (List SummaryRoute)
  deriving DecidableEq

/-- The applications of the store. -/
abbrev Applications := JsObject (StoredResource AppEntity)

/-- The routes of the store. -/
abbrev Routes := JsObject (StoredResource RouteEntity)

/-- The summaries of the store. -/
abbrev Summaries := JsObject (StoredResource AppSummary)

/-- The three slices that routes change. -/
structure RouteStore where
  applications : Applications
  routes : Routes
  summaries : Summaries

/-- A guid that is not empty. -/
abbrev AppGuid := { guid : String // guid ≠ "" }

/-- The answer of a request about a route. -/
inductive RouteEvent
  | assign (appGuid : AppGuid) (routeGuid : String)
  | unmap (appGuid : AppGuid) (routeGuid : String)
  /-- A deletion carries one application, or a list of them. -/
  | delete (guid : String) (appGuid : Option AppGuid) (appGuids : Option (List String))

/-! ## The reducers -/

/-- The new slice, in which each application stands under the guid of its metadata. Throws when one
has no metadata. -/
def applyNewRoutes (state : Applications) (appGuid : String) (newRoutes : List String) :
    Option Applications :=
  let oldEntities := state.ownKeys.filterMap state.get?
  oldEntities.foldlM (fun entities app => do
    let metadata ← app.metadata
    return entities.set metadata.guid
      (if metadata.guid = appGuid then { app with entity := some { routes := some newRoutes } }
      else app)) JsObject.empty

/-- Throws when the application has no entity. -/
def addApplicationRoutes (state : Applications) (appGuid : String) (routeGuid : String) :
    Option Applications :=
  match state.get? appGuid with
  | none => some state
  | some app => do
    let entity ← app.entity
    let oldRoutes := entity.routes.getD []
    applyNewRoutes state appGuid (oldRoutes ++ [routeGuid])

/-- Without an application nothing is removed. -/
def removeApplicationRoute (state : Applications) (appGuid : Option AppGuid) (routeGuid : String) :
    Option Applications :=
  match appGuid with
  | none => some state
  | some appGuid =>
    match state.get? appGuid.1 with
    | none => some state
    | some app => do
      let entity ← app.entity
      let oldRoutes := entity.routes.getD []
      applyNewRoutes state appGuid.1 (oldRoutes.filter fun route => route ≠ routeGuid)

/-- The applications after an event. -/
def updateApplicationRoutesReducer (state : Applications) : RouteEvent → Option Applications
  | .assign appGuid routeGuid => addApplicationRoutes state appGuid.1 routeGuid
  | .unmap appGuid routeGuid => removeApplicationRoute state (some appGuid) routeGuid
  | .delete guid appGuid _ => removeApplicationRoute state appGuid guid

/-- The route with one more application. -/
def addAppFromRoute (entity : RouteEntity) (appGuid : String) : RouteEntity :=
  { entity with apps := some (entity.apps.getD [] ++ [appGuid]) }

/-- The route without the application, if it has a list. -/
def removeAppFromRoute (entity : RouteEntity) (appGuid : String) : RouteEntity :=
  match entity.apps with
  | some apps => { entity with apps := some (apps.filter fun app => app ≠ appGuid) }
  | none => entity

/-- Throws when the route is not loaded, or has no entity. -/
def routeReducer (state : Routes) : RouteEvent → Option Routes
  | .assign appGuid routeGuid => do
    let addAppRoute ← state.get? routeGuid
    let entity ← addAppRoute.entity
    return state.set routeGuid
      { addAppRoute with entity := some (addAppFromRoute entity appGuid.1) }
  | .unmap appGuid routeGuid => do
    let removeAppRoute ← state.get? routeGuid
    let entity ← removeAppRoute.entity
    return state.set routeGuid
      { removeAppRoute with entity := some (removeAppFromRoute entity appGuid.1) }
  | .delete _ _ _ => some state

/-- Throws when the summary has no routes, or one of them no entity. -/
def newState (currentState : Option (StoredResource AppSummary)) (appGuid routeGuid : String)
    (state : Summaries) : Option Summaries :=
  match currentState with
  | none => some state
  | some currentState => do
    let entity ← currentState.entity
    let routes ← entity.routes
    let kept ← routes.filterM fun r => r.entity.map fun guid => decide (guid ≠ some routeGuid)
    return state.set appGuid
      { currentState with entity := some { entity with routes := some kept } }

/-- The summaries after an event. An assignment does not change them. -/
def updateAppSummaryRoutesReducer (state : Summaries) : RouteEvent → Option Summaries
  | .assign _ _ => some state
  | .unmap appGuid routeGuid => newState (state.get? appGuid.1) appGuid.1 routeGuid state
  | .delete guid appGuid appGuids =>
    match appGuids, appGuid with
    | some appGuids, _ =>
      appGuids.foldlM (fun mutatedState appGuid =>
        newState (state.get? appGuid) appGuid guid mutatedState) state
    | none, some appGuid => newState (state.get? appGuid.1) appGuid.1 guid state
    | none, none => some state

/-- The store after the two actions of an answer. The second one takes a deleted route out of the
request data. -/
def completeRouteRequest (state : RouteStore) (event : RouteEvent) : Option RouteStore := do
  let routes ← routeReducer state.routes event
  let summaries ← updateAppSummaryRoutesReducer state.summaries event
  let applications ← updateApplicationRoutesReducer state.applications event
  match event with
  | .delete guid _ _ => return ⟨applications, routes.erase guid, summaries⟩
  | _ => return ⟨applications, routes, summaries⟩

/-! ## The property -/

/-- The routes of an application, none if it has no list. -/
def StoredResource.routes (app : StoredResource AppEntity) : List String :=
  (app.entity.bind AppEntity.routes).getD []

/-- The applications of a route, none if it has no list. -/
def StoredResource.apps (route : StoredResource RouteEntity) : List String :=
  (route.entity.bind RouteEntity.apps).getD []

/-- The two sides describe the same relation. -/
structure MappingAgrees (state : RouteStore) : Prop where
  agree : ∀ routeGuid route appGuid app, state.routes.get? routeGuid = some route →
    state.applications.get? appGuid = some app → (routeGuid ∈ app.routes ↔ appGuid ∈ route.apps)
  nodupRoutes : ∀ appGuid app, state.applications.get? appGuid = some app → app.routes.Nodup
  nodupApps : ∀ routeGuid route, state.routes.get? routeGuid = some route → route.apps.Nodup

/-- No application has the route. -/
def Unmapped (routeGuid : String) (state : RouteStore) : Prop :=
  ∀ appGuid app, state.applications.get? appGuid = some app → routeGuid ∉ app.routes

/-- The route is deleted by the event. -/
def RouteEvent.deletes : RouteEvent → List String
  | .delete guid _ _ => [guid]
  | _ => []

/-- The applications that the event is about. -/
def RouteEvent.apps : RouteEvent → List String
  | .assign appGuid _ => [appGuid.1]
  | .unmap appGuid _ => [appGuid.1]
  | .delete _ appGuid appGuids => appGuid.toList.map (·.1) ++ appGuids.getD []

/-- No application goes or comes, and the event changes none that it is not about. -/
structure KeepsOthers (event : RouteEvent) (state state' : RouteStore) : Prop where
  metadata : ∀ guid, (state'.applications.get? guid).map StoredResource.metadata =
    (state.applications.get? guid).map StoredResource.metadata
  applications : ∀ guid ∉ event.apps, state'.applications.get? guid = state.applications.get? guid
  summaries : ∀ guid ∉ event.apps, state'.summaries.get? guid = state.summaries.get? guid

/-- The sides agree in every state of the run, no application has a deleted route, no event throws
and none changes an application that it is not about. -/
def KeepsAgreement (deleted : List String) : List RouteEvent → RouteStore → Prop
  | [], state => MappingAgrees state ∧ ∀ routeGuid ∈ deleted, Unmapped routeGuid state
  | event :: events, state =>
    MappingAgrees state ∧ (∀ routeGuid ∈ deleted, Unmapped routeGuid state) ∧
    ∃ state', completeRouteRequest state event = some state' ∧ KeepsOthers event state state' ∧
      KeepsAgreement (event.deletes ++ deleted) events state'

/-- A route that is assigned is loaded and not yet mapped, one that is unmapped is loaded, and one
that is deleted is mapped to no application but the single one. -/
def RouteFits (state : RouteStore) : RouteEvent → Prop
  | .assign appGuid routeGuid => ∃ route, state.routes.get? routeGuid = some route ∧
    route.entity.isSome ∧ appGuid.1 ∉ route.apps
  | .unmap _ routeGuid => ∃ route, state.routes.get? routeGuid = some route ∧ route.entity.isSome
  | .delete guid appGuid _ => ∀ app entity, state.applications.get? app = some entity →
    guid ∈ entity.routes → appGuid.map (·.1) = some app

/-- Every application stands under the guid of its metadata. -/
def FiledByGuid (applications : Applications) : Prop :=
  ∀ guid app, applications.get? guid = some app → app.metadata = some ⟨guid⟩

/-- The application that an event names to the applications. -/
def RouteEvent.appGuid : RouteEvent → Option AppGuid
  | .assign appGuid _ => some appGuid
  | .unmap appGuid _ => some appGuid
  | .delete _ appGuid _ => appGuid

/-- Where the application that is named is loaded, it has an entity, and the applications are
filed. -/
def AppsFit (applications : Applications) (event : RouteEvent) : Prop :=
  ∀ appGuid app, event.appGuid = some appGuid → applications.get? appGuid.1 = some app →
    app.entity.isSome ∧ FiledByGuid applications

/-- The applications whose summaries an event changes. -/
def RouteEvent.summarised : RouteEvent → List String
  | .assign _ _ => []
  | .unmap appGuid _ => [appGuid.1]
  | .delete _ appGuid appGuids => appGuids.getD (appGuid.toList.map (·.1))

/-- A summary with a list of routes that have entities. -/
def StoredResource.HasRoutes (summary : StoredResource AppSummary) : Prop :=
  ∃ routes, summary.entity = some ⟨some routes⟩ ∧ ∀ r ∈ routes, r.entity.isSome

/-- The summaries that change have routes. -/
def SummariesFit (summaries : Summaries) (event : RouteEvent) : Prop :=
  ∀ guid ∈ event.summarised, ∀ summary, summaries.get? guid = some summary → summary.HasRoutes

/-- What an event needs, so that it changes what it should. -/
structure RouteEventFits (state : RouteStore) (event : RouteEvent) : Prop where
  route : RouteFits state event
  apps : AppsFit state.applications event
  summaries : SummariesFit state.summaries event

/-- Every event fits when it is answered. -/
def RouteEventsFit : List RouteEvent → RouteStore → Prop
  | [], _ => True
  | event :: events, state => RouteEventFits state event ∧
    ∀ state', completeRouteRequest state event = some state' → RouteEventsFit events state'

/-! ## Filing -/

section Filing

variable {applications applications' : Applications} {appGuid : String} {newRoutes : List String}

/-- What is filed anew stands under the guids of the metadata. -/
theorem filed_applyNewRoutes (h : applyNewRoutes applications appGuid newRoutes =
    some applications') : FiledByGuid applications' := by
  refine foldlM_inv (p := FiledByGuid) (fun entities app entities' hentities hset => ?_) ?_ h
  · obtain ⟨metadata, hmetadata, hset⟩ := Option.bind_eq_some_iff.1 hset
    obtain rfl := Option.some.inj hset
    intro guid app' hget
    rw [JsObject.get?_set] at hget
    split_ifs at hget with hguid hnamed
    · obtain rfl := Option.some.inj hget
      rw [hguid]
      exact hmetadata
    · obtain rfl := Option.some.inj hget
      rw [hguid]
      exact hmetadata
    · exact hentities guid app' hget
  · intro guid app hget
    rw [JsObject.get?_empty] at hget
    cases hget

/-- The guid of the metadata. -/
def filedGuid (app : StoredResource AppEntity) : String :=
  (app.metadata.map ResourceMetadata.guid).getD ""

/-- The application with its new routes, if it is the one that is named. -/
def withRoutes (appGuid : String) (newRoutes : List String) (app : StoredResource AppEntity) :
    StoredResource AppEntity :=
  if filedGuid app = appGuid then { app with entity := some { routes := some newRoutes } }
  else app

theorem metadata_withRoutes (app : StoredResource AppEntity) :
    (withRoutes appGuid newRoutes app).metadata = app.metadata := by
  unfold withRoutes
  split_ifs <;> rfl

theorem filedGuid_withRoutes (app : StoredResource AppEntity) :
    filedGuid (withRoutes appGuid newRoutes app) = filedGuid app := by
  rw [filedGuid, metadata_withRoutes, filedGuid]

/-- Applications with metadata are filed under their guids. -/
theorem applyNewRoutes_eq
    (h : ∀ guid app, applications.get? guid = some app → app.metadata.isSome) :
    applyNewRoutes applications appGuid newRoutes =
      some (((applications.ownKeys.filterMap applications.get?).map
        (withRoutes appGuid newRoutes)).foldl (fun entities app =>
          entities.set (filedGuid app) app) JsObject.empty) := by
  have hfold : ∀ (apps : List (StoredResource AppEntity)) (entities : Applications),
      (∀ app ∈ apps, app.metadata.isSome) → apps.foldlM (fun entities app => do
        let metadata ← app.metadata
        return entities.set metadata.guid
          (if metadata.guid = appGuid then { app with entity := some { routes := some newRoutes } }
          else app)) entities =
        some ((apps.map (withRoutes appGuid newRoutes)).foldl (fun entities app =>
          entities.set (filedGuid app) app) entities) := by
    intro apps
    induction apps with
    | nil => exact fun _ _ => rfl
    | cons app apps ih =>
      intro entities happs
      obtain ⟨hmetadata, happs⟩ := List.forall_mem_cons.1 happs
      obtain ⟨metadata, hmetadata⟩ := Option.isSome_iff_exists.1 hmetadata
      have hguid : filedGuid app = metadata.guid := by rw [filedGuid, hmetadata]; rfl
      rw [List.foldlM_cons, List.map_cons, List.foldl_cons, ← ih _ happs, filedGuid_withRoutes,
        withRoutes, hguid, hmetadata]
      rfl
  refine hfold _ _ fun app happ => ?_
  obtain ⟨guid, -, hget⟩ := List.mem_filterMap.1 happ
  exact h guid app hget

theorem filedGuid_of_filed (h : FiledByGuid applications) {guid : String}
    {app : StoredResource AppEntity} (hget : applications.get? guid = some app) :
    filedGuid app = guid := by
  rw [filedGuid, h guid app hget]
  rfl

theorem map_filedGuid_of_filed (h : FiledByGuid applications) :
    (applications.ownKeys.filterMap applications.get?).map filedGuid =
      applications.ownKeys := by
  rw [List.map_filterMap]
  refine (List.filterMap_congr fun guid hguid => ?_).trans List.filterMap_some
  obtain ⟨app, hget⟩ := JsObject.exists_get? (JsObject.mem_ownKeys.1 hguid)
  rw [hget, Option.map_some, filedGuid_of_filed h hget]

/-- Applications that are filed stay where they are. -/
theorem get?_applyNewRoutes (h : FiledByGuid applications) (appGuid : String)
    (newRoutes : List String) :
    ∃ applications', applyNewRoutes applications appGuid newRoutes = some applications' ∧
      ∀ guid, applications'.get? guid =
        (applications.get? guid).map (withRoutes appGuid newRoutes) := by
  refine ⟨_, applyNewRoutes_eq fun guid app hget => by rw [h guid app hget]; rfl, fun guid => ?_⟩
  have hkeys : ((applications.ownKeys.filterMap applications.get?).map
      (withRoutes appGuid newRoutes)).map filedGuid = applications.ownKeys := by
    rw [List.map_map]
    exact (List.map_congr_left fun app _ => filedGuid_withRoutes app).trans
      (map_filedGuid_of_filed h)
  rcases hget : applications.get? guid with _ | app
  · rw [Option.map_none, JsObject.get?_eq_none_iff, JsObject.mem_keys_foldl_set, hkeys,
      JsObject.mem_ownKeys]
    simpa using JsObject.get?_eq_none_iff.1 hget
  · have hmem : app ∈ applications.ownKeys.filterMap applications.get? :=
      List.mem_filterMap.2 ⟨guid, JsObject.mem_ownKeys.2 (JsObject.mem_keys_of_get? hget), hget⟩
    have hfiled := JsObject.get?_foldl_set_of_mem (by rw [hkeys]; exact JsObject.nodup_ownKeys _)
      JsObject.empty (List.mem_map_of_mem (f := withRoutes appGuid newRoutes) hmem)
    rw [filedGuid_withRoutes, filedGuid_of_filed h hget] at hfiled
    exact hfiled

end Filing

/-! ## What an event does -/

section Reducers

variable {state state' : RouteStore} {applications applications' : Applications}
  {summaries summaries' : Summaries}

/-- What an event leaves of the routes of the application that it names. -/
def RouteEvent.newRoutes (event : RouteEvent) (routes : List String) : List String :=
  match event with
  | .assign _ routeGuid => routes ++ [routeGuid]
  | .unmap _ routeGuid => routes.filter (· ≠ routeGuid)
  | .delete routeGuid _ _ => routes.filter (· ≠ routeGuid)

/-- The reducer files the applications with the new routes of the one that is named. -/
theorem updateApplicationRoutes_eq (applications : Applications) (event : RouteEvent) :
    updateApplicationRoutesReducer applications event = match event.appGuid with
      | none => some applications
      | some appGuid => match applications.get? appGuid.1 with
        | none => some applications
        | some app => app.entity.bind fun entity =>
          applyNewRoutes applications appGuid.1 (event.newRoutes (entity.routes.getD [])) := by
  rcases event with ⟨appGuid, routeGuid⟩ | ⟨appGuid, routeGuid⟩ | ⟨routeGuid, _ | appGuid, appGuids⟩
  all_goals rfl

/-- What an event leaves of the routes of an application. -/
def routesAfter (event : RouteEvent) (guid : String) (routes : List String) : List String :=
  if event.appGuid.map (·.1) = some guid then event.newRoutes routes else routes

/-- Where the applications are filed, the reducer changes the routes of the one that is named. -/
theorem get?_updateApplicationRoutes (event : RouteEvent) (h : AppsFit applications event) :
    ∃ applications', updateApplicationRoutesReducer applications event = some applications' ∧
      ∀ guid, (applications'.get? guid).map StoredResource.routes =
          (applications.get? guid).map (fun app => routesAfter event guid app.routes) ∧
        (applications'.get? guid).map StoredResource.metadata =
          (applications.get? guid).map StoredResource.metadata ∧
        (guid ∉ event.apps → applications'.get? guid = applications.get? guid) := by
  have hsame : (∀ guid app, applications.get? guid = some app →
      event.appGuid.map (·.1) ≠ some guid) → ∀ guid,
        (applications.get? guid).map StoredResource.routes =
          (applications.get? guid).map fun app => routesAfter event guid app.routes := by
    intro hnot guid
    rcases hget : applications.get? guid with _ | app
    · rfl
    · rw [Option.map_some, Option.map_some, routesAfter, if_neg (hnot guid app hget)]
  rw [updateApplicationRoutes_eq]
  rcases hnamed : event.appGuid with _ | appGuid
  · exact ⟨applications, rfl, fun guid =>
      ⟨hsame (fun _ _ _ => by simp [hnamed]) guid, rfl, fun _ => rfl⟩⟩
  rcases hget : applications.get? appGuid.1 with _ | app
  · refine ⟨applications, by simp only [hget], fun guid =>
      ⟨hsame (fun guid app' hget' heq => ?_) guid, rfl, fun _ => rfl⟩⟩
    rw [hnamed, Option.map_some, Option.some_inj] at heq
    rw [heq, hget'] at hget
    cases hget
  · obtain ⟨hentity, hfiled⟩ := h appGuid app hnamed hget
    obtain ⟨entity, hentity⟩ := Option.isSome_iff_exists.1 hentity
    obtain ⟨applications', happly, hafter⟩ :=
      get?_applyNewRoutes hfiled appGuid.1 (event.newRoutes (entity.routes.getD []))
    refine ⟨applications', ?_, fun guid => ?_⟩
    · simp only [hget, hentity, Option.bind_some, happly]
    rw [hafter]
    rcases hget' : applications.get? guid with _ | app'
    · exact ⟨rfl, rfl, fun _ => rfl⟩
    have hguid := filedGuid_of_filed hfiled hget'
    refine ⟨?_, congrArg some (metadata_withRoutes app'), fun hnot => ?_⟩
    · rw [Option.map_some, Option.map_some, Option.map_some, routesAfter, hnamed, withRoutes, hguid]
      by_cases heq : guid = appGuid.1
      · obtain rfl : app' = app := by
          rw [heq, hget] at hget'
          exact (Option.some.inj hget').symm
        have hroutes : app'.routes = entity.routes.getD [] := by
          rw [StoredResource.routes, hentity]
          rfl
        rw [if_pos heq, if_pos (by rw [Option.map_some, heq]), hroutes]
        rfl
      · rw [if_neg heq, if_neg (by simpa using fun h => heq h.symm)]
    · rw [Option.map_some, withRoutes, hguid, if_neg]
      rintro rfl
      refine hnot ?_
      rcases event with ⟨_, _⟩ | ⟨_, _⟩ | ⟨_, _, _⟩
      all_goals
        cases hnamed
        simp [RouteEvent.apps]

/-- Where no application goes, the reducer has found the applications filed. -/
theorem appsFit_of_updateApplicationRoutes {event : RouteEvent}
    (h : updateApplicationRoutesReducer applications event = some applications')
    (hkept : ∀ guid, (applications'.get? guid).map StoredResource.metadata =
      (applications.get? guid).map StoredResource.metadata) : AppsFit applications event := by
  intro appGuid app hnamed hget
  rw [updateApplicationRoutes_eq, hnamed] at h
  simp only [hget] at h
  obtain ⟨entity, hentity, happly⟩ := Option.bind_eq_some_iff.1 h
  refine ⟨by rw [hentity]; rfl, fun guid app' hget' => ?_⟩
  have hmetadata := hkept guid
  rw [hget', Option.map_some, Option.map_eq_some_iff] at hmetadata
  obtain ⟨app'', hget'', hmetadata⟩ := hmetadata
  rw [← hmetadata]
  exact filed_applyNewRoutes happly guid app'' hget''

/-! ### Summaries -/

/-- A summary that has routes is changed, and only there. -/
theorem newState_isSome_iff (currentState : Option (StoredResource AppSummary))
    (appGuid routeGuid : String) (summaries : Summaries) :
    (newState currentState appGuid routeGuid summaries).isSome ↔
      ∀ summary, currentState = some summary → summary.HasRoutes := by
  rcases currentState with _ | ⟨metadata, _ | ⟨_ | routes⟩⟩
  · exact iff_of_true rfl fun _ h => by cases h
  · refine iff_of_false Bool.false_ne_true fun h => ?_
    obtain ⟨_, hentity, -⟩ := h _ rfl
    cases hentity
  · refine iff_of_false Bool.false_ne_true fun h => ?_
    obtain ⟨_, hentity, -⟩ := h _ rfl
    cases hentity
  constructor
  · intro h summary heq
    obtain rfl := Option.some.inj heq
    obtain ⟨_, h⟩ := Option.isSome_iff_exists.1 h
    obtain ⟨kept, hkept, -⟩ := Option.bind_eq_some_iff.1 h
    refine ⟨routes, rfl, fun r hr => ?_⟩
    simpa using (filterM_eq_some.1 hkept).1 r hr
  · intro h
    obtain ⟨_, hentity, hsome⟩ := h _ rfl
    cases hentity
    have hkept : (routes.filterM fun r => r.entity.map fun guid =>
        decide (guid ≠ some routeGuid)) = some _ :=
      filterM_eq_some.2 ⟨fun r hr => by simpa using hsome r hr, rfl⟩
    simp only [newState, Option.bind_eq_bind, Option.bind_some, hkept]
    rfl

theorem get?_newState {currentState : Option (StoredResource AppSummary)}
    {appGuid routeGuid : String} (h : newState currentState appGuid routeGuid summaries =
      some summaries') {guid : String} (hne : guid ≠ appGuid) :
    summaries'.get? guid = summaries.get? guid := by
  rcases currentState with _ | summary
  · obtain rfl := Option.some.inj h
    rfl
  · obtain ⟨entity, -, h⟩ := Option.bind_eq_some_iff.1 h
    obtain ⟨routes, -, h⟩ := Option.bind_eq_some_iff.1 h
    obtain ⟨kept, -, h⟩ := Option.bind_eq_some_iff.1 h
    obtain rfl := Option.some.inj h
    rw [JsObject.get?_set, if_neg hne]

/-- The summaries that an event changes have routes, and the others stay. -/
theorem updateAppSummaryRoutes_isSome_iff (summaries : Summaries) (event : RouteEvent) :
    (updateAppSummaryRoutesReducer summaries event).isSome ↔ SummariesFit summaries event := by
  have hlist : ∀ routeGuid (appGuids : List String),
      (appGuids.foldlM (fun mutatedState appGuid =>
        newState (summaries.get? appGuid) appGuid routeGuid mutatedState) summaries).isSome ↔
        ∀ appGuid ∈ appGuids, ∀ summary, summaries.get? appGuid = some summary →
          summary.HasRoutes :=
    fun routeGuid appGuids => foldlM_isSome_iff
      (f := fun mutatedState appGuid =>
        newState (summaries.get? appGuid) appGuid routeGuid mutatedState)
      (p := fun appGuid => ∀ summary, summaries.get? appGuid = some summary → summary.HasRoutes)
      (fun _ _ _ => newState_isSome_iff _ _ _ _) summaries
  rcases event with ⟨appGuid, routeGuid⟩ | ⟨appGuid, routeGuid⟩ |
    ⟨routeGuid, _ | appGuid, _ | appGuids⟩
  · exact iff_of_true rfl fun _ hmem => absurd hmem List.not_mem_nil
  · rw [updateAppSummaryRoutesReducer, newState_isSome_iff]
    simp [SummariesFit, RouteEvent.summarised]
  · exact iff_of_true rfl fun _ hmem => absurd hmem List.not_mem_nil
  · exact hlist routeGuid appGuids
  · rw [updateAppSummaryRoutesReducer, newState_isSome_iff]
    simp [SummariesFit, RouteEvent.summarised]
  · exact hlist routeGuid appGuids

theorem get?_updateAppSummaryRoutes {event : RouteEvent}
    (h : updateAppSummaryRoutesReducer summaries event = some summaries') {guid : String}
    (hnot : guid ∉ event.apps) : summaries'.get? guid = summaries.get? guid := by
  have hlist : ∀ {routeGuid : String} {appGuids : List String}, guid ∉ appGuids →
      appGuids.foldlM (fun mutatedState appGuid =>
        newState (summaries.get? appGuid) appGuid routeGuid mutatedState) summaries =
          some summaries' → summaries'.get? guid = summaries.get? guid := by
    intro routeGuid appGuids hnot h
    refine foldlM_inv_mem (p := fun s : Summaries => s.get? guid = summaries.get? guid)
      (fun s appGuid s' hmem hs hset => ?_) rfl h
    rw [get?_newState hset (ne_of_mem_of_not_mem hmem hnot).symm, hs]
  rcases event with ⟨appGuid, routeGuid⟩ | ⟨appGuid, routeGuid⟩ |
    ⟨routeGuid, _ | appGuid, _ | appGuids⟩
  · obtain rfl := Option.some.inj h
    rfl
  · exact get?_newState h fun heq => hnot (heq ▸ List.mem_singleton_self _)
  · obtain rfl := Option.some.inj h
    rfl
  · exact hlist (fun hmem => hnot hmem) h
  · exact get?_newState h fun heq => hnot (heq ▸ List.mem_cons_self)
  · exact hlist (fun hmem => hnot (List.mem_cons_of_mem _ hmem)) h

/-! ### The store -/

/-- What an event leaves of the applications of a route. -/
def appsAfter (event : RouteEvent) (guid : String) (apps : List String) : List String :=
  match event with
  | .assign appGuid routeGuid => if guid = routeGuid then apps ++ [appGuid.1] else apps
  | .unmap appGuid routeGuid => if guid = routeGuid then apps.filter (· ≠ appGuid.1) else apps
  | .delete _ _ _ => apps

/-- The store after an event, each side by itself. -/
structure AfterEvent (state : RouteStore) (event : RouteEvent) (state' : RouteStore) : Prop where
  routes : ∀ guid, (state'.applications.get? guid).map StoredResource.routes =
    (state.applications.get? guid).map fun app => routesAfter event guid app.routes
  others : KeepsOthers event state state'
  apps : ∀ guid, (state'.routes.get? guid).map StoredResource.apps =
    if guid ∈ event.deletes then none
    else (state.routes.get? guid).map fun route => appsAfter event guid route.apps

theorem apps_set {routes : Routes} {routeGuid : String} {route route' : StoredResource RouteEntity}
    {f : List String → List String} (hget : routes.get? routeGuid = some route)
    (hf : route'.apps = f route.apps) (guid : String) :
    ((routes.set routeGuid route').get? guid).map StoredResource.apps =
      (routes.get? guid).map fun route =>
        if guid = routeGuid then f route.apps else route.apps := by
  rw [JsObject.get?_set]
  by_cases hguid : guid = routeGuid
  · subst hguid
    simp [hget, hf]
  · simp [hguid]

theorem apps_removeAppFromRoute (metadata : Option ResourceMetadata) (entity : RouteEntity)
    (appGuid : String) :
    (StoredResource.mk metadata (some (removeAppFromRoute entity appGuid))).apps =
      (StoredResource.mk metadata (some entity)).apps.filter (· ≠ appGuid) := by
  rcases entity with ⟨_ | apps⟩ <;> rfl

/-- The slice of the routes after an event. -/
theorem apps_routeReducer {routes routes' : Routes} {event : RouteEvent}
    (h : routeReducer routes event = some routes') (guid : String) :
    (routes'.get? guid).map StoredResource.apps =
      (routes.get? guid).map fun route => appsAfter event guid route.apps := by
  rcases event with ⟨appGuid, routeGuid⟩ | ⟨appGuid, routeGuid⟩ | ⟨routeGuid, appGuid, appGuids⟩
  · obtain ⟨⟨metadata, entity⟩, hroute, h⟩ := Option.bind_eq_some_iff.1 h
    obtain ⟨entity, rfl, h⟩ := Option.bind_eq_some_iff.1 h
    obtain rfl := Option.some.inj h
    exact apps_set (f := (· ++ [appGuid.1])) hroute rfl guid
  · obtain ⟨⟨metadata, entity⟩, hroute, h⟩ := Option.bind_eq_some_iff.1 h
    obtain ⟨entity, rfl, h⟩ := Option.bind_eq_some_iff.1 h
    obtain rfl := Option.some.inj h
    exact apps_set (f := (·.filter (· ≠ appGuid.1))) hroute (apps_removeAppFromRoute _ _ _) guid
  · obtain rfl := Option.some.inj h
    rfl

/-- The route of an assignment or an unmapping is loaded. -/
theorem routeReducer_isSome_iff (routes : Routes) (event : RouteEvent) :
    (routeReducer routes event).isSome ↔ match event with
      | .assign _ routeGuid => ∃ route, routes.get? routeGuid = some route ∧ route.entity.isSome
      | .unmap _ routeGuid => ∃ route, routes.get? routeGuid = some route ∧ route.entity.isSome
      | .delete _ _ _ => True := by
  rcases event with ⟨appGuid, routeGuid⟩ | ⟨appGuid, routeGuid⟩ | ⟨routeGuid, appGuid, appGuids⟩
  · rcases hget : routes.get? routeGuid with _ | ⟨metadata, _ | entity⟩ <;>
      simp [routeReducer, hget]
  · rcases hget : routes.get? routeGuid with _ | ⟨metadata, _ | entity⟩ <;>
      simp [routeReducer, hget]
  · exact iff_of_true rfl trivial

/-- What the reducers leave of an event. -/
theorem completeRouteRequest_eq_some {event : RouteEvent} :
    completeRouteRequest state event = some state' ↔ ∃ routes,
      routeReducer state.routes event = some routes ∧
      updateAppSummaryRoutesReducer state.summaries event = some state'.summaries ∧
      updateApplicationRoutesReducer state.applications event = some state'.applications ∧
      state'.routes = event.deletes.foldl JsObject.erase routes := by
  simp only [completeRouteRequest, Option.bind_eq_bind, Option.bind_eq_some_iff]
  rcases event with ⟨appGuid, routeGuid⟩ | ⟨appGuid, routeGuid⟩ | ⟨routeGuid, appGuid, appGuids⟩
  all_goals
    constructor
    · rintro ⟨routes, hroutes, summaries, hsummaries, applications, happlications, h⟩
      obtain rfl := Option.some.inj h
      exact ⟨routes, hroutes, hsummaries, happlications, rfl⟩
    · rintro ⟨routes, hroutes, hsummaries, happlications, h⟩
      refine ⟨routes, hroutes, _, hsummaries, _, happlications, ?_⟩
      obtain ⟨applications, _, summaries⟩ := state'
      obtain rfl := h
      rfl

theorem afterEvent_of_complete {event : RouteEvent}
    (h : completeRouteRequest state event = some state')
    (hfits : AppsFit state.applications event) : AfterEvent state event state' := by
  obtain ⟨routes, hroutes, hsummaries, happlications, hroutes'⟩ := completeRouteRequest_eq_some.1 h
  obtain ⟨applications, heq, hafter⟩ := get?_updateApplicationRoutes event hfits
  obtain rfl := Option.some.inj (happlications.symm.trans heq)
  refine ⟨fun guid => (hafter guid).1, ⟨fun guid => (hafter guid).2.1,
    fun guid => (hafter guid).2.2, fun guid => get?_updateAppSummaryRoutes hsummaries⟩,
    fun guid => ?_⟩
  rw [hroutes', ← apps_routeReducer hroutes]
  rcases event with ⟨appGuid, routeGuid⟩ | ⟨appGuid, routeGuid⟩ | ⟨routeGuid, appGuid, appGuids⟩
  · rfl
  · rfl
  · simp only [RouteEvent.deletes, List.foldl_cons, List.foldl_nil, JsObject.get?_erase,
      List.mem_singleton]
    split_ifs <;> rfl

end Reducers

/-! ## One event -/

section Event

variable {state state' : RouteStore} {event : RouteEvent} {deleted : List String}

/-- An application after an event has the routes that the event left. -/
theorem AfterEvent.of_app (h : AfterEvent state event state') {guid : String}
    {app' : StoredResource AppEntity}
    (hget : state'.applications.get? guid = some app') :
    ∃ app, state.applications.get? guid = some app ∧
      app'.routes = routesAfter event guid app.routes := by
  have hroutes := h.routes guid
  rw [hget, Option.map_some, eq_comm, Option.map_eq_some_iff] at hroutes
  obtain ⟨app, happ, heq⟩ := hroutes
  exact ⟨app, happ, heq.symm⟩

theorem AfterEvent.of_route (h : AfterEvent state event state') {guid : String}
    {route' : StoredResource RouteEntity} (hget : state'.routes.get? guid = some route') :
    guid ∉ event.deletes ∧ ∃ route, state.routes.get? guid = some route ∧
      route'.apps = appsAfter event guid route.apps := by
  have happs := h.apps guid
  rw [hget, Option.map_some] at happs
  split_ifs at happs with hdeleted
  obtain ⟨route, hroute, heq⟩ := Option.map_eq_some_iff.1 happs.symm
  exact ⟨hdeleted, route, hroute, heq.symm⟩

/-- The sides agree and the deleted routes are gone from both. -/
structure Consistent (deleted : List String) (state : RouteStore) : Prop where
  agrees : MappingAgrees state
  unmapped : ∀ routeGuid ∈ deleted, Unmapped routeGuid state
  gone : ∀ routeGuid ∈ deleted, state.routes.get? routeGuid = none

theorem routesAfter_of_ne {guid : String} (h : event.appGuid.map (·.1) ≠ some guid)
    (routes : List String) : routesAfter event guid routes = routes :=
  if_neg h

/-- Only a route that the event is about comes or goes. -/
theorem mem_routesAfter {guid appGuid : String} {routes : List String} :
    guid ∈ routesAfter event appGuid routes ↔
      if event.appGuid.map (·.1) = some appGuid then guid ∈ event.newRoutes routes
      else guid ∈ routes := by
  rw [routesAfter]
  split_ifs <;> rfl

/-- The change of one pair is the same on both sides. -/
theorem mem_after_iff (hagree : MappingAgrees state) {routeGuid appGuid : String}
    {route : StoredResource RouteEntity} {app : StoredResource AppEntity}
    (hroute : state.routes.get? routeGuid = some route)
    (happ : state.applications.get? appGuid = some app) (hdeleted : routeGuid ∉ event.deletes) :
    routeGuid ∈ routesAfter event appGuid app.routes ↔
      appGuid ∈ appsAfter event routeGuid route.apps := by
  have hold := hagree.agree routeGuid route appGuid app hroute happ
  rcases event with ⟨named, changed⟩ | ⟨named, changed⟩ | ⟨changed, named, appGuids⟩
  · simp only [mem_routesAfter, RouteEvent.appGuid, RouteEvent.newRoutes, appsAfter,
      Option.map_some, Option.some_inj]
    by_cases hr : routeGuid = changed
    · by_cases ha : named.1 = appGuid
      · simp [hr, ha]
      · simp [hr, ha, Ne.symm ha, ← hold]
    · by_cases ha : named.1 = appGuid
      · simpa [hr, ha] using hold
      · simpa [hr, ha] using hold
  · simp only [mem_routesAfter, RouteEvent.appGuid, RouteEvent.newRoutes, appsAfter,
      Option.map_some, Option.some_inj]
    by_cases hr : routeGuid = changed
    · by_cases ha : named.1 = appGuid
      · simp [hr, ha]
      · simp [hr, ha, Ne.symm ha, ← hold]
    · by_cases ha : named.1 = appGuid
      · simpa [hr, ha] using hold
      · simpa [hr, ha] using hold
  · have hne : routeGuid ≠ changed := fun heq => hdeleted (heq ▸ List.mem_singleton_self _)
    simp only [mem_routesAfter, RouteEvent.newRoutes, appsAfter]
    split_ifs <;> simp [hold, hne]

/-- What an event leaves of the routes of an application has no duplicates. -/
theorem nodup_routesAfter (hagree : MappingAgrees state) (hfits : RouteFits state event)
    {appGuid : String} {app : StoredResource AppEntity}
    (happ : state.applications.get? appGuid = some app) :
    (routesAfter event appGuid app.routes).Nodup := by
  have hnodup := hagree.nodupRoutes appGuid app happ
  rw [routesAfter]
  split_ifs with hnamed
  · rcases event with ⟨named, changed⟩ | ⟨named, changed⟩ | ⟨changed, named, appGuids⟩
    · obtain ⟨route, hroute, -, hnew⟩ := hfits
      have hnamed : named.1 = appGuid := Option.some.inj hnamed
      have hnot : changed ∉ app.routes := fun hmem =>
        hnew (hnamed ▸ (hagree.agree changed route appGuid app hroute happ).1 hmem)
      exact hnodup.append (List.nodup_singleton _) (by simpa using hnot)
    · exact hnodup.filter _
    · exact hnodup.filter _
  · exact hnodup

theorem nodup_appsAfter (hagree : MappingAgrees state) (hfits : RouteFits state event)
    {routeGuid : String} {route : StoredResource RouteEntity}
    (hroute : state.routes.get? routeGuid = some route) :
    (appsAfter event routeGuid route.apps).Nodup := by
  have hnodup := hagree.nodupApps routeGuid route hroute
  rcases event with ⟨named, changed⟩ | ⟨named, changed⟩ | ⟨changed, named, appGuids⟩
  · simp only [appsAfter]
    split_ifs with hchanged
    · obtain ⟨route₁, hroute₁, -, hnew⟩ := hfits
      rw [← hchanged, hroute, Option.some_inj] at hroute₁
      subst hroute₁
      exact hnodup.append (List.nodup_singleton _) (by simpa using hnew)
    · exact hnodup
  · simp only [appsAfter]
    split_ifs
    · exact hnodup.filter _
    · exact hnodup
  · exact hnodup

/-- A route that is deleted, now or before, is in no application. -/
theorem not_mem_routesAfter (h : Consistent deleted state) (hfits : RouteFits state event)
    {routeGuid : String} (hmem : routeGuid ∈ event.deletes ++ deleted) {appGuid : String}
    {app : StoredResource AppEntity} (happ : state.applications.get? appGuid = some app) :
    routeGuid ∉ routesAfter event appGuid app.routes := by
  rw [mem_routesAfter]
  rcases event with ⟨named, changed⟩ | ⟨named, changed⟩ | ⟨changed, named, appGuids⟩
  · have hnot := h.unmapped routeGuid hmem appGuid app happ
    obtain ⟨route, hroute, -⟩ := hfits
    have hne : routeGuid ≠ changed := by
      rintro rfl
      rw [h.gone routeGuid hmem] at hroute
      cases hroute
    split_ifs <;> simp [RouteEvent.newRoutes, hnot, hne]
  · have hnot := h.unmapped routeGuid hmem appGuid app happ
    split_ifs <;> simp [RouteEvent.newRoutes, hnot]
  · rcases List.mem_cons.1 hmem with rfl | hmem
    · split_ifs with hnamed
      · simp [RouteEvent.newRoutes]
      · exact fun hin => hnamed (hfits appGuid app happ hin)
    · have hnot := h.unmapped routeGuid hmem appGuid app happ
      split_ifs <;> simp [RouteEvent.newRoutes, hnot]

/-- An event that fits keeps the store consistent. -/
theorem consistent_of_fits (h : Consistent deleted state) (hafter : AfterEvent state event state')
    (hfits : RouteFits state event) : Consistent (event.deletes ++ deleted) state' := by
  refine ⟨⟨?_, ?_, ?_⟩, ?_, ?_⟩
  · intro routeGuid route' appGuid app' hroute' happ'
    obtain ⟨hdeleted, route, hroute, happs⟩ := hafter.of_route hroute'
    obtain ⟨app, happ, hroutes⟩ := hafter.of_app happ'
    rw [happs, hroutes]
    exact mem_after_iff h.agrees hroute happ hdeleted
  · intro appGuid app' happ'
    obtain ⟨app, happ, hroutes⟩ := hafter.of_app happ'
    rw [hroutes]
    exact nodup_routesAfter h.agrees hfits happ
  · intro routeGuid route' hroute'
    obtain ⟨-, route, hroute, happs⟩ := hafter.of_route hroute'
    rw [happs]
    exact nodup_appsAfter h.agrees hfits hroute
  · intro routeGuid hmem appGuid app' happ'
    obtain ⟨app, happ, hroutes⟩ := hafter.of_app happ'
    rw [hroutes]
    exact not_mem_routesAfter h hfits hmem happ
  · intro routeGuid hmem
    rw [← Option.map_eq_none_iff, hafter.apps routeGuid]
    rcases List.mem_append.1 hmem with hdeleted | hmem
    · rw [if_pos hdeleted]
    · split_ifs
      · rfl
      · rw [h.gone routeGuid hmem]
        rfl

/-- An event after which the sides agree did fit. -/
theorem routeFits_of_agrees (hcomplete : completeRouteRequest state event = some state')
    (hafter : AfterEvent state event state') (hagree : MappingAgrees state')
    (hunmapped : ∀ guid ∈ event.deletes, Unmapped guid state') : RouteFits state event := by
  obtain ⟨routes, hroutes, -⟩ := completeRouteRequest_eq_some.1 hcomplete
  have hloaded := (routeReducer_isSome_iff _ _).1 (by rw [hroutes]; rfl)
  rcases event with ⟨named, changed⟩ | ⟨named, changed⟩ | ⟨changed, named, appGuids⟩
  · obtain ⟨route, hroute, hentity⟩ := hloaded
    refine ⟨route, hroute, hentity, ?_⟩
    have happs := hafter.apps changed
    have hkept : changed ∉ (RouteEvent.assign named changed).deletes := List.not_mem_nil
    rw [hroute, if_neg hkept, Option.map_some, Option.map_eq_some_iff] at happs
    obtain ⟨route', hroute', heq⟩ := happs
    have hnodup := hagree.nodupApps changed route' hroute'
    rw [heq, appsAfter, if_pos rfl] at hnodup
    exact fun hmem => (List.nodup_append.1 hnodup).2.2 _ hmem _ (List.mem_singleton_self _) rfl
  · exact hloaded
  · intro appGuid app happ hmem
    by_contra hnamed
    have hroutes := hafter.routes appGuid
    rw [happ, Option.map_some, Option.map_eq_some_iff] at hroutes
    obtain ⟨app', happ', heq⟩ := hroutes
    rw [@routesAfter_of_ne (.delete changed named appGuids) _ hnamed] at heq
    exact hunmapped changed (List.mem_singleton_self _) appGuid app' happ' (heq ▸ hmem)

theorem fits_of_agrees (hcomplete : completeRouteRequest state event = some state')
    (hothers : KeepsOthers event state state') (hagree : MappingAgrees state')
    (hunmapped : ∀ guid ∈ event.deletes, Unmapped guid state') : RouteEventFits state event := by
  obtain ⟨-, -, hsummaries, happlications, -⟩ := completeRouteRequest_eq_some.1 hcomplete
  have hfits := appsFit_of_updateApplicationRoutes happlications hothers.metadata
  exact ⟨routeFits_of_agrees hcomplete (afterEvent_of_complete hcomplete hfits) hagree hunmapped,
    hfits, (updateAppSummaryRoutes_isSome_iff _ _).1 (by rw [hsummaries]; rfl)⟩

theorem exists_complete_of_fits (hfits : RouteEventFits state event) :
    ∃ state', completeRouteRequest state event = some state' := by
  have hloaded : (routeReducer state.routes event).isSome := by
    rw [routeReducer_isSome_iff]
    have hroute := hfits.route
    rcases event with ⟨named, changed⟩ | ⟨named, changed⟩ | ⟨changed, named, appGuids⟩
    · obtain ⟨route, hget, hentity, -⟩ := hroute
      exact ⟨route, hget, hentity⟩
    · exact hroute
    · trivial
  obtain ⟨routes, hroutes⟩ := Option.isSome_iff_exists.1 hloaded
  obtain ⟨summaries, hsummaries⟩ := Option.isSome_iff_exists.1
    ((updateAppSummaryRoutes_isSome_iff _ _).2 hfits.summaries)
  obtain ⟨applications, happlications, -⟩ := get?_updateApplicationRoutes event hfits.apps
  exact ⟨⟨applications, event.deletes.foldl JsObject.erase routes, summaries⟩,
    completeRouteRequest_eq_some.2 ⟨routes, hroutes, hsummaries, happlications, rfl⟩⟩

end Event

/-! ## Sequences of events -/

theorem KeepsAgreement.start {deleted : List String} {events : List RouteEvent} {state : RouteStore}
    (h : KeepsAgreement deleted events state) :
    MappingAgrees state ∧ ∀ routeGuid ∈ deleted, Unmapped routeGuid state := by
  rcases events with _ | ⟨event, events⟩
  · exact h
  · exact ⟨h.1, h.2.1⟩

theorem keepsAgreement_of_consistent {deleted : List String} (events : List RouteEvent)
    {state : RouteStore} (h : Consistent deleted state) :
    KeepsAgreement deleted events state ↔ RouteEventsFit events state := by
  induction events generalizing state deleted with
  | nil => exact iff_of_true ⟨h.agrees, h.unmapped⟩ trivial
  | cons event events ih =>
    constructor
    · rintro ⟨-, -, state', hcomplete, hothers, hrest⟩
      have hfits : RouteEventFits state event := fits_of_agrees hcomplete hothers hrest.start.1
        fun guid hguid => hrest.start.2 guid (List.mem_append_left _ hguid)
      have hafter := afterEvent_of_complete hcomplete hfits.apps
      refine ⟨hfits, fun state'' hcomplete' => ?_⟩
      obtain rfl := Option.some.inj (hcomplete.symm.trans hcomplete')
      exact (ih (consistent_of_fits h hafter hfits.route)).1 hrest
    · rintro ⟨hfits, hrest⟩
      obtain ⟨state', hcomplete⟩ := exists_complete_of_fits hfits
      have hafter := afterEvent_of_complete hcomplete hfits.apps
      exact ⟨h.agrees, h.unmapped, state', hcomplete, hafter.others,
        (ih (consistent_of_fits h hafter hfits.route)).2 (hrest state' hcomplete)⟩

/-- From a store whose sides agree they keep agreeing exactly when every event fits. -/
theorem keepsAgreement_iff (events : List RouteEvent) (state : RouteStore)
    (h : MappingAgrees state) : KeepsAgreement [] events state ↔ RouteEventsFit events state :=
  keepsAgreement_of_consistent events
    ⟨h, fun _ hmem => absurd hmem List.not_mem_nil, fun _ hmem => absurd hmem List.not_mem_nil⟩

/-- One application and one route that is mapped to it, with a summary. -/
def mappedStore : RouteStore where
  applications := JsObject.empty.set "app" ⟨some ⟨"app"⟩, some ⟨some ["route"]⟩⟩
  routes := JsObject.empty.set "route" ⟨some ⟨"route"⟩, some ⟨some ["app"]⟩⟩
  summaries := JsObject.empty.set "app" ⟨some ⟨"app"⟩, some ⟨some [⟨some (some "route")⟩]⟩⟩

/-- A second application and a second route, not mapped. -/
def twoMapped : RouteStore where
  applications := mappedStore.applications.set "other" ⟨some ⟨"other"⟩, some ⟨none⟩⟩
  routes := mappedStore.routes.set "spare" ⟨some ⟨"spare"⟩, some ⟨none⟩⟩
  summaries := mappedStore.summaries

/-- Whether the sides agree is read off the keys. -/
theorem mappingAgrees_of_keys {state : RouteStore}
    (hagree : ∀ routeGuid ∈ state.routes.keys, ∀ appGuid ∈ state.applications.keys,
      (routeGuid ∈ ((state.applications.get? appGuid).map StoredResource.routes).getD [] ↔
        appGuid ∈ ((state.routes.get? routeGuid).map StoredResource.apps).getD []))
    (happs : ∀ appGuid ∈ state.applications.keys,
      (((state.applications.get? appGuid).map StoredResource.routes).getD []).Nodup)
    (hroutes : ∀ routeGuid ∈ state.routes.keys,
      (((state.routes.get? routeGuid).map StoredResource.apps).getD []).Nodup) :
    MappingAgrees state := by
  refine ⟨fun routeGuid route appGuid app hroute happ => ?_, fun appGuid app happ => ?_,
    fun routeGuid route hroute => ?_⟩
  · simpa [hroute, happ] using hagree routeGuid (JsObject.mem_keys_of_get? hroute) appGuid
      (JsObject.mem_keys_of_get? happ)
  · simpa [happ] using happs appGuid (JsObject.mem_keys_of_get? happ)
  · simpa [hroute] using hroutes routeGuid (JsObject.mem_keys_of_get? hroute)

/-- The second route goes to both applications, the first one leaves its application and comes to
the other, and is deleted with it. -/
theorem keepsAgreement_iff_moved :
    KeepsAgreement [] [.assign ⟨"app", by decide⟩ "spare", .assign ⟨"other", by decide⟩ "spare",
        .unmap ⟨"app", by decide⟩ "route", .assign ⟨"other", by decide⟩ "route",
        .delete "route" (some ⟨"other", by decide⟩) none] twoMapped ↔
      RouteEventsFit [.assign ⟨"app", by decide⟩ "spare", .assign ⟨"other", by decide⟩ "spare",
        .unmap ⟨"app", by decide⟩ "route", .assign ⟨"other", by decide⟩ "route",
        .delete "route" (some ⟨"other", by decide⟩) none] twoMapped :=
  keepsAgreement_iff _ _ (mappingAgrees_of_keys (by decide) (by decide) (by decide))

/-- A deletion that carries the applications as a list. -/
theorem not_keepsAgreement_deleteList : ¬∀ (events : List RouteEvent) (state : RouteStore),
    MappingAgrees state → KeepsAgreement [] events state := by
  intro h
  obtain ⟨-, -, state', hcomplete, -, -, hunmapped⟩ :=
    h [.delete "route" none (some ["app"])] mappedStore
      (mappingAgrees_of_keys (by decide) (by decide) (by decide))
  obtain ⟨_, -, -, happlications, -⟩ := completeRouteRequest_eq_some.1 hcomplete
  refine hunmapped "route" (by decide) "app" ⟨some ⟨"app"⟩, some ⟨some ["route"]⟩⟩ ?_ (by decide)
  rw [← Option.some.inj happlications]
  decide

end Stratos
