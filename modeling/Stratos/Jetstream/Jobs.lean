import Stratos.Jetstream.Datastore
import Stratos.Lib.GoValue

/-!
# The jobs of the hub

The handlers of jobs decode the body of a request into an untyped map and assert the types of its
fields, so a field of another type is a panic, and so is one that is not there. A task id that is
no number ends the process. No field of an untyped map is an `int64` : `createJob` never sends
anything (`addTaskRequest_error`). `updateJob` sends one replica, whatever the body says.

`handled_iff` is the condition of each handler : it is the one of a body that is decoded, since
one that is not is answered with an error.
-/

open Lib Lib.Json

namespace Stratos

namespace Jobs

/-! ## The hub -/

/-- The request that creates a task. -/
structure AddTaskRequest where
  name : Bytes
  type : String
  datacenterid : ℤ
  usertoken : String
  replica : ℤ
  deriving DecidableEq

/-- The request that cancels a task. -/
structure CancelTaskRequest where
  taskid : ℤ
  usertoken : String
  deriving DecidableEq

/-- The request that deletes a task. -/
structure PurgeTaskRequest where
  taskid : ℤ
  usertoken : String
  deriving DecidableEq

/-- The request that changes a task. -/
structure UpdateTaskRequest where
  usertoken : String
  taskid : ℤ
  replica : ℤ
  name : Bytes
  deriving DecidableEq

/-- The requests to the hub. -/
inductive HubRequest
  | addTask (r : AddTaskRequest)
  | cancelTask (r : CancelTaskRequest)
  | purgeTask (r : PurgeTaskRequest)
  | updateTask (r : UpdateTaskRequest)
  deriving DecidableEq

/-- What the handlers meet outside. -/
structure Hub where
  /-- `grpc.Dial` -/
  dial : Except String Unit
  /-- The status, or the error, that the hub answers. -/
  answer : HubRequest → Except String String
  /-- The text of the error of `json.Unmarshal`. -/
  unmarshalError : Bytes → String

/-- What a handler has sent, and what it returns. -/
structure JobRun where
  sent : List HubRequest
  result : Except GoError Unit

/-- The token of every request. -/
def usertoken : String := "ed1605e17374bde6c68864d072c9f5c9"

/-! ## The body -/

/-- A `map[string]interface{}`. -/
abbrev Body := List (Bytes × Untyped)

/-- `body[key]`, which is nil if there is no field. -/
def field (body : Body) (key : String) : Untyped := (lookup body (goBytes key)).getD .nil

/-- The name of the type of a value, as a panic has it. -/
def typeName : Untyped → String
  | .nil => "nil"
  | .bool _ => "bool"
  | .float64 _ => "float64"
  | .string _ => "string"
  | .slice _ => "[]interface \x7b\x7d"
  | .map _ => "map[string]interface \x7b\x7d"

/-- The panic of a type assertion. -/
def conversionPanic (v : Untyped) (type : String) : GoError :=
  .exit ("interface conversion: interface \x7b\x7d is " ++ typeName v ++ ", not " ++ type)

/-- `v.(string)` -/
def assertString : Untyped → Except GoError Bytes
  | .string s => .ok s
  | v => .error (conversionPanic v "string")

/-- `v.(int64)`. What is decoded is never one. -/
def assertInt64 (v : Untyped) : Except GoError ℤ := .error (conversionPanic v "int64")

variable (H : Hub)

/-- `ioutil.ReadAll` and `json.Unmarshal`. -/
def Hub.readBody (request : Except String Bytes) : Except GoError Body :=
  match request with
  | .error err => .error (.new err)
  | .ok s =>
    match unmarshalMap s with
    | none => .error (.new (H.unmarshalError s))
    | some body => .ok body

/-- Connects to the hub, or ends the process. -/
def Hub.connect : Except GoError Unit :=
  match H.dial with
  | .error err => .error (.exit ("did not connect: " ++ err))
  | .ok _ => .ok ()

/-- The call of the hub with a request, if there is one, and the error if the call fails. -/
def Hub.call (r : Except GoError (HubRequest × (GoError → GoError))) : JobRun :=
  match r with
  | .error e => ⟨[], .error e⟩
  | .ok (rpc, failed) =>
    match H.answer rpc with
    | .error err => ⟨[rpc], .error (failed (.new err))⟩
    | .ok _ => ⟨[rpc], .ok ()⟩

/-- What all handlers do : the body is decoded, and the hub is called with what is made of it. -/
def Hub.serve (request : Except String Bytes)
    (build : Body → Except GoError (HubRequest × (GoError → GoError))) : JobRun :=
  H.call do
    let body ← H.readBody request
    H.connect
    build body

/-! ## The handlers -/

/-- The number of replicas of a text, none for an empty one. -/
def replicaCount (replica : Bytes) : Except GoError ℤ :=
  if replica ≠ [] then
    match atoi replica with
    | none => .error (.new ("replica count " ++ (String.fromUTF8? ⟨replica.toArray⟩).getD "" ++
        " is not an int"))
    | some count => .ok count
  else .ok 0

/-- The request that `createJob` makes of a body. -/
def addTaskRequest (body : Body) : Except GoError (HubRequest × (GoError → GoError)) := do
  let name ← assertString (field body "taskname")
  let datacenterid ← assertInt64 (field body "datacenter")
  let replica ← assertString (field body "replica")
  let replica ← replicaCount replica
  return (.addTask ⟨name, "web", datacenterid, usertoken, replica⟩, id)

/-- The handler that creates a job. -/
def createJob (request : Except String Bytes) : JobRun := H.serve request addTaskRequest

/-- The task id of a body. `log.Fatalf` ends the process. -/
def taskID (body : Body) : Except GoError ℤ := do
  let s ← assertString (field body "taskID")
  match atoi s with
  | none => .error (.exit "ID is not an integer")
  | some id => .ok id

/-- The request with the task id only, which `cancelJob` and `deleteJob` send. -/
def taskRequest (rpc : ℤ → HubRequest) (body : Body) :
    Except GoError (HubRequest × (GoError → GoError)) := do
  let id ← taskID body
  return (rpc id, .wrap ("unable to delete task " ++ toString id ++ ": "))

/-- The handler that cancels a job. -/
def cancelJob (request : Except String Bytes) : JobRun :=
  H.serve request (taskRequest fun id => .cancelTask ⟨id, usertoken⟩)

/-- The handler that deletes a job. -/
def deleteJob (request : Except String Bytes) : JobRun :=
  H.serve request (taskRequest fun id => .purgeTask ⟨id, usertoken⟩)

/-- The request that `updateJob` makes of a body. -/
def updateTaskRequest (body : Body) : Except GoError (HubRequest × (GoError → GoError)) := do
  let id ← taskID body
  -- The name is set if it is not empty, which is the same.
  let name ← assertString (field body "taskname")
  return (.updateTask ⟨usertoken, id, 1, name⟩,
    .wrap ("unable to update task " ++ toString id ++ ": "))

/-- The handler that changes a job. -/
def updateJob (request : Except String Bytes) : JobRun := H.serve request updateTaskRequest

/-! ## What is asked of a handler -/

/-- The value stands for the number, as a number or as the text of one. -/
def Denotes : Untyped → ℤ → Prop
  | .float64 x, n => x = n
  | .string s, n => atoi s = some n
  | _, _ => False

/-- A field of the body, if it is there, stands for the number. -/
def CarriesNumber (body : Body) (key : String) (n : ℤ) : Prop :=
  ∀ v, lookup body (goBytes key) = some v → Denotes v n

/-- If the body has the field, it is the text. -/
def CarriesText (body : Body) (key : String) (s : Bytes) : Prop :=
  ∀ v, lookup body (goBytes key) = some v → v = .string s

/-- The body has the id of a task. -/
def HasTaskID (body : Body) (id : ℤ) : Prop :=
  ∃ v, lookup body (goBytes "taskID") = some v ∧ Denotes v id

/-- The four handlers. -/
inductive JobHandler
  | createJob
  | cancelJob
  | deleteJob
  | updateJob

/-- What a handler does with a request. -/
def JobHandler.run : JobHandler → Except String Bytes → JobRun
  | createJob => Jobs.createJob H
  | cancelJob => Jobs.cancelJob H
  | deleteJob => Jobs.deleteJob H
  | updateJob => Jobs.updateJob H

/-- The request is the handler's, and has the values of the body's fields. -/
def JobHandler.Carries : JobHandler → Body → HubRequest → Prop
  | createJob, body, .addTask r => CarriesText body "taskname" r.name ∧
      CarriesNumber body "datacenter" r.datacenterid ∧ CarriesNumber body "replica" r.replica
  | cancelJob, body, .cancelTask r => HasTaskID body r.taskid
  | deleteJob, body, .purgeTask r => HasTaskID body r.taskid
  | updateJob, body, .updateTask r => HasTaskID body r.taskid ∧
      CarriesText body "taskname" r.name ∧ CarriesNumber body "replica" r.replica
  | _, _, _ => False

/-- One request with the values of the body is sent, or none and an error is returned. There is no
panic, and the process does not end. -/
structure JobHandler.Handled (h : JobHandler) (request : Except String Bytes) (r : JobRun) :
    Prop where
  survives : ∀ reason, r.result ≠ .error (.exit reason)
  carries : (∃ s body rpc, request = .ok s ∧ unmarshalMap s = some body ∧ r.sent = [rpc] ∧
      h.Carries body rpc) ∨ r.sent = [] ∧ ∃ e, r.result = .error e

/-! ## When requests are handled -/

/-- The body has a task id that is the text of a number. -/
def TaskIDIsText (body : Body) : Prop :=
  ∃ s id, lookup body (goBytes "taskID") = some (.string s) ∧ atoi s = some id

/-- What a body must be that is decoded. -/
def JobHandler.Fits : JobHandler → Body → Prop
  | createJob, _ => False
  | cancelJob, body => TaskIDIsText body
  | deleteJob, body => TaskIDIsText body
  | updateJob, body => TaskIDIsText body ∧
      (∃ name, lookup body (goBytes "taskname") = some (.string name)) ∧
      CarriesNumber body "replica" 1

/-- The body is not decoded, or the hub is there and the body fits. -/
def JobHandler.Accepts (h : JobHandler) (request : Except String Bytes) : Prop :=
  ∀ s body, request = .ok s → unmarshalMap s = some body → H.dial = .ok () ∧ h.Fits body

/-! ### What is made of a body -/

section Build

variable {body : Body}

theorem field_of_lookup {key : String} {v : Untyped} (h : lookup body (goBytes key) = some v) :
    field body key = v := by
  rw [field, h, Option.getD_some]

/-- A field that is a string is there. -/
theorem lookup_of_field {key : String} {s : Bytes} (h : field body key = .string s) :
    lookup body (goBytes key) = some (.string s) := by
  rw [field] at h
  cases hlookup : lookup body (goBytes key) with
  | none =>
    rw [hlookup] at h
    cases h
  | some v =>
    rw [hlookup, Option.getD_some] at h
    rw [h]

theorem assertString_cases (v : Untyped) : (∃ s, v = .string s) ∨
    (∀ s, v ≠ .string s) ∧ ∃ reason, assertString v = .error (.exit reason) := by
  cases v with
  | string s => exact Or.inl ⟨s, rfl⟩
  | _ => exact Or.inr ⟨nofun, _, rfl⟩

theorem eq_string_of_toOption {v : Untyped} {s : Bytes}
    (h : (assertString v).toOption = some s) : v = .string s := by
  obtain ⟨s', rfl⟩ | ⟨-, reason, hpanic⟩ := assertString_cases v
  · obtain rfl : s' = s := Option.some.inj h
    rfl
  · rw [hpanic] at h
    cases h

theorem taskID_cases (body : Body) :
    (TaskIDIsText body ∧ ∃ id, taskID body = .ok id ∧ HasTaskID body id) ∨
      ¬TaskIDIsText body ∧ ∃ reason, taskID body = .error (.exit reason) := by
  obtain ⟨s, hs⟩ | ⟨hnot, reason, hpanic⟩ := assertString_cases (field body "taskID")
  · have hlookup := lookup_of_field hs
    cases hid : atoi s with
    | some id =>
      refine Or.inl ⟨⟨s, id, hlookup, hid⟩, id, ?_, _, hlookup, hid⟩
      rw [taskID, hs, assertString, ok_bind, hid]
    | none =>
      refine Or.inr ⟨?_, "ID is not an integer", ?_⟩
      · rintro ⟨s', id, hlookup', hid'⟩
        obtain rfl : s = s' := by simpa using hlookup.symm.trans hlookup'
        rw [hid] at hid'
        cases hid'
      · rw [taskID, hs, assertString, ok_bind, hid]
  · refine Or.inr ⟨?_, reason, ?_⟩
    · rintro ⟨s, id, hlookup, -⟩
      exact hnot s (field_of_lookup hlookup)
    · rw [taskID, hpanic]
      rfl

/-- The request that a handler makes of a body. -/
def JobHandler.build : JobHandler → Body → Except GoError (HubRequest × (GoError → GoError))
  | createJob => addTaskRequest
  | cancelJob => taskRequest fun id => .cancelTask ⟨id, usertoken⟩
  | deleteJob => taskRequest fun id => .purgeTask ⟨id, usertoken⟩
  | updateJob => updateTaskRequest

theorem run_eq (h : JobHandler) (request : Except String Bytes) :
    h.run H request = H.serve request h.build := by
  cases h <;> rfl

/-- A panic, or a request. If the call fails there is an error, and no panic. -/
inductive JobHandler.Builds (h : JobHandler) (body : Body) : Prop
  | panics (reason : String) (hbuild : h.build body = .error (.exit reason))
      (hfits : ¬h.Fits body)
  | sends (rpc : HubRequest) (failed : GoError → GoError)
      (hbuild : h.build body = .ok (rpc, failed))
      (hfailed : ∀ err reason, failed err = .exit reason → err = .exit reason)
      (hcarries : h.Carries body rpc ↔ h.Fits body)

/-- A body has no data center that is an `int64`. -/
theorem addTaskRequest_error (body : Body) :
    ∃ reason, addTaskRequest body = .error (.exit reason) := by
  obtain ⟨s, hs⟩ | ⟨-, reason, hpanic⟩ := assertString_cases (field body "taskname")
  · have hbuild : addTaskRequest body =
        .error (conversionPanic (field body "datacenter") "int64") := by
      rw [addTaskRequest, hs]
      rfl
    exact ⟨_, hbuild⟩
  · refine ⟨reason, ?_⟩
    rw [addTaskRequest, hpanic]
    rfl

theorem builds_updateJob (body : Body) : JobHandler.updateJob.Builds body := by
  obtain ⟨htext, id, hid, hhas⟩ | ⟨hnot, reason, hpanic⟩ := taskID_cases body
  · obtain ⟨name, hname⟩ | ⟨hnot, reason, hpanic⟩ := assertString_cases (field body "taskname")
    · have hlookup := lookup_of_field hname
      have hbuild : JobHandler.updateJob.build body = .ok (.updateTask ⟨usertoken, id, 1, name⟩,
          .wrap ("unable to update task " ++ toString id ++ ": ")) := by
        rw [JobHandler.build, updateTaskRequest, hid, ok_bind, hname]
        rfl
      refine .sends _ _ hbuild (fun _ _ h => nomatch h) ⟨?_, ?_⟩
      · rintro ⟨-, -, hreplica⟩
        exact ⟨htext, ⟨name, hlookup⟩, hreplica⟩
      · rintro ⟨-, -, hreplica⟩
        exact ⟨hhas, fun v hv => Option.some.inj (hv.symm.trans hlookup), hreplica⟩
    · refine .panics reason ?_ ?_
      · rw [JobHandler.build, updateTaskRequest, hid, ok_bind, hpanic]
        rfl
      · rintro ⟨-, ⟨name, hname⟩, -⟩
        exact hnot name (field_of_lookup hname)
  · refine .panics reason ?_ fun h => hnot h.1
    rw [JobHandler.build, updateTaskRequest, hpanic]
    rfl

theorem taskRequest_ok (rpc : ℤ → HubRequest) {id : ℤ} (hid : taskID body = .ok id) :
    taskRequest rpc body =
      .ok (rpc id, .wrap ("unable to delete task " ++ toString id ++ ": ")) := by
  rw [taskRequest, hid]
  rfl

theorem taskRequest_error (rpc : ℤ → HubRequest) {e : GoError} (he : taskID body = .error e) :
    taskRequest rpc body = .error e := by
  rw [taskRequest, he]
  rfl

theorem builds (h : JobHandler) (body : Body) : h.Builds body := by
  cases h with
  | createJob =>
    obtain ⟨reason, hpanic⟩ := addTaskRequest_error body
    exact .panics reason hpanic id
  | updateJob => exact builds_updateJob body
  | cancelJob =>
    obtain ⟨htext, id, hid, hhas⟩ | ⟨hnot, reason, hpanic⟩ := taskID_cases body
    · exact .sends _ _ (taskRequest_ok _ hid) (fun _ _ h => nomatch h)
        ⟨fun _ => htext, fun _ => hhas⟩
    · exact .panics reason (taskRequest_error _ hpanic) hnot
  | deleteJob =>
    obtain ⟨htext, id, hid, hhas⟩ | ⟨hnot, reason, hpanic⟩ := taskID_cases body
    · exact .sends _ _ (taskRequest_ok _ hid) (fun _ _ h => nomatch h)
        ⟨fun _ => htext, fun _ => hhas⟩
    · exact .panics reason (taskRequest_error _ hpanic) hnot

end Build

/-! ### The exact condition -/

section Handled

variable {H} {h : JobHandler} {request : Except String Bytes}

theorem not_handled_exit (reason : String) :
    ¬h.Handled request (H.call (.error (.exit reason))) :=
  fun hhandled => hhandled.survives reason rfl

/-- A body that is not decoded is answered with an error. -/
theorem handled_new (msg : String) : h.Handled request (H.call (.error (.new msg))) :=
  ⟨fun _ => nofun, Or.inr ⟨rfl, _, rfl⟩⟩

theorem sent_call_ok (rpc : HubRequest) (failed : GoError → GoError) :
    (H.call (.ok (rpc, failed))).sent = [rpc] := by
  rw [Hub.call]
  cases H.answer rpc <;> rfl

theorem survives_call_ok {rpc : HubRequest} {failed : GoError → GoError}
    (hfailed : ∀ err reason, failed err = .exit reason → err = .exit reason) (reason : String) :
    (H.call (.ok (rpc, failed))).result ≠ .error (.exit reason) := by
  intro hexit
  rw [Hub.call] at hexit
  cases hanswer : H.answer rpc with
  | error err =>
    rw [hanswer] at hexit
    cases hfailed (.new err) reason (Except.error.inj hexit)
  | ok status =>
    rw [hanswer] at hexit
    cases hexit

/-- What a handler does with a body that is decoded. -/
theorem handled_serve_iff {s : Bytes} {body : Body} (hbody : unmarshalMap s = some body) :
    h.Handled (.ok s) (H.serve (.ok s) h.build) ↔ H.dial = .ok () ∧ h.Fits body := by
  have hread : H.readBody (.ok s) = .ok body := by
    rw [Hub.readBody, hbody]
  rw [Hub.serve, hread, ok_bind, Hub.connect]
  cases hdial : H.dial with
  | error err => exact iff_of_false (not_handled_exit _) fun h => nomatch h.1
  | ok _ =>
    simp only [ok_bind, true_and]
    obtain ⟨reason, hbuild, hfits⟩ | ⟨rpc, failed, hbuild, hfailed, hcarries⟩ := builds h body
    · rw [hbuild]
      exact iff_of_false (not_handled_exit reason) hfits
    · rw [hbuild, ← hcarries]
      constructor
      · rintro ⟨-, ⟨s', body', rpc', hs, hbody', hsent, hcarried⟩ | ⟨hnone, -⟩⟩
        · obtain rfl : s = s' := Except.ok.inj hs
          obtain rfl : body = body' := Option.some.inj (hbody.symm.trans hbody')
          obtain rfl : rpc = rpc' := by simpa [sent_call_ok] using hsent
          exact hcarried
        · rw [sent_call_ok] at hnone
          cases hnone
      · intro hcarried
        exact ⟨survives_call_ok hfailed,
          Or.inl ⟨s, body, rpc, rfl, hbody, sent_call_ok rpc failed, hcarried⟩⟩

/-- A handler does what it should exactly with the requests that it accepts. -/
theorem handled_iff (H : Hub) (h : JobHandler) (request : Except String Bytes) :
    h.Handled request (h.run H request) ↔ h.Accepts H request := by
  rw [run_eq]
  cases request with
  | error err => exact iff_of_true (handled_new err) fun s body hs => nomatch hs
  | ok s =>
    cases hbody : unmarshalMap s with
    | none =>
      refine iff_of_true ?_ fun s' body hs hbody' => ?_
      · rw [Hub.serve, Hub.readBody, hbody]
        exact handled_new _
      · obtain rfl : s = s' := Except.ok.inj hs
        rw [hbody] at hbody'
        cases hbody'
    | some body =>
      rw [handled_serve_iff hbody]
      constructor
      · intro haccepts s' body' hs hbody'
        obtain rfl : s = s' := Except.ok.inj hs
        obtain rfl : body = body' := Option.some.inj (hbody.symm.trans hbody')
        exact haccepts
      · exact fun haccepts => haccepts s body rfl hbody

end Handled

/-! ### A body with three replicas -/

/-- A hub that answers every call. -/
def sampleHub : Hub := ⟨.ok (), fun _ => .ok "Success", fun _ => ""⟩

/-- A body that asks for three replicas. -/
def threeReplicas : Bytes :=
  goBytes "\x7b\"taskID\":\"7\",\"taskname\":\"nginx\",\"replica\":\"3\"\x7d"

/-- `updateJob` asks for one replica. -/
theorem not_handled_threeReplicas :
    (∃ body, unmarshalMap threeReplicas = some body ∧
      lookup body (goBytes "replica") = some (.string (goBytes "3"))) ∧
    (updateJob sampleHub (.ok threeReplicas)).sent =
      [.updateTask ⟨usertoken, 7, 1, goBytes "nginx"⟩] ∧
    ¬JobHandler.updateJob.Handled (.ok threeReplicas)
      (JobHandler.updateJob.run sampleHub (.ok threeReplicas)) := by
  have hsome : (unmarshalMap threeReplicas).isSome := by decide +kernel
  obtain ⟨body, hbody⟩ := Option.isSome_iff_exists.1 hsome
  have htext : ((unmarshalMap threeReplicas).bind fun body =>
      (assertString (field body "replica")).toOption) = some (goBytes "3") := by decide +kernel
  have hreplica : field body "replica" = .string (goBytes "3") := by
    rw [hbody] at htext
    exact eq_string_of_toOption htext
  refine ⟨⟨body, hbody, lookup_of_field hreplica⟩, by decide +kernel, fun h => ?_⟩
  rw [run_eq, handled_serve_iff hbody] at h
  obtain ⟨-, -, -, hone⟩ := h
  have hdenotes : atoi (goBytes "3") = some 1 := hone _ (lookup_of_field hreplica)
  exact absurd hdenotes (by decide)

end Jobs

end Stratos
