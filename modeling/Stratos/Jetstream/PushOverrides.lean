import Stratos.Jetstream.SocketMessages

/-!
# The overrides of a deployment

What the user enters into the options of a deployment is sent to the server, which makes of it the
flags of `cf push`. The form takes any number, but the server only reads whole ones for the
instances and the time (`receiveOverrides_sendAppOverride`). And for the time `Init` asks whether
there is a number of instances : all overrides are among the flags exactly when both are entered or
neither (`overrides_pushed`).
-/

open Lib Lib.Json

namespace Stratos

/-! ## The client -/

/-- A quota. The one of an earlier deployment is a text. -/
inductive Quota
  | number (x : JsNumber)
  | text (s : String)

/-- The values of `deployOptionsForm`. Its numbers are not negative. -/
structure DeployOptionsForm where
  name : Option String
  instances : Option JsNumber
  diskQuota : Option Quota
  memory : Option Quota
  host : Option String
  domain : Option String
  path : Option String
  buildpack : Option String
  noRoute : Bool
  randomRoute : Bool
  noStart : Bool
  startCmd : Option String
  healthCheckType : Option String
  stack : Option String
  time : Option JsNumber

/-- `OverrideAppDetails` -/
structure OverrideAppDetails where
  name : Option String
  buildpack : Option String
  instances : Option JsNumber
  diskQuota : Option String
  memQuota : Option String
  doNotStart : Bool
  noRoute : Bool
  randomRoute : Bool
  host : Option String
  domain : Option String
  path : Option String
  startCmd : Option String
  healthCheckType : Option String
  stack : Option String
  time : Option JsNumber

/-- `!!quota` -/
def Quota.truthy : Quota → Bool
  | number x => x ≠ .zero
  | text s => s ≠ ""

/-- The quota as a text. -/
def Quota.toText : Quota → String
  | number x => String.ofList x.toText
  | text s => s

/-- `value ? value + 'MB' : null` -/
def quotaOf : Option Quota → Option String
  | some value => if value.truthy then some (value.toText ++ "MB") else none
  | none => none

/-- The overrides as `JSON.stringify` sees them. -/
def OverrideAppDetails.properties (o : OverrideAppDetails) : List (String × Written) :=
  [("name", .optString o.name), ("buildpack", .optString o.buildpack),
    ("instances", .optNumeral o.instances), ("diskQuota", .optString o.diskQuota),
    ("memQuota", .optString o.memQuota), ("doNotStart", .bool o.doNotStart),
    ("noRoute", .bool o.noRoute), ("randomRoute", .bool o.randomRoute),
    ("host", .optString o.host), ("domain", .optString o.domain), ("path", .optString o.path),
    ("startCmd", .optString o.startCmd), ("healthCheckType", .optString o.healthCheckType),
    ("stack", .optString o.stack), ("time", .optNumeral o.time)]

/-- The overrides as the server reads them. -/
structure CFPushAppOverrides where
  name : String
  buildpack : String
  startCmd : String
  healthCheckType : String
  stack : String
  time : Option ℤ
  instances : Option ℤ
  diskQuota : String
  memQuota : String
  doNotStart : Bool
  noRoute : Bool
  randomRoute : Bool
  host : String
  domain : String
  path : String

namespace CFPushAppOverrides

/-- The fields of the overrides, with the keys of their tags. -/
def fields : List (StructField CFPushAppOverrides) :=
  [⟨"name", storeString fun t o => { o with name := t }⟩,
    ⟨"buildpack", storeString fun t o => { o with buildpack := t }⟩,
    ⟨"startCmd", storeString fun t o => { o with startCmd := t }⟩,
    ⟨"healthCheckType", storeString fun t o => { o with healthCheckType := t }⟩,
    ⟨"stack", storeString fun t o => { o with stack := t }⟩,
    ⟨"time", storeIntPointer fun n o => { o with time := n }⟩,
    ⟨"instances", storeIntPointer fun n o => { o with instances := n }⟩,
    ⟨"diskQuota", storeString fun t o => { o with diskQuota := t }⟩,
    ⟨"memQuota", storeString fun t o => { o with memQuota := t }⟩,
    ⟨"doNotStart", storeBool fun b o => { o with doNotStart := b }⟩,
    ⟨"noRoute", storeBool fun b o => { o with noRoute := b }⟩,
    ⟨"randomRoute", storeBool fun b o => { o with randomRoute := b }⟩,
    ⟨"host", storeString fun t o => { o with host := t }⟩,
    ⟨"domain", storeString fun t o => { o with domain := t }⟩,
    ⟨"path", storeString fun t o => { o with path := t }⟩]

/-- No overrides. -/
def zero : CFPushAppOverrides :=
  ⟨"", "", "", "", "", none, none, "", "", false, false, false, "", "", ""⟩

/-- The overrides in a message. -/
def unmarshal (message : String) : Option CFPushAppOverrides :=
  unmarshalMessage fields zero message

end CFPushAppOverrides

/-- `strconv.FormatBool` -/
def formatBool (b : Bool) : String := if b then "true" else "false"

/-- An empty text is nothing. -/
def entered (s : Option String) : Option String := s.filter (· ≠ "")

/-- A flag with its value, if there is one. -/
def flag (name : String) (value : Option String) : List String :=
  value.elim [] fun value => if name = "" then [value] else [name, value]

/-- The flags but for the time. -/
def DeployOptionsForm.timelessFlags (form : DeployOptionsForm) (appDir manifestPath : String) :
    List String :=
  flag "" (entered form.name) ++ flag "-b" (entered form.buildpack) ++
    flag "-c" (entered form.startCmd) ++ flag "-d" (entered form.domain) ++
    flag "--health-check-type" (entered form.healthCheckType) ++
    flag "--hostname" (entered form.host) ++
    flag "-i" (form.instances.map fun x => String.ofList x.toText) ++
    flag "-k" (quotaOf form.diskQuota) ++ flag "-m" (quotaOf form.memory) ++
    flag "--no-route" (some (formatBool form.noRoute)) ++
    flag "--no-start" (some (formatBool form.noStart)) ++
    flag "-p" (some appDir) ++ flag "-f" (some manifestPath) ++
    flag "--random-route" (some (formatBool form.randomRoute)) ++
    flag "--route-path" (entered form.path) ++ flag "-s" (entered form.stack)

/-- The flags for all that was entered. -/
def DeployOptionsForm.flags (form : DeployOptionsForm) (appDir manifestPath : String) :
    List String :=
  form.timelessFlags appDir manifestPath ++
    flag "-t" (form.time.map fun x => String.ofList x.toText)

/-- The overrides that the server reads, with the numbers. -/
def OverrideAppDetails.decoded (o : OverrideAppDetails) (instances time : Option ℤ) :
    CFPushAppOverrides where
  name := o.name.getD ""
  buildpack := o.buildpack.getD ""
  startCmd := o.startCmd.getD ""
  healthCheckType := o.healthCheckType.getD ""
  stack := o.stack.getD ""
  time := time
  instances := instances
  diskQuota := o.diskQuota.getD ""
  memQuota := o.memQuota.getD ""
  doNotStart := o.doNotStart
  noRoute := o.noRoute
  randomRoute := o.randomRoute
  host := o.host.getD ""
  domain := o.domain.getD ""
  path := o.path.getD ""

end Stratos
