import Stratos.Lib.GoYaml

/-!
# The manifest with the marker of the project

Before an application is pushed, `fetchManifest` decodes the manifest, puts `STRATOS_PROJECT` into
the `env` of every application and writes the manifest back, and `sendManifest` sends it to the
client. What is written back is what the types of Go can hold. They have no field for keys they do
not know, leave out zeros, and write `dockerimage` and `dockercredentials`, whose tags are for JSON
only, into every application. The package for YAML is a parameter.

`rewrites_iff` is what a manifest must be for nothing else to change.
-/

open Lib Lib.Yaml

namespace Stratos

namespace Manifest

/-! ## The types -/

/-- A route of a manifest. -/
def rawManifestRoute : GoType := .struct (.cons "route" false .string .nil)

/-- The image of a manifest. -/
def rawDockerInfo : GoType :=
  .struct (.cons "image" true .string <| .cons "username" true .string .nil)

/-- The tags are for JSON, so the keys are the names of the fields in lower case. -/
def dockerCredentials : GoType :=
  .struct (.cons "username" false .string <| .cons "password" false .string .nil)

/-- The fields of an application, with their keys and the `omitempty` of their tags. -/
def applicationFields : Fields :=
  .cons "name" true .string <|
  .cons "buildpack" true .string <|
  .cons "command" true .string <|
  .cons "domain" true .untyped <|
  .cons "domains" true .untyped <|
  .cons "host" true .untyped <|
  .cons "hosts" true .untyped <|
  .cons "no-hostname" true .untyped <|
  .cons "disk_quota" true .string <|
  .cons "docker" true rawDockerInfo <|
  .cons "droplet-path" true .string <|
  .cons "env" true .stringMap <|
  .cons "health-check-http-endpoint" true .string <|
  .cons "health-check-type" true .string <|
  .cons "instances" true (.pointer .int) <|
  .cons "memory" true .string <|
  .cons "no-route" true .bool <|
  .cons "path" true .string <|
  .cons "random-route" true .bool <|
  .cons "routes" true (.slice rawManifestRoute) <|
  .cons "services" true (.slice .string) <|
  .cons "stack" true .string <|
  .cons "timeout" true .int <|
  -- `DockerImage` and `DockerCredentials` have no tag for YAML.
  .cons "dockerimage" false .string <|
  .cons "dockercredentials" false dockerCredentials .nil

/-- An application of a manifest. -/
def rawManifestApplication : GoType := .struct applicationFields

/-- The manifest as the code reads it. -/
def applications : GoType :=
  .struct (.cons "applications" false (.slice rawManifestApplication) .nil)

/-! ## The functions -/

/-- The variable with the data about the project. -/
def stratosProjectKey : String := "STRATOS_PROJECT"

/-- The file of the manifest. -/
inductive File
  | missing
  /-- A file that is no YAML. -/
  | invalid
  | document (t : Tree)

/-- What is sent to the client with an error. -/
inductive CloseMessage
  | CLOSE_NO_MANIFEST
  | CLOSE_INVALID_MANIFEST

/-- The manifest that is returned, and the document that is written. -/
structure Fetched where
  manifest : GoValue
  written : Option Tree

/-- `app.EnvironmentVariables[stratosProjectKey] = envVarMetaData`, in a map that is made if there
is none. -/
def setEnvironment (envVarMetaData : String) : GoValue → GoValue
  | .stringMap m => .stringMap (m.set stratosProjectKey (.scalar (.str envVarMetaData)))
  | _ => .stringMap (JsObject.empty.set stratosProjectKey (.scalar (.str envVarMetaData)))

/-- The application with the variable in its environment. -/
def markApplication (envVarMetaData : String) : GoValue → GoValue
  | .struct app => .struct (setField "env" (setEnvironment envVarMetaData) applicationFields app)
  | app => app

/-- The loop over `manifest.Applications`. -/
def markApplications (envVarMetaData : String) : GoValue → GoValue
  | .struct [.slice apps] => .struct [.slice (apps.map (markApplication envVarMetaData))]
  | manifest => manifest

/-- The text of the project is `envVarMetaData`. -/
def fetchManifest (Y : Package) (envVarMetaData : String) : File → Except CloseMessage Fetched
  | .missing => .error .CLOSE_NO_MANIFEST
  | .invalid => .error .CLOSE_INVALID_MANIFEST
  | .document t =>
    match Y.unmarshal applications t with
    | none => .error .CLOSE_INVALID_MANIFEST
    | some manifest =>
      if envVarMetaData ≠ "" then
        let manifest := markApplications envVarMetaData manifest
        .ok ⟨manifest, some (Y.marshal applications manifest)⟩
      else .ok ⟨manifest, none⟩

/-- Whether the manifest is sent. If not, the error of `json.Marshal` is returned. -/
def sendManifest (manifest : GoValue) : Bool := manifest.marshals

/-! ## What is asked of them -/

/-- The `env` of the application has the marker, if it has an `env` that is a mapping, or none. -/
def markedApplication (project : String) : Tree → Tree
  | .map m =>
    match get m (.str "env") with
    | none => .map (put m (.str "env") (.map [(.str stratosProjectKey, .scalar (.str project))]))
    | some (.scalar .null) =>
      .map (put m (.str "env") (.map [(.str stratosProjectKey, .scalar (.str project))]))
    | some (.map env) =>
      .map (put m (.str "env") (.map (put env (.str stratosProjectKey) (.scalar (.str project)))))
    | some _ => .map m
  | t => t

/-- A manifest with a list of applications, where no mapping has a key twice. -/
structure Document where
  entries : Entries
  distinct : Tree.Distinct (.map entries)
  applications : List Tree
  applications_eq : get entries (.str "applications") = some (.seq applications)

/-- The document as a tree. -/
def Document.tree (d : Document) : Tree := .map d.entries

/-- The manifest with the marker in every application. -/
def Document.marked (d : Document) (project : String) : Tree :=
  .map (put d.entries (.str "applications") (.seq (d.applications.map (markedApplication project))))

/-- What `json.Marshal` makes of a project, which is never empty. -/
abbrev ProjectText := { s : String // s ≠ "" }

/-- The manifest with the marker, and nothing else, is written, and what is returned can be sent. -/
def Document.Rewrites (d : Document) (Y : Package) (project : ProjectText) : Prop :=
  ∃ r written, fetchManifest Y project (.document d.tree) = .ok r ∧ r.written = some written ∧
    Same (d.marked project) written ∧ sendManifest r.manifest = true

/-! ## When nothing else changes -/

section Marked

variable {C : Conversions} {project : String} {m : Entries}

theorem type?_env {T : GoType} (h : applicationFields.type? "env" = some T) : T = .stringMap :=
  (Option.some.inj h).symm

/-- An application with the marker is decoded to the application with the marker. -/
theorem decode_put_env {t : Tree} {v : GoValue}
    (hv : (get m (.str "env")).elim (some .nil) (fun t => C.decode .stringMap t) = some v)
    (ht : C.decode .stringMap t = some (setEnvironment project v)) :
    C.decode rawManifestApplication (.map (put m (.str "env") t)) =
      (C.decode rawManifestApplication (.map m)).map (markApplication project) := by
  have hput : C.decodeFields applicationFields (put m (.str "env") t) =
      (C.decodeFields applicationFields m).map
        (setField "env" (setEnvironment project) applicationFields) := by
    refine decodeFields_put (by decide) fun T hT => ?_
    obtain rfl := type?_env hT
    exact ⟨v, hv, ht⟩
  rw [rawManifestApplication, decode_struct, decode_struct, hput, Option.map_map, Option.map_map]
  rfl

theorem decodeMap_put (hC : C.Documented) (env : Entries) :
    C.decodeMap (put env (.str stratosProjectKey) (.scalar (.str project))) =
      (C.decodeMap env).set stratosProjectKey (.scalar (.str project)) := by
  rw [Conversions.decodeMap, put, List.foldl_append, Conversions.decodeMap, List.foldl_cons,
    List.foldl_nil, hC.text_str, Tree.mapScalars, hC.resolve_str]

/-- An application has the marker after it is decoded if it had it before, or cannot be decoded. -/
theorem decode_markedApplication (hC : C.Documented) (project : String) (m : Entries) :
    C.decode rawManifestApplication (markedApplication project (.map m)) =
        (C.decode rawManifestApplication (.map m)).map (markApplication project) ∨
      markedApplication project (.map m) = .map m ∧
        C.decode rawManifestApplication (.map m) = none := by
  have hfails : ∀ t, get m (.str "env") = some t → C.decode .stringMap t = none →
      C.decode rawManifestApplication (.map m) = none := by
    intro t ht hdecode
    have hnone : C.decodeFields applicationFields m = none := decodeFields_eq_none ht hdecode rfl
    rw [rawManifestApplication, decode_struct, hnone]
    rfl
  have hnew : C.decode .stringMap (.map [(.str stratosProjectKey, .scalar (.str project))]) =
      some (setEnvironment project .nil) :=
    congrArg (fun m => some (GoValue.stringMap m)) (decodeMap_put hC [])
  rw [markedApplication]
  cases henv : get m (.str "env") with
  | none => exact Or.inl (decode_put_env (v := .nil) (by rw [henv]; rfl) hnew)
  | some t =>
    cases t with
    | scalar x =>
      cases x with
      | null => exact Or.inl (decode_put_env (v := .nil) (by rw [henv]; rfl) hnew)
      | bool | int | float | str | timestamp => exact Or.inr ⟨rfl, hfails _ henv rfl⟩
    | seq items => exact Or.inr ⟨rfl, hfails _ henv rfl⟩
    | map env =>
      refine Or.inl (decode_put_env (v := .stringMap (C.decodeMap env)) (by rw [henv]; rfl) ?_)
      exact congrArg (fun m => some (GoValue.stringMap m)) (decodeMap_put hC env)

theorem distinct_rawManifestApplication : rawManifestApplication.distinct = true := by
  decide

theorem distinct_applications : applications.distinct = true := by
  decide

/-- What is asked of an application. -/
theorem application_iff (hC : C.Documented) (t : Tree) :
    (∃ v, C.decode rawManifestApplication t = some v ∧
      Same (markedApplication project t) (C.encode rawManifestApplication
        (markApplication project v)) ∧ (markApplication project v).marshals = true) ↔
    Fits C rawManifestApplication (markedApplication project t) ∧
      MarshalsAs rawManifestApplication (markedApplication project t) := by
  have hfits := fun t => @encode_decode_iff C hC _ distinct_rawManifestApplication t
  cases t with
  | scalar x =>
    refine iff_of_false ?_ ?_
    · rintro ⟨v, hv, hsame, -⟩
      have hnull := same_scalar_iff.1 hsame
      cases x with
      | null =>
        cases hv
        cases hnull
      | bool | int | float | str | timestamp => cases hv
    · rintro ⟨⟨m, hm, -⟩, -⟩
      cases hm
  | seq items =>
    refine iff_of_false ?_ ?_
    · rintro ⟨v, hv, -⟩
      cases hv
    · rintro ⟨⟨m, hm, -⟩, -⟩
      cases hm
  | map m =>
    obtain hcommutes | ⟨heq, hnone⟩ := decode_markedApplication hC project m
    · have hiff := hfits (markedApplication project (.map m))
      rw [hcommutes] at hiff
      constructor
      · rintro ⟨v, hv, hsame, hmarshals⟩
        have hmarked := hcommutes.trans (congrArg (Option.map (markApplication project)) hv)
        have hfit := hiff.1 ⟨_, Option.map_eq_some_iff.2 ⟨v, hv, rfl⟩, hsame⟩
        exact ⟨hfit, (marshals_iff_of_fits hC hfit hmarked).1 hmarshals⟩
      · rintro ⟨hfit, hmarshals⟩
        obtain ⟨v', hv', hsame⟩ := hiff.2 hfit
        obtain ⟨v, hv, rfl⟩ := Option.map_eq_some_iff.1 hv'
        exact ⟨v, hv, hsame, (marshals_iff_of_fits hC hfit (hcommutes.trans hv')).2 hmarshals⟩
    · rw [heq, hnone]
      refine iff_of_false ?_ ?_
      · rintro ⟨v, hv, -⟩
        cases hv
      · rintro ⟨hfit, -⟩
        obtain ⟨v, hv, -⟩ := (hfits (.map m)).2 hfit
        rw [hnone] at hv
        cases hv

theorem applications_iff (hC : C.Documented) (items : List Tree) :
    (∃ apps, (items.mapM fun t => C.decode rawManifestApplication t) = some apps ∧
      List.Forall₂ Same (items.map (markedApplication project))
        ((apps.map (markApplication project)).map fun v => C.encode rawManifestApplication v) ∧
      valuesMarshal (apps.map (markApplication project)) = true) ↔
    ∀ t ∈ items, Fits C rawManifestApplication (markedApplication project t) ∧
      MarshalsAs rawManifestApplication (markedApplication project t) := by
  induction items with
  | nil =>
    exact iff_of_true ⟨[], rfl, .nil, rfl⟩ fun _ h => (List.not_mem_nil h).elim
  | cons t items ih =>
    rw [List.forall_mem_cons, ← ih, ← application_iff hC]
    constructor
    · rintro ⟨apps, happs, hsame, hmarshals⟩
      obtain ⟨app, apps', happ, happs', rfl⟩ := mapM_cons_eq_some.1 happs
      obtain ⟨hfirst, hrest⟩ := List.forall₂_cons.1 hsame
      obtain ⟨hfirst', hrest'⟩ := Bool.and_eq_true_iff.1 hmarshals
      exact ⟨⟨app, happ, hfirst, hfirst'⟩, apps', happs', hrest, hrest'⟩
    · rintro ⟨⟨app, happ, hfirst, hfirst'⟩, apps, happs, hrest, hrest'⟩
      exact ⟨app :: apps, mapM_cons_eq_some.2 ⟨app, apps, happ, happs, rfl⟩,
        .cons hfirst hrest, Bool.and_eq_true_iff.2 ⟨hfirst', hrest'⟩⟩

end Marked

section Rewrites

variable {Y : Package} {C : Conversions} {d : Document} {project : ProjectText}

theorem decode_tree (C : Conversions) (d : Document) : C.decode applications d.tree =
    (d.applications.mapM fun t => C.decode rawManifestApplication t).map
      fun apps => .struct [.slice apps] := by
  rw [applications, Document.tree, decode_struct, Conversions.decodeFields, d.applications_eq,
    Option.elim_some, decode_slice]
  cases d.applications.mapM fun t => C.decode rawManifestApplication t <;> rfl

/-- What is written is the marked manifest if its applications are, and nothing else is there. -/
theorem same_marked_iff (items : List Tree) :
    Same (d.marked project) (.map [(.str "applications", .seq items)]) ↔
      (∀ e ∈ d.entries, e.1 = .str "applications") ∧
      List.Forall₂ Same (d.applications.map (markedApplication project)) items := by
  rw [Document.marked, same_map_iff]
  simp only [get_put, get_cons, get_nil, Option.none_or]
  constructor
  · intro hrel
    constructor
    · intro e he
      by_contra hne
      have hkey := hrel e.1
      rw [if_neg hne, if_neg fun h => hne h.symm] at hkey
      cases hget : get d.entries e.1 with
      | none => exact get_eq_none_iff.1 hget e he rfl
      | some t =>
        rw [hget] at hkey
        cases hkey
    · have hkey := hrel (.str "applications")
      rw [if_pos rfl, if_pos rfl, rel_some_iff] at hkey
      obtain ⟨t, ht, hsame⟩ := hkey
      cases ht
      exact same_seq_iff.1 hsame
  · rintro ⟨hkeys, hsame⟩ k
    by_cases hk : k = .str "applications"
    · rw [if_pos hk, if_pos hk.symm]
      exact .some (.seq hsame)
    · rw [if_neg hk, if_neg fun h => hk h.symm,
        get_eq_none_iff.2 fun e he heq => hk (heq.symm.trans (hkeys e he))]
      exact .none

/-- Nothing else changes if and only if `applications` is the only key, and every application has
the type once it has the marker, with values that are sent as JSON. -/
theorem rewrites_iff (hY : Y.Documented C) (d : Document) (project : ProjectText) :
    d.Rewrites Y project ↔ (∀ e ∈ d.entries, e.1 = .str "applications") ∧
      ∀ t ∈ d.applications, Fits C rawManifestApplication (markedApplication project t) ∧
        MarshalsAs rawManifestApplication (markedApplication project t) := by
  have hwritten : ∀ v, Same (d.marked project) (Y.marshal applications v) ↔
      Same (d.marked project) (C.encode applications v) := fun v =>
    ⟨fun h => h.trans (hY.marshal _ v distinct_applications).symm,
      fun h => h.trans (hY.marshal _ v distinct_applications)⟩
  have hdecode : Y.unmarshal applications d.tree = C.decode applications d.tree :=
    hY.unmarshal _ _ distinct_applications d.distinct
  rw [← applications_iff hY.conversions, Document.Rewrites, fetchManifest, hdecode, decode_tree]
  cases happs : d.applications.mapM fun t => C.decode rawManifestApplication t with
  | none => simp
  | some apps =>
    simp only [Option.map_some, if_pos project.2]
    constructor
    · rintro ⟨r, written, hr, hwrite, hsame, hmarshals⟩
      cases hr
      cases hwrite
      obtain ⟨hkeys, hsame⟩ := (same_marked_iff _).1 ((hwritten _).1 hsame)
      exact ⟨hkeys, apps, rfl, hsame, (Bool.and_eq_true_iff.1 hmarshals).1⟩
    · rintro ⟨hkeys, apps', happs', hsame, hmarshals⟩
      cases happs'
      exact ⟨_, _, rfl, rfl, (hwritten _).2 ((same_marked_iff _).2 ⟨hkeys, hsame⟩),
        Bool.and_eq_true_iff.2 ⟨hmarshals, rfl⟩⟩

end Rewrites

/-! ### An application with build packs -/

/-- A float that is whole and not large is written as an integer, and a timestamp as a string. -/
def sampleConversions : Conversions where
  text
    | .str s => s
    | .bool b => toString b
    | .int n => toString n
    | .timestamp s => s
    | _ => ""
  bool
    | .bool b => some b
    | .null => some false
    | _ => none
  int
    | .int n => if isInt64 n then some n else none
    | .null => some 0
    | _ => none
  resolve
    | .timestamp s => .str s
    | x => x
  emit
    | .float (.finite x) =>
      if x.den = 1 ∧ x.num.natAbs < 10 ^ 6 then .int x.num else .float (.finite x)
    | x => x

theorem sampleConversions_documented : sampleConversions.Documented where
  text_str _ := rfl
  bool_bool _ := rfl
  int_int _ hn := if_pos hn
  isInt64_int
    | .int m, n, h => by
      obtain ⟨hm, heq⟩ := Option.ite_none_right_eq_some.1 h
      exact Option.some.inj heq ▸ hm
    | .null, n, h => by
      obtain rfl := Option.some.inj h
      rfl
  resolve_str _ := rfl
  emit_str _ := rfl
  resolve_eq_null
    | .timestamp s => iff_of_false nofun nofun
    | .null | .bool _ | .int _ | .float _ | .str _ => Iff.rfl
  rewrite_rewrite
    | .float (.finite x) => by
      simp only [Conversions.rewrite, sampleConversions]
      split_ifs with h
      · rfl
      · simp only [if_neg h]
    | .float (.infinite _) | .float .nan => rfl
    | .null | .bool _ | .int _ | .str _ | .timestamp _ => rfl
  marshals_resolve
    | .null | .bool _ | .int _ | .float _ | .str _ | .timestamp _ => rfl

/-- A package that decodes and encodes as `yaml.v2` does, with sample conversions. -/
def samplePackage : Package := ⟨sampleConversions.decode, sampleConversions.encode⟩

theorem samplePackage_documented : samplePackage.Documented sampleConversions where
  unmarshal _ _ _ _ := rfl
  marshal _ _ _ := .refl _
  conversions := sampleConversions_documented

/-- The data of a sample project. -/
def sampleProject : ProjectText := ⟨"\x7b\x7d", by decide⟩

/-- An application with what is always written, and with a number for which the text is quoted. -/
def dockerApplication : Entries :=
  [(.str "name", .scalar (.str "app")), (.str "env", .map [(.str "RATIO", .scalar (.str "1.0"))]),
    (.str "dockerimage", .scalar (.str "")),
    (.str "dockercredentials",
      .map [(.str "username", .scalar (.str "")), (.str "password", .scalar (.str ""))])]

/-- A manifest with an image. -/
def dockerDocument : Document where
  entries := [(.str "applications", .seq [.map dockerApplication])]
  distinct := .map (by decide) (by simp [distinct_seq_iff, distinct_map_iff, dockerApplication])
  applications := [.map dockerApplication]
  applications_eq := rfl

/-- The image stays, and the environment has the data about the project. -/
theorem rewrites_dockerDocument : dockerDocument.Rewrites samplePackage sampleProject := by
  have henv : get dockerApplication (.str "env") =
    some (.map [(.str "RATIO", .scalar (.str "1.0"))]) := rfl
  refine (rewrites_iff samplePackage_documented _ _).2 ⟨by simp [dockerDocument], ?_⟩
  simp only [dockerDocument, List.mem_singleton, forall_eq, markedApplication, henv]
  constructor
  · simp [-Prod.forall, Fits, FieldsFit, ZeroTree, ZeroFields, rawManifestApplication,
      applicationFields, dockerCredentials, Fields.keys, dockerApplication, put, get_cons, or_imp,
      forall_and, Conversions.rewrite, sampleConversions]
  · simp [MarshalsAs, FieldsMarshal, rawManifestApplication, applicationFields,
      dockerCredentials, dockerApplication, put, get_cons]
    rintro k t (⟨-, rfl⟩ | ⟨-, -, rfl⟩) <;> rfl

/-- An application with a key that is newer than the types. -/
def rubyApplication : Entries :=
  [(.str "name", .scalar (.str "app")), (.str "buildpacks", .seq [.scalar (.str "ruby")])]

/-- A manifest with a buildpack. -/
def rubyDocument : Document where
  entries := [(.str "applications", .seq [.map rubyApplication])]
  distinct := .map (by decide) (by simp [distinct_seq_iff, distinct_map_iff, rubyApplication])
  applications := [.map rubyApplication]
  applications_eq := rfl

/-- The build packs are lost, and there is an image that was not there. -/
theorem not_rewrites_rubyDocument :
    (∃ r app, fetchManifest samplePackage sampleProject (.document rubyDocument.tree) = .ok r ∧
      r.written = some (.map [(.str "applications", .seq [.map app])]) ∧
      get app (.str "buildpacks") = none ∧
      get app (.str "dockerimage") = some (.scalar (.str ""))) ∧
    ¬rubyDocument.Rewrites samplePackage sampleProject := by
  refine ⟨⟨_, _, rfl, rfl, rfl, rfl⟩, ?_⟩
  rintro ⟨r, written, hr, hwritten, hsame, -⟩
  cases hr
  cases hwritten
  obtain ⟨happ, -⟩ := List.forall₂_cons.1 ((same_marked_iff _).1 hsame).2
  have hkey := same_map_iff.1 happ (.str "buildpacks")
  cases hkey

end Manifest

end Stratos
