import Stratos.Jetstream.FolderUpload
import Stratos.Lib.GoStruct

/-!
# The JSON of the deployment messages

`DeployApplicationDeployer` sends what `JSON.stringify` writes, and the server reads it with
`encoding/json`. A message holds JSON again, which says where the source is. All of it is read as
it was written (`messages_read`), so the two agree on the wire (`jsonWire`).
-/

open Lib Lib.Json

namespace Stratos

theorem FolderUpload.IsSafe.isInt {n : ℤ} (h : FolderUpload.IsSafe n) :
    -2 ^ 63 ≤ n ∧ n < 2 ^ 63 := by
  obtain ⟨hlo, hhi⟩ := h
  omega

/-! ## Messages -/

namespace SocketMessage

/-- The fields of the structure, with the keys of their tags. -/
def fields : List (StructField SocketMessage) :=
  [⟨"message", storeString fun t msg => { msg with message := t }⟩,
    ⟨"timestamp", storeInt fun n msg => { msg with timestamp := n }⟩,
    ⟨"type", storeInt fun n msg => { msg with type := n }⟩]

/-- `ReadJSON`, which decodes the first value of a message. -/
def readJSON (bytes : List UInt8) : Option SocketMessage :=
  (readFirst bytes).bind (decodeStruct fields ⟨"", 0, 0⟩)

/-- The message as `JSON.stringify` sees it. -/
def properties (msg : SocketMessage) : List (String × Written) :=
  [("message", .string msg.message), ("timestamp", .number msg.timestamp),
    ("type", .number msg.type)]

/-- The text of a message. -/
def stringify (msg : SocketMessage) : List UInt8 := encodeText (Written.stringify msg.properties)

theorem readJSON_stringify (msg : SocketMessage) (htime : FolderUpload.IsSafe msg.timestamp)
    (htype : FolderUpload.IsSafe msg.type) : readJSON msg.stringify = some msg := by
  rw [readJSON, stringify, Written.readFirst_stringify, Option.bind_some,
    Written.decodeStruct_properties]
  simp [properties, Written.store, fieldFor, fields, Written.storeInt_number _ _ htime.isInt,
    Written.storeInt_number _ _ htype.isInt]

end SocketMessage

/-- `json.Unmarshal` of the message of a message, into a struct. -/
def unmarshalMessage {S : Type} (fields : List (StructField S)) (zero : S) (message : String) :
    Option S :=
  (read (bytesOf message)).bind (decodeStruct fields zero)

/-- `JSON.stringify` of the message of a message. -/
def stringifyMessage (properties : List (String × Written)) : String :=
  String.ofList (Written.stringify properties)

theorem unmarshalMessage_stringifyMessage {S : Type} (fields : List (StructField S)) (zero : S)
    (properties : List (String × Written)) :
    unmarshalMessage fields zero (stringifyMessage properties) =
      properties.foldlM (Written.store fields) zero := by
  rw [unmarshalMessage, stringifyMessage, bytesOf_ofList, Written.read_stringify, Option.bind_some,
    Written.decodeStruct_properties]

/-! ## Folders -/

namespace FolderSourceInfo

/-- The fields of the structure, with the keys of their tags. -/
def fields : List (StructField FolderSourceInfo) :=
  [⟨"type", storeString fun t info => { info with sourceType := t }⟩,
    ⟨"timestamp", storeInt fun n info => { info with timestamp := n }⟩,
    ⟨"wait", storeBool fun b info => { info with waitAfterUpload := b }⟩,
    ⟨"files", storeInt fun n info => { info with files := n }⟩,
    ⟨"folders", storeStrings fun l info => { info with folders := l }⟩]

/-- The announcement in a message. -/
def unmarshal (message : String) : Option FolderSourceInfo :=
  unmarshalMessage fields ⟨"", 0, false, 0, []⟩ message

end FolderSourceInfo

/-- `transferMetadata` -/
def FolderUpload.TransferInfo.properties (info : FolderUpload.TransferInfo) :
    List (String × Written) :=
  [("files", .number info.files), ("folders", .strings info.folders), ("type", .string info.type),
    ("wait", .bool info.wait)]

theorem unmarshal_transferInfo (info : FolderUpload.TransferInfo) (h : info.files < 2 ^ 32) :
    FolderSourceInfo.unmarshal (stringifyMessage info.properties) =
      some ⟨info.type, 0, info.wait, info.files, info.folders⟩ := by
  have hfiles : -2 ^ 63 ≤ (info.files : ℤ) ∧ (info.files : ℤ) < 2 ^ 63 := by omega
  rw [FolderSourceInfo.unmarshal, unmarshalMessage_stringifyMessage]
  simp [FolderUpload.TransferInfo.properties, Written.store, fieldFor, FolderSourceInfo.fields,
    Written.storeInt_number _ _ hfiles]

/-- The client and the server on one socket. -/
def jsonWire : FolderUpload.Wire where
  stringify := SocketMessage.stringify
  readJSON := SocketMessage.readJSON
  stringifyInfo info := stringifyMessage info.properties
  unmarshal := FolderSourceInfo.unmarshal
  readJSON_stringify := SocketMessage.readJSON_stringify
  unmarshal_stringifyInfo := unmarshal_transferInfo

/-! ## Repositories -/

/-- The message with a project on GitHub. -/
def sourceGitHub : MessageType := 30001

/-- The message with the URL of a repository. -/
def sourceGitUrl : MessageType := 30006

/-- The source of a deployment, where `type` is the id of its type. -/
structure DeployApplicationSource where
  type : String
  projectName : String
  /-- The name of the branch. -/
  branch : Option String
  /-- The hash of the commit, or undefined. -/
  commit : Option String

/-- The project, as the client sends it. Without a commit the property is left out. -/
def sendGitHubSourceMetadata (appSource : DeployApplicationSource) (now : FolderUpload.Seconds) :
    SocketMessage :=
  ⟨stringifyMessage ([("project", .string appSource.projectName),
      ("branch", .optString appSource.branch), ("type", .string appSource.type)] ++
      appSource.commit.toList.map fun commit => ("commit", .string commit)),
    now.1, sourceGitHub⟩

/-- The repository, as the client sends it. -/
def sendGitUrlSourceMetadata (appSource : DeployApplicationSource) (now : FolderUpload.Seconds) :
    SocketMessage :=
  ⟨stringifyMessage [("url", .string appSource.projectName),
      ("branch", .optString appSource.branch), ("type", .string appSource.type)],
    now.1, sourceGitUrl⟩

/-- The fields of `GitHubSourceInfo` and of `GitUrlSourceInfo`. -/
structure GitSourceInfo where
  sourceType : String
  timestamp : ℤ
  project : String
  branch : String
  url : String
  commitHash : String

namespace GitSourceInfo

/-- The fields of the structure, with the keys of their tags. -/
def fields : List (StructField GitSourceInfo) :=
  [⟨"type", storeString fun t info => { info with sourceType := t }⟩,
    ⟨"timestamp", storeInt fun n info => { info with timestamp := n }⟩,
    ⟨"project", storeString fun t info => { info with project := t }⟩,
    ⟨"branch", storeString fun t info => { info with branch := t }⟩,
    ⟨"url", storeString fun t info => { info with url := t }⟩,
    ⟨"commit", storeString fun t info => { info with commitHash := t }⟩]

/-- The source in a message. -/
def unmarshal (message : String) : Option GitSourceInfo :=
  unmarshalMessage fields ⟨"", 0, "", "", "", ""⟩ message

end GitSourceInfo

/-- What is cloned. -/
structure CloneDetails where
  url : String
  branch : String
  commit : String
  deriving DecidableEq

/-- What `getGitHubSource` clones. -/
def getGitHubSource (msg : SocketMessage) : Option CloneDetails :=
  (GitSourceInfo.unmarshal msg.message).map fun info =>
    ⟨"https://github.com/" ++ info.project, info.branch, info.commitHash⟩

/-- What `getGitURLSource` clones. -/
def getGitURLSource (msg : SocketMessage) : Option CloneDetails :=
  (GitSourceInfo.unmarshal msg.message).map fun info => ⟨info.url, info.branch, info.commitHash⟩

/-- What the server makes of the messages of the client. -/
structure MessagesRead : Prop where
  message : ∀ text (now : FolderUpload.Seconds) type, FolderUpload.IsSafe type →
    SocketMessage.readJSON (SocketMessage.stringify ⟨text, now.1, type⟩) = some ⟨text, now.1, type⟩
  folder : ∀ files folders type wait, files < 2 ^ 32 →
    FolderSourceInfo.unmarshal (stringifyMessage
      (FolderUpload.TransferInfo.properties ⟨files, folders, type, wait⟩)) =
        some ⟨type, 0, wait, files, folders⟩
  gitHub : ∀ appSource now, getGitHubSource (sendGitHubSourceMetadata appSource now) =
    some ⟨"https://github.com/" ++ appSource.projectName, appSource.branch.getD "",
      appSource.commit.getD ""⟩
  gitUrl : ∀ appSource now, getGitURLSource (sendGitUrlSourceMetadata appSource now) =
    some ⟨appSource.projectName, appSource.branch.getD "", ""⟩

/-- Every text, whatever it holds, every list of folders and every repository is read as it was
written. -/
theorem messages_read : MessagesRead where
  message text now type htype := SocketMessage.readJSON_stringify _ now.isSafe htype
  folder files folders type wait h := unmarshal_transferInfo ⟨files, folders, type, wait⟩ h
  gitHub := by
    rintro ⟨type, projectName, branch, commit⟩ now
    rw [getGitHubSource, sendGitHubSourceMetadata, GitSourceInfo.unmarshal,
      unmarshalMessage_stringifyMessage]
    cases commit <;> simp [Written.store, fieldFor, GitSourceInfo.fields]
  gitUrl := by
    rintro ⟨type, projectName, branch, commit⟩ now
    rw [getGitURLSource, sendGitUrlSourceMetadata, GitSourceInfo.unmarshal,
      unmarshalMessage_stringifyMessage]
    simp [Written.store, fieldFor, GitSourceInfo.fields]

end Stratos
