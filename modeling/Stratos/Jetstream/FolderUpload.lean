import Mathlib.Algebra.Ring.Int.Defs
import Mathlib.Algebra.Ring.Nat
import Mathlib.Logic.Relation
import Stratos.Frontend.FolderTransfers
import Stratos.Jetstream.FolderSource

/-!
# The upload of a folder between client and server

`DeployApplicationDeployer` sends the files of a scanned tree to `getFolderSource`, over a web
socket whose two directions keep their order. The server asks for a file with an
acknowledgement, the client answers with a message that names it and, when the browser has read
the file, a binary message with its data. A last acknowledgement lets the client count the last
file, and the user then lets the deployment begin.

`Delivers` is what should hold in every state that the two reach in any order of their steps. The
server goes through stages : it makes the folders (`making`), then for each file waits for the
name (`naming`), for the data (`receiving`) and writes it (`writing`) ; after the last one it may
only unpack an archive and wait for the user (`Finishing`).
-/

open Lib

namespace Stratos.FolderUpload

/-! ## Messages -/

/-- The message that announces a folder. -/
def sourceFolder : MessageType := 30002

/-- `transferMetadata` -/
structure TransferInfo where
  files : ℕ
  folders : List String
  type : String
  wait : Bool

/-- `Number.isSafeInteger` -/
def IsSafe (n : ℤ) : Prop := -2 ^ 53 < n ∧ n < 2 ^ 53

instance (n : ℤ) : Decidable (IsSafe n) := inferInstanceAs (Decidable (_ ∧ _))

/-- The seconds of a `Date`. -/
abbrev Seconds := { t : ℤ // -8640000000000 ≤ t ∧ t ≤ 8640000000000 }

/-- 1970 -/
def epoch : Seconds := ⟨0, by decide⟩

theorem Seconds.isSafe (now : Seconds) : IsSafe now.1 := by
  obtain ⟨t, ht⟩ := now
  dsimp only [IsSafe]
  omega

/-- How messages are written by `JSON.stringify` and read by `encoding/json`. An array has fewer
than 2^32 elements. -/
structure Wire where
  stringify : SocketMessage → List UInt8
  readJSON : List UInt8 → Option SocketMessage
  stringifyInfo : TransferInfo → String
  unmarshal : String → Option FolderSourceInfo
  readJSON_stringify : ∀ msg, IsSafe msg.timestamp → IsSafe msg.type →
    readJSON (stringify msg) = some msg
  unmarshal_stringifyInfo : ∀ info, info.files < 2 ^ 32 → unmarshal (stringifyInfo info) =
    some ⟨info.type, 0, info.wait, info.files, info.folders⟩

theorem isSafe_sourceFile : IsSafe sourceFile := by
  decide

theorem isSafe_sourceWaitAck : IsSafe sourceWaitAck := by
  decide

section Client

variable (wire : Wire)

/-- A message as a frame. -/
def textFrame (message : String) (now : Seconds) (type : MessageType) : SocketFrame :=
  ⟨false, wire.stringify ⟨message, now.1, type⟩⟩

/-! ## The client -/

/-- What is shown of the transfer. -/
structure FileTransferStatus where
  totalFiles : ℕ
  filesSent : ℕ
  bytesSent : ℕ
  totalBytes : ℕ
  fileName : String

/-- `FileScannerInfo` -/
structure FileScannerInfo where
  total : ℕ
  root : FolderContext

/-- The state of a `DeployApplicationDeployer` that uploads a folder. -/
structure Deployer where
  fileTransfers : List FileTransfer
  fileTransferStatus : FileTransferStatus
  currentFileTransfer : Option FileTransfer
  /-- The files whose `FileReader` has not called `onload` yet. -/
  reading : List FileTransfer

/-- The deployer and its message. -/
def sendLocalSourceMetadata (fsFileInfo : FileScannerInfo) (now : Seconds) :
    Deployer × SocketMessage :=
  let metadata := collectFoldersAndFiles ⟨[], []⟩ none fsFileInfo.root
  let transferMetadata : TransferInfo :=
    ⟨metadata.files.length, metadata.folders, "filefolder", true⟩
  (⟨metadata.files, ⟨metadata.files.length, 0, 0, fsFileInfo.total, ""⟩, none, []⟩,
    ⟨wire.stringifyInfo transferMetadata, now.1, sourceFolder⟩)

/-- The file that was sent last is counted. -/
def Deployer.count (d : Deployer) : Deployer :=
  match d.currentFileTransfer with
  | some transfer =>
    { d with fileTransferStatus := { d.fileTransferStatus with
        bytesSent := d.fileTransferStatus.bytesSent + transfer.file.size
        filesSent := d.fileTransferStatus.filesSent + 1 } }
  | none => d

/-- The deployer and what it sends. -/
def Deployer.sendNextFile (d : Deployer) (now : Seconds) : Deployer × List SocketFrame :=
  match d.count.fileTransfers with
  | [] => (d.count, [])
  | file :: fileTransfers =>
    ({ d.count with
        fileTransfers := fileTransfers
        fileTransferStatus := { d.count.fileTransferStatus with fileName := file.fullPath }
        reading := d.count.reading ++ [file] },
      [textFrame wire file.fullPath now sourceFile])

/-- The next file is sent when one is asked for. -/
def Deployer.processWebSocketMessage (d : Deployer) (event : MessageType) (now : Seconds) :
    Deployer × List SocketFrame :=
  if event = sourceFileAck then d.sendNextFile wire now else (d, [])

/-- The content of a file as a frame. -/
def dataFrame (transfer : FileTransfer) : SocketFrame := ⟨true, transfer.file.data⟩

/-- The `onload` of a file, with the files that are still read. -/
def Deployer.onload (d : Deployer) (transfer : FileTransfer) (reading : List FileTransfer) :
    Deployer :=
  { d with currentFileTransfer := some transfer, reading := reading }

/-- `deploy` -/
def waitFrame (now : Seconds) : SocketFrame := textFrame wire "" now sourceWaitAck

/-- `valid$` of the upload step. -/
def Deployer.valid (d : Deployer) : Bool :=
  d.fileTransferStatus.filesSent = d.fileTransferStatus.totalFiles

end Client

/-! ## Client and server -/

/-- The two parties and what is between them. -/
structure System where
  deployer : Deployer
  /-- What `getFolderSource` still does. -/
  server : Upload (FolderSourceInfo × Path)
  toServer : List SocketFrame
  toClient : List MessageType
  done : List FileOp
  /-- Whether the user went on to the deployment. -/
  deployed : Bool

/-- What the server does without the client. -/
def isLocal : UploadStmt → Bool
  | .sendEvent _ | .readMessage => false
  | .mkdir _ | .writeFile .. | .openArchive .. | .readDir _ | .now => true

/-- `path` is a folder. -/
def IsFolder (tempDir : Path) (done : List FileOp) (path : Path) : Prop :=
  path = tempDir ∨ FileOp.made path ∈ done

/-- A disk with the temporary folder `tempDir`, empty at first. `os.Mkdir` makes what is not
there and `ioutil.WriteFile` writes what is not a folder, in a folder. -/
structure TempDisk (tempDir : Path) extends Disk where
  makes : ∀ done path, path ≠ tempDir → path ∉ done.map FileOp.path →
    IsFolder tempDir done path.parent → permits done (.made path) = true
  writes : ∀ done path data, ¬IsFolder tempDir done path →
    IsFolder tempDir done path.parent → permits done (.written path data) = true

section System

variable (wire : Wire) {tempDir : Path} (disk : TempDisk tempDir)

/-- A step of the server, which executes its next statement. -/
inductive ServerStep : System → System → Prop
  | event {s : System} {e : MessageType} {k : Unit → Upload (FolderSourceInfo × Path)}
      (h : s.server = .exec (.sendEvent e) k) :
      ServerStep s { s with server := k (), toClient := s.toClient ++ [e] }
  | read {s : System} {frame : SocketFrame} {frames : List SocketFrame}
      {k : Option SocketFrame → Upload (FolderSourceInfo × Path)}
      (h : s.server = .exec .readMessage k) (hframes : s.toServer = frame :: frames) :
      ServerStep s { s with server := k (some frame), toServer := frames }
  | act {s : System} {st : UploadStmt} {k : st.Reply → Upload (FolderSourceInfo × Path)}
      (hst : isLocal st = true) (h : s.server = .exec st k) :
      ServerStep s { s with
        server := k (answer disk.toDisk st ⟨s.toServer, s.done⟩).1
        done := (answer disk.toDisk st ⟨s.toServer, s.done⟩).2.done }

/-- A step of the client, of its browser or its user. -/
inductive ClientStep : System → System → Prop
  | receive {s : System} {e : MessageType} {events : List MessageType} (now : Seconds)
      (h : s.toClient = e :: events) :
      ClientStep s { s with
        deployer := (s.deployer.processWebSocketMessage wire e now).1
        toServer := s.toServer ++ (s.deployer.processWebSocketMessage wire e now).2
        toClient := events }
  | load {s : System} {before after : List FileTransfer} {transfer : FileTransfer}
      (h : s.deployer.reading = before ++ transfer :: after) :
      ClientStep s { s with
        deployer := s.deployer.onload transfer (before ++ after)
        toServer := s.toServer ++ [dataFrame transfer] }
  | deploy {s : System} (now : Seconds) (hvalid : s.deployer.valid = true)
      (h : s.deployed = false) :
      ClientStep s { s with toServer := s.toServer ++ [waitFrame wire now], deployed := true }

/-- A step of either side. -/
def Step (s s' : System) : Prop := ServerStep disk s s' ∨ ClientStep wire s s'

/-- The client has sent what it has scanned, and the server has read it. -/
def start (tempDir : Path) (fsFileInfo : FileScannerInfo) (now : Seconds) : System :=
  let (deployer, msg) := sendLocalSourceMetadata wire fsFileInfo now
  ⟨deployer, getFolderSource wire.readJSON tempDir wire.unmarshal msg, [], [], [], false⟩

/-- The states of an upload, in any order of the steps. -/
def Reachable (fsFileInfo : FileScannerInfo) (now : Seconds) : System → Prop :=
  Relation.ReflTransGen (Step wire disk) (start wire tempDir fsFileInfo now)

end System

/-! ## The property -/

/-- The server has ended, with a source or with an error. -/
def System.Ended (s : System) : Prop := ∃ r, s.server = .ret r

/-- The server reads a message, and `frame` is not an error there. -/
def Takes (p : Upload (FolderSourceInfo × Path)) (frame : SocketFrame) : Prop :=
  ∃ k, p = .exec .readMessage k ∧ ∀ e, k (some frame) ≠ .ret (.error e)

/-- The server expects the name of a file, or its data. -/
def System.ExpectsFile (wire : Wire) (s : System) : Prop :=
  (∃ name now, Takes s.server (textFrame wire name now sourceFile)) ∨
    ∀ data, Takes s.server ⟨true, data⟩

/-- A part of a file. -/
def IsFileFrame (wire : Wire) (frame : SocketFrame) : Prop :=
  frame.binary = true ∨ ∃ name now, frame = textFrame wire name now sourceFile

/-- The client sends a file : it was asked for one that it has, or it reads one, or a part of one
is on its way. -/
def System.SendsFile (wire : Wire) (s : System) : Prop :=
  (sourceFileAck ∈ s.toClient ∧ s.deployer.fileTransfers ≠ []) ∨ s.deployer.reading ≠ [] ∨
    ∃ frame ∈ s.toServer, IsFileFrame wire frame

/-- The server sends no acknowledgement any more. -/
def System.LastAckSent (s : System) : Prop := s.server.All (· ≠ .sendEvent sourceFileAck)

/-- The files that were written. -/
def writesOf (done : List FileOp) : List FileOp := done.filter FileOp.isWritten

/-- A file of the tree, written at its own path with its own content. -/
def writeOf (tempDir : Path) (p : List Name × SourceFile) : FileOp :=
  .written (tempDir.below p.1) p.2.data

/-- A folder is made. -/
def makeOf (tempDir : Path) (p : List Name) : FileOp := .made (tempDir.below p)

/-- The number of bytes of the files. -/
def totalSize (files : List (List Name × SourceFile)) : ℕ := (files.map fun p => p.2.size).sum

/-- The client has counted every file of the tree. -/
def System.Counted (tree : ScannedTree) (s : System) : Prop :=
  s.deployer.fileTransferStatus.filesSent = tree.allFiles.length ∧
    s.deployer.fileTransferStatus.bytesSent = totalSize tree.allFiles

section Property

variable (wire : Wire) {tempDir : Path} (disk : TempDisk tempDir) (tree : ScannedTree)

/-- What holds in a state of the upload of `tree`. -/
structure Delivers (s : System) : Prop where
  /-- Until the server has ended, some step is possible. -/
  progress : s.Ended ∨ ∃ s', Step wire disk s s'
  /-- A folder is made in a folder that is there. -/
  parents : Grows (fun before op => ∀ path, op = .made path → IsFolder tempDir before path.parent)
    s.done
  /-- The files are written in turn. -/
  writes : writesOf s.done <+: tree.allFiles.map (writeOf tempDir)
  once : ((writesOf s.done).map FileOp.path).Nodup
  /-- In the end all is there. -/
  complete : s.Ended → writesOf s.done = tree.allFiles.map (writeOf tempDir) ∧
    ∀ p ∈ tree.allFolders, makeOf tempDir p ∈ s.done
  /-- The server expects a file exactly when the client sends one. -/
  expects : s.ExpectsFile wire ↔ s.SendsFile wire
  /-- What the client sends is what the server expects. -/
  takes : ∀ k frame frames, s.server = .exec .readMessage k → s.toServer = frame :: frames →
    Takes s.server frame

/-- The last acknowledgement counts when it is sent. -/
structure DeliversCountedWhenSent (s : System) : Prop extends Delivers wire disk tree s where
  counted : s.LastAckSent → s.Counted tree

/-- The last acknowledgement counts when the client has it. -/
structure DeliversCounted (s : System) : Prop extends Delivers wire disk tree s where
  counted : s.LastAckSent → s.toClient = [] → s.Counted tree

end Property

/-! ## The stages of the server -/

section Server

variable (wire : Wire) (tempDir : Path) (files : List (List Name × SourceFile))
  (folders : List (List Name))

/-- What the server reads of the first message. -/
def infoOf : FolderSourceInfo :=
  ⟨"filefolder", 0, true, files.length, folders.map fun p => (Path.ofNames p).render⟩

/-- The server after it has received all files. -/
def finishing (last : Option Path) : Upload (FolderSourceInfo × Path) :=
  finishSource wire.readJSON tempDir (infoOf files folders) last

/-- The folders `rest` are still to be made. -/
def making (rest : List (List Name)) : Upload (FolderSourceInfo × Path) :=
  createFolders tempDir (rest.map fun p => (Path.ofNames p).render) >>= fun _ =>
    receiveFiles wire.readJSON tempDir files.length none >>= finishing wire tempDir files folders

/-- What follows a file, before which there were `n` others left. -/
def afterFile (n : ℕ) (path : Path) : Upload (Option Path) := do
  if n = 0 then request (.sendEvent sourceFileAck)
  receiveFiles wire.readJSON tempDir n (some path)

/-- A file was asked for. -/
def naming (n : ℕ) : Upload (FolderSourceInfo × Path) :=
  ((readJSON wire.readJSON >>= receiveData tempDir) >>= afterFile wire tempDir n) >>=
    finishing wire tempDir files folders

/-- Its name was read. -/
def receiving (n : ℕ) (msg : SocketMessage) : Upload (FolderSourceInfo × Path) :=
  (receiveData tempDir msg >>= afterFile wire tempDir n) >>= finishing wire tempDir files folders

/-- Its data was read. -/
def writing (n : ℕ) (p : List Name × SourceFile) : Upload (FolderSourceInfo × Path) :=
  .exec (.writeFile (tempDir.below p.1) p.2.data) fun written =>
    ((if written then pure (tempDir.below p.1) else Prog.fail .disk) >>=
      afterFile wire tempDir n) >>= finishing wire tempDir files folders

variable {wire tempDir files folders}

theorem asking_eq (n : ℕ) (last : Option Path) :
    (receiveFiles wire.readJSON tempDir (n + 1) last >>= finishing wire tempDir files folders) =
      .exec (.sendEvent sourceFileAck) fun _ => naming wire tempDir files folders n :=
  rfl

variable (wire) in
/-- A message is read as it was written ; another frame is an error, or a message. -/
theorem readJSON_bind_eq {α β : Type} (f : SocketMessage → Upload α) (g : α → Upload β) :
    ∃ k, ((readJSON wire.readJSON >>= f) >>= g) = .exec .readMessage k ∧
      (∀ b msg, IsSafe msg.timestamp → IsSafe msg.type →
        k (some ⟨b, wire.stringify msg⟩) = (f msg >>= g)) ∧
      ∀ frame, (∃ e, k frame = .ret (.error e)) ∨ ∃ msg, k frame = (f msg >>= g) := by
  obtain ⟨k, hk, hnone, hjson, hmsg⟩ : ∃ k : Option SocketFrame → Upload SocketMessage,
      readJSON wire.readJSON = .exec .readMessage k ∧ k none = .ret (.error .socket) ∧
      (∀ frame, wire.readJSON frame.data = none → k (some frame) = .ret (.error .json)) ∧
      ∀ frame msg, wire.readJSON frame.data = some msg → k (some frame) = .ret (.ok msg) := by
    refine ⟨_, rfl, rfl, fun frame h => ?_, fun frame msg h => ?_⟩
    · dsimp only [pure, Prog.bind]
      rw [h]
      rfl
    · dsimp only [pure, Prog.bind]
      rw [h]
  refine ⟨fun frame => (k frame >>= f) >>= g, ?_, fun b msg htime htype => ?_, fun frame => ?_⟩
  · rw [hk]
    rfl
  · dsimp only
    rw [hmsg _ msg (wire.readJSON_stringify msg htime htype)]
    rfl
  · dsimp only
    rcases frame with _ | frame
    · rw [hnone]
      exact Or.inl ⟨.socket, rfl⟩
    · rcases hread : wire.readJSON frame.data with _ | msg
      · rw [hjson frame hread]
        exact Or.inl ⟨.json, rfl⟩
      · rw [hmsg frame msg hread]
        exact Or.inr ⟨msg, rfl⟩

variable (wire tempDir files folders) in
theorem naming_eq (n : ℕ) : ∃ k, naming wire tempDir files folders n = .exec .readMessage k ∧
    ∀ b name (now : Seconds), k (some ⟨b, wire.stringify ⟨name, now.1, sourceFile⟩⟩) =
      receiving wire tempDir files folders n ⟨name, now.1, sourceFile⟩ := by
  obtain ⟨k, hk, hmsg, -⟩ := readJSON_bind_eq wire (receiveData tempDir)
    (afterFile wire tempDir n)
  refine ⟨fun frame => k frame >>= finishing wire tempDir files folders, ?_, fun b name now => ?_⟩
  · rw [naming, hk]
    rfl
  · exact congrArg (· >>= finishing wire tempDir files folders)
      (hmsg b ⟨name, now.1, sourceFile⟩ now.isSafe isSafe_sourceFile)

variable (wire tempDir files folders) in
theorem receiving_eq (n : ℕ) (p : List Name × SourceFile) (now : Seconds) :
    ∃ k, receiving wire tempDir files folders n ⟨(transferOf p).fullPath, now.1, sourceFile⟩ =
      .exec .readMessage k ∧
    ∀ data, k (some ⟨true, data⟩) =
      writing wire tempDir files folders n (p.1, ⟨p.2.name, data⟩) := by
  have hjoin : tempDir.join (transferOf p).fullPath = tempDir.below p.1 :=
    tempDir.join_render_ofNames p.1
  rw [receiving, receiveData, if_neg (not_not.2 rfl), hjoin]
  exact ⟨_, rfl, fun data => rfl⟩

theorem closing_eq (path : Path) :
    (afterFile wire tempDir 0 path >>= finishing wire tempDir files folders) =
      .exec (.sendEvent sourceFileAck) fun _ => finishing wire tempDir files folders (some path) :=
  rfl

theorem afterFile_succ (n : ℕ) (path : Path) :
    (afterFile wire tempDir (n + 1) path >>= finishing wire tempDir files folders) =
      .exec (.sendEvent sourceFileAck) fun _ => naming wire tempDir files folders n :=
  rfl

/-! ### After the files -/

/-- The name of the sample folder. -/
def application : Name := ⟨"application", by decide⟩

variable (wire tempDir) in
/-- What may follow the files : an archive is unpacked and, if `waits`, the user waited for. -/
def Finishing {α : Type} (waits : Bool) : Upload α → Prop
  | .ret _ => True
  | .exec (.sendEvent _) _ => False
  | .exec .readMessage k => waits = true ∧
    (∀ now e, k (some (waitFrame wire now)) ≠ .ret (.error e)) ∧
    (∀ b name now, ∃ e,
      k (some ⟨b, wire.stringify ⟨name, (now : Seconds).1, sourceFile⟩⟩) = .ret (.error e)) ∧
    ∀ frame, Finishing false (k frame)
  | .exec (.mkdir path) k => path = tempDir.below [application] ∧ ∀ made, Finishing waits (k made)
  | .exec (.writeFile ..) _ => False
  | .exec (.openArchive ..) k => ∀ opened, Finishing waits (k opened)
  | .exec (.readDir _) k => ∀ contents, Finishing waits (k contents)
  | .exec .now k => ∀ now, Finishing waits (k now)

theorem finishing_bind {α β : Type} {waits : Bool} {p : Upload α} {f : α → Upload β}
    (hp : Finishing wire tempDir false p) (hf : ∀ a, Finishing wire tempDir waits (f a)) :
    Finishing wire tempDir waits (p >>= f) := by
  induction p with
  | ret r =>
    cases r with
    | error e => exact trivial
    | ok a => exact hf a
  | exec s k ih =>
    cases s with
    | sendEvent | writeFile => exact hp.elim
    | readMessage => exact absurd hp.1 Bool.false_ne_true
    | mkdir path => exact ⟨hp.1, fun made => ih made (hp.2 made)⟩
    | openArchive | readDir | now => exact fun r => ih r (hp r)

theorem finishing_unpackSource (info : FolderSourceInfo) (last : Option Path) :
    Finishing wire tempDir false (unpackSource tempDir info last) := by
  have hpath : tempDir.join "application" = tempDir.below [application] := by
    have hjoin := tempDir.join_render_ofNames [application]
    rwa [Path.render_ofNames_singleton] at hjoin
  rw [unpackSource]
  rcases (if info.files = 1 then last else none) with _ | last
  · exact trivial
  dsimp only
  rcases getArchiverFor last.render with _ | archiver
  · exact trivial
  refine ⟨hpath, fun _ opened => ?_⟩
  cases opened with
  | false => exact trivial
  | true =>
    intro contents
    rcases contents with _ | _ | ⟨content, _ | ⟨_, _⟩⟩ <;> exact trivial

theorem finishing_awaitDeploy {α : Type} {f : Unit → Upload α} (info : FolderSourceInfo)
    (hf : ∀ waits, Finishing wire tempDir waits (f ())) (hok : ∀ e, f () ≠ .ret (.error e)) :
    Finishing wire tempDir true (awaitDeploy wire.readJSON info >>= f) := by
  rw [awaitDeploy]
  split_ifs
  · obtain ⟨k, hk, hmsg, hframe⟩ := readJSON_bind_eq wire
      (fun msg => if msg.type ≠ sourceWaitAck then
        Prog.fail (.new "Expecting ACK message to begin deployment") else pure ()) f
    rw [hk]
    refine ⟨rfl, fun now e => ?_, fun b name now => ?_, fun frame => ?_⟩
    · rw [waitFrame, textFrame, hmsg _ _ now.isSafe isSafe_sourceWaitAck]
      exact hok e
    · rw [hmsg _ _ now.isSafe isSafe_sourceFile]
      exact ⟨_, rfl⟩
    · rcases hframe frame with ⟨e, he⟩ | ⟨msg, heq⟩
      · rw [he]
        exact trivial
      · rw [heq]
        split_ifs
        · exact trivial
        · exact hf false
  · exact hf true

theorem finishing_finishSource (last : Option Path) :
    Finishing wire tempDir true (finishing wire tempDir files folders last) := by
  refine finishing_bind (finishing_unpackSource _ _) ?_
  rintro ⟨info, dir⟩
  refine finishing_awaitDeploy info ?_ ?_
  · exact fun _ _ => trivial
  · intro e h
    cases h

end Server

end Stratos.FolderUpload
