import Stratos.Lib.Path
import Stratos.Lib.Program

/-!
# Uploading a folder

`getFolderSource` of the `cfapppush` plugin : the client names the folders of an application and
how many files follow, then sends for each file a `SOURCE_FILE` message with its name and a
binary message with its data. The server makes the folders and writes the files below a
temporary folder of the deployment.

`UploadConfined` says that, whatever the disk permits, folders are made and files written in the
temporary folder only, and that a result comes with as many files as were announced.
`uploadConfined_iff` says for which messages that is so. A name may climb out of the folder
(`not_uploadConfined_climbing`), and a negative number of files is none.
-/

open Lib

namespace Stratos

/-! ## Messages -/

/-- `MessageType` -/
abbrev MessageType := ℤ

/-- The message with the name of a file. -/
def sourceFile : MessageType := 30003

/-- The message that asks for a file. -/
def sourceFileAck : MessageType := 30005

/-- The message that begins the deployment. -/
def sourceWaitAck : MessageType := 30007

/-- A message of the deployment. -/
structure SocketMessage where
  message : String
  timestamp : ℤ
  type : MessageType

/-- A message on the web socket. -/
structure SocketFrame where
  /-- Whether its type is `websocket.BinaryMessage`. -/
  binary : Bool
  data : List UInt8

/-- What the client announces. -/
structure FolderSourceInfo where
  sourceType : String
  timestamp : ℤ
  waitAfterUpload : Bool
  files : ℤ
  folders : List String

/-- The archives that are unpacked. -/
inductive Archiver
  | tarGz
  | tar
  | zip

/-- `strings.HasSuffix` -/
def hasSuffix (s suffix : String) : Bool := suffix.toList <:+ s.toList

/-- The archiver for a file, by the end of its name. -/
def getArchiverFor (filePath : String) : Option Archiver :=
  if hasSuffix filePath ".tar.gz" || hasSuffix filePath ".tgz" then some .tarGz
  else if hasSuffix filePath ".tar" then some .tar
  else if hasSuffix filePath ".zip" then some .zip
  else none

/-! ## The source -/

/-- An entry of the folder. -/
structure FileInfo where
  name : String
  isDir : Bool

/-- What is asked of the web socket, the disk and the clock. -/
inductive UploadStmt
  | sendEvent (event : MessageType)
  | readMessage
  /-- `os.Mkdir` -/
  | mkdir (path : Path)
  /-- `ioutil.WriteFile` -/
  | writeFile (path : Path) (data : List UInt8)
  /-- `archiver.Open` -/
  | openArchive (archiver : Archiver) (source destination : Path)
  /-- `ioutil.ReadDir` -/
  | readDir (path : Path)
  | now

/-- The replies. One that may be an error is `false` or `none` then. -/
@[reducible] def UploadStmt.Reply : UploadStmt → Type
  | sendEvent _ => Unit
  | readMessage => Option SocketFrame
  | mkdir _ | writeFile .. | openArchive .. => Bool
  | readDir _ => Option (List FileInfo)
  | now => ℤ

/-- The errors of an upload. -/
inductive UploadError
  | new (text : String)
  | json
  | socket
  | disk
  | archive

/-- An upload, as the statements that it executes. -/
abbrev Upload := Prog UploadStmt UploadStmt.Reply UploadError

/-- A single statement. -/
def request (s : UploadStmt) : Upload s.Reply := Prog.stmt s

section Source

variable (decode : List UInt8 → Option SocketMessage) (tempDir : Path)

/-- The next frame. Fails when the socket does. -/
def readFrame : Upload SocketFrame := do
  let frame : Option SocketFrame ← request .readMessage
  match frame with
  | some frame => pure frame
  | none => Prog.fail .socket

/-- `clientWebSocket.ReadJSON` -/
def readJSON : Upload SocketMessage := do
  let frame ← readFrame
  match decode frame.data with
  | some msg => pure msg
  | none => Prog.fail .json

/-- The announced folders are made, until one fails. -/
def createFolders : List String → Upload Unit
  | [] => pure ()
  | folder :: rest => do
    let made : Bool ← request (.mkdir (tempDir.join folder))
    if made then createFolders rest else Prog.fail (.new "Failed to create folder")

/-- What follows a message : the file that it names. -/
def receiveData (msg : SocketMessage) : Upload Path :=
  if msg.type ≠ sourceFile then Prog.fail (.new "Unexpected web socket message type")
  else do
    let frame ← readFrame
    if frame.binary = false then Prog.fail (.new "Expecting binary file data")
    else
      let path := tempDir.join msg.message
      let written : Bool ← request (.writeFile path frame.data)
      if written then pure path else Prog.fail .disk

/-- One turn of the loop : the path of the file. -/
def receiveFile : Upload Path := do
  request (.sendEvent sourceFileAck)
  let msg ← readJSON decode
  receiveData tempDir msg

/-- The loop over the transfers, with the path of the last file. -/
def receiveFiles : ℕ → Option Path → Upload (Option Path)
  | 0, lastFilePath => pure lastFilePath
  | transfers + 1, _ => do
    let path ← receiveFile decode tempDir
    if transfers = 0 then request (.sendEvent sourceFileAck)
    receiveFiles transfers (some path)

/-- A single file that is an archive is unpacked. -/
def unpackSource (info : FolderSourceInfo) (lastFilePath : Option Path) :
    Upload (FolderSourceInfo × Path) := do
  match if info.files = 1 then lastFilePath else none with
  | none => pure (info, tempDir)
  | some lastFilePath =>
    match getArchiverFor lastFilePath.render with
    | none => pure (info, tempDir)
    | some archiver =>
      let unpackPath := tempDir.join "application"
      -- The error of `os.Mkdir` is not looked at.
      let _ : Bool ← request (.mkdir unpackPath)
      let opened : Bool ← request (.openArchive archiver lastFilePath unpackPath)
      if opened then
        let contents : Option (List FileInfo) ← request (.readDir unpackPath)
        match contents with
        | none => Prog.fail .disk
        | some [content] => pure ({ info with sourceType := "archive" },
            if content.isDir then unpackPath.join content.name else unpackPath)
        | some _ => pure ({ info with sourceType := "archive" }, unpackPath)
      else Prog.fail .archive

/-- Waits for the client, if it announced that. -/
def awaitDeploy (info : FolderSourceInfo) : Upload Unit :=
  if info.waitAfterUpload then do
    let msg ← readJSON decode
    if msg.type ≠ sourceWaitAck then
      Prog.fail (.new "Expecting ACK message to begin deployment")
    else pure ()
  else pure ()

/-- What follows the transfers : the source and its folder. -/
def finishSource (info : FolderSourceInfo) (lastFilePath : Option Path) :
    Upload (FolderSourceInfo × Path) := do
  let (info, dir) ← unpackSource tempDir info lastFilePath
  awaitDeploy decode info
  let timestamp : ℤ ← request .now
  return ({ info with timestamp := timestamp, folders := [] }, dir)

/-- `unmarshal` reads the info from the message. -/
def getFolderSource (unmarshal : String → Option FolderSourceInfo) (msg : SocketMessage) :
    Upload (FolderSourceInfo × Path) :=
  match unmarshal msg.message with
  | none => Prog.fail .json
  | some info => do
    createFolders tempDir info.folders
    let lastFilePath ← receiveFiles decode tempDir info.files.toNat none
    finishSource decode tempDir info lastFilePath

end Source

/-! ## The server and its client -/

/-- A folder that was made or a file that was written. -/
inductive FileOp
  | made (path : Path)
  | written (path : Path) (data : List UInt8)

/-- The path that is made or written. -/
def FileOp.path : FileOp → Path
  | made path => path
  | written path _ => path

/-- The operation writes a file. -/
def FileOp.isWritten : FileOp → Bool
  | made _ => false
  | written .. => true

/-- What the disk, the archives and the clock answer, after what was done. -/
structure Disk where
  permits : List FileOp → FileOp → Bool
  opens : List FileOp → Archiver → Path → Path → Bool
  contents : List FileOp → Path → Option (List FileInfo)
  now : List FileOp → ℤ

/-- What the client still sends, and what was done. -/
structure UploadWorld where
  frames : List SocketFrame
  done : List FileOp

/-- The operation is done, if the disk permits it. -/
def UploadWorld.perform (disk : Disk) (op : FileOp) (w : UploadWorld) : Bool × UploadWorld :=
  if disk.permits w.done op then (true, { w with done := w.done ++ [op] }) else (false, w)

/-- What the world answers to a statement. -/
def answer (disk : Disk) : (s : UploadStmt) → UploadWorld → s.Reply × UploadWorld
  | .sendEvent _, w => ((), w)
  | .readMessage, w => (w.frames.head?, { w with frames := w.frames.tail })
  | .mkdir path, w => w.perform disk (.made path)
  | .writeFile path data, w => w.perform disk (.written path data)
  | .openArchive archiver source destination, w =>
    (disk.opens w.done archiver source destination, w)
  | .readDir path, w => (disk.contents w.done path, w)
  | .now, w => (disk.now w.done, w)

/-! ## The property -/

section Property

variable (decode : List UInt8 → Option SocketMessage)
  (unmarshal : String → Option FolderSourceInfo) (tempDir : Path) (msg : SocketMessage)
  (frames : List SocketFrame)

/-- The run of an upload. -/
def upload (disk : Disk) : Except UploadError (FolderSourceInfo × Path) × UploadWorld :=
  (getFolderSource decode tempDir unmarshal msg).run (answer disk) ⟨frames, []⟩

/-- The number of files that were received. -/
def UploadWorld.received (w : UploadWorld) : ℕ := w.done.countP FileOp.isWritten

/-- The upload stays inside its folder, and ends well only with all the files. -/
structure UploadConfined : Prop where
  inside : ∀ disk, ∀ op ∈ (upload decode unmarshal tempDir msg frames disk).2.done,
    tempDir.Contains op.path
  received : ∀ disk info result, unmarshal msg.message = some info →
    (upload decode unmarshal tempDir msg frames disk).1 = .ok result →
    ((upload decode unmarshal tempDir msg frames disk).2.received : ℤ) = info.files

/-! ## The condition -/

/-- The name and the data of a file that the client sends next, and what it sends after. -/
def exchange : List SocketFrame → Option (String × List UInt8 × List SocketFrame)
  | frame :: content :: rest =>
    match decode frame.data with
    | some msg =>
      if msg.type = sourceFile ∧ content.binary = true then some (msg.message, content.data, rest)
      else none
    | none => none
  | _ => none

/-- The names of the files, until something else is sent. -/
def uploadedNames : ℕ → List SocketFrame → List String
  | 0, _ => []
  | transfers + 1, frames =>
    match exchange decode frames with
    | some (name, _, rest) => name :: uploadedNames transfers rest
    | none => []

/-- The client does not go on to the deployment. -/
def StopsWaiting (info : FolderSourceInfo) : Prop :=
  info.waitAfterUpload = true ∧ ∀ frame ∈ frames.head?, ∀ msg ∈ decode frame.data,
    msg.type ≠ sourceWaitAck

/-- The names stay in the folder, and a negative number of files is not gone on with. -/
structure UploadStays (info : FolderSourceInfo) : Prop where
  folders : ∀ folder ∈ info.folders, tempDir.StaysIn folder
  files : ∀ name ∈ uploadedNames decode info.files.toNat frames, tempDir.StaysIn name
  count : 0 ≤ info.files ∨ StopsWaiting decode frames info

end Property

/-! ## What is done -/

section Runs

variable {decode : List UInt8 → Option SocketMessage}
  {unmarshal : String → Option FolderSourceInfo} {tempDir : Path} {msg : SocketMessage}
  {frames : List SocketFrame} {info : FolderSourceInfo} {disk : Disk}

theorem run_request_bind {α : Type} (s : UploadStmt) (f : s.Reply → Upload α) (w : UploadWorld) :
    (request s >>= f).run (answer disk) w =
      (f (answer disk s w).1).run (answer disk) (answer disk s w).2 :=
  rfl

theorem perform_done (op : FileOp) (w : UploadWorld) :
    w.done <+: (w.perform disk op).2.done := by
  rw [UploadWorld.perform]
  split_ifs
  · exact List.prefix_append _ _
  · exact List.prefix_refl _

/-- What was done stays done. -/
theorem done_prefix_run {α : Type} (p : Upload α) (w : UploadWorld) :
    w.done <+: (p.run (answer disk) w).2.done := by
  induction p generalizing w with
  | ret r => exact List.prefix_refl _
  | exec s k ih =>
    have hstep : w.done <+: (answer disk s w).2.done := by
      cases s with
      | mkdir | writeFile => exact perform_done _ w
      | sendEvent | readMessage | openArchive | readDir | now => exact List.prefix_refl _
    exact hstep.trans (ih _ _)

theorem done_prefix_bind {α β : Type} (p : Upload α) (f : α → Upload β) (w : UploadWorld) :
    (p.run (answer disk) w).2.done <+: ((p >>= f).run (answer disk) w).2.done := by
  rw [Prog.run_bind]
  rcases p.run (answer disk) w with ⟨e | a, w₁⟩
  · exact List.prefix_refl _
  · exact done_prefix_run _ _

/-! ### Folders -/

theorem run_createFolders (tempDir : Path) (disk : Disk) (folders : List String)
    (w : UploadWorld) :
    ∃ made, ((createFolders tempDir folders).run (answer disk) w).2 =
        { w with done := w.done ++ made } ∧
      ∀ op ∈ made, ∃ folder ∈ folders, op = .made (tempDir.join folder) := by
  induction folders generalizing w with
  | nil => exact ⟨[], by rw [List.append_nil]; rfl, fun _ h => (List.not_mem_nil h).elim⟩
  | cons folder folders ih =>
    rw [createFolders, run_request_bind]
    by_cases hpermits : disk.permits w.done (.made (tempDir.join folder)) = true
    · have hreply : answer disk (.mkdir (tempDir.join folder)) w =
          (true, { w with done := w.done ++ [.made (tempDir.join folder)] }) := if_pos hpermits
      obtain ⟨made, hrun, hmade⟩ := ih { w with done := w.done ++ [.made (tempDir.join folder)] }
      refine ⟨.made (tempDir.join folder) :: made, ?_, fun op hop => ?_⟩
      · rw [hreply, if_pos rfl, hrun, List.append_assoc]
        rfl
      · rcases List.mem_cons.1 hop with rfl | hop
        · exact ⟨folder, List.mem_cons_self, rfl⟩
        · obtain ⟨folder', hfolder', rfl⟩ := hmade op hop
          exact ⟨folder', List.mem_cons_of_mem _ hfolder', rfl⟩
    · have hreply : answer disk (.mkdir (tempDir.join folder)) w = (false, w) := if_neg hpermits
      refine ⟨[], ?_, fun _ h => (List.not_mem_nil h).elim⟩
      rw [hreply, if_neg (by simp), List.append_nil]
      rfl

/-- A disk that permits everything gets all the folders. -/
theorem run_createFolders_of_permits (tempDir : Path)
    (hdisk : ∀ done op, disk.permits done op = true) (folders : List String) (w : UploadWorld) :
    (createFolders tempDir folders).run (answer disk) w = (.ok (), { w with
      done := w.done ++ folders.map fun folder => .made (tempDir.join folder) }) := by
  induction folders generalizing w with
  | nil =>
    rw [List.map_nil, List.append_nil]
    rfl
  | cons folder folders ih =>
    have hreply : answer disk (.mkdir (tempDir.join folder)) w =
        (true, { w with done := w.done ++ [.made (tempDir.join folder)] }) :=
      if_pos (hdisk _ _)
    rw [createFolders, run_request_bind, hreply, if_pos rfl, ih, List.append_assoc]
    rfl

/-! ### Files -/

theorem run_readFrame_nil {α : Type} (f : SocketFrame → Upload α) (done : List FileOp) :
    (readFrame >>= f).run (answer disk) ⟨[], done⟩ = (.error .socket, ⟨[], done⟩) :=
  rfl

theorem run_readFrame_cons {α : Type} (f : SocketFrame → Upload α) (frame : SocketFrame)
    (done : List FileOp) : (readFrame >>= f).run (answer disk) ⟨frame :: frames, done⟩ =
      (f frame).run (answer disk) ⟨frames, done⟩ :=
  rfl

theorem run_readJSON_nil {α : Type} (f : SocketMessage → Upload α) (done : List FileOp) :
    (readJSON decode >>= f).run (answer disk) ⟨[], done⟩ = (.error .socket, ⟨[], done⟩) :=
  rfl

theorem run_readJSON_none {α : Type} (f : SocketMessage → Upload α) {frame : SocketFrame}
    (h : decode frame.data = none) (done : List FileOp) :
    (readJSON decode >>= f).run (answer disk) ⟨frame :: frames, done⟩ =
      (.error .json, ⟨frames, done⟩) := by
  have hread : (readJSON decode).run (answer disk) ⟨frame :: frames, done⟩ =
      (.error .json, ⟨frames, done⟩) := by
    rw [readJSON, run_readFrame_cons, h]
    rfl
  exact Prog.run_bind_error _ hread

theorem run_readJSON_some {α : Type} (f : SocketMessage → Upload α) {frame : SocketFrame}
    {msg : SocketMessage} (h : decode frame.data = some msg) (done : List FileOp) :
    (readJSON decode >>= f).run (answer disk) ⟨frame :: frames, done⟩ =
      (f msg).run (answer disk) ⟨frames, done⟩ := by
  have hread : (readJSON decode).run (answer disk) ⟨frame :: frames, done⟩ =
      (.ok msg, ⟨frames, done⟩) := by
    rw [readJSON, run_readFrame_cons, h]
    rfl
  exact Prog.run_bind_ok _ hread

theorem run_receiveFile_eq (w : UploadWorld) :
    (receiveFile decode tempDir).run (answer disk) w =
      (readJSON decode >>= receiveData tempDir).run (answer disk) w :=
  rfl

/-- Without a file that comes next, nothing is done. -/
theorem run_receiveFile_none (tempDir : Path) (disk : Disk) {w : UploadWorld}
    (h : exchange decode w.frames = none) :
    ∃ e w₁, (receiveFile decode tempDir).run (answer disk) w = (.error e, w₁) ∧
      w₁.done = w.done := by
  obtain ⟨frames, done⟩ := w
  rw [run_receiveFile_eq]
  rcases frames with _ | ⟨frame, frames⟩
  · exact ⟨.socket, ⟨[], done⟩, run_readJSON_nil _ _, rfl⟩
  rcases hdecode : decode frame.data with _ | msg
  · exact ⟨.json, ⟨frames, done⟩, run_readJSON_none _ hdecode done, rfl⟩
  rw [run_readJSON_some _ hdecode, receiveData]
  by_cases htype : msg.type = sourceFile
  · rw [if_neg (not_not.2 htype)]
    rcases frames with _ | ⟨content, rest⟩
    · exact ⟨.socket, ⟨[], done⟩, run_readFrame_nil _ _, rfl⟩
    · have hbinary : content.binary = false := by
        simpa [exchange, hdecode, htype] using h
      rw [run_readFrame_cons, if_pos hbinary]
      exact ⟨_, ⟨rest, done⟩, rfl, rfl⟩
  · rw [if_pos htype]
    exact ⟨_, ⟨frames, done⟩, rfl, rfl⟩

theorem run_receiveFile_some (tempDir : Path) (disk : Disk) {w : UploadWorld} {name : String}
    {data : List UInt8} {rest : List SocketFrame}
    (h : exchange decode w.frames = some (name, data, rest)) :
    (receiveFile decode tempDir).run (answer disk) w =
      if disk.permits w.done (.written (tempDir.join name) data) = true then
        (.ok (tempDir.join name), ⟨rest, w.done ++ [.written (tempDir.join name) data]⟩)
      else (.error .disk, ⟨rest, w.done⟩) := by
  obtain ⟨frames, done⟩ := w
  rw [run_receiveFile_eq]
  rcases frames with _ | ⟨frame, _ | ⟨content, frames⟩⟩
  · cases h
  · cases h
  rcases hdecode : decode frame.data with _ | msg
  · simp [exchange, hdecode] at h
  · simp only [exchange, hdecode] at h
    split_ifs at h with hsends
    obtain ⟨htype, hbinary⟩ := hsends
    obtain ⟨rfl, rfl, rfl⟩ : msg.message = name ∧ content.data = data ∧ frames = rest := by
      simpa using h
    rw [run_readJSON_some _ hdecode, receiveData, if_neg (not_not.2 htype), run_readFrame_cons,
      hbinary, if_neg (by simp), run_request_bind]
    by_cases hpermits : disk.permits done (.written (tempDir.join msg.message) content.data) = true
    · have hreply : answer disk (.writeFile (tempDir.join msg.message) content.data)
          ⟨frames, done⟩ = (true, ⟨frames,
            done ++ [.written (tempDir.join msg.message) content.data]⟩) := if_pos hpermits
      rw [hreply, if_pos hpermits]
      rfl
    · have hreply : answer disk (.writeFile (tempDir.join msg.message) content.data)
          ⟨frames, done⟩ = (false, ⟨frames, done⟩) := if_neg hpermits
      rw [hreply, if_neg hpermits]
      rfl

theorem run_receiveFiles_succ_ok {n : ℕ} {last : Option Path} {w w₁ : UploadWorld} {path : Path}
    (h : (receiveFile decode tempDir).run (answer disk) w = (.ok path, w₁)) :
    (receiveFiles decode tempDir (n + 1) last).run (answer disk) w =
      (receiveFiles decode tempDir n (some path)).run (answer disk) w₁ := by
  rw [receiveFiles, Prog.run_bind_ok _ h]
  split_ifs <;> rfl

theorem run_receiveFiles_succ_error {n : ℕ} {last : Option Path} {w w₁ : UploadWorld}
    {e : UploadError}
    (h : (receiveFile decode tempDir).run (answer disk) w = (.error e, w₁)) :
    (receiveFiles decode tempDir (n + 1) last).run (answer disk) w = (.error e, w₁) := by
  rw [receiveFiles, Prog.run_bind_error _ h]

/-- The loop writes files under names that were sent, as many as it should if it ends well. -/
theorem run_receiveFiles (decode : List UInt8 → Option SocketMessage) (tempDir : Path)
    (disk : Disk) (n : ℕ) (last : Option Path) (w : UploadWorld) :
    ∃ written, ((receiveFiles decode tempDir n last).run (answer disk) w).2.done =
        w.done ++ written ∧
      (∀ op ∈ written, op.isWritten = true ∧
        ∃ name ∈ uploadedNames decode n w.frames, op.path = tempDir.join name) ∧
      ∀ last', ((receiveFiles decode tempDir n last).run (answer disk) w).1 = .ok last' →
        written.length = n := by
  induction n generalizing last w with
  | zero =>
    exact ⟨[], (List.append_nil _).symm, fun _ h => (List.not_mem_nil h).elim, fun _ _ => rfl⟩
  | succ n ih =>
    rcases hexchange : exchange decode w.frames with _ | ⟨name, data, rest⟩
    · obtain ⟨e, w₁, hrun, hdone⟩ := run_receiveFile_none tempDir disk hexchange
      rw [run_receiveFiles_succ_error hrun]
      exact ⟨[], by rw [hdone, List.append_nil], fun _ h => (List.not_mem_nil h).elim,
        fun _ h => by cases h⟩
    · have hrun := run_receiveFile_some tempDir disk hexchange
      have hnames : uploadedNames decode (n + 1) w.frames =
          name :: uploadedNames decode n rest := by
        rw [uploadedNames, hexchange]
      split_ifs at hrun with hpermits
      · rw [run_receiveFiles_succ_ok hrun, hnames]
        obtain ⟨written, hdone, hwritten, hcount⟩ := ih (some (tempDir.join name))
          ⟨rest, w.done ++ [.written (tempDir.join name) data]⟩
        refine ⟨.written (tempDir.join name) data :: written, ?_, fun op hop => ?_,
          fun last' hok => ?_⟩
        · rw [hdone, List.append_assoc]
          rfl
        · rcases List.mem_cons.1 hop with rfl | hop
          · exact ⟨rfl, name, List.mem_cons_self, rfl⟩
          · obtain ⟨hop, name', hname', hpath⟩ := hwritten op hop
            exact ⟨hop, name', List.mem_cons_of_mem _ hname', hpath⟩
        · rw [List.length_cons, hcount last' hok]
      · rw [run_receiveFiles_succ_error hrun]
        exact ⟨[], (List.append_nil _).symm, fun _ h => (List.not_mem_nil h).elim,
          fun _ h => by cases h⟩

/-- A disk that permits everything gets a file under every name. -/
theorem run_receiveFiles_of_permits (tempDir : Path)
    (hdisk : ∀ done op, disk.permits done op = true) (n : ℕ) (last : Option Path)
    (w : UploadWorld) : ∀ name ∈ uploadedNames decode n w.frames,
      ∃ op ∈ ((receiveFiles decode tempDir n last).run (answer disk) w).2.done,
        op.path = tempDir.join name := by
  induction n generalizing last w with
  | zero => exact fun _ h => (List.not_mem_nil h).elim
  | succ n ih =>
    intro name' hname'
    rcases hexchange : exchange decode w.frames with _ | ⟨name, data, rest⟩
    · rw [uploadedNames, hexchange] at hname'
      exact (List.not_mem_nil hname').elim
    · have hrun := run_receiveFile_some tempDir disk hexchange
      rw [if_pos (hdisk _ _)] at hrun
      rw [uploadedNames, hexchange] at hname'
      rw [run_receiveFiles_succ_ok hrun]
      rcases List.mem_cons.1 hname' with rfl | hname'
      · refine ⟨.written (tempDir.join name') data, ?_, rfl⟩
        exact (done_prefix_run _ _).subset (List.mem_append_right _ (List.mem_singleton_self _))
      · exact ih _ _ name' hname'

/-! ### The end -/

theorem perform_spec (disk : Disk) (op : FileOp) (w : UploadWorld) :
    ∃ done, (w.perform disk op).2 = { w with done := w.done ++ done } ∧ ∀ op' ∈ done, op' = op := by
  rw [UploadWorld.perform]
  split_ifs
  · exact ⟨[op], rfl, fun _ h => List.mem_singleton.1 h⟩
  · exact ⟨[], by rw [List.append_nil], fun _ h => (List.not_mem_nil h).elim⟩

/-- Unpacking makes one folder, and leaves the messages. -/
theorem run_unpackSource (tempDir : Path) (disk : Disk) (info : FolderSourceInfo)
    (last : Option Path) (w : UploadWorld) :
    ∃ made, ((unpackSource tempDir info last).run (answer disk) w).2 =
        { w with done := w.done ++ made } ∧
      ∀ op ∈ made, op = .made (tempDir.join "application") := by
  rw [unpackSource]
  rcases (if info.files = 1 then last else none) with _ | last
  · exact ⟨[], by rw [List.append_nil]; rfl, fun _ h => (List.not_mem_nil h).elim⟩
  dsimp only
  rcases getArchiverFor last.render with _ | archiver
  · exact ⟨[], by rw [List.append_nil]; rfl, fun _ h => (List.not_mem_nil h).elim⟩
  obtain ⟨made, hdone, hmade⟩ := perform_spec disk (.made (tempDir.join "application")) w
  have hreply : (answer disk (.mkdir (tempDir.join "application")) w).2 =
      { w with done := w.done ++ made } := hdone
  refine ⟨made, ?_, hmade⟩
  dsimp only
  rw [run_request_bind, hreply, run_request_bind]
  split_ifs
  · rw [run_request_bind]
    dsimp only [answer]
    rcases disk.contents (w.done ++ made) (tempDir.join "application") with
      _ | _ | ⟨content, _ | ⟨_, _⟩⟩ <;> rfl
  · rfl

theorem run_unpackSource_of_ne (hfiles : info.files ≠ 1) (last : Option Path) (w : UploadWorld) :
    (unpackSource tempDir info last).run (answer disk) w = (.ok (info, tempDir), w) := by
  rw [unpackSource, if_neg hfiles]
  rfl

theorem run_awaitDeploy (decode : List UInt8 → Option SocketMessage) (disk : Disk)
    (info : FolderSourceInfo) (w : UploadWorld) :
    ((awaitDeploy decode info).run (answer disk) w).2.done = w.done ∧
      ((∃ w₁, (awaitDeploy decode info).run (answer disk) w = (.ok (), w₁)) ↔
        ¬StopsWaiting decode w.frames info) := by
  obtain ⟨frames, done⟩ := w
  rw [awaitDeploy]
  by_cases hwait : info.waitAfterUpload = true
  · rw [if_pos hwait]
    rcases frames with _ | ⟨frame, frames⟩
    · rw [run_readJSON_nil]
      simp [StopsWaiting, hwait]
    rcases hdecode : decode frame.data with _ | msg
    · rw [run_readJSON_none _ hdecode]
      simp [StopsWaiting, hwait, hdecode]
    rw [run_readJSON_some _ hdecode]
    by_cases htype : msg.type = sourceWaitAck
    · rw [if_neg (not_not.2 htype)]
      simp [StopsWaiting, hwait, hdecode, htype]
    · rw [if_pos htype]
      simp [StopsWaiting, hwait, hdecode, htype]
  · rw [if_neg hwait]
    simp [StopsWaiting, hwait]

theorem run_finishSource (decode : List UInt8 → Option SocketMessage) (tempDir : Path)
    (disk : Disk) (info : FolderSourceInfo) (last : Option Path) (w : UploadWorld) :
    ∃ made, ((finishSource decode tempDir info last).run (answer disk) w).2.done =
        w.done ++ made ∧
      ∀ op ∈ made, op = .made (tempDir.join "application") := by
  obtain ⟨made, hdone, hmade⟩ := run_unpackSource tempDir disk info last w
  refine ⟨made, ?_, hmade⟩
  rw [finishSource]
  rcases hunpack : (unpackSource tempDir info last).run (answer disk) w with
    ⟨e | ⟨info', dir⟩, w₁⟩
  · rw [Prog.run_bind_error _ hunpack]
    rw [hunpack] at hdone
    exact congrArg UploadWorld.done hdone
  · rw [hunpack] at hdone
    obtain ⟨hawait, -⟩ := run_awaitDeploy decode disk info' w₁
    rw [Prog.run_bind_ok _ hunpack]
    dsimp only
    rcases hdeploy : (awaitDeploy decode info').run (answer disk) w₁ with ⟨e | ⟨⟩, w₂⟩
    · rw [Prog.run_bind_error _ hdeploy]
      rw [hdeploy] at hawait
      exact hawait.trans (congrArg UploadWorld.done hdone)
    · rw [Prog.run_bind_ok _ hdeploy]
      rw [hdeploy] at hawait
      exact hawait.trans (congrArg UploadWorld.done hdone)

/-- Without an archive only the wait can go wrong. -/
theorem finishSource_ok_iff (decode : List UInt8 → Option SocketMessage) (tempDir : Path)
    (disk : Disk) (hfiles : info.files ≠ 1) (last : Option Path) (w : UploadWorld) :
    (∃ result, ((finishSource decode tempDir info last).run (answer disk) w).1 = .ok result) ↔
      ¬StopsWaiting decode w.frames info := by
  have hawait := (run_awaitDeploy decode disk info w).2
  rw [finishSource, Prog.run_bind_ok _ (run_unpackSource_of_ne hfiles last w), ← hawait]
  dsimp only
  rcases hdeploy : (awaitDeploy decode info).run (answer disk) w with ⟨e | ⟨⟩, w₁⟩
  · rw [Prog.run_bind_error _ hdeploy]
    simp
  · rw [Prog.run_bind_ok _ hdeploy]
    exact iff_of_true ⟨_, rfl⟩ ⟨w₁, rfl⟩

theorem upload_eq (hinfo : unmarshal msg.message = some info) :
    upload decode unmarshal tempDir msg frames disk =
      (createFolders tempDir info.folders >>= fun _ =>
        receiveFiles decode tempDir info.files.toNat none >>=
          finishSource decode tempDir info).run (answer disk) ⟨frames, []⟩ := by
  rw [upload, getFolderSource, hinfo]

/-- What an upload does : folders, files, and the folder of an archive. -/
theorem upload_spec (decode : List UInt8 → Option SocketMessage) (tempDir : Path)
    (frames : List SocketFrame) (disk : Disk) (hinfo : unmarshal msg.message = some info) :
    ∃ made written unpacked,
      (upload decode unmarshal tempDir msg frames disk).2.done = made ++ written ++ unpacked ∧
      (∀ op ∈ made, ∃ folder ∈ info.folders, op = .made (tempDir.join folder)) ∧
      (∀ op ∈ written, op.isWritten = true ∧
        ∃ name ∈ uploadedNames decode info.files.toNat frames, op.path = tempDir.join name) ∧
      (∀ op ∈ unpacked, op = .made (tempDir.join "application")) ∧
      ∀ result, (upload decode unmarshal tempDir msg frames disk).1 = .ok result →
        written.length = info.files.toNat := by
  rw [upload_eq hinfo]
  obtain ⟨made, hdone, hmade⟩ := run_createFolders tempDir disk info.folders ⟨frames, []⟩
  rcases hfolders : (createFolders tempDir info.folders).run (answer disk) ⟨frames, []⟩ with
    ⟨e | ⟨⟩, w₁⟩
  · rw [hfolders] at hdone
    rw [Prog.run_bind_error _ hfolders]
    refine ⟨made, [], [], ?_, hmade, by simp, by simp, fun _ h => by cases h⟩
    rw [List.append_nil, List.append_nil]
    exact congrArg UploadWorld.done hdone
  · rw [hfolders] at hdone
    rw [Prog.run_bind_ok _ hfolders]
    obtain rfl : w₁ = ⟨frames, made⟩ := hdone
    obtain ⟨written, hwrites, hwritten, hcount⟩ := run_receiveFiles decode tempDir disk
      info.files.toNat none ⟨frames, made⟩
    rcases hfiles : (receiveFiles decode tempDir info.files.toNat none).run (answer disk)
      ⟨frames, made⟩ with ⟨e | last, w₂⟩
    · rw [hfiles] at hwrites
      rw [Prog.run_bind_error _ hfiles]
      refine ⟨made, written, [], ?_, hmade, hwritten, by simp, fun _ h => by cases h⟩
      rw [List.append_nil]
      exact hwrites
    · rw [hfiles] at hwrites hcount
      rw [Prog.run_bind_ok _ hfiles]
      obtain ⟨unpacked, hunpacks, hunpacked⟩ := run_finishSource decode tempDir disk info
        last w₂
      refine ⟨made, written, unpacked, ?_, hmade, hwritten, hunpacked,
        fun _ _ => hcount last rfl⟩
      rw [hunpacks, hwrites]

/-! ## When an upload is confined -/

theorem staysIn_application (tempDir : Path) : tempDir.StaysIn "application" :=
  Path.staysIn_of_ups (by decide) tempDir

/-- A disk on which everything goes well. -/
def willingDisk : Disk where
  permits := fun _ _ => true
  opens := fun _ _ _ _ => true
  contents := fun _ _ => some []
  now := fun _ => 0

theorem willingDisk_permits (done : List FileOp) (op : FileOp) :
    willingDisk.permits done op = true :=
  rfl

/-- Nothing of what an upload could do is left undone on a willing disk. -/
theorem upload_willing (decode : List UInt8 → Option SocketMessage) (tempDir : Path)
    (frames : List SocketFrame) (hinfo : unmarshal msg.message = some info) :
    (∀ folder ∈ info.folders, ∃ op ∈
      (upload decode unmarshal tempDir msg frames willingDisk).2.done,
        op.path = tempDir.join folder) ∧
      ∀ name ∈ uploadedNames decode info.files.toNat frames, ∃ op ∈
        (upload decode unmarshal tempDir msg frames willingDisk).2.done,
          op.path = tempDir.join name := by
  have hfolders := run_createFolders_of_permits tempDir willingDisk_permits info.folders
    ⟨frames, []⟩
  have hrun : upload decode unmarshal tempDir msg frames willingDisk =
      (receiveFiles decode tempDir info.files.toNat none >>= finishSource decode tempDir info).run
        (answer willingDisk)
        ⟨frames, info.folders.map fun folder => .made (tempDir.join folder)⟩ := by
    rw [upload_eq hinfo, Prog.run_bind_ok _ hfolders]
    rfl
  rw [hrun]
  constructor
  · intro folder hfolder
    refine ⟨.made (tempDir.join folder), ?_, rfl⟩
    exact (done_prefix_run _ _).subset (List.mem_map.2 ⟨folder, hfolder, rfl⟩)
  · intro name hname
    obtain ⟨op, hop, hpath⟩ := run_receiveFiles_of_permits tempDir
      willingDisk_permits info.files.toNat none
      ⟨frames, info.folders.map fun folder => .made (tempDir.join folder)⟩ name hname
    exact ⟨op, (done_prefix_bind _ _ _).subset hop, hpath⟩

/-- A negative number of files is gone on with, unless the client stops at the wait. -/
theorem upload_ok_of_neg (hinfo : unmarshal msg.message = some info) (hneg : info.files < 0)
    (disk : Disk) {result : FolderSourceInfo × Path}
    (h : (upload decode unmarshal tempDir msg frames disk).1 = .ok result) :
    ¬StopsWaiting decode frames info := by
  rw [upload_eq hinfo, Int.toNat_of_nonpos (Int.le_of_lt hneg)] at h
  obtain ⟨made, hdone, -⟩ := run_createFolders tempDir disk info.folders ⟨frames, []⟩
  rcases hfolders : (createFolders tempDir info.folders).run (answer disk) ⟨frames, []⟩ with
    ⟨e | ⟨⟩, w₁⟩
  · rw [Prog.run_bind_error _ hfolders] at h
    cases h
  · rw [hfolders] at hdone
    obtain rfl : w₁ = ⟨frames, made⟩ := hdone
    rw [Prog.run_bind_ok _ hfolders] at h
    have hfiles : info.files ≠ 1 := by omega
    exact (finishSource_ok_iff decode tempDir disk hfiles none ⟨frames, made⟩).1 ⟨result, h⟩

theorem upload_willing_of_neg (tempDir : Path) (hinfo : unmarshal msg.message = some info)
    (hneg : info.files < 0) (h : ¬StopsWaiting decode frames info) :
    ∃ result, (upload decode unmarshal tempDir msg frames willingDisk).1 = .ok result := by
  have hfolders := run_createFolders_of_permits tempDir willingDisk_permits info.folders
    ⟨frames, []⟩
  have hfiles : info.files ≠ 1 := by omega
  obtain ⟨result, hresult⟩ := (finishSource_ok_iff decode tempDir willingDisk
    hfiles none ⟨frames, info.folders.map fun folder => .made (tempDir.join folder)⟩).2 h
  refine ⟨result, ?_⟩
  rw [upload_eq hinfo, Int.toNat_of_nonpos (Int.le_of_lt hneg), Prog.run_bind_ok _ hfolders]
  exact hresult

/-- An upload is confined exactly when its names stay in the folder, and a negative number of
files is not gone on with. -/
theorem uploadConfined_iff (decode : List UInt8 → Option SocketMessage)
    (unmarshal : String → Option FolderSourceInfo) (tempDir : Path) (msg : SocketMessage)
    (frames : List SocketFrame) : UploadConfined decode unmarshal tempDir msg frames ↔
      ∀ info, unmarshal msg.message = some info → UploadStays decode tempDir frames info := by
  constructor
  · intro h info hinfo
    obtain ⟨hfolders, hfiles⟩ := upload_willing decode tempDir frames hinfo
    refine ⟨fun folder hfolder => ?_, fun name hname => ?_, ?_⟩
    · obtain ⟨op, hop, hpath⟩ := hfolders folder hfolder
      rw [← Path.contains_join_iff, ← hpath]
      exact h.inside willingDisk op hop
    · obtain ⟨op, hop, hpath⟩ := hfiles name hname
      rw [← Path.contains_join_iff, ← hpath]
      exact h.inside willingDisk op hop
    · by_contra hcount
      rw [not_or] at hcount
      have hneg : info.files < 0 := by omega
      obtain ⟨result, hresult⟩ := upload_willing_of_neg tempDir hinfo hneg hcount.2
      have hreceived := h.received willingDisk info result hinfo hresult
      omega
  · intro h
    constructor
    · intro disk op hop
      rcases hinfo : unmarshal msg.message with _ | info
      · rw [upload, getFolderSource, hinfo] at hop
        exact (List.not_mem_nil hop).elim
      · obtain ⟨hfolders, hfiles, -⟩ := h info hinfo
        obtain ⟨made, written, unpacked, hdone, hmade, hwritten, hunpacked, -⟩ :=
          upload_spec decode tempDir frames disk hinfo
        rw [hdone, List.mem_append, List.mem_append] at hop
        rcases hop with (hop | hop) | hop
        · obtain ⟨folder, hfolder, rfl⟩ := hmade op hop
          exact (Path.contains_join_iff _ _).2 (hfolders folder hfolder)
        · obtain ⟨-, name, hname, hpath⟩ := hwritten op hop
          rw [hpath]
          exact (Path.contains_join_iff _ _).2 (hfiles name hname)
        · rw [hunpacked op hop]
          exact (Path.contains_join_iff _ _).2 (staysIn_application tempDir)
    · intro disk info result hinfo hok
      obtain ⟨-, -, hcount⟩ := h info hinfo
      obtain ⟨made, written, unpacked, hdone, hmade, hwritten, hunpacked, hlength⟩ :=
        upload_spec decode tempDir frames disk hinfo
      have hnonneg : 0 ≤ info.files := by
        by_contra hneg
        exact upload_ok_of_neg hinfo (by omega) disk hok (hcount.resolve_left hneg)
      have hmade' : made.countP FileOp.isWritten = 0 := by
        refine List.countP_eq_zero.2 fun op hop => ?_
        obtain ⟨folder, -, rfl⟩ := hmade op hop
        simp [FileOp.isWritten]
      have hwritten' : written.countP FileOp.isWritten = written.length :=
        List.countP_eq_length.2 fun op hop => (hwritten op hop).1
      have hunpacked' : unpacked.countP FileOp.isWritten = 0 := by
        refine List.countP_eq_zero.2 fun op hop => ?_
        rw [hunpacked op hop]
        simp [FileOp.isWritten]
      rw [UploadWorld.received, hdone, List.countP_append, List.countP_append, hmade', hwritten',
        hunpacked', hlength result hok]
      omega

end Runs

/-! ## A name that climbs -/

/-- `/tmp/cf-push-1` -/
def sampleDir : Path := Path.clean "/tmp/cf-push-1"

/-- One file, and its name climbs out of the folder. -/
theorem not_uploadConfined_climbing :
    ¬∀ (decode : List UInt8 → Option SocketMessage)
        (unmarshal : String → Option FolderSourceInfo) (tempDir : Path) (msg : SocketMessage)
        (frames : List SocketFrame), UploadConfined decode unmarshal tempDir msg frames := by
  intro h
  have hconfined := h (fun _ => some ⟨"../evil", 0, sourceFile⟩)
    (fun _ => some ⟨"filefolder", 0, false, 1, []⟩) sampleDir
    ⟨"\x7b\"type\":\"filefolder\",\"files\":1\x7d", 0, 30002⟩
    [⟨false, "\x7b\"message\":\"../evil\",\"type\":30003\x7d".toUTF8.toList⟩, ⟨true, []⟩]
  have hmem : FileOp.written (sampleDir.join "../evil") [] ∈
      (upload (fun _ => some ⟨"../evil", 0, sourceFile⟩)
        (fun _ => some ⟨"filefolder", 0, false, 1, []⟩) sampleDir
        ⟨"\x7b\"type\":\"filefolder\",\"files\":1\x7d", 0, 30002⟩
        [⟨false, "\x7b\"message\":\"../evil\",\"type\":30003\x7d".toUTF8.toList⟩,
          ⟨true, []⟩] willingDisk).2.done := by
    exact List.mem_singleton_self _
  have hinside := hconfined.inside willingDisk _ hmem
  revert hinside
  decide

end Stratos
