import Stratos.Jetstream.FolderUpload
import Stratos.Jetstream.SocketMessages

/-!
# Runs of the upload of a folder

A state that is reached is in one of the stages of `Inv`, which say where the server is, what the
client has sent and counted, and what is on its way between them. A step leads from a stage to a
stage (`inv_step`), so all that `Delivers` asks for is read off the stages (`delivers_of_inv`), and
every upload delivers (`uploads_delivered`).
-/

open Lib

namespace Stratos.FolderUpload

section Runs

variable {wire : Wire} {tempDir : Path} {disk : TempDisk tempDir} {tree : ScannedTree}
  {fsFileInfo : FileScannerInfo}

/-! ## Steps -/

section Steps

variable {s s' : System}

theorem ServerStep.of_event {e : MessageType} {k : Unit → Upload (FolderSourceInfo × Path)}
    (hstep : ServerStep disk s s') (h : s.server = .exec (.sendEvent e) k) :
    s' = { s with server := k (), toClient := s.toClient ++ [e] } := by
  cases hstep with
  | event h' =>
    rw [h] at h'
    cases h'
    rfl
  | read h' =>
    rw [h] at h'
    cases h'
  | act hst h' =>
    rw [h] at h'
    cases h'
    cases hst

theorem ServerStep.of_read {k : Option SocketFrame → Upload (FolderSourceInfo × Path)}
    (hstep : ServerStep disk s s') (h : s.server = .exec .readMessage k) :
    ∃ frame frames, s.toServer = frame :: frames ∧
      s' = { s with server := k (some frame), toServer := frames } := by
  cases hstep with
  | event h' =>
    rw [h] at h'
    cases h'
  | read h' hframes =>
    rw [h] at h'
    cases h'
    exact ⟨_, _, hframes, rfl⟩
  | act hst h' =>
    rw [h] at h'
    cases h'
    cases hst

theorem ServerStep.of_act {st : UploadStmt} {k : st.Reply → Upload (FolderSourceInfo × Path)}
    (hstep : ServerStep disk s s') (hst : isLocal st = true) (h : s.server = .exec st k) :
    s' = { s with
      server := k (answer disk.toDisk st ⟨s.toServer, s.done⟩).1
      done := (answer disk.toDisk st ⟨s.toServer, s.done⟩).2.done } := by
  cases hstep with
  | event h' =>
    rw [h] at h'
    cases h'
    cases hst
  | read h' =>
    rw [h] at h'
    cases h'
    cases hst
  | act hst' h' =>
    rw [h] at h'
    cases h'
    rfl

theorem not_load_of_nil {before after : List FileTransfer} {transfer : FileTransfer}
    (h : ([] : List FileTransfer) = before ++ transfer :: after) : False := by
  simp at h

/-- The client has nothing to do. -/
theorem ClientStep.not_idle (hevents : s.toClient = []) (hreading : s.deployer.reading = [])
    (hvalid : s.deployer.valid = false ∨ s.deployed = true) : ¬ClientStep wire s s' := by
  intro hstep
  cases hstep with
  | receive now h =>
    rw [hevents] at h
    cases h
  | load h =>
    rw [hreading] at h
    exact not_load_of_nil h
  | deploy now hvalid' h =>
    rw [hvalid', h] at hvalid
    simp at hvalid

theorem ClientStep.of_receive {e : MessageType} (hstep : ClientStep wire s s')
    (hevents : s.toClient = [e]) (hreading : s.deployer.reading = [])
    (hvalid : s.deployer.valid = false) :
    ∃ now, s' = { s with
      deployer := (s.deployer.processWebSocketMessage wire e now).1
      toServer := s.toServer ++ (s.deployer.processWebSocketMessage wire e now).2
      toClient := [] } := by
  cases hstep with
  | receive now h =>
    rw [hevents] at h
    cases h
    exact ⟨now, rfl⟩
  | load h =>
    rw [hreading] at h
    exact (not_load_of_nil h).elim
  | deploy now hvalid' h =>
    rw [hvalid] at hvalid'
    cases hvalid'

theorem ClientStep.of_load {transfer : FileTransfer} (hstep : ClientStep wire s s')
    (hevents : s.toClient = []) (hreading : s.deployer.reading = [transfer])
    (hvalid : s.deployer.valid = false) :
    s' = { s with
      deployer := s.deployer.onload transfer []
      toServer := s.toServer ++ [dataFrame transfer] } := by
  cases hstep with
  | receive now h =>
    rw [hevents] at h
    cases h
  | @load before after transfer' h =>
    rw [hreading] at h
    obtain ⟨rfl, rfl, rfl⟩ : before = [] ∧ transfer' = transfer ∧ after = [] := by
      rcases before with _ | ⟨x, before⟩
      · obtain ⟨rfl, rfl⟩ := List.cons.inj h
        exact ⟨rfl, rfl, rfl⟩
      · simp at h
    rfl
  | deploy now hvalid' h =>
    rw [hvalid] at hvalid'
    cases hvalid'

theorem ClientStep.of_deploy (hstep : ClientStep wire s s') (hevents : s.toClient = [])
    (hreading : s.deployer.reading = []) :
    s.deployer.valid = true ∧ s.deployed = false ∧
      ∃ now, s' = { s with toServer := s.toServer ++ [waitFrame wire now], deployed := true } := by
  cases hstep with
  | receive now h =>
    rw [hevents] at h
    cases h
  | load h =>
    rw [hreading] at h
    exact (not_load_of_nil h).elim
  | deploy now hvalid h => exact ⟨hvalid, h, now, rfl⟩

end Steps

/-! ## The states of a run -/

/-- `fileName` after the files were sent. -/
def lastName (sent : List (List Name × SourceFile)) : String :=
  ((sent.map transferOf).getLast?.map FileTransfer.fullPath).getD ""

section States

variable (wire tempDir) (tree : ScannedTree) (total : ℕ)

/-- What is shown after some of the files. -/
def statusOf (counted : List (List Name × SourceFile)) (fileName : String) : FileTransferStatus :=
  ⟨tree.allFiles.length, counted.length, totalSize counted, total, fileName⟩

/-- The client has sent `sent`, and the last of it is not counted. -/
def sentClient (sent rest : List (List Name × SourceFile)) : Deployer :=
  ⟨rest.map transferOf, statusOf tree total sent.dropLast (lastName sent),
    (sent.map transferOf).getLast?, []⟩

/-- The client has sent the name of `p`, and reads it. -/
def readingClient (sent : List (List Name × SourceFile)) (p : List Name × SourceFile)
    (rest : List (List Name × SourceFile)) : Deployer :=
  ⟨rest.map transferOf, statusOf tree total sent (transferOf p).fullPath,
    (sent.map transferOf).getLast?, [transferOf p]⟩

/-- The client has counted all files. -/
def countedClient : Deployer :=
  ⟨[], statusOf tree total tree.allFiles (lastName tree.allFiles),
    (tree.allFiles.map transferOf).getLast?, []⟩

/-- What was done when the files `sent` were written. -/
def doneWith (sent : List (List Name × SourceFile)) : List FileOp :=
  tree.allFolders.map (makeOf tempDir) ++ sent.map (writeOf tempDir)

/-- The frame with the name of a file. -/
def nameFrame (p : List Name × SourceFile) (now : Seconds) : SocketFrame :=
  textFrame wire (transferOf p).fullPath now sourceFile

/-- The server before it asks for a file. -/
def namingStage (rest : List (List Name × SourceFile)) : Upload (FolderSourceInfo × Path) :=
  naming wire tempDir tree.allFiles tree.allFolders rest.length

/-- The server before it receives the content of a file. -/
def receivingStage (p : List Name × SourceFile) (now : Seconds)
    (rest : List (List Name × SourceFile)) : Upload (FolderSourceInfo × Path) :=
  receiving wire tempDir tree.allFiles tree.allFolders rest.length
    ⟨(transferOf p).fullPath, now.1, sourceFile⟩

/-- The server before it writes a file. -/
def writingStage (p : List Name × SourceFile) (rest : List (List Name × SourceFile)) :
    Upload (FolderSourceInfo × Path) :=
  writing wire tempDir tree.allFiles tree.allFolders rest.length p

/-- What is done after the files : the folder of an archive. -/
def OnlyApplication (extra : List FileOp) : Prop :=
  ∀ op ∈ extra, op = makeOf tempDir [application]

/-- The states that are reached. -/
inductive Inv : System → Prop
  | making {made : List (List Name)} {folder : List Name} {rest : List (List Name)}
      (deploy : Option Seconds) (h : tree.allFolders = made ++ folder :: rest)
      (hdeploy : deploy.isSome = true → tree.allFiles = []) :
      Inv ⟨sentClient tree total [] tree.allFiles,
        making wire tempDir tree.allFiles tree.allFolders (folder :: rest),
        deploy.toList.map (waitFrame wire), [], made.map (makeOf tempDir), deploy.isSome⟩
  | asking {sent rest : List (List Name × SourceFile)} {p : List Name × SourceFile}
      (h : tree.allFiles = sent ++ p :: rest) :
      Inv ⟨sentClient tree total sent (p :: rest),
        .exec (.sendEvent sourceFileAck) fun _ => namingStage wire tempDir tree rest,
        [], [], doneWith tempDir tree sent, false⟩
  | asked {sent rest : List (List Name × SourceFile)} {p : List Name × SourceFile}
      (h : tree.allFiles = sent ++ p :: rest) :
      Inv ⟨sentClient tree total sent (p :: rest), namingStage wire tempDir tree rest,
        [], [sourceFileAck], doneWith tempDir tree sent, false⟩
  | named {sent rest : List (List Name × SourceFile)} {p : List Name × SourceFile} (now : Seconds)
      (h : tree.allFiles = sent ++ p :: rest) :
      Inv ⟨readingClient tree total sent p rest, namingStage wire tempDir tree rest,
        [nameFrame wire p now], [], doneWith tempDir tree sent, false⟩
  | nameRead {sent rest : List (List Name × SourceFile)} {p : List Name × SourceFile}
      (now : Seconds) (h : tree.allFiles = sent ++ p :: rest) :
      Inv ⟨readingClient tree total sent p rest, receivingStage wire tempDir tree p now rest,
        [], [], doneWith tempDir tree sent, false⟩
  | loaded {sent rest : List (List Name × SourceFile)} {p : List Name × SourceFile} (now : Seconds)
      (h : tree.allFiles = sent ++ p :: rest) :
      Inv ⟨sentClient tree total (sent ++ [p]) rest, namingStage wire tempDir tree rest,
        [nameFrame wire p now, dataFrame (transferOf p)], [], doneWith tempDir tree sent, false⟩
  | sending {sent rest : List (List Name × SourceFile)} {p : List Name × SourceFile} (now : Seconds)
      (h : tree.allFiles = sent ++ p :: rest) :
      Inv ⟨sentClient tree total (sent ++ [p]) rest, receivingStage wire tempDir tree p now rest,
        [dataFrame (transferOf p)], [], doneWith tempDir tree sent, false⟩
  | writing {sent rest : List (List Name × SourceFile)} {p : List Name × SourceFile}
      (h : tree.allFiles = sent ++ p :: rest) :
      Inv ⟨sentClient tree total (sent ++ [p]) rest, writingStage wire tempDir tree p rest,
        [], [], doneWith tempDir tree sent, false⟩
  | closing {last : Option Path} (h : tree.allFiles ≠ []) :
      Inv ⟨sentClient tree total tree.allFiles [],
        .exec (.sendEvent sourceFileAck) fun _ =>
          finishing wire tempDir tree.allFiles tree.allFolders last,
        [], [], doneWith tempDir tree tree.allFiles, false⟩
  | closed {server : Upload (FolderSourceInfo × Path)} {extra : List FileOp}
      (h : tree.allFiles ≠ []) (hserver : Finishing wire tempDir true server)
      (hextra : OnlyApplication tempDir extra) :
      Inv ⟨sentClient tree total tree.allFiles [], server, [], [sourceFileAck],
        doneWith tempDir tree tree.allFiles ++ extra, false⟩
  | counted {server : Upload (FolderSourceInfo × Path)} {extra : List FileOp}
      (hserver : Finishing wire tempDir true server) (hextra : OnlyApplication tempDir extra) :
      Inv ⟨countedClient tree total, server, [], [],
        doneWith tempDir tree tree.allFiles ++ extra, false⟩
  | deployed {server : Upload (FolderSourceInfo × Path)} {extra : List FileOp} (now : Seconds)
      (hserver : Finishing wire tempDir true server) (hextra : OnlyApplication tempDir extra) :
      Inv ⟨countedClient tree total, server, [waitFrame wire now], [],
        doneWith tempDir tree tree.allFiles ++ extra, true⟩
  | finished {server : Upload (FolderSourceInfo × Path)} {extra : List FileOp}
      (hserver : Finishing wire tempDir false server) (hextra : OnlyApplication tempDir extra) :
      Inv ⟨countedClient tree total, server, [], [],
        doneWith tempDir tree tree.allFiles ++ extra, true⟩

end States

theorem onlyApplication_nil : OnlyApplication tempDir [] :=
  fun _ h => (List.not_mem_nil h).elim

theorem OnlyApplication.append {extra extra' : List FileOp} (h : OnlyApplication tempDir extra)
    (h' : OnlyApplication tempDir extra') : OnlyApplication tempDir (extra ++ extra') := by
  intro op hop
  exact (List.mem_append.1 hop).elim (h op) (h' op)

/-! ## The client -/

theorem count_sentClient (total : ℕ) (sent rest : List (List Name × SourceFile)) :
    (sentClient tree total sent rest).count =
      ⟨rest.map transferOf, statusOf tree total sent (lastName sent),
        (sent.map transferOf).getLast?, []⟩ := by
  rcases List.eq_nil_or_concat sent with rfl | ⟨sent, p, hconcat⟩
  · rfl
  · rw [List.concat_eq_append] at hconcat
    subst hconcat
    simp [Deployer.count, sentClient, statusOf, totalSize, transferOf]

theorem sendNextFile_cons (total : ℕ) (sent rest : List (List Name × SourceFile))
    (p : List Name × SourceFile) (now : Seconds) :
    (sentClient tree total sent (p :: rest)).processWebSocketMessage wire sourceFileAck now =
      (readingClient tree total sent p rest, [nameFrame wire p now]) := by
  rw [Deployer.processWebSocketMessage, if_pos rfl, Deployer.sendNextFile, count_sentClient]
  rfl

theorem sendNextFile_nil (total : ℕ) (now : Seconds) :
    (sentClient tree total tree.allFiles []).processWebSocketMessage wire sourceFileAck now =
      (countedClient tree total, []) := by
  rw [Deployer.processWebSocketMessage, if_pos rfl, Deployer.sendNextFile, count_sentClient]
  rfl

theorem onload_readingClient (total : ℕ) (sent rest : List (List Name × SourceFile))
    (p : List Name × SourceFile) :
    (readingClient tree total sent p rest).onload (transferOf p) [] =
      sentClient tree total (sent ++ [p]) rest := by
  simp [Deployer.onload, readingClient, sentClient, lastName]

theorem valid_sentClient {total : ℕ} {sent rest : List (List Name × SourceFile)}
    (h : sent.length ≤ tree.allFiles.length) (hne : tree.allFiles ≠ []) :
    (sentClient tree total sent rest).valid = false := by
  have hpos := List.length_pos_iff.2 hne
  have hlt : sent.dropLast.length ≠ tree.allFiles.length := by
    rw [List.length_dropLast]
    omega
  simpa [Deployer.valid, sentClient, statusOf] using hlt

theorem valid_sentClient_of_split {total : ℕ} {sent rest rest' : List (List Name × SourceFile)}
    {p : List Name × SourceFile} (h : tree.allFiles = sent ++ p :: rest) :
    (sentClient tree total sent rest').valid = false ∧
      (sentClient tree total (sent ++ [p]) rest').valid = false := by
  have hne : tree.allFiles ≠ [] := by
    rw [h]
    exact List.append_ne_nil_of_right_ne_nil _ (List.cons_ne_nil _ _)
  have hlength : tree.allFiles.length = sent.length + (rest.length + 1) := by
    rw [h, List.length_append, List.length_cons]
  refine ⟨valid_sentClient (by omega) hne, valid_sentClient ?_ hne⟩
  rw [List.length_append, List.length_singleton]
  omega

theorem valid_readingClient {total : ℕ} {sent rest : List (List Name × SourceFile)}
    {p : List Name × SourceFile} (h : tree.allFiles = sent ++ p :: rest) :
    (readingClient tree total sent p rest).valid = false := by
  have hlt : sent.length ≠ tree.allFiles.length := by
    rw [h, List.length_append, List.length_cons]
    omega
  simpa [Deployer.valid, readingClient, statusOf] using hlt

theorem valid_countedClient (total : ℕ) : (countedClient tree total).valid = true := by
  simp [Deployer.valid, countedClient, statusOf]

theorem sentClient_nil (total : ℕ) (h : tree.allFiles = []) :
    sentClient tree total [] tree.allFiles = countedClient tree total := by
  simp [sentClient, countedClient, h]

/-! ## The disk -/

theorem below_ne_tempDir {ns : List Name} (hns : ns ≠ []) : tempDir.below ns ≠ tempDir := by
  intro h
  exact hns (tempDir.below_injective (h.trans tempDir.below_nil.symm))

theorem ne_nil_of_mem_allFolders {p : List Name} (h : p ∈ tree.allFolders) : p ≠ [] := by
  rintro rfl
  exact ne_nil_of_folderPaths tree.folders h

theorem ne_nil_of_mem_allFiles {p : List Name × SourceFile} (h : p ∈ tree.allFiles) :
    p.1 ≠ [] := by
  rcases List.mem_append.1 h with h | h
  · rw [(mem_filesIn h).1]
    exact List.cons_ne_nil _ _
  · intro hnil
    have hparent := parent_mem_of_mem_filePaths tree.folders h
    rw [hnil] at hparent
    exact ne_nil_of_folderPaths tree.folders hparent

theorem mem_map_makeOf {folders : List (List Name)} {p : List Name} :
    makeOf tempDir p ∈ folders.map (makeOf tempDir) ↔ p ∈ folders := by
  constructor
  · intro h
    obtain ⟨q, hq, heq⟩ := List.mem_map.1 h
    rw [← tempDir.below_injective (FileOp.made.inj heq)]
    exact hq
  · exact List.mem_map_of_mem

theorem path_mem_map_makeOf {folders : List (List Name)} {p : List Name} :
    tempDir.below p ∈ (folders.map (makeOf tempDir)).map FileOp.path ↔ p ∈ folders := by
  rw [List.map_map]
  constructor
  · intro h
    obtain ⟨q, hq, heq⟩ := List.mem_map.1 h
    rw [← tempDir.below_injective heq]
    exact hq
  · exact fun h => List.mem_map.2 ⟨p, h, rfl⟩

/-- A folder of the tree is made, after those before it. -/
theorem answer_mkdir {made rest : List (List Name)} {folder : List Name}
    (h : tree.allFolders = made ++ folder :: rest) (frames : List SocketFrame) :
    answer disk.toDisk (.mkdir (tempDir.join (Path.ofNames folder).render))
        ⟨frames, made.map (makeOf tempDir)⟩ =
      (true, ⟨frames, (made ++ [folder]).map (makeOf tempDir)⟩) := by
  have hne : folder ≠ [] := @ne_nil_of_mem_allFolders tree _ (by rw [h]; simp)
  have hnew : folder ∉ made := by
    have hnodup := tree.once.nodupFolders
    rw [h, List.nodup_append] at hnodup
    exact fun hmem => hnodup.2.2 folder hmem folder List.mem_cons_self rfl
  have hparent : IsFolder tempDir (made.map (makeOf tempDir)) (tempDir.below folder).parent := by
    rw [Path.parent_below _ hne]
    rcases grows_folderPaths tree.folders made folder rest h with hnil | hmem
    · left
      rw [hnil, Path.below_nil]
    · exact Or.inr (mem_map_makeOf.2 hmem)
  have hpermits := disk.makes _ _ (below_ne_tempDir hne)
    (fun hmem => hnew (path_mem_map_makeOf.1 hmem)) hparent
  rw [Path.join_render_ofNames, answer, UploadWorld.perform, if_pos hpermits, List.map_append]
  rfl

/-- A file of the tree is written, after those before it. -/
theorem answer_writeFile {sent rest : List (List Name × SourceFile)} {p : List Name × SourceFile}
    (h : tree.allFiles = sent ++ p :: rest) (frames : List SocketFrame) :
    answer disk.toDisk (.writeFile (tempDir.below p.1) p.2.data)
        ⟨frames, doneWith tempDir tree sent⟩ =
      (true, ⟨frames, doneWith tempDir tree (sent ++ [p])⟩) := by
  have hmem : p ∈ tree.allFiles := by
    rw [h]
    simp
  have hmade : ∀ q, makeOf tempDir q ∈ doneWith tempDir tree sent ↔ q ∈ tree.allFolders := by
    intro q
    rw [doneWith, List.mem_append, mem_map_makeOf]
    refine or_iff_left fun hwrite => ?_
    obtain ⟨_, -, heq⟩ := List.mem_map.1 hwrite
    cases heq
  have hfile : ¬IsFolder tempDir (doneWith tempDir tree sent) (tempDir.below p.1) := by
    rintro (htemp | hfolder)
    · exact below_ne_tempDir (ne_nil_of_mem_allFiles hmem) htemp
    · exact tree.once.apart p hmem ((hmade _).1 hfolder)
  have hparent : IsFolder tempDir (doneWith tempDir tree sent) (tempDir.below p.1).parent := by
    rw [Path.parent_below _ (ne_nil_of_mem_allFiles hmem)]
    rcases tree.parent_of_mem_allFiles hmem with hnil | hfolder
    · left
      rw [hnil, Path.below_nil]
    · exact Or.inr ((hmade _).2 hfolder)
  have hpermits := disk.writes _ _ p.2.data hfile hparent
  rw [answer, UploadWorld.perform, if_pos hpermits, doneWith, doneWith, List.map_append,
    List.append_assoc]
  rfl

/-! ## One step -/

theorem inv_making {total : ℕ} {made rest : List (List Name)} (deploy : Option Seconds)
    (h : tree.allFolders = made ++ rest)
    (hdeploy : deploy.isSome = true → tree.allFiles = []) :
    Inv wire tempDir tree total ⟨sentClient tree total [] tree.allFiles,
      making wire tempDir tree.allFiles tree.allFolders rest,
      deploy.toList.map (waitFrame wire), [], made.map (makeOf tempDir), deploy.isSome⟩ := by
  rcases rest with _ | ⟨folder, rest⟩
  · have hmade : tree.allFolders = made := by rw [h, List.append_nil]
    have hserver : making wire tempDir tree.allFiles tree.allFolders [] =
        (receiveFiles wire.readJSON tempDir tree.allFiles.length none >>=
          finishing wire tempDir tree.allFiles tree.allFolders) := rfl
    rw [← hmade, hserver]
    by_cases hfiles : tree.allFiles = []
    · have hlength : tree.allFiles.length = 0 := List.length_eq_zero_iff.2 hfiles
      have hdone : tree.allFolders.map (makeOf tempDir) =
          doneWith tempDir tree tree.allFiles ++ [] := by simp [doneWith, hfiles]
      rw [hlength, sentClient_nil _ hfiles, hdone]
      cases deploy with
      | none => exact .counted (finishing_finishSource none) onlyApplication_nil
      | some now => exact .deployed now (finishing_finishSource none) onlyApplication_nil
    · obtain rfl : deploy = none := Option.not_isSome_iff_eq_none.1 fun h => hfiles (hdeploy h)
      obtain ⟨p, rest, hcons⟩ := List.exists_cons_of_ne_nil hfiles
      have hlength : tree.allFiles.length = rest.length + 1 := by rw [hcons, List.length_cons]
      have hdone : tree.allFolders.map (makeOf tempDir) = doneWith tempDir tree [] := by
        simp [doneWith]
      have hclient := congrArg (sentClient tree total []) hcons
      rw [hlength, asking_eq, hclient, hdone]
      exact .asking hcons
  · exact .making deploy h hdeploy

/-- A file was written : the next one is asked for, or the last acknowledgement is sent. -/
theorem inv_written {total : ℕ} {sent rest : List (List Name × SourceFile)}
    {p : List Name × SourceFile} (h : tree.allFiles = sent ++ p :: rest) (path : Path) :
    Inv wire tempDir tree total ⟨sentClient tree total (sent ++ [p]) rest,
      afterFile wire tempDir rest.length path >>=
        finishing wire tempDir tree.allFiles tree.allFolders,
      [], [], doneWith tempDir tree (sent ++ [p]), false⟩ := by
  have hsplit : tree.allFiles = (sent ++ [p]) ++ rest := by
    rw [h, List.append_assoc, List.singleton_append]
  rcases rest with _ | ⟨q, rest⟩
  · have hall : tree.allFiles = sent ++ [p] := by rw [hsplit, List.append_nil]
    have hne : tree.allFiles ≠ [] := by
      rw [hall]
      exact List.append_ne_nil_of_right_ne_nil _ (List.cons_ne_nil _ _)
    have hclient := congrArg (fun sent => sentClient tree total sent []) hall
    have hdone := congrArg (doneWith tempDir tree) hall
    rw [List.length_nil, closing_eq, ← hclient, ← hdone]
    exact .closing hne
  · rw [List.length_cons, afterFile_succ]
    exact .asking hsplit

variable (disk) in
/-- After the files the server makes the folder of an archive at most. -/
theorem finishing_act {waits : Bool} {st : UploadStmt}
    {k : st.Reply → Upload (FolderSourceInfo × Path)} (hst : isLocal st = true)
    (hserver : Finishing wire tempDir waits (.exec st k)) (frames : List SocketFrame)
    (done : List FileOp) :
    Finishing wire tempDir waits (k (answer disk.toDisk st ⟨frames, done⟩).1) ∧
      ∃ extra, (answer disk.toDisk st ⟨frames, done⟩).2.done = done ++ extra ∧
        OnlyApplication tempDir extra := by
  have hnone : ∃ extra, done = done ++ extra ∧ OnlyApplication tempDir extra :=
    ⟨[], (List.append_nil _).symm, onlyApplication_nil⟩
  cases st with
  | sendEvent | readMessage => cases hst
  | writeFile => exact hserver.elim
  | openArchive | readDir | now => exact ⟨hserver _, hnone⟩
  | mkdir path =>
    refine ⟨hserver.2 _, ?_⟩
    obtain ⟨extra, hextra, hop⟩ := perform_spec disk.toDisk (.made path) ⟨frames, done⟩
    rw [answer, hextra]
    refine ⟨extra, rfl, fun op hmem => ?_⟩
    rw [hop op hmem, hserver.1]
    rfl

theorem ServerStep.of_finishing {s s' : System} {waits : Bool} (hstep : ServerStep disk s s')
    (hserver : Finishing wire tempDir waits s.server) :
    (∃ server extra, Finishing wire tempDir waits server ∧ OnlyApplication tempDir extra ∧
      s' = { s with server := server, done := s.done ++ extra }) ∨
    (waits = true ∧ ∃ frame frames server, s.toServer = frame :: frames ∧
      Finishing wire tempDir false server ∧
        s' = { s with server := server, toServer := frames }) := by
  cases hstep with
  | event h =>
    rw [h] at hserver
    exact hserver.elim
  | @read frame frames k h hframes =>
    rw [h] at hserver
    exact Or.inr ⟨hserver.1, frame, frames, _, hframes, hserver.2.2.2 _, rfl⟩
  | act hst h =>
    rw [h] at hserver
    obtain ⟨hnext, extra, hdone, hextra⟩ := finishing_act disk hst hserver s.toServer s.done
    rw [hdone]
    exact Or.inl ⟨_, extra, hnext, hextra, rfl⟩

/-- Where nothing is waited for, or nothing is on its way, what follows the files goes on alone. -/
theorem ServerStep.of_finishing_alone {s s' : System} {waits : Bool} {done extra : List FileOp}
    (hstep : ServerStep disk s s') (hserver : Finishing wire tempDir waits s.server)
    (hdone : s.done = done ++ extra) (hextra : OnlyApplication tempDir extra)
    (halone : waits = false ∨ s.toServer = []) :
    ∃ server extra', Finishing wire tempDir waits server ∧ OnlyApplication tempDir extra' ∧
      s' = { s with server := server, done := done ++ extra' } := by
  rcases hstep.of_finishing hserver with
    ⟨server, extra', hnext, hextra', rfl⟩ | ⟨hwaits, frame, frames, -, hframes, -⟩
  · rw [hdone, List.append_assoc]
    exact ⟨server, extra ++ extra', hnext, hextra.append hextra', rfl⟩
  · rcases halone with hnot | hnil
    · exact absurd (hnot.symm.trans hwaits) Bool.false_ne_true
    · exact absurd (hframes.symm.trans hnil) (List.cons_ne_nil _ _)

theorem ServerStep.of_naming {s s' : System} {rest : List (List Name × SourceFile)}
    {p : List Name × SourceFile} {now : Seconds} {frames : List SocketFrame}
    (hstep : ServerStep disk s s') (hserver : s.server = namingStage wire tempDir tree rest)
    (hframes : s.toServer = nameFrame wire p now :: frames) :
    s' = { s with
      server := receivingStage wire tempDir tree p now rest
      toServer := frames } := by
  obtain ⟨k, hk, hread⟩ := naming_eq wire tempDir tree.allFiles tree.allFolders rest.length
  obtain ⟨_, _, hcons, rfl⟩ := hstep.of_read (hserver.trans hk)
  obtain ⟨rfl, rfl⟩ := List.cons.inj (hcons.symm.trans hframes)
  rw [nameFrame, textFrame, hread]
  rfl

theorem ServerStep.of_receiving {s s' : System} {rest : List (List Name × SourceFile)}
    {p : List Name × SourceFile} {now : Seconds} {frames : List SocketFrame}
    (hstep : ServerStep disk s s')
    (hserver : s.server = receivingStage wire tempDir tree p now rest)
    (hframes : s.toServer = dataFrame (transferOf p) :: frames) :
    s' = { s with server := writingStage wire tempDir tree p rest, toServer := frames } := by
  obtain ⟨k, hk, hread⟩ :=
    receiving_eq wire tempDir tree.allFiles tree.allFolders rest.length p now
  obtain ⟨_, _, hcons, rfl⟩ := hstep.of_read (hserver.trans hk)
  obtain ⟨rfl, rfl⟩ := List.cons.inj (hcons.symm.trans hframes)
  rw [dataFrame, hread]
  rfl

/-- What one step keeps. -/
theorem inv_step {total : ℕ} {s s' : System} (hs : Inv wire tempDir tree total s)
    (hstep : Step wire disk s s') : Inv wire tempDir tree total s' := by
  cases hs with
  | @making made folder rest deploy h hdeploy =>
    rcases hstep with hstep | hstep
    · -- The folder is made.
      have hmade := hstep.of_act rfl rfl
      rw [answer_mkdir h] at hmade
      rw [hmade]
      exact inv_making deploy (by rw [h, List.append_assoc]; rfl) hdeploy
    · -- Only an upload without files goes on to the deployment.
      obtain ⟨hvalid, hnot, now, rfl⟩ := hstep.of_deploy rfl rfl
      obtain rfl : deploy = none := Option.not_isSome_iff_eq_none.1 (Bool.eq_false_iff.1 hnot)
      refine .making (some now) h fun _ => ?_
      by_contra hne
      rw [valid_sentClient (Nat.zero_le _) hne] at hvalid
      cases hvalid
  | @asking sent rest p h =>
    rcases hstep with hstep | hstep
    · obtain rfl := hstep.of_event rfl
      exact .asked h
    · exact (ClientStep.not_idle rfl rfl (Or.inl (valid_sentClient_of_split h).1) hstep).elim
  | @asked sent rest p h =>
    rcases hstep with hstep | hstep
    · -- The server waits for the name.
      obtain ⟨k, hk, -⟩ := naming_eq wire tempDir tree.allFiles tree.allFolders rest.length
      obtain ⟨_, _, hframes, -⟩ := hstep.of_read hk
      cases hframes
    · obtain ⟨now, rfl⟩ := hstep.of_receive rfl rfl (valid_sentClient_of_split h).1
      dsimp only
      rw [sendNextFile_cons]
      exact .named now h
  | @named sent rest p now h =>
    rcases hstep with hstep | hstep
    · obtain rfl := hstep.of_naming rfl rfl
      exact .nameRead now h
    · obtain rfl := hstep.of_load rfl rfl (valid_readingClient h)
      dsimp only
      rw [onload_readingClient]
      exact .loaded now h
  | @nameRead sent rest p now h =>
    rcases hstep with hstep | hstep
    · -- The server waits for the data.
      obtain ⟨k, hk, -⟩ := receiving_eq wire tempDir tree.allFiles tree.allFolders rest.length p now
      obtain ⟨_, _, hframes, -⟩ := hstep.of_read hk
      cases hframes
    · obtain rfl := hstep.of_load rfl rfl (valid_readingClient h)
      dsimp only
      rw [onload_readingClient]
      exact .sending now h
  | @loaded sent rest p now h =>
    rcases hstep with hstep | hstep
    · obtain rfl := hstep.of_naming rfl rfl
      exact .sending now h
    · exact (ClientStep.not_idle rfl rfl (Or.inl (valid_sentClient_of_split h).2) hstep).elim
  | @sending sent rest p now h =>
    rcases hstep with hstep | hstep
    · obtain rfl := hstep.of_receiving rfl rfl
      exact .writing h
    · exact (ClientStep.not_idle rfl rfl (Or.inl (valid_sentClient_of_split h).2) hstep).elim
  | @writing sent rest p h =>
    rcases hstep with hstep | hstep
    · have hwritten := hstep.of_act rfl rfl
      rw [answer_writeFile h] at hwritten
      rw [hwritten]
      exact inv_written h _
    · exact (ClientStep.not_idle rfl rfl (Or.inl (valid_sentClient_of_split h).2) hstep).elim
  | @closing last h =>
    rcases hstep with hstep | hstep
    · obtain rfl := hstep.of_event rfl
      dsimp only
      rw [← List.append_nil (doneWith tempDir tree tree.allFiles)]
      exact .closed h (finishing_finishSource last) onlyApplication_nil
    · exact (ClientStep.not_idle rfl rfl (Or.inl (valid_sentClient le_rfl h)) hstep).elim
  | @closed server extra h hserver hextra =>
    rcases hstep with hstep | hstep
    · obtain ⟨_, _, hserver, hextra, rfl⟩ :=
        hstep.of_finishing_alone hserver rfl hextra (Or.inr rfl)
      exact .closed h hserver hextra
    · obtain ⟨now, rfl⟩ := hstep.of_receive rfl rfl (valid_sentClient le_rfl h)
      dsimp only
      rw [sendNextFile_nil]
      exact .counted hserver hextra
  | @counted server extra hserver hextra =>
    rcases hstep with hstep | hstep
    · obtain ⟨_, _, hserver, hextra, rfl⟩ :=
        hstep.of_finishing_alone hserver rfl hextra (Or.inr rfl)
      exact .counted hserver hextra
    · obtain ⟨-, -, now, rfl⟩ := hstep.of_deploy rfl rfl
      exact .deployed now hserver hextra
  | @deployed server extra now hserver hextra =>
    rcases hstep with hstep | hstep
    · rcases hstep.of_finishing hserver with
        ⟨server', extra', hserver', hextra', rfl⟩ | ⟨-, _, _, server', hframes, hserver', rfl⟩
      · dsimp only
        rw [List.append_assoc]
        exact .deployed now hserver' (hextra.append hextra')
      · obtain ⟨rfl, rfl⟩ := List.cons.inj hframes
        exact .finished hserver' hextra
    · exact (ClientStep.not_idle rfl rfl (Or.inr rfl) hstep).elim
  | @finished server extra hserver hextra =>
    rcases hstep with hstep | hstep
    · obtain ⟨_, _, hserver, hextra, rfl⟩ :=
        hstep.of_finishing_alone hserver rfl hextra (Or.inl rfl)
      exact .finished hserver hextra
    · exact (ClientStep.not_idle rfl rfl (Or.inr rfl) hstep).elim

theorem start_eq (now : Seconds) (total : ℕ) :
    start wire tempDir ⟨total, tree.toFolderContext⟩ now =
      ⟨sentClient tree total [] tree.allFiles,
        making wire tempDir tree.allFiles tree.allFolders tree.allFolders, [], [], [], false⟩ := by
  have hserver : getFolderSource wire.readJSON tempDir wire.unmarshal
      (sendLocalSourceMetadata wire ⟨total, tree.toFolderContext⟩ now).2 =
        making wire tempDir tree.allFiles tree.allFolders tree.allFolders := by
    rw [sendLocalSourceMetadata, collectFoldersAndFiles_eq, getFolderSource]
    dsimp only
    rw [List.length_map, wire.unmarshal_stringifyInfo _ tree.length_lt]
    dsimp only
    rw [Int.toNat_natCast]
    rfl
  have hclient : (sendLocalSourceMetadata wire ⟨total, tree.toFolderContext⟩ now).1 =
      sentClient tree total [] tree.allFiles := by
    rw [sendLocalSourceMetadata, collectFoldersAndFiles_eq]
    simp [sentClient, statusOf, totalSize, lastName]
  rw [start]
  dsimp only
  rw [hserver, hclient]

theorem inv_start (now : Seconds) (total : ℕ) :
    Inv wire tempDir tree total (start wire tempDir ⟨total, tree.toFolderContext⟩ now) := by
  rw [start_eq]
  exact @inv_making _ _ _ _ [] _ none rfl fun h => by cases h

/-- What holds in every state that is reached. -/
theorem inv_of_reachable {total : ℕ} {now : Seconds} {s : System}
    (h : Reachable wire disk ⟨total, tree.toFolderContext⟩ now s) :
    Inv wire tempDir tree total s := by
  induction h with
  | refl => exact inv_start now total
  | tail _ hstep ih => exact inv_step ih hstep

/-! ## What holds in the states -/

theorem writesOf_append (done done' : List FileOp) :
    writesOf (done ++ done') = writesOf done ++ writesOf done' :=
  List.filter_append ..

theorem writesOf_made (folders : List (List Name)) :
    writesOf (folders.map (makeOf tempDir)) = [] := by
  rw [writesOf, List.filter_eq_nil_iff]
  intro op hop
  obtain ⟨p, -, rfl⟩ := List.mem_map.1 hop
  simp [makeOf, FileOp.isWritten]

theorem writesOf_doneWith (sent : List (List Name × SourceFile)) :
    writesOf (doneWith tempDir tree sent) = sent.map (writeOf tempDir) := by
  have hwrites : writesOf (sent.map (writeOf tempDir)) = sent.map (writeOf tempDir) := by
    rw [writesOf, List.filter_eq_self]
    intro op hop
    obtain ⟨p, -, rfl⟩ := List.mem_map.1 hop
    rfl
  rw [doneWith, writesOf_append, writesOf_made, hwrites, List.nil_append]

theorem writesOf_extra {extra : List FileOp} (h : OnlyApplication tempDir extra) :
    writesOf extra = [] := by
  rw [writesOf, List.filter_eq_nil_iff]
  intro op hop
  rw [h op hop]
  simp [makeOf, FileOp.isWritten]

/-- What was done : folders of the tree, then all of them, files and the folder of an archive. -/
inductive DoneIn (tempDir : Path) (tree : ScannedTree) : List FileOp → Prop
  | making {made rest : List (List Name)} (h : tree.allFolders = made ++ rest) :
      DoneIn tempDir tree (made.map (makeOf tempDir))
  | writing {sent rest : List (List Name × SourceFile)} {extra : List FileOp}
      (h : tree.allFiles = sent ++ rest) (hextra : OnlyApplication tempDir extra) :
      DoneIn tempDir tree (doneWith tempDir tree sent ++ extra)

theorem doneWith_in {sent rest : List (List Name × SourceFile)}
    (h : tree.allFiles = sent ++ rest) : DoneIn tempDir tree (doneWith tempDir tree sent) := by
  have hdone := DoneIn.writing h (@onlyApplication_nil tempDir)
  rwa [List.append_nil] at hdone

theorem Inv.done {total : ℕ} {s : System} (hs : Inv wire tempDir tree total s) :
    DoneIn tempDir tree s.done := by
  cases hs with
  | making deploy h hdeploy => exact .making h
  | asking h | asked h | named now h | nameRead now h | loaded now h | sending now h | writing h =>
    exact doneWith_in h
  | closing h => exact doneWith_in (List.append_nil _).symm
  | closed h hserver hextra => exact .writing (List.append_nil _).symm hextra
  | counted hserver hextra | deployed now hserver hextra | finished hserver hextra =>
    exact .writing (List.append_nil _).symm hextra

theorem DoneIn.writes {done : List FileOp} (h : DoneIn tempDir tree done) :
    writesOf done <+: tree.allFiles.map (writeOf tempDir) := by
  cases h with
  | making h =>
    rw [writesOf_made]
    exact List.nil_prefix
  | @writing sent rest extra h hextra =>
    rw [writesOf_append, writesOf_doneWith, writesOf_extra hextra, List.append_nil, h,
      List.map_append]
    exact List.prefix_append _ _

theorem nodup_writes (tree : ScannedTree) :
    ((tree.allFiles.map (writeOf tempDir)).map FileOp.path).Nodup := by
  have hpaths : (tree.allFiles.map (writeOf tempDir)).map FileOp.path =
      (tree.allFiles.map Prod.fst).map tempDir.below := by
    simp [writeOf, FileOp.path, Function.comp_def]
  rw [hpaths]
  exact List.Nodup.map tempDir.below_injective tree.once.nodupFiles

/-- Every folder that is made is in a folder. -/
def FolderFits (tempDir : Path) (before : List FileOp) (op : FileOp) : Prop :=
  ∀ path, op = .made path → IsFolder tempDir before path.parent

theorem grows_made (tree : ScannedTree) :
    Grows (FolderFits tempDir) (tree.allFolders.map (makeOf tempDir)) := by
  rw [grows_map_iff]
  refine (grows_folderPaths tree.folders).mono fun before p hp hparent path heq => ?_
  obtain rfl := FileOp.made.inj heq
  rw [Path.parent_below _ (ne_nil_of_mem_allFolders hp)]
  rcases hparent with hnil | hmem
  · left
    rw [hnil, Path.below_nil]
  · exact Or.inr (mem_map_makeOf.2 hmem)

theorem DoneIn.parents {done : List FileOp} (h : DoneIn tempDir tree done) :
    Grows (FolderFits tempDir) done := by
  cases h with
  | @making made rest h =>
    have hgrows := @grows_made tempDir tree
    rw [h, List.map_append] at hgrows
    exact hgrows.of_append
  | @writing sent rest extra h hextra =>
    rw [doneWith, grows_append_iff, grows_append_iff]
    refine ⟨⟨grows_made tree, fun before op after hops path heq => ?_⟩,
      fun before op after hops path heq => ?_⟩
    · have hop : op ∈ sent.map (writeOf tempDir) := by
        rw [hops]
        simp
      obtain ⟨p, -, rfl⟩ := List.mem_map.1 hop
      cases heq
    · have hop := hextra op (by rw [hops]; simp)
      rw [heq] at hop
      obtain rfl := FileOp.made.inj hop
      left
      rw [Path.parent_below _ (List.cons_ne_nil _ _)]
      exact Path.below_nil _

/-! ### Progress -/

/-- What follows the files goes on, as long as it need not wait. -/
theorem progress_of_finishing {s : System} {waits : Bool}
    (hserver : Finishing wire tempDir waits s.server)
    (hwait : waits = true → s.toServer ≠ []) : s.Ended ∨ ∃ s', Step wire disk s s' := by
  rcases hs : s.server with r | ⟨st, k⟩
  · exact Or.inl ⟨r, hs⟩
  · rw [hs] at hserver
    right
    cases st with
    | sendEvent | writeFile => exact hserver.elim
    | readMessage =>
      obtain ⟨frame, frames, hframes⟩ := List.exists_cons_of_ne_nil (hwait hserver.1)
      exact ⟨_, Or.inl (.read hs hframes)⟩
    | mkdir | openArchive | readDir | now => exact ⟨_, Or.inl (.act rfl hs)⟩

theorem Inv.progress {total : ℕ} {s : System} (hs : Inv wire tempDir tree total s) :
    s.Ended ∨ ∃ s', Step wire disk s s' := by
  cases hs with
  | making deploy h hdeploy => exact Or.inr ⟨_, Or.inl (.act rfl rfl)⟩
  | asking h | closing h => exact Or.inr ⟨_, Or.inl (.event rfl)⟩
  | asked h | closed h hserver hextra => exact Or.inr ⟨_, Or.inr (.receive epoch rfl)⟩
  | named now h | nameRead now h => exact Or.inr ⟨_, Or.inr (.load (List.nil_append _).symm)⟩
  | @loaded sent rest p now h =>
    obtain ⟨k, hk, -⟩ := naming_eq wire tempDir tree.allFiles tree.allFolders rest.length
    exact Or.inr ⟨_, Or.inl (.read hk rfl)⟩
  | @sending sent rest p now h =>
    obtain ⟨k, hk, -⟩ := receiving_eq wire tempDir tree.allFiles tree.allFolders rest.length p now
    exact Or.inr ⟨_, Or.inl (.read hk rfl)⟩
  | writing h => exact Or.inr ⟨_, Or.inl (.act rfl rfl)⟩
  | counted hserver hextra =>
    exact Or.inr ⟨_, Or.inr (.deploy epoch (valid_countedClient total) rfl)⟩
  | deployed now hserver hextra =>
    exact progress_of_finishing hserver fun _ => List.cons_ne_nil _ _
  | finished hserver hextra => exact progress_of_finishing hserver fun h => by cases h

/-! ### The end -/

theorem Inv.complete {total : ℕ} {s : System} (hs : Inv wire tempDir tree total s)
    (hended : s.Ended) : ∃ extra, OnlyApplication tempDir extra ∧
      s.done = doneWith tempDir tree tree.allFiles ++ extra := by
  obtain ⟨r, hr⟩ := hended
  cases hs with
  | making deploy h hdeploy | asking h | writing h | closing h => cases hr
  | @asked sent rest p h | @named sent rest p now h | @loaded sent rest p now h =>
    obtain ⟨k, hk, -⟩ := naming_eq wire tempDir tree.allFiles tree.allFolders rest.length
    cases hk.symm.trans hr
  | @nameRead sent rest p now h | @sending sent rest p now h =>
    obtain ⟨k, hk, -⟩ := receiving_eq wire tempDir tree.allFiles tree.allFolders rest.length p now
    cases hk.symm.trans hr
  | @closed server extra h hserver hextra => exact ⟨extra, hextra, rfl⟩
  | @counted server extra hserver hextra => exact ⟨extra, hextra, rfl⟩
  | @deployed server extra now hserver hextra => exact ⟨extra, hextra, rfl⟩
  | @finished server extra hserver hextra => exact ⟨extra, hextra, rfl⟩

/-! ### What is expected -/

theorem takes_iff {p : Upload (FolderSourceInfo × Path)}
    {k : Option SocketFrame → Upload (FolderSourceInfo × Path)} (hk : p = .exec .readMessage k)
    (frame : SocketFrame) : Takes p frame ↔ ∀ e, k (some frame) ≠ .ret (.error e) := by
  subst hk
  constructor
  · rintro ⟨k', hk', htakes⟩
    cases hk'
    exact htakes
  · exact fun h => ⟨k, rfl, h⟩

theorem takes_name (files : List (List Name × SourceFile)) (folders : List (List Name)) (n : ℕ)
    (p : List Name × SourceFile) (now : Seconds) :
    Takes (naming wire tempDir files folders n) (nameFrame wire p now) := by
  obtain ⟨k, hk, hread⟩ := naming_eq wire tempDir files folders n
  rw [takes_iff hk, nameFrame, textFrame, hread]
  intro e he
  obtain ⟨k', hk', -⟩ := receiving_eq wire tempDir files folders n p now
  cases hk'.symm.trans he

theorem takes_data (files : List (List Name × SourceFile)) (folders : List (List Name)) (n : ℕ)
    (p : List Name × SourceFile) (now : Seconds) (data : List UInt8) :
    Takes (receiving wire tempDir files folders n ⟨(transferOf p).fullPath, now.1, sourceFile⟩)
      ⟨true, data⟩ := by
  obtain ⟨k, hk, hread⟩ := receiving_eq wire tempDir files folders n p now
  rw [takes_iff hk, hread]
  intro e he
  cases he

/-- No part of a file is expected where no message is read. -/
theorem not_expectsFile {s : System} (h : ∀ frame, ¬Takes s.server frame) :
    ¬s.ExpectsFile wire := by
  rintro (⟨_, _, htakes⟩ | htakes)
  · exact h _ htakes
  · exact h _ (htakes [])

/-- After the files no file is expected. -/
theorem not_expectsFile_of_finishing {s : System} {waits : Bool}
    (hserver : Finishing wire tempDir waits s.server) : ¬s.ExpectsFile wire := by
  have hnot : ∀ b name now,
      ¬Takes s.server ⟨b, wire.stringify ⟨name, (now : Seconds).1, sourceFile⟩⟩ := by
    rintro b name now ⟨k, hk, htakes⟩
    rw [hk] at hserver
    obtain ⟨e, he⟩ := hserver.2.2.1 b name now
    exact htakes e he
  rintro (⟨name, now, htakes⟩ | htakes)
  · exact hnot false name now htakes
  · exact hnot true "" epoch (htakes _)

theorem not_isFileFrame_waitFrame (now : Seconds) : ¬IsFileFrame wire (waitFrame wire now) := by
  rintro (hbinary | ⟨name, now', h⟩)
  · cases hbinary
  · have hread := congrArg (fun frame : SocketFrame => wire.readJSON frame.data) h
    simp only [waitFrame, textFrame] at hread
    rw [wire.readJSON_stringify _ now.isSafe isSafe_sourceWaitAck,
      wire.readJSON_stringify _ now'.isSafe isSafe_sourceFile] at hread
    cases congrArg SocketMessage.type (Option.some.inj hread)

theorem not_sendsFile {s : System} (hevents : s.toClient = [] ∨ s.deployer.fileTransfers = [])
    (hreading : s.deployer.reading = []) (hframes : ∀ frame ∈ s.toServer, ¬IsFileFrame wire frame) :
    ¬s.SendsFile wire := by
  rintro (⟨hack, htransfers⟩ | hreads | ⟨frame, hmem, hfile⟩)
  · rcases hevents with hevents | hevents
    · rw [hevents] at hack
      cases hack
    · exact htransfers hevents
  · exact hreads hreading
  · exact hframes frame hmem hfile

theorem isFileFrame_nameFrame (p : List Name × SourceFile) (now : Seconds) :
    IsFileFrame wire (nameFrame wire p now) :=
  Or.inr ⟨_, now, rfl⟩

theorem Inv.expects {total : ℕ} {s : System} (hs : Inv wire tempDir tree total s) :
    s.ExpectsFile wire ↔ s.SendsFile wire := by
  cases hs with
  | making deploy h hdeploy =>
    refine iff_of_false (not_expectsFile ?_) (not_sendsFile (Or.inl rfl) rfl ?_)
    · rintro frame ⟨k, hk, -⟩
      cases hk
    · intro frame hmem
      obtain ⟨now, -, rfl⟩ := List.mem_map.1 hmem
      exact not_isFileFrame_waitFrame now
  | asking h | closing h | writing h =>
    refine iff_of_false (not_expectsFile ?_) (not_sendsFile (Or.inl rfl) rfl ?_)
    · rintro frame ⟨k, hk, -⟩
      cases hk
    · exact fun _ hmem => (List.not_mem_nil hmem).elim
  | @asked sent rest p h =>
    exact iff_of_true (Or.inl ⟨_, epoch, takes_name _ _ _ p epoch⟩)
      (Or.inl ⟨List.mem_singleton_self _, List.cons_ne_nil _ _⟩)
  | @named sent rest p now h | @loaded sent rest p now h =>
    exact iff_of_true (Or.inl ⟨_, epoch, takes_name _ _ _ p epoch⟩)
      (Or.inr (Or.inr ⟨_, List.mem_cons_self, isFileFrame_nameFrame _ now⟩))
  | nameRead now h =>
    exact iff_of_true (Or.inr fun data => takes_data _ _ _ _ now data)
      (Or.inr (Or.inl (List.cons_ne_nil _ _)))
  | sending now h =>
    exact iff_of_true (Or.inr fun data => takes_data _ _ _ _ now data)
      (Or.inr (Or.inr ⟨_, List.mem_cons_self, Or.inl rfl⟩))
  | closed h hserver hextra =>
    exact iff_of_false (not_expectsFile_of_finishing hserver)
      (not_sendsFile (Or.inr rfl) rfl fun _ hmem => (List.not_mem_nil hmem).elim)
  | counted hserver hextra | finished hserver hextra =>
    exact iff_of_false (not_expectsFile_of_finishing hserver)
      (not_sendsFile (Or.inl rfl) rfl fun _ hmem => (List.not_mem_nil hmem).elim)
  | deployed now hserver hextra =>
    refine iff_of_false (not_expectsFile_of_finishing hserver) (not_sendsFile (Or.inl rfl) rfl ?_)
    intro frame hmem
    obtain rfl := List.mem_singleton.1 hmem
    exact not_isFileFrame_waitFrame now

/-- What the server reads is what it expects. -/
theorem Inv.takes {total : ℕ} {s : System} (hs : Inv wire tempDir tree total s)
    {k : Option SocketFrame → Upload (FolderSourceInfo × Path)} {frame : SocketFrame}
    {frames : List SocketFrame} (hserver : s.server = .exec .readMessage k)
    (hframes : s.toServer = frame :: frames) : Takes s.server frame := by
  cases hs with
  | making deploy h hdeploy => cases hserver
  | asking | asked | nameRead | writing | closing | closed | counted | finished => cases hframes
  | named now h | loaded now h =>
    obtain ⟨rfl, -⟩ := List.cons.inj hframes
    exact takes_name _ _ _ _ now
  | sending now h =>
    obtain ⟨rfl, -⟩ := List.cons.inj hframes
    exact takes_data _ _ _ _ now _
  | deployed now hfinishing hextra =>
    obtain ⟨rfl, -⟩ := List.cons.inj hframes
    dsimp only at hserver
    rw [hserver] at hfinishing
    exact ⟨k, hserver, hfinishing.2.1 now⟩

/-! ### What is counted -/

/-- Something is acknowledged after a file. -/
theorem not_all_writing (n : ℕ) (p : List Name × SourceFile) :
    ¬(writing wire tempDir tree.allFiles tree.allFolders n p).All
      (· ≠ .sendEvent sourceFileAck) := by
  intro h
  have hafter : (afterFile wire tempDir n (tempDir.below p.1) >>=
      finishing wire tempDir tree.allFiles tree.allFolders).All (· ≠ .sendEvent sourceFileAck) :=
    h.2 true
  cases n with
  | zero =>
    rw [closing_eq] at hafter
    exact hafter.1 rfl
  | succ n =>
    rw [afterFile_succ] at hafter
    exact hafter.1 rfl

theorem not_all_receiving (n : ℕ) (p : List Name × SourceFile) (now : Seconds) :
    ¬(receiving wire tempDir tree.allFiles tree.allFolders n
      ⟨(transferOf p).fullPath, now.1, sourceFile⟩).All (· ≠ .sendEvent sourceFileAck) := by
  obtain ⟨k, hk, hread⟩ := receiving_eq wire tempDir tree.allFiles tree.allFolders n p now
  rw [hk]
  intro h
  have hnext := h.2 (some ⟨true, []⟩)
  rw [hread] at hnext
  exact not_all_writing n _ hnext

theorem not_all_naming (n : ℕ) (p : List Name × SourceFile) :
    ¬(naming wire tempDir tree.allFiles tree.allFolders n).All (· ≠ .sendEvent sourceFileAck) := by
  obtain ⟨k, hk, hread⟩ := naming_eq wire tempDir tree.allFiles tree.allFolders n
  rw [hk]
  intro h
  have hnext := h.2 (some (nameFrame wire p epoch))
  rw [nameFrame, textFrame, hread] at hnext
  exact not_all_receiving n p epoch hnext

theorem not_all_making (hne : tree.allFiles ≠ []) (rest : List (List Name)) :
    ¬(making wire tempDir tree.allFiles tree.allFolders rest).All
      (· ≠ .sendEvent sourceFileAck) := by
  induction rest with
  | nil =>
    have hserver : making wire tempDir tree.allFiles tree.allFolders [] =
        (receiveFiles wire.readJSON tempDir tree.allFiles.length none >>=
          finishing wire tempDir tree.allFiles tree.allFolders) := rfl
    obtain ⟨p, files, hcons⟩ := List.exists_cons_of_ne_nil hne
    have hlength : tree.allFiles.length = files.length + 1 := by rw [hcons, List.length_cons]
    rw [hserver, hlength, asking_eq]
    exact fun h => h.1 rfl
  | cons folder rest ih => exact fun h => ih (h.2 true)

/-- When the last acknowledgement is sent and has come, all is counted. -/
theorem Inv.counts {total : ℕ} {s : System} (hs : Inv wire tempDir tree total s)
    (hlast : s.LastAckSent) (hevents : s.toClient = []) : s.Counted tree := by
  cases hs with
  | @making made folder rest deploy h hdeploy =>
    have hfiles : tree.allFiles = [] := by
      by_contra hne
      exact not_all_making hne _ hlast
    simp [System.Counted, sentClient, statusOf, hfiles]
  | asking h | closing h => exact (hlast.1 rfl).elim
  | asked h | closed h hserver hextra => cases hevents
  | @named sent rest p now h | @loaded sent rest p now h => exact (not_all_naming _ p hlast).elim
  | @nameRead sent rest p now h | @sending sent rest p now h =>
    exact (not_all_receiving _ p now hlast).elim
  | @writing sent rest p h => exact (not_all_writing _ p hlast).elim
  | counted | deployed | finished => exact ⟨rfl, rfl⟩

/-! ## The upload delivers -/

variable (disk) in
/-- What the invariant says of the files on the disk. -/
theorem delivers_of_inv {total : ℕ} {s : System} (hs : Inv wire tempDir tree total s) :
    Delivers wire disk tree s where
  progress := hs.progress
  parents := hs.done.parents
  writes := hs.done.writes
  once := (nodup_writes tree).sublist (hs.done.writes.sublist.map FileOp.path)
  complete := by
    intro hended
    obtain ⟨extra, hextra, hdone⟩ := hs.complete hended
    rw [hdone]
    refine ⟨?_, fun p hp => ?_⟩
    · rw [writesOf_append, writesOf_doneWith, writesOf_extra hextra, List.append_nil]
    · exact List.mem_append_left _ (List.mem_append_left _ (mem_map_makeOf.2 hp))
  expects := hs.expects
  takes := fun _ _ _ hserver hframes => hs.takes hserver hframes

/-- Whatever the order of the steps, the files of a scanned tree are delivered, and counted by the
client once it has the last acknowledgement. -/
theorem uploads_delivered (wire : Wire) {tempDir : Path} (disk : TempDisk tempDir)
    (tree : ScannedTree) (total : ℕ) (now : Seconds) (s : System)
    (h : Reachable wire disk ⟨total, tree.toFolderContext⟩ now s) :
    DeliversCounted wire disk tree s where
  toDelivers := delivers_of_inv disk (inv_of_reachable h)
  counted := (inv_of_reachable h).counts

/-! ## A run to a file -/

/-- The folders are made, each after its parent. -/
theorem making_run (total : ℕ) {made rest : List (List Name)}
    (h : tree.allFolders = made ++ rest) :
    Relation.ReflTransGen (Step wire disk)
      ⟨sentClient tree total [] tree.allFiles,
        making wire tempDir tree.allFiles tree.allFolders rest,
        [], [], made.map (makeOf tempDir), false⟩
      ⟨sentClient tree total [] tree.allFiles,
        making wire tempDir tree.allFiles tree.allFolders [],
        [], [], doneWith tempDir tree [], false⟩ := by
  induction rest generalizing made with
  | nil =>
    have hdone : made.map (makeOf tempDir) = doneWith tempDir tree [] := by
      simp [doneWith, h]
    rw [hdone]
  | cons folder rest ih =>
    refine .head (Or.inl (.act rfl rfl)) ?_
    rw [answer_mkdir h]
    exact ih (by rw [h, List.append_assoc]; rfl)

/-- A file, from the acknowledgement that asks for it until it is written. -/
theorem file_run {total : ℕ} {sent rest : List (List Name × SourceFile)}
    {p : List Name × SourceFile} (h : tree.allFiles = sent ++ p :: rest) (now : Seconds) :
    Relation.ReflTransGen (Step wire disk)
      ⟨sentClient tree total sent (p :: rest),
        .exec (.sendEvent sourceFileAck) fun _ => namingStage wire tempDir tree rest,
        [], [], doneWith tempDir tree sent, false⟩
      ⟨sentClient tree total (sent ++ [p]) rest,
        afterFile wire tempDir rest.length (tempDir.below p.1) >>=
          finishing wire tempDir tree.allFiles tree.allFolders,
        [], [], doneWith tempDir tree (sent ++ [p]), false⟩ := by
  obtain ⟨k, hk, hname⟩ := naming_eq wire tempDir tree.allFiles tree.allFolders rest.length
  obtain ⟨k', hk', hdata⟩ :=
    receiving_eq wire tempDir tree.allFiles tree.allFolders rest.length p now
  refine .head (Or.inl (.event rfl)) (.head (Or.inr (.receive now rfl)) ?_)
  dsimp only
  rw [sendNextFile_cons]
  refine .head (Or.inl (.read hk rfl)) ?_
  dsimp only
  rw [nameFrame, textFrame, hname]
  refine .head (Or.inr (.load (List.nil_append _).symm)) ?_
  dsimp only
  rw [List.nil_append, onload_readingClient]
  refine .head (Or.inl (.read hk' rfl)) ?_
  dsimp only
  rw [dataFrame, hdata]
  have hwrite := @answer_writeFile _ disk _ _ _ _ h []
  refine .head (Or.inl (.act rfl rfl)) ?_
  have hp : (p.1, (⟨p.2.name, (transferOf p).file.data⟩ : SourceFile)) = p := rfl
  rw [hp]
  dsimp only
  rw [hwrite]
  exact .refl

/-- The upload comes to every file, with those before it on the server. -/
theorem reachable_asking (total : ℕ) (now : Seconds) {sent rest : List (List Name × SourceFile)}
    {p : List Name × SourceFile} (h : tree.allFiles = sent ++ p :: rest) :
    Reachable wire disk ⟨total, tree.toFolderContext⟩ now
      ⟨sentClient tree total sent (p :: rest),
        .exec (.sendEvent sourceFileAck) fun _ => namingStage wire tempDir tree rest,
        [], [], doneWith tempDir tree sent, false⟩ := by
  induction sent using List.reverseRecOn generalizing p rest with
  | nil =>
    have hlength : tree.allFiles.length = rest.length + 1 := by
      rw [h, List.nil_append, List.length_cons]
    have hserver : making wire tempDir tree.allFiles tree.allFolders [] =
        (receiveFiles wire.readJSON tempDir tree.allFiles.length none >>=
          finishing wire tempDir tree.allFiles tree.allFolders) := rfl
    have hclient := congrArg (sentClient tree total []) h
    rw [Reachable, start_eq]
    refine (@making_run wire tempDir disk tree total [] tree.allFolders rfl).trans ?_
    rw [hserver, hlength, asking_eq, hclient]
    exact .refl
  | append_singleton sent q ih =>
    rw [List.append_assoc, List.singleton_append] at h
    refine (ih h).trans ?_
    have hfile := @file_run wire tempDir disk tree total sent (p :: rest) q h now
    rw [List.length_cons, afterFile_succ] at hfile
    exact hfile

/-- A disk on which everything goes well. -/
def TempDisk.willing (tempDir : Path) : TempDisk tempDir where
  toDisk := willingDisk
  makes := fun _ _ _ _ _ => rfl
  writes := fun _ _ _ _ _ => rfl

/-- A folder with one empty file. -/
def oneFile : ScannedTree where
  files := [⟨⟨"a", by decide⟩, []⟩]
  folders := []
  nodup := List.nodup_singleton _
  distinct := trivial
  length_lt := by decide

/-- Two folders with a file each, the first in a folder of the folder. -/
def nestedFiles : ScannedTree where
  files := []
  folders := [.node ⟨⟨"src", by decide⟩, []⟩
      [.node ⟨⟨"app", by decide⟩, [⟨⟨"main", by decide⟩, [1, 2]⟩]⟩ []],
    .node ⟨⟨"web", by decide⟩, [⟨⟨"index", by decide⟩, [3]⟩]⟩ []]
  nodup := by decide
  distinct := by
    refine ⟨⟨List.nodup_singleton _, ⟨List.nodup_singleton _, trivial⟩, trivial⟩, ?_⟩
    exact ⟨⟨List.nodup_singleton _, trivial⟩, trivial⟩
  length_lt := by decide

/-- The first file is on the server, and the second one is asked for. -/
def nestedAsking : System :=
  ⟨sentClient nestedFiles 3 (nestedFiles.allFiles.take 1) (nestedFiles.allFiles.drop 1),
    .exec (.sendEvent sourceFileAck) fun _ =>
      namingStage jsonWire (Path.ofNames []) nestedFiles (nestedFiles.allFiles.drop 2),
    [], [], doneWith (Path.ofNames []) nestedFiles (nestedFiles.allFiles.take 1), false⟩

theorem reachable_nestedAsking : Reachable jsonWire (TempDisk.willing (Path.ofNames []))
    ⟨3, nestedFiles.toFolderContext⟩ epoch nestedAsking :=
  reachable_asking 3 epoch rfl

/-- A nested folder, after its first file was delivered. -/
theorem uploads_delivered_nestedFiles :
    writesOf nestedAsking.done = [.written ((Path.ofNames []).below
        [⟨"src", by decide⟩, ⟨"app", by decide⟩, ⟨"main", by decide⟩]) [1, 2]] ∧
      DeliversCounted jsonWire (TempDisk.willing (Path.ofNames [])) nestedFiles nestedAsking :=
  ⟨rfl, uploads_delivered jsonWire _ nestedFiles 3 epoch _ reachable_nestedAsking⟩

end Runs

end Stratos.FolderUpload
