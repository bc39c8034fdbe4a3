import Mathlib.Algebra.Ring.Nat
import Mathlib.Data.List.Nodup
import Stratos.Lib.Growth
import Stratos.Lib.Path
import Stratos.Lib.Tree

/-!
# The files of a folder

`DeployApplicationDeployer` sends the files of a folder that was scanned. `collectFoldersAndFiles`
lists them with their paths, and `sendNextFile` sends the next one for each acknowledgement.

What is collected are the paths of the tree (`collectFoldersAndFiles_eq`), every folder after its
parent (`grows_folderPaths`) and every path once (`ScannedTree.once`).
-/

open Lib

namespace Stratos.FolderUpload

/-! ## The tree -/

/-- A file of a folder, by the browser. -/
structure SourceFile where
  name : Name
  data : List UInt8

/-- The number of bytes of the file. -/
def SourceFile.size (file : SourceFile) : ℕ := file.data.length

/-- An entry of the `folders` of a folder. -/
structure SubFolder where
  name : Name
  files : List SourceFile

/-- `FileScannerFolderContext`. The folders are in the order of `Object.keys`. -/
structure FolderContext where
  files : List SourceFile
  folders : List (RoseTree SubFolder)

/-! ## Collecting -/

/-- A file with the `fullPath` that is written into it. -/
structure FileTransfer where
  fullPath : String
  file : SourceFile

/-- The files and the folders that are announced, in the order they were collected. -/
structure TransferMetadata where
  files : List FileTransfer
  folders : List String

/-- `base ? base + '/' + name : name` -/
def fullPathOf (base : Option String) (name : Name) : String :=
  match base with
  | some base => if base = "" then name.1 else base ++ "/" ++ name.1
  | none => name.1

/-- The files of one folder, with their paths. -/
def collectFiles (metadata : TransferMetadata) (base : Option String) (files : List SourceFile) :
    TransferMetadata :=
  { metadata with
    files := metadata.files ++ files.map fun file => ⟨fullPathOf base file.name, file⟩ }

mutual

/-- The loop over the folders. -/
def collectFolders (metadata : TransferMetadata) (base : Option String) :
    List (RoseTree SubFolder) → TransferMetadata
  | [] => metadata
  | folder :: folders => collectFolders (collectFolder metadata base folder) base folders

/-- A folder and all that is in it. -/
def collectFolder (metadata : TransferMetadata) (base : Option String) :
    RoseTree SubFolder → TransferMetadata
  | .node sub folders =>
    let fullPath := fullPathOf base sub.name
    let metadata := { metadata with folders := metadata.folders ++ [fullPath] }
    -- `collectFoldersAndFiles` of the folder below.
    collectFolders (collectFiles metadata (some fullPath) sub.files) (some fullPath) folders

end

/-- What is in a folder, its files before its folders. -/
def collectFoldersAndFiles (metadata : TransferMetadata) (base : Option String)
    (folder : FolderContext) : TransferMetadata :=
  collectFolders (collectFiles metadata base folder.files) base folder.folders

/-! ## The paths of a tree -/

/-- The files of a folder under their names. -/
def filesIn (files : List SourceFile) : List (List Name × SourceFile) :=
  files.map fun file => ([file.name], file)

/-- One level further down. -/
def under (name : Name) (p : List Name × SourceFile) : List Name × SourceFile := (name :: p.1, p.2)

mutual

/-- The paths of the folders. -/
def folderPaths : List (RoseTree SubFolder) → List (List Name)
  | [] => []
  | folder :: folders => folderPathsOf folder ++ folderPaths folders

/-- The paths of a folder and of the folders in it. -/
def folderPathsOf : RoseTree SubFolder → List (List Name)
  | .node sub folders => [sub.name] :: (folderPaths folders).map (sub.name :: ·)

end

mutual

/-- The files with their paths. -/
def filePaths : List (RoseTree SubFolder) → List (List Name × SourceFile)
  | [] => []
  | folder :: folders => filePathsOf folder ++ filePaths folders

/-- The paths of the files in a folder. -/
def filePathsOf : RoseTree SubFolder → List (List Name × SourceFile)
  | .node sub folders => (filesIn sub.files ++ filePaths folders).map (under sub.name)

end

/-- The files of the context with their paths. -/
def FolderContext.allFiles (folder : FolderContext) : List (List Name × SourceFile) :=
  filesIn folder.files ++ filePaths folder.folders

/-- The paths of the folders of the context. -/
def FolderContext.allFolders (folder : FolderContext) : List (List Name) :=
  folderPaths folder.folders

/-- The names in a folder. -/
def namesIn (files : List SourceFile) (folders : List (RoseTree SubFolder)) : List Name :=
  files.map SourceFile.name ++ folders.map fun folder => folder.label.name

mutual

/-- No name is twice in a folder. -/
def Distinct : List (RoseTree SubFolder) → Prop
  | [] => True
  | folder :: folders => DistinctOf folder ∧ Distinct folders

/-- No folder at or below the folder holds two things of one name. -/
def DistinctOf : RoseTree SubFolder → Prop
  | .node sub folders => (namesIn sub.files folders).Nodup ∧ Distinct folders

end

/-- A folder as it was scanned on a disk. -/
structure ScannedTree extends FolderContext where
  nodup : (namesIn files folders).Nodup
  distinct : Distinct folders
  /-- An array has fewer than 2^32 elements. -/
  length_lt : toFolderContext.allFiles.length < 2 ^ 32

/-- A file to be sent. -/
def transferOf (p : List Name × SourceFile) : FileTransfer := ⟨(Path.ofNames p.1).render, p.2⟩

/-! ### What is collected -/

/-- The base of a folder. -/
def baseOf : List Name → Option String
  | [] => none
  | ns => some (Path.ofNames ns).render

theorem render_ne_empty {ns : List Name} (hns : ns ≠ []) : (Path.ofNames ns).render ≠ "" := by
  obtain ⟨ns', n, hconcat⟩ := (List.eq_nil_or_concat ns).resolve_left hns
  rw [List.concat_eq_append] at hconcat
  subst hconcat
  by_cases hns' : ns' = []
  · subst hns'
    rw [List.nil_append, Path.render_ofNames_singleton]
    exact n.2.1
  · rw [Path.render_ofNames_concat hns']
    intro h
    have hlength := congrArg String.length h
    simp at hlength

theorem fullPathOf_baseOf (ns : List Name) (name : Name) :
    fullPathOf (baseOf ns) name = (Path.ofNames (ns ++ [name])).render := by
  cases ns with
  | nil => exact (Path.render_ofNames_singleton name).symm
  | cons n ns =>
    rw [Path.render_ofNames_concat (List.cons_ne_nil n ns)]
    exact if_neg (render_ne_empty (List.cons_ne_nil n ns))

theorem baseOf_concat (ns : List Name) (name : Name) :
    some (fullPathOf (baseOf ns) name) = baseOf (ns ++ [name]) := by
  rw [fullPathOf_baseOf]
  cases ns <;> rfl

/-- What is collected of the paths below a folder. -/
def collected (metadata : TransferMetadata) (ns : List Name)
    (files : List (List Name × SourceFile)) (folders : List (List Name)) : TransferMetadata where
  files := metadata.files ++ files.map fun p => transferOf (ns ++ p.1, p.2)
  folders := metadata.folders ++ folders.map fun p => (Path.ofNames (ns ++ p)).render

theorem collectFiles_eq (metadata : TransferMetadata) (ns : List Name) (files : List SourceFile) :
    collectFiles metadata (baseOf ns) files = collected metadata ns (filesIn files) [] := by
  simp [collectFiles, collected, filesIn, transferOf, fullPathOf_baseOf, Function.comp_def]

theorem collected_collected (metadata : TransferMetadata) (ns : List Name)
    (files files' : List (List Name × SourceFile)) (folders folders' : List (List Name)) :
    collected (collected metadata ns files folders) ns files' folders' =
      collected metadata ns (files ++ files') (folders ++ folders') := by
  simp [collected]

theorem collected_under (metadata : TransferMetadata) (ns : List Name) (name : Name)
    (files : List (List Name × SourceFile)) (folders : List (List Name)) :
    collected metadata (ns ++ [name]) files folders =
      collected metadata ns (files.map (under name)) (folders.map (name :: ·)) := by
  simp [collected, under, Function.comp_def]

theorem collectFolders_eq (ts : List (RoseTree SubFolder)) (metadata : TransferMetadata)
    (ns : List Name) : collectFolders metadata (baseOf ns) ts =
      collected metadata ns (filePaths ts) (folderPaths ts) := by
  induction ts using RoseTree.forest_induction generalizing metadata ns with
  | nil => simp [collectFolders, collected, filePaths, folderPaths]
  | cons sub cs ts ihc iht =>
    have hfolder : collectFolder metadata (baseOf ns) (.node sub cs) =
        collected metadata ns (filePathsOf (.node sub cs)) (folderPathsOf (.node sub cs)) := by
      have hpushed : { metadata with
          folders := metadata.folders ++ [fullPathOf (baseOf ns) sub.name] } =
            collected metadata ns [] [[sub.name]] := by
        simp [collected, fullPathOf_baseOf]
      rw [collectFolder, hpushed, baseOf_concat, collectFiles_eq, ihc, collected_collected,
        collected_under, collected_collected]
      rfl
    rw [collectFolders, hfolder, iht, collected_collected]
    rfl

/-- All files and folders are collected, with their paths. -/
theorem collectFoldersAndFiles_eq (folder : FolderContext) :
    collectFoldersAndFiles ⟨[], []⟩ none folder =
      ⟨folder.allFiles.map transferOf, folder.allFolders.map fun p => (Path.ofNames p).render⟩ := by
  have hfiles := collectFiles_eq ⟨[], []⟩ [] folder.files
  rw [baseOf] at hfiles
  have hfolders := collectFolders_eq folder.folders
    (collected ⟨[], []⟩ [] (filesIn folder.files) []) []
  rw [baseOf] at hfolders
  rw [collectFoldersAndFiles, hfiles, hfolders, collected_collected]
  simp [collected, FolderContext.allFiles, FolderContext.allFolders]

/-! ### The order of the folders -/

theorem ne_nil_of_folderPaths (ts : List (RoseTree SubFolder)) : [] ∉ folderPaths ts := by
  induction ts using RoseTree.forest_induction with
  | nil => simp [folderPaths]
  | cons sub cs ts ihc iht => simp [folderPaths, folderPathsOf, iht]

/-- A folder comes after the folder it is in. -/
theorem grows_folderPaths (ts : List (RoseTree SubFolder)) :
    Grows (fun before p => p.dropLast = [] ∨ p.dropLast ∈ before) (folderPaths ts) := by
  induction ts using RoseTree.forest_induction with
  | nil => exact grows_nil _
  | cons sub cs ts ihc iht =>
    have hbelow : Grows (fun before p => p.dropLast = [] ∨ p.dropLast ∈ before)
        (folderPathsOf (.node sub cs)) := by
      rw [folderPathsOf, ← List.singleton_append, grows_append_iff, grows_singleton_iff,
        grows_map_iff]
      refine ⟨Or.inl rfl, ihc.mono fun before p hp hbefore => Or.inr ?_⟩
      have hne : p ≠ [] := fun hnil => ne_nil_of_folderPaths cs (hnil ▸ hp)
      rw [List.dropLast_cons_of_ne_nil hne]
      rcases hbefore with htop | hparent
      · rw [htop]
        exact List.mem_append_left _ (List.mem_singleton_self _)
      · exact List.mem_append_right _ (List.mem_map.2 ⟨_, hparent, rfl⟩)
    rw [folderPaths, grows_append_iff]
    exact ⟨hbelow, iht.mono fun before p _ hp => hp.imp_right (List.mem_append_right _)⟩

/-- The folder of a file is there. -/
theorem parent_mem_of_mem_filePaths (ts : List (RoseTree SubFolder)) {p : List Name × SourceFile}
    (h : p ∈ filePaths ts) : p.1.dropLast ∈ folderPaths ts := by
  induction ts using RoseTree.forest_induction generalizing p with
  | nil => simp [filePaths] at h
  | cons sub cs ts ihc iht =>
    rw [filePaths, filePathsOf, List.mem_append, List.mem_map] at h
    rw [folderPaths, folderPathsOf, List.mem_append]
    rcases h with ⟨q, hq, rfl⟩ | h
    · left
      rcases List.mem_append.1 hq with hq | hq
      · obtain ⟨file, -, rfl⟩ := List.mem_map.1 hq
        exact List.mem_cons_self
      · have hparent := ihc hq
        have hne : q.1 ≠ [] := by
          intro hnil
          rw [hnil] at hparent
          exact ne_nil_of_folderPaths cs hparent
        refine List.mem_cons_of_mem _ (List.mem_map.2 ⟨_, hparent, ?_⟩)
        exact (List.dropLast_cons_of_ne_nil hne).symm
    · exact Or.inr (iht h)

theorem FolderContext.parent_of_mem_allFiles (folder : FolderContext)
    {p : List Name × SourceFile} (h : p ∈ folder.allFiles) :
    p.1.dropLast = [] ∨ p.1.dropLast ∈ folder.allFolders := by
  rcases List.mem_append.1 h with h | h
  · obtain ⟨file, -, rfl⟩ := List.mem_map.1 h
    exact Or.inl rfl
  · exact Or.inr (parent_mem_of_mem_filePaths _ h)

/-! ### Every path once -/

theorem head_of_mem_folderPaths {ts : List (RoseTree SubFolder)} {p : List Name}
    (h : p ∈ folderPaths ts) : ∃ name ∈ ts.map fun t => t.label.name, p.head? = some name := by
  induction ts using RoseTree.forest_induction with
  | nil => simp [folderPaths] at h
  | cons sub cs ts ihc iht =>
    rw [folderPaths, folderPathsOf, List.mem_append] at h
    rcases h with h | h
    · refine ⟨sub.name, List.mem_cons_self, ?_⟩
      rcases List.mem_cons.1 h with rfl | h
      · rfl
      · obtain ⟨q, -, rfl⟩ := List.mem_map.1 h
        rfl
    · obtain ⟨name, hname, hhead⟩ := iht h
      exact ⟨name, List.mem_cons_of_mem _ hname, hhead⟩

theorem head_of_mem_filePaths {ts : List (RoseTree SubFolder)} {p : List Name × SourceFile}
    (h : p ∈ filePaths ts) : ∃ name ∈ ts.map fun t => t.label.name, p.1.head? = some name := by
  have hparent := parent_mem_of_mem_filePaths ts h
  have hne : p.1.dropLast ≠ [] := by
    intro hnil
    rw [hnil] at hparent
    exact ne_nil_of_folderPaths ts hparent
  obtain ⟨name, hname, hhead⟩ := head_of_mem_folderPaths hparent
  refine ⟨name, hname, ?_⟩
  rw [← hhead, List.head?_dropLast, if_pos]
  by_contra hlength
  exact hne (List.eq_nil_of_length_eq_zero (by rw [List.length_dropLast]; omega))

/-- No path comes twice. -/
structure Once (files : List (List Name × SourceFile)) (folders : List (List Name)) : Prop where
  nodupFolders : folders.Nodup
  nodupFiles : (files.map Prod.fst).Nodup
  apart : ∀ p ∈ files, p.1 ∉ folders

theorem Once.under {files : List (List Name × SourceFile)} {folders : List (List Name)}
    (h : Once files folders) (name : Name) :
    Once (files.map (under name)) (folders.map (name :: ·)) := by
  have hinj : Function.Injective (name :: · : List Name → List Name) :=
    fun _ _ heq => (List.cons.inj heq).2
  refine ⟨List.Nodup.map hinj h.nodupFolders, ?_, ?_⟩
  · have hfst : (files.map (FolderUpload.under name)).map Prod.fst =
        (files.map Prod.fst).map (name :: ·) := by
      simp [FolderUpload.under, Function.comp_def]
    rw [hfst]
    exact List.Nodup.map hinj h.nodupFiles
  · intro p hp hmem
    obtain ⟨q, hq, rfl⟩ := List.mem_map.1 hp
    obtain ⟨folder, hfolder, heq⟩ := List.mem_map.1 hmem
    exact h.apart q hq (hinj heq ▸ hfolder)

theorem mem_filesIn {files : List SourceFile} {p : List Name × SourceFile}
    (h : p ∈ filesIn files) : p.1 = [p.2.name] ∧ p.2 ∈ files := by
  obtain ⟨file, hfile, rfl⟩ := List.mem_map.1 h
  exact ⟨rfl, hfile⟩

/-- The files and folders that one folder has, at all depths. -/
theorem once_folder {files : List SourceFile} {ts : List (RoseTree SubFolder)}
    (hnames : (namesIn files ts).Nodup) (h : Once (filePaths ts) (folderPaths ts)) :
    Once (filesIn files ++ filePaths ts) (folderPaths ts) := by
  obtain ⟨hfiles, -, hapart⟩ := List.nodup_append.1 hnames
  refine ⟨h.nodupFolders, ?_, fun p hp hmem => ?_⟩
  · rw [List.map_append, List.nodup_append]
    refine ⟨?_, h.nodupFiles, fun p hp q hq heq => ?_⟩
    · have hfst : (filesIn files).map Prod.fst = (files.map SourceFile.name).map ([·]) := by
        simp [filesIn, Function.comp_def]
      rw [hfst]
      exact List.Nodup.map (fun _ _ heq => (List.cons.inj heq).1) hfiles
    · -- A file further down is in a folder.
      obtain ⟨p', hp', rfl⟩ := List.mem_map.1 hp
      obtain ⟨q', hq', rfl⟩ := List.mem_map.1 hq
      have hparent := parent_mem_of_mem_filePaths ts hq'
      rw [← heq, (mem_filesIn hp').1] at hparent
      exact ne_nil_of_folderPaths ts hparent
  · rcases List.mem_append.1 hp with hp | hp
    · obtain ⟨hpath, hfile⟩ := mem_filesIn hp
      rw [hpath] at hmem
      obtain ⟨name, hname, hhead⟩ := head_of_mem_folderPaths hmem
      exact hapart _ (List.mem_map.2 ⟨p.2, hfile, rfl⟩) _ hname (Option.some.inj hhead)
    · exact h.apart p hp hmem

theorem once_tree {sub : SubFolder} {cs : List (RoseTree SubFolder)}
    (h : Once (filesIn sub.files ++ filePaths cs) (folderPaths cs)) :
    Once (filePathsOf (.node sub cs)) (folderPathsOf (.node sub cs)) := by
  have hunder := h.under sub.name
  have hfiles : ∀ p ∈ filePathsOf (.node sub cs), p.1 ≠ [sub.name] := by
    intro p hp heq
    obtain ⟨q, hq, rfl⟩ := List.mem_map.1 (by rwa [filePathsOf] at hp)
    have hnil : q.1 = [] := (List.cons.inj heq).2
    rcases List.mem_append.1 hq with hq | hq
    · rw [(mem_filesIn hq).1] at hnil
      exact List.cons_ne_nil _ _ hnil
    · have hparent := parent_mem_of_mem_filePaths cs hq
      rw [hnil] at hparent
      exact ne_nil_of_folderPaths cs hparent
  rw [filePathsOf] at hfiles ⊢
  rw [folderPathsOf]
  refine ⟨List.nodup_cons.2 ⟨fun hmem => ?_, hunder.nodupFolders⟩, hunder.nodupFiles,
    fun p hp hmem => ?_⟩
  · obtain ⟨q, hq, heq⟩ := List.mem_map.1 hmem
    rw [(List.cons.inj heq).2] at hq
    exact ne_nil_of_folderPaths cs hq
  · rcases List.mem_cons.1 hmem with heq | hmem
    · exact hfiles p hp heq
    · exact hunder.apart p hp hmem

/-- Two parts whose paths start differently. -/
theorem Once.append {files files' : List (List Name × SourceFile)}
    {folders folders' : List (List Name)} (h : Once files folders) (h' : Once files' folders')
    (hdisjoint : ∀ p ∈ files.map Prod.fst ++ folders,
      ∀ q ∈ files'.map Prod.fst ++ folders', p ≠ q) :
    Once (files ++ files') (folders ++ folders') := by
  refine ⟨?_, ?_, ?_⟩
  · rw [List.nodup_append]
    exact ⟨h.nodupFolders, h'.nodupFolders, fun p hp q hq =>
      hdisjoint p (List.mem_append_right _ hp) q (List.mem_append_right _ hq)⟩
  · rw [List.map_append, List.nodup_append]
    exact ⟨h.nodupFiles, h'.nodupFiles, fun p hp q hq =>
      hdisjoint p (List.mem_append_left _ hp) q (List.mem_append_left _ hq)⟩
  · intro p hp hmem
    rcases List.mem_append.1 hp with hp | hp <;> rcases List.mem_append.1 hmem with hmem | hmem
    · exact h.apart p hp hmem
    · exact hdisjoint _ (List.mem_append_left _ (List.mem_map_of_mem hp)) _
        (List.mem_append_right _ hmem) rfl
    · exact hdisjoint _ (List.mem_append_right _ hmem) _
        (List.mem_append_left _ (List.mem_map_of_mem hp)) rfl
    · exact h'.apart p hp hmem

theorem head_of_mem_paths {ts : List (RoseTree SubFolder)} {p : List Name}
    (h : p ∈ (filePaths ts).map Prod.fst ++ folderPaths ts) :
    ∃ name ∈ ts.map fun t => t.label.name, p.head? = some name := by
  rcases List.mem_append.1 h with h | h
  · obtain ⟨q, hq, rfl⟩ := List.mem_map.1 h
    exact head_of_mem_filePaths hq
  · exact head_of_mem_folderPaths h

theorem once_forest (ts : List (RoseTree SubFolder))
    (hnames : (ts.map fun t => t.label.name).Nodup) (h : Distinct ts) :
    Once (filePaths ts) (folderPaths ts) := by
  induction ts using RoseTree.forest_induction with
  | nil => exact ⟨List.nodup_nil, List.nodup_nil, fun _ hp => (List.not_mem_nil hp).elim⟩
  | cons sub cs ts ihc iht =>
    obtain ⟨⟨hnamesIn, hcs⟩, hts⟩ : DistinctOf (.node sub cs) ∧ Distinct ts := by
      rwa [Distinct] at h
    obtain ⟨hname, hnames⟩ := List.nodup_cons.1 hnames
    have hfolder := once_tree (once_folder hnamesIn (ihc (List.nodup_append.1 hnamesIn).2.1 hcs))
    have hsingle : filePaths [.node sub cs] = filePathsOf (.node sub cs) ∧
        folderPaths [.node sub cs] = folderPathsOf (.node sub cs) := by
      simp [filePaths, folderPaths]
    rw [filePaths, folderPaths]
    refine hfolder.append (iht hnames hts) fun p hp q hq heq => ?_
    rw [← hsingle.1, ← hsingle.2] at hp
    obtain ⟨name, hmem, hhead⟩ := head_of_mem_paths hp
    obtain ⟨name', hmem', hhead'⟩ := head_of_mem_paths hq
    obtain rfl := List.mem_singleton.1 hmem
    rw [heq, hhead'] at hhead
    exact hname (Option.some.inj hhead ▸ hmem')

/-- No path of a scanned tree comes twice. -/
theorem ScannedTree.once (tree : ScannedTree) : Once tree.allFiles tree.allFolders :=
  once_folder tree.nodup
    (once_forest tree.folders (List.nodup_append.1 tree.nodup).2.1 tree.distinct)

/-! ### Trees without a path twice -/

theorem Once.of_under {files : List (List Name × SourceFile)} {folders : List (List Name)}
    {name : Name}
    (h : Once (files.map (FolderUpload.under name)) (folders.map (name :: ·))) :
    Once files folders := by
  refine ⟨List.Nodup.of_map _ h.nodupFolders, ?_, fun p hp hmem => ?_⟩
  · have hfst : (files.map (FolderUpload.under name)).map Prod.fst =
        (files.map Prod.fst).map (name :: ·) := by
      simp [FolderUpload.under, Function.comp_def]
    have hfiles := h.nodupFiles
    rw [hfst] at hfiles
    exact List.Nodup.of_map _ hfiles
  · exact h.apart _ (List.mem_map_of_mem hp) (List.mem_map_of_mem hmem)

theorem Once.of_append {files files' : List (List Name × SourceFile)}
    {folders folders' : List (List Name)} (h : Once (files ++ files') (folders ++ folders')) :
    Once files folders ∧ Once files' folders' := by
  obtain ⟨hfolders, hfolders', -⟩ := List.nodup_append.1 h.nodupFolders
  have hfst := h.nodupFiles
  rw [List.map_append] at hfst
  obtain ⟨hfiles, hfiles', -⟩ := List.nodup_append.1 hfst
  refine ⟨⟨hfolders, hfiles, fun p hp hmem => ?_⟩, ⟨hfolders', hfiles', fun p hp hmem => ?_⟩⟩
  · exact h.apart p (List.mem_append_left _ hp) (List.mem_append_left _ hmem)
  · exact h.apart p (List.mem_append_right _ hp) (List.mem_append_right _ hmem)

theorem names_sublist_folderPaths (ts : List (RoseTree SubFolder)) :
    (ts.map fun t => [t.label.name]).Sublist (folderPaths ts) := by
  induction ts with
  | nil => exact List.Sublist.refl _
  | cons t ts ih =>
    obtain ⟨sub, cs⟩ := t
    rw [folderPaths, folderPathsOf, List.map_cons, List.cons_append]
    exact (ih.trans (List.sublist_append_right _ _)).cons_cons _

/-- The names in a folder, from the paths. -/
theorem Once.nodup_namesIn {files : List SourceFile} {ts : List (RoseTree SubFolder)}
    (h : Once (filesIn files ++ filePaths ts) (folderPaths ts)) : (namesIn files ts).Nodup := by
  have hfiles : (files.map SourceFile.name).Nodup := by
    have hfst := h.nodupFiles
    have hnames : (filesIn files).map Prod.fst = (files.map SourceFile.name).map ([·]) := by
      simp [filesIn, Function.comp_def]
    rw [List.map_append, hnames] at hfst
    exact List.Nodup.of_map _ (List.nodup_append.1 hfst).1
  have hfolders : (ts.map fun t => t.label.name).Nodup := by
    have hsublist := h.nodupFolders.sublist (names_sublist_folderPaths ts)
    have hnames : (ts.map fun t => [t.label.name]) =
        (ts.map fun t => t.label.name).map ([·]) := by
      simp [Function.comp_def]
    rw [hnames] at hsublist
    exact List.Nodup.of_map _ hsublist
  refine List.nodup_append.2 ⟨hfiles, hfolders, ?_⟩
  rintro name hname _ hname' rfl
  obtain ⟨file, hfile, rfl⟩ := List.mem_map.1 hname
  obtain ⟨t, ht, heq⟩ := List.mem_map.1 hname'
  have hfolder : [file.name] ∈ folderPaths ts := by
    rw [← heq]
    exact (names_sublist_folderPaths ts).subset (List.mem_map.2 ⟨t, ht, rfl⟩)
  exact h.apart ([file.name], file) (List.mem_append_left _ (List.mem_map.2 ⟨file, hfile, rfl⟩))
    hfolder

theorem Once.distinct {ts : List (RoseTree SubFolder)}
    (h : Once (filePaths ts) (folderPaths ts)) : Distinct ts := by
  induction ts using RoseTree.forest_induction with
  | nil => exact trivial
  | cons sub cs ts ihc iht =>
    rw [filePaths, folderPaths] at h
    obtain ⟨hfirst, hrest⟩ := h.of_append
    rw [filePathsOf, folderPathsOf] at hfirst
    have hbelow : Once (filesIn sub.files ++ filePaths cs) (folderPaths cs) := by
      refine @Once.of_under _ _ sub.name ⟨?_, hfirst.nodupFiles, fun p hp hmem => ?_⟩
      · exact (List.nodup_cons.1 hfirst.nodupFolders).2
      · exact hfirst.apart p hp (List.mem_cons_of_mem _ hmem)
    have hfolders : Once (filePaths cs) (folderPaths cs) := by
      rw [← List.nil_append (folderPaths cs)] at hbelow
      exact hbelow.of_append.2
    exact ⟨⟨hbelow.nodup_namesIn, ihc hfolders⟩, iht hrest⟩

/-- A folder without a path twice. -/
def ScannedTree.ofOnce (folder : FolderContext) (h : Once folder.allFiles folder.allFolders)
    (hlength : folder.allFiles.length < 2 ^ 32) : ScannedTree where
  toFolderContext := folder
  nodup := h.nodup_namesIn
  distinct := by
    have hfolders := h
    rw [← List.nil_append folder.allFolders] at hfolders
    exact hfolders.of_append.2.distinct
  length_lt := hlength

end Stratos.FolderUpload
