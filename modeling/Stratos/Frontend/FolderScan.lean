import Stratos.Frontend.FolderTransfers
import Stratos.Frontend.IgnoreFilter
import Stratos.Lib.JsObject

/-!
# Scanning a selected folder

`DeployApplicationFSScanner` makes a tree of the files that the user selects. `addFile` makes the
folders of a file that are not there yet and puts the file into the last one, unless the ignore
filter leaves out the file, or one of its folders and all that is in it.

What becomes of a file is up to its own path (`fate`), whatever was scanned before
(`scanBelow_spec`). So the tree has the files that are kept, and the scanner counts them
(`scan_exact`). But a name that every object has is found in `folders` before a folder of that
name is made, and the scan throws.
-/

open Lib
open scoped List

namespace Stratos.FolderScan

open FolderUpload

/-! ## The scanner -/

/-- A file with its folders. -/
abbrev PickedFile := List Name × SourceFile

/-- What `context.folders[name]` finds in any object. -/
def inheritedKeys : List String :=
  ["constructor", "__defineGetter__", "__defineSetter__", "hasOwnProperty", "__lookupGetter__",
    "__lookupSetter__", "isPrototypeOf", "propertyIsEnumerable", "toString", "valueOf", "__proto__",
    "toLocaleString"]

/-- What the scanner counts. -/
structure Counts where
  total : ℕ
  files : ℕ
  folders : ℕ
  excludes : List String

/-- One more file that is left out. -/
def Counts.exclude (c : Counts) (fullName : String) : Counts :=
  { c with excludes := c.excludes ++ [fullName] }

/-- A slash at the start is dropped. -/
def dropSlash (s : String) : String :=
  if s.toList.head? = some '/' then String.ofList s.toList.tail else s

/-- The context of a folder. -/
def contextOf (t : RoseTree SubFolder) : FolderContext := ⟨t.label.files, t.children⟩

/-- The folder that a context is the inside of. -/
def folderOf (name : Name) (ctx : FolderContext) : RoseTree SubFolder :=
  .node ⟨name, ctx.files⟩ ctx.folders

/-- `Object.keys` has array indices first, in their order. -/
def visitedFirst (t t' : RoseTree SubFolder) : Bool :=
  match JsObject.arrayIndex? t.label.name.1, JsObject.arrayIndex? t'.label.name.1 with
  | some i, some j => i < j
  | none, some _ => false
  | _, none => true

/-- A folder of a new name. -/
def insertFolder (t : RoseTree SubFolder) (folders : List (RoseTree SubFolder)) :
    List (RoseTree SubFolder) :=
  folders.takeWhile (visitedFirst · t) ++ t :: folders.dropWhile (visitedFirst · t)

/-- A folder that has changed. -/
def replaceFolder (t : RoseTree SubFolder) : List (RoseTree SubFolder) → List (RoseTree SubFolder)
  | [] => []
  | t' :: ts => if t'.label.name = t.label.name then t :: ts else t' :: replaceFolder t ts

section Scanner

variable (accepts : String → Bool)

/-- Whether the file is left out. -/
def skips (fullName name : String) : Bool := !accepts fullName || !accepts name

/-- `file` -/
def scanFile (file : SourceFile) (path : String) (ctx : FolderContext) (c : Counts) :
    FolderContext × Counts :=
  let fullName := dropSlash (path ++ "/" ++ file.name.1)
  if skips accepts fullName file.name.1 then (ctx, c.exclude fullName)
  else
    ({ ctx with files := ctx.files ++ [file] },
      { c with files := c.files + 1, total := c.total + file.size })

/-- The loop of `addFile`, with `folder`. There is no result if it throws. -/
def scanBelow (file : SourceFile) : List Name → String → FolderContext → Counts →
    Option (FolderContext × Counts)
  | [], path, ctx, c => some (scanFile accepts file path ctx c)
  | name :: names, path, ctx, c =>
    let fullPath := path ++ "/" ++ name.1
    match ctx.folders.find? fun t => t.label.name = name with
    | some sub => do
      let (sub, c) ← scanBelow file names fullPath (contextOf sub) c
      return ({ ctx with folders := replaceFolder (folderOf name sub) ctx.folders }, c)
    | none =>
      if name.1 ∈ inheritedKeys then
        -- What is found has neither `folders` nor `files`.
        let fullName := dropSlash (fullPath ++ "/" ++ file.name.1)
        if names = [] ∧ skips accepts fullName file.name.1 then some (ctx, c.exclude fullName)
        else none
      else
        let fullName := dropSlash fullPath ++ "/"
        if accepts fullName = false then some (ctx, c.exclude fullName)
        else do
          let (sub, c) ← scanBelow file names fullPath ⟨[], []⟩ { c with folders := c.folders + 1 }
          return ({ ctx with folders := insertFolder (folderOf name sub) ctx.folders }, c)

/-- The folders that the scanner sees. -/
def belowRoot (rootFolderName : String) : List Name → List Name
  | [] => []
  | name :: names =>
    if rootFolderName ≠ "" ∧ name.1 = rootFolderName then names else name :: names

/-- The scan of one more file that was picked. -/
def addFile (rootFolderName : String) (s : FolderContext × Counts) (file : PickedFile) :
    Option (FolderContext × Counts) :=
  scanBelow accepts file.2 (belowRoot rootFolderName file.1) "" s.1 s.2

/-- The scan of all files that were picked, which is one pass. -/
def scan (rootFolderName : String) (items : List PickedFile) : Option (FolderContext × Counts) :=
  items.foldlM (addFile accepts rootFolderName) (⟨[], []⟩, ⟨0, 0, 0, []⟩)

/-! ## What becomes of a file -/

/-- A path as the filter sees it. -/
def text (ns : List Name) : String := (Path.ofNames ns).render

/-- What becomes of a file that was picked. -/
inductive Fate
  | kept
  | excluded (fullName : String)
  | throws
  deriving DecidableEq

/-- The fate of a file in the folders `names`, below `before`. -/
def fateBelow (file : SourceFile) : List Name → List Name → Fate
  | before, [] =>
    if skips accepts (text (before ++ [file.name])) file.name.1 then
      .excluded (text (before ++ [file.name]))
    else .kept
  | before, name :: names =>
    if name.1 ∈ inheritedKeys then
      if names = [] ∧ skips accepts (text (before ++ [name, file.name])) file.name.1 then
        .excluded (text (before ++ [name, file.name]))
      else .throws
    else if accepts (text (before ++ [name]) ++ "/") = false then
      .excluded (text (before ++ [name]) ++ "/")
    else fateBelow file (before ++ [name]) names

/-- What becomes of the file, by its path from the root. -/
def fate (p : PickedFile) : Fate := fateBelow accepts p.2 [] p.1

/-- The folders that are made for a file, below `before`. -/
def openedBelow : List Name → List Name → List (List Name)
  | _, [] => []
  | before, name :: names =>
    if name.1 ∈ inheritedKeys ∨ accepts (text (before ++ [name]) ++ "/") = false then []
    else [name] :: (openedBelow (before ++ [name]) names).map (name :: ·)

/-- The filter accepts the file, and all of its folders. -/
def Kept (p : PickedFile) : Prop :=
  (∀ q ∈ p.1.inits, q ≠ [] → accepts (text q ++ "/") = true) ∧
    skips accepts (text (p.1 ++ [p.2.name])) p.2.name.1 = false

instance (p : PickedFile) : Decidable (Kept accepts p) := inferInstanceAs (Decidable (_ ∧ _))

/-- The files that are kept, with their paths. -/
def keptFiles (items : List PickedFile) : List (List Name × SourceFile) :=
  (items.filter fun p => Kept accepts p).map fun p => (p.1 ++ [p.2.name], p.2)

/-- The name that the file is left out under, if it is. -/
def excludedName (p : PickedFile) : Option String :=
  match fate accepts p with
  | .excluded fullName => some fullName
  | _ => none

end Scanner

/-! ## Paths -/

/-- The path of `addFile`, with a slash before each name. -/
def slashed (ns : List Name) : String := ns.foldl (fun path name => path ++ "/" ++ name.1) ""

theorem slashed_concat (ns : List Name) (name : Name) :
    slashed (ns ++ [name]) = slashed ns ++ "/" ++ name.1 := by
  rw [slashed, List.foldl_append]
  rfl

theorem slashed_eq {ns : List Name} (hns : ns ≠ []) : slashed ns = "/" ++ text ns := by
  induction ns using List.reverseRecOn with
  | nil => exact absurd rfl hns
  | append_singleton ns name ih =>
    rw [slashed_concat]
    by_cases hnil : ns = []
    · subst hnil
      rw [text, List.nil_append, Path.render_ofNames_singleton]
      rfl
    · rw [ih hnil, text, text, Path.render_ofNames_concat hnil]
      simp only [String.append_assoc]

theorem dropSlash_slashed {ns : List Name} (hns : ns ≠ []) : dropSlash (slashed ns) = text ns := by
  have hchars : ("/" ++ text ns).toList = '/' :: (text ns).toList := by
    rw [String.toList_append]
    rfl
  rw [slashed_eq hns, dropSlash, hchars]
  exact (if_pos rfl).trans String.ofList_toList

/-! ## The tree -/

theorem insertFolder_perm (t : RoseTree SubFolder) (folders : List (RoseTree SubFolder)) :
    (insertFolder t folders).Perm (t :: folders) := by
  have hsplit := List.takeWhile_append_dropWhile (p := (visitedFirst · t)) (l := folders)
  rw [insertFolder]
  exact List.perm_middle.trans (List.Perm.cons t (List.Perm.of_eq hsplit))

/-- One folder of the name is replaced. -/
theorem replaceFolder_perm {sub t : RoseTree SubFolder} {folders : List (RoseTree SubFolder)}
    (hname : t.label.name = sub.label.name)
    (hsub : folders.find? (fun t' => t'.label.name = t.label.name) = some sub) :
    ∃ rest, folders.Perm (sub :: rest) ∧ (replaceFolder t folders).Perm (t :: rest) := by
  induction folders with
  | nil => cases hsub
  | cons t' folders ih =>
    rw [List.find?_cons] at hsub
    rw [replaceFolder]
    by_cases ht' : t'.label.name = t.label.name
    · rw [decide_eq_true ht'] at hsub
      obtain rfl := Option.some.inj hsub
      exact ⟨folders, List.Perm.refl _, by rw [if_pos ht']⟩
    · rw [decide_eq_false ht'] at hsub
      obtain ⟨rest, hrest, hreplaced⟩ := ih hsub
      refine ⟨t' :: rest, (hrest.cons t').trans (List.Perm.swap ..), ?_⟩
      rw [if_neg ht']
      exact (hreplaced.cons t').trans (List.Perm.swap ..)

theorem filePaths_eq (ts : List (RoseTree SubFolder)) : filePaths ts = ts.flatMap filePathsOf := by
  induction ts with
  | nil => rfl
  | cons t ts ih => rw [filePaths, ih, List.flatMap_cons]

theorem folderPaths_eq (ts : List (RoseTree SubFolder)) :
    folderPaths ts = ts.flatMap folderPathsOf := by
  induction ts with
  | nil => rfl
  | cons t ts ih => rw [folderPaths, ih, List.flatMap_cons]

theorem filePaths_perm {ts ts' : List (RoseTree SubFolder)} (h : ts.Perm ts') :
    (filePaths ts).Perm (filePaths ts') := by
  rw [filePaths_eq, filePaths_eq]
  exact h.flatMap_right _

theorem folderPaths_perm {ts ts' : List (RoseTree SubFolder)} (h : ts.Perm ts') :
    (folderPaths ts).Perm (folderPaths ts') := by
  rw [folderPaths_eq, folderPaths_eq]
  exact h.flatMap_right _

section Below

variable {ctx : FolderContext} {name : Name} {sub : FolderContext}
  {rest : List (RoseTree SubFolder)}

/-- The files of a folder, one of whose folders is `sub`. -/
theorem allFiles_perm (h : ctx.folders.Perm (folderOf name sub :: rest)) :
    ctx.allFiles.Perm (filesIn ctx.files ++ (sub.allFiles.map (under name) ++ filePaths rest)) :=
  (filePaths_perm h).append_left _

theorem allFolders_perm (h : ctx.folders.Perm (folderOf name sub :: rest)) :
    ctx.allFolders.Perm ([name] :: (sub.allFolders.map (name :: ·) ++ folderPaths rest)) :=
  folderPaths_perm h

theorem singleton_mem_folderPaths {ts : List (RoseTree SubFolder)} {t : RoseTree SubFolder}
    (h : t ∈ ts) : [t.label.name] ∈ folderPaths ts := by
  rw [folderPaths_eq, List.mem_flatMap]
  obtain ⟨label, children⟩ := t
  exact ⟨_, h, List.mem_cons_self⟩

/-- The paths of another folder start with another name. -/
theorem cons_notMem_folderPaths (hrest : [name] ∉ folderPaths rest) (q : List Name) :
    name :: q ∉ folderPaths rest := by
  intro hmem
  obtain ⟨name', hname', hhead⟩ := head_of_mem_folderPaths hmem
  obtain ⟨t, ht, rfl⟩ := List.mem_map.1 hname'
  obtain rfl := Option.some.inj hhead
  exact hrest (singleton_mem_folderPaths ht)

theorem nodup_allFolders_iff (h : ctx.folders.Perm (folderOf name sub :: rest)) :
    ctx.allFolders.Nodup ↔
      [name] ∉ folderPaths rest ∧ sub.allFolders.Nodup ∧ (folderPaths rest).Nodup := by
  have hinj : Function.Injective (name :: · : List Name → List Name) :=
    fun _ _ heq => (List.cons.inj heq).2
  have hfirst : [name] ∉ sub.allFolders.map (name :: ·) := by
    intro hmem
    obtain ⟨q, hq, heq⟩ := List.mem_map.1 hmem
    obtain rfl := (List.cons.inj heq).2
    exact ne_nil_of_folderPaths _ hq
  rw [(allFolders_perm h).nodup_iff, List.nodup_cons, List.mem_append, not_or, List.nodup_append,
    List.nodup_map_iff hinj]
  constructor
  · rintro ⟨⟨-, hrest⟩, hsub, hnodup, -⟩
    exact ⟨hrest, hsub, hnodup⟩
  · rintro ⟨hrest, hsub, hnodup⟩
    refine ⟨⟨hfirst, hrest⟩, hsub, hnodup, fun p hp q hq heq => ?_⟩
    obtain ⟨q', -, rfl⟩ := List.mem_map.1 hp
    exact cons_notMem_folderPaths hrest q' (heq ▸ hq)

end Below

/-! ## One file -/

section File

variable {accepts : String → Bool}

/-- What was opened below `before` may be opened again. -/
def Opened (accepts : String → Bool) (before : List Name) (ctx : FolderContext) : Prop :=
  ∀ q name, q ++ [name] ∈ ctx.allFolders →
    name.1 ∉ inheritedKeys ∧ accepts (text (before ++ q ++ [name]) ++ "/") = true

theorem opened_empty (accepts : String → Bool) (before : List Name) :
    Opened accepts before ⟨[], []⟩ := by
  intro q name h
  cases h

/-- What scanning a file in `names`, below `before`, makes of a folder. -/
structure Scanned (accepts : String → Bool) (before names : List Name) (ctx ctx' : FolderContext)
    (files : List (List Name × SourceFile)) : Prop where
  files : ctx'.allFiles.Perm (ctx.allFiles ++ files)
  folders : ∀ q, q ∈ ctx'.allFolders ↔ q ∈ ctx.allFolders ∨ q ∈ openedBelow accepts before names
  nodup : ctx'.allFolders.Nodup

/-- The counts after a file. -/
def Counts.after (c : Counts) (file : SourceFile) : Fate → Counts
  | .kept => { c with files := c.files + 1, total := c.total + file.size }
  | .excluded fullName => c.exclude fullName
  | .throws => c

/-- The file that the scan keeps, if it does. -/
def filesOf (names : List Name) (file : SourceFile) : Fate → List (List Name × SourceFile)
  | .kept => [(names ++ [file.name], file)]
  | .excluded _ => []
  | .throws => []

/-- `result` is what the fate of the file says, and counts the folders that were made. -/
def FateDone (accepts : String → Bool) (file : SourceFile) (before names : List Name)
    (ctx : FolderContext) (c : Counts) (result : Option (FolderContext × Counts)) : Prop :=
  if fateBelow accepts file before names = .throws then result = none
  else ∃ ctx' made,
    result = some (ctx', { c.after file (fateBelow accepts file before names) with
      folders := c.folders + made }) ∧
    ctx'.allFolders.length = ctx.allFolders.length + made ∧
    Scanned accepts before names ctx ctx'
      (filesOf names file (fateBelow accepts file before names))

theorem fateDone_nil (file : SourceFile) (before : List Name) (ctx : FolderContext) (c : Counts)
    (hnodup : ctx.allFolders.Nodup) :
    FateDone accepts file before [] ctx c (scanBelow accepts file [] (slashed before) ctx c) := by
  have hname : dropSlash (slashed before ++ "/" ++ file.name.1) = text (before ++ [file.name]) := by
    rw [← slashed_concat, dropSlash_slashed (by simp)]
  unfold FateDone
  rw [fateBelow, scanBelow, scanFile, hname]
  by_cases hskips : skips accepts (text (before ++ [file.name])) file.name.1 = true
  · rw [if_pos hskips, if_neg (by simp), if_pos hskips]
    refine ⟨ctx, 0, rfl, rfl, ?_, ?_, hnodup⟩
    · rw [filesOf, List.append_nil]
    · simp [openedBelow]
  · rw [if_neg hskips, if_neg (by simp), if_neg hskips]
    refine ⟨_, 0, rfl, rfl, ?_, ?_, hnodup⟩
    · -- The file comes last among those of its own folder.
      rw [filesOf, FolderContext.allFiles, FolderContext.allFiles, filesIn, List.map_append,
        List.append_assoc, List.append_assoc]
      exact List.Perm.append_left _ List.perm_append_comm
    · simp [openedBelow, FolderContext.allFolders]

section Step

variable {before names : List Name} {name : Name} {ctx ctx' sub sub' : FolderContext}
  {rest : List (RoseTree SubFolder)} {files : List (List Name × SourceFile)}

theorem mem_allFolders (h : ctx.folders.Perm (folderOf name sub :: rest)) (q : List Name) :
    q ∈ ctx.allFolders ↔
      q = [name] ∨ q ∈ sub.allFolders.map (name :: ·) ∨ q ∈ folderPaths rest := by
  rw [(allFolders_perm h).mem_iff, List.mem_cons, List.mem_append]

/-- A folder changes as the folder in it does. -/
theorem Scanned.below (h : ctx.folders.Perm (folderOf name sub :: rest))
    (h' : ctx'.folders.Perm (folderOf name sub' :: rest)) (hfiles : ctx'.files = ctx.files)
    (hnodup : ctx.allFolders.Nodup)
    (hopens : openedBelow accepts before (name :: names) =
      [name] :: (openedBelow accepts (before ++ [name]) names).map (name :: ·))
    (hsub : Scanned accepts (before ++ [name]) names sub sub' files) :
    Scanned accepts before (name :: names) ctx ctx' (files.map (under name)) := by
  obtain ⟨hrest, -, hnodupRest⟩ := (nodup_allFolders_iff h).1 hnodup
  refine ⟨?_, fun q => ?_, (nodup_allFolders_iff h').2 ⟨hrest, hsub.nodup, hnodupRest⟩⟩
  · have hbelow : (sub'.allFiles.map (under name)).Perm
        (sub.allFiles.map (under name) ++ files.map (under name)) := by
      rw [← List.map_append]
      exact hsub.files.map _
    calc ctx'.allFiles
      _ ~ filesIn ctx'.files ++ (sub'.allFiles.map (under name) ++ filePaths rest) :=
        allFiles_perm h'
      _ ~ filesIn ctx.files ++ (sub.allFiles.map (under name) ++ files.map (under name) ++
          filePaths rest) := by
        rw [hfiles]
        exact (hbelow.append_right _).append_left _
      _ ~ filesIn ctx.files ++ (sub.allFiles.map (under name) ++ filePaths rest ++
          files.map (under name)) := by
        rw [List.append_assoc, List.append_assoc]
        exact (List.perm_append_comm.append_left _).append_left _
      _ ~ ctx.allFiles ++ files.map (under name) := by
        rw [← List.append_assoc]
        exact (allFiles_perm h).symm.append_right _
  · rw [mem_allFolders h', mem_allFolders h, hopens, List.mem_cons, List.mem_map, List.mem_map,
      List.mem_map]
    have hmem : (∃ q', q' ∈ sub'.allFolders ∧ name :: q' = q) ↔
        (∃ q', q' ∈ sub.allFolders ∧ name :: q' = q) ∨
          ∃ q', q' ∈ openedBelow accepts (before ++ [name]) names ∧ name :: q' = q := by
      simp only [hsub.folders, or_and_right, exists_or]
    have hor : ∀ a b c d : Prop, a ∨ (b ∨ c) ∨ d ↔ (a ∨ b ∨ d) ∨ a ∨ c := by
      tauto
    rw [hmem]
    exact hor _ _ _ _

theorem length_allFolders_below (h : ctx.folders.Perm (folderOf name sub :: rest))
    (h' : ctx'.folders.Perm (folderOf name sub' :: rest)) {made : ℕ}
    (hsub : sub'.allFolders.length = sub.allFolders.length + made) :
    ctx'.allFolders.length = ctx.allFolders.length + made := by
  have hlength := (allFolders_perm h).length_eq
  have hlength' := (allFolders_perm h').length_eq
  simp only [List.length_cons, List.length_append, List.length_map] at hlength hlength'
  omega

theorem map_under_filesOf (file : SourceFile) (fate : Fate) :
    (filesOf names file fate).map (under name) = filesOf (name :: names) file fate := by
  cases fate <;> rfl

end Step

theorem fateBelow_cons {name : Name} {before : List Name}
    (hname : name.1 ∉ inheritedKeys ∧ accepts (text (before ++ [name]) ++ "/") = true)
    (file : SourceFile) (names : List Name) : fateBelow accepts file before (name :: names) =
      fateBelow accepts file (before ++ [name]) names := by
  rw [fateBelow, if_neg hname.1, if_neg]
  rw [hname.2]
  exact Bool.false_ne_true.symm

theorem openedBelow_cons {name : Name} {before : List Name}
    (hname : name.1 ∉ inheritedKeys ∧ accepts (text (before ++ [name]) ++ "/") = true)
    (names : List Name) : openedBelow accepts before (name :: names) =
      [name] :: (openedBelow accepts (before ++ [name]) names).map (name :: ·) := by
  rw [openedBelow, if_neg]
  rintro (h | h)
  · exact hname.1 h
  · rw [hname.2] at h
    cases h

theorem nil_notMem_openedBelow (names before : List Name) :
    [] ∉ openedBelow accepts before names := by
  intro h
  cases names with
  | nil => cases h
  | cons n names =>
    rw [openedBelow] at h
    split_ifs at h
    · cases h
    · simp at h

/-- What is opened may be opened again. -/
theorem of_mem_openedBelow (names before q : List Name) (name : Name)
    (hq : q ++ [name] ∈ openedBelow accepts before names) :
    name.1 ∉ inheritedKeys ∧ accepts (text (before ++ q ++ [name]) ++ "/") = true := by
  induction names generalizing before q with
  | nil => cases hq
  | cons n names ih =>
    rw [openedBelow] at hq
    split_ifs at hq with hn
    · cases hq
    · rw [not_or, Bool.not_eq_false] at hn
      rcases q with _ | ⟨m, q⟩
      · rcases List.mem_cons.1 hq with heq | hq
        · obtain rfl := (List.cons.inj heq).1
          rwa [List.append_nil]
        · obtain ⟨q', hq', heq⟩ := List.mem_map.1 hq
          rw [(List.cons.inj heq).2] at hq'
          exact (nil_notMem_openedBelow names _ hq').elim
      · rcases List.mem_cons.1 hq with heq | hq
        · simp at heq
        · obtain ⟨q', hq', heq⟩ := List.mem_map.1 hq
          obtain ⟨rfl, rfl⟩ := List.cons.inj heq
          have hbelow := ih (before ++ [n]) q hq'
          rwa [List.append_assoc before] at hbelow

section Cons

variable {file : SourceFile} {before names : List Name} {name : Name} {ctx : FolderContext}
  {c : Counts}

/-- The file is left out before a folder is made. -/
theorem fateDone_excluded {fullName : String} (hnodup : ctx.allFolders.Nodup)
    (hfate : fateBelow accepts file before names = .excluded fullName)
    (hopens : openedBelow accepts before names = []) :
    FateDone accepts file before names ctx c (some (ctx, c.exclude fullName)) := by
  unfold FateDone
  rw [hfate, if_neg (by simp)]
  refine ⟨ctx, 0, rfl, rfl, ?_, ?_, hnodup⟩
  · rw [filesOf, List.append_nil]
  · simp [hopens]

/-- The file goes into a folder. -/
theorem FateDone.below (ctx : FolderContext) {sub : FolderContext}
    (place : RoseTree SubFolder → List (RoseTree SubFolder))
    {result : Option (FolderContext × Counts)} (hnodup : ctx.allFolders.Nodup)
    (hname : name.1 ∉ inheritedKeys ∧ accepts (text (before ++ [name]) ++ "/") = true)
    (hplace : ∀ sub', ∃ rest, ctx.folders ~ folderOf name sub :: rest ∧
      place (folderOf name sub') ~ folderOf name sub' :: rest)
    (hsub : FateDone accepts file (before ++ [name]) names sub c result) :
    FateDone accepts file before (name :: names) ctx c
      (result.map fun r => ({ ctx with folders := place (folderOf name r.1) }, r.2)) := by
  unfold FateDone at hsub ⊢
  rw [fateBelow_cons hname]
  split_ifs at hsub ⊢ with hthrows
  · rw [hsub]
    rfl
  · obtain ⟨sub', made, rfl, hlength, hscanned⟩ := hsub
    obtain ⟨rest, hfolders, hplaced⟩ := hplace sub'
    refine ⟨{ ctx with folders := place (folderOf name sub') }, made, rfl, ?_, ?_⟩
    · exact length_allFolders_below hfolders hplaced hlength
    · rw [← map_under_filesOf]
      exact hscanned.below hfolders hplaced rfl hnodup (openedBelow_cons hname names)

/-- An empty folder is made first. -/
theorem FateDone.made {result : Option (FolderContext × Counts)}
    (hname : name.1 ∉ inheritedKeys ∧ accepts (text (before ++ [name]) ++ "/") = true)
    (h : FateDone accepts file before (name :: names)
      { ctx with folders := folderOf name ⟨[], []⟩ :: ctx.folders }
      { c with folders := c.folders + 1 } result) :
    FateDone accepts file before (name :: names) ctx c result := by
  unfold FateDone at h ⊢
  split_ifs at h ⊢ with hthrows
  · exact h
  · obtain ⟨ctx', made, rfl, hlength, hscanned⟩ := h
    refine ⟨ctx', 1 + made, ?_, ?_, hscanned.files, fun q => ?_, hscanned.nodup⟩
    · rw [← Nat.add_assoc]
      generalize fateBelow accepts file before (name :: names) = fate
      cases fate <;> rfl
    · have hfirst : (FolderContext.allFolders
          { ctx with folders := folderOf name ⟨[], []⟩ :: ctx.folders }).length =
            ctx.allFolders.length + 1 := rfl
      omega
    · rw [hscanned.folders, openedBelow_cons hname]
      have hfirst : q ∈ FolderContext.allFolders
          { ctx with folders := folderOf name ⟨[], []⟩ :: ctx.folders } ↔
            q = [name] ∨ q ∈ ctx.allFolders :=
        List.mem_cons
      rw [hfirst, List.mem_cons]
      tauto

end Cons

/-! ### The branches of the loop -/

section Branch

variable {file : SourceFile} {before names : List Name} {name : Name} {ctx : FolderContext}
  {c : Counts}

theorem dropSlash_below (before : List Name) (name : Name) :
    dropSlash (slashed before ++ "/" ++ name.1) = text (before ++ [name]) := by
  rw [← slashed_concat, dropSlash_slashed (by simp)]

theorem scanBelow_own {sub : RoseTree SubFolder}
    (hfind : ctx.folders.find? (fun t => t.label.name = name) = some sub) :
    scanBelow accepts file (name :: names) (slashed before) ctx c =
      (scanBelow accepts file names (slashed (before ++ [name])) (contextOf sub) c).map fun r =>
        ({ ctx with folders := replaceFolder (folderOf name r.1) ctx.folders }, r.2) := by
  rw [scanBelow, hfind, slashed_concat]
  dsimp only
  cases scanBelow accepts file names (slashed before ++ "/" ++ name.1) (contextOf sub) c <;> rfl

theorem scanBelow_inherited
    (hfind : ctx.folders.find? (fun t => t.label.name = name) = none)
    (hname : name.1 ∈ inheritedKeys) :
    scanBelow accepts file (name :: names) (slashed before) ctx c =
      if names = [] ∧ skips accepts (text (before ++ [name, file.name])) file.name.1 = true then
        some (ctx, c.exclude (text (before ++ [name, file.name])))
      else none := by
  have hfile := dropSlash_below (before ++ [name]) file.name
  rw [slashed_concat, List.append_assoc, List.singleton_append] at hfile
  rw [scanBelow, hfind]
  dsimp only
  rw [if_pos hname, hfile]

theorem scanBelow_rejected
    (hfind : ctx.folders.find? (fun t => t.label.name = name) = none)
    (hname : name.1 ∉ inheritedKeys)
    (haccepts : accepts (text (before ++ [name]) ++ "/") = false) :
    scanBelow accepts file (name :: names) (slashed before) ctx c =
      some (ctx, c.exclude (text (before ++ [name]) ++ "/")) := by
  rw [scanBelow, hfind]
  dsimp only
  rw [if_neg hname, dropSlash_below, if_pos haccepts]

theorem scanBelow_new
    (hfind : ctx.folders.find? (fun t => t.label.name = name) = none)
    (hname : name.1 ∉ inheritedKeys ∧ accepts (text (before ++ [name]) ++ "/") = true) :
    scanBelow accepts file (name :: names) (slashed before) ctx c =
      (scanBelow accepts file names (slashed (before ++ [name])) ⟨[], []⟩
        { c with folders := c.folders + 1 }).map fun r =>
          ({ ctx with folders := insertFolder (folderOf name r.1) ctx.folders }, r.2) := by
  have haccepts : ¬accepts (text (before ++ [name]) ++ "/") = false := by
    rw [hname.2]
    exact Bool.false_ne_true.symm
  rw [scanBelow, hfind]
  dsimp only
  rw [if_neg hname.1, dropSlash_below, if_neg haccepts, slashed_concat]
  cases scanBelow accepts file names (slashed before ++ "/" ++ name.1) ⟨[], []⟩
    { c with folders := c.folders + 1 } <;> rfl

end Branch

theorem folderOf_contextOf (sub : RoseTree SubFolder) :
    folderOf sub.label.name (contextOf sub) = sub := by
  obtain ⟨⟨name, files⟩, children⟩ := sub
  rfl

theorem mem_of_find?_folder {folders : List (RoseTree SubFolder)} {name : Name}
    {sub : RoseTree SubFolder} (hfind : folders.find? (fun t => t.label.name = name) = some sub) :
    sub ∈ folders ∧ sub.label.name = name :=
  ⟨List.mem_of_find?_eq_some hfind, by simpa using List.find?_some hfind⟩

theorem singleton_notMem_allFolders {ctx : FolderContext} {name : Name}
    (hfind : ctx.folders.find? (fun t => t.label.name = name) = none) :
    [name] ∉ ctx.allFolders := by
  intro hmem
  obtain ⟨name', hname', hhead⟩ := head_of_mem_folderPaths hmem
  obtain ⟨t, ht, rfl⟩ := List.mem_map.1 hname'
  have hnot := List.find?_eq_none.1 hfind t ht
  exact hnot (decide_eq_true (Option.some.inj hhead).symm)

theorem Opened.sub {before : List Name} {ctx : FolderContext} {name : Name} {sub : FolderContext}
    {rest : List (RoseTree SubFolder)} (h : Opened accepts before ctx)
    (hfolders : ctx.folders ~ folderOf name sub :: rest) :
    Opened accepts (before ++ [name]) sub := by
  intro q n hq
  have hmem : name :: q ++ [n] ∈ ctx.allFolders := by
    rw [mem_allFolders hfolders]
    exact Or.inr (Or.inl (List.mem_map.2 ⟨q ++ [n], hq, rfl⟩))
  have hn := h (name :: q) n hmem
  rwa [← List.singleton_append, ← List.append_assoc before] at hn

/-- A file does what its fate says to any tree whose folders may be opened. -/
theorem scanBelow_spec (file : SourceFile) (names before : List Name) (ctx : FolderContext)
    (c : Counts) (hnodup : ctx.allFolders.Nodup) (hopened : Opened accepts before ctx) :
    FateDone accepts file before names ctx c
      (scanBelow accepts file names (slashed before) ctx c) := by
  induction names generalizing before ctx c with
  | nil => exact fateDone_nil file before ctx c hnodup
  | cons name names ih =>
    rcases hfind : ctx.folders.find? (fun t => t.label.name = name) with _ | sub
    · by_cases hinherited : name.1 ∈ inheritedKeys
      · rw [scanBelow_inherited hfind hinherited]
        split_ifs with hskips
        · refine fateDone_excluded hnodup ?_ ?_
          · rw [fateBelow, if_pos hinherited, if_pos hskips]
          · rw [openedBelow, if_pos (Or.inl hinherited)]
        · have hfate : fateBelow accepts file before (name :: names) = .throws := by
            rw [fateBelow, if_pos hinherited, if_neg hskips]
          rw [FateDone, if_pos hfate]
      by_cases haccepts : accepts (text (before ++ [name]) ++ "/") = false
      · rw [scanBelow_rejected hfind hinherited haccepts]
        refine fateDone_excluded hnodup ?_ ?_
        · rw [fateBelow, if_neg hinherited, if_pos haccepts]
        · rw [openedBelow, if_pos (Or.inr haccepts)]
      · have hname := And.intro hinherited (Bool.eq_true_of_not_eq_false haccepts)
        have hnew := ih (before ++ [name]) ⟨[], []⟩ { c with folders := c.folders + 1 }
          List.nodup_nil (opened_empty accepts _)
        rw [scanBelow_new hfind hname]
        refine FateDone.made hname (FateDone.below
          { ctx with folders := folderOf name ⟨[], []⟩ :: ctx.folders }
          (fun t => insertFolder t ctx.folders) ?_ hname (fun sub' => ?_) hnew)
        · exact List.nodup_cons.2 ⟨singleton_notMem_allFolders hfind, hnodup⟩
        · exact ⟨ctx.folders, List.Perm.refl _, insertFolder_perm _ _⟩
    · obtain ⟨hmem, rfl⟩ := mem_of_find?_folder hfind
      have hfirst : [sub.label.name] ∈ ctx.allFolders := singleton_mem_folderPaths hmem
      have hname := hopened [] _ hfirst
      rw [List.append_nil] at hname
      have hplace : ∀ sub', ∃ rest, ctx.folders ~ folderOf sub.label.name (contextOf sub) :: rest ∧
          replaceFolder (folderOf sub.label.name sub') ctx.folders ~
            folderOf sub.label.name sub' :: rest := by
        intro sub'
        rw [folderOf_contextOf]
        exact replaceFolder_perm rfl hfind
      obtain ⟨rest, hfolders, -⟩ := hplace ⟨[], []⟩
      have hsub := ih (before ++ [sub.label.name]) (contextOf sub) c
        ((nodup_allFolders_iff hfolders).1 hnodup).2.1 (hopened.sub hfolders)
      rw [scanBelow_own hfind]
      exact FateDone.below ctx (fun t => replaceFolder t ctx.folders) hnodup hname hplace hsub

end File

/-! ## All files -/

section Scan

variable {accepts : String → Bool}

theorem fateBelow_eq_kept_iff (file : SourceFile) (names before : List Name)
    (h : fateBelow accepts file before names ≠ .throws) :
    fateBelow accepts file before names = .kept ↔
      (∀ q ∈ names.inits, q ≠ [] → accepts (text (before ++ q) ++ "/") = true) ∧
        skips accepts (text (before ++ (names ++ [file.name]))) file.name.1 = false := by
  induction names generalizing before with
  | nil =>
    rw [fateBelow]
    split_ifs with hskips <;> simp [hskips]
  | cons name names ih =>
    have hinits : (∀ q ∈ (name :: names).inits, q ≠ [] →
        accepts (text (before ++ q) ++ "/") = true) ↔
          accepts (text (before ++ [name]) ++ "/") = true ∧
            ∀ q ∈ names.inits, q ≠ [] → accepts (text (before ++ [name] ++ q) ++ "/") = true := by
      simp only [List.mem_inits]
      constructor
      · intro hall
        refine ⟨hall [name] ⟨names, rfl⟩ (List.cons_ne_nil _ _), fun q hq _ => ?_⟩
        rw [← List.append_cons]
        exact hall (name :: q) (List.cons_prefix_cons.2 ⟨rfl, hq⟩) (List.cons_ne_nil _ _)
      · rintro ⟨hfirst, hrest⟩ q hq hne
        obtain ⟨n, q, rfl⟩ := List.exists_cons_of_ne_nil hne
        obtain ⟨rfl, hrestq⟩ := List.cons_prefix_cons.1 hq
        by_cases hnil : q = []
        · rwa [hnil]
        · rw [List.append_cons]
          exact hrest q hrestq hnil
    have hpath : before ++ (name :: names ++ [file.name]) =
        before ++ [name] ++ (names ++ [file.name]) := by
      rw [List.cons_append, List.append_cons]
    rw [hinits, hpath]
    rw [fateBelow] at h ⊢
    split_ifs at h ⊢ with hinherited hskips haccepts
    · obtain ⟨rfl, hskips⟩ := hskips
      have hlast : before ++ [name] ++ ([] ++ [file.name]) = before ++ [name, file.name] := by
        rw [List.append_assoc]
        rfl
      rw [hlast, hskips]
      simp
    · exact absurd rfl h
    · rw [haccepts]
      simp
    · rw [ih _ h, Bool.eq_true_of_not_eq_false haccepts]
      simp

/-- Where the scan goes on, the filter alone decides. -/
theorem fate_eq_kept_iff {p : PickedFile} (h : fate accepts p ≠ .throws) :
    fate accepts p = .kept ↔ Kept accepts p :=
  fateBelow_eq_kept_iff p.2 p.1 [] h

/-- The tree and the counts of a scan. -/
structure ScanExact (accepts : String → Bool) (items : List PickedFile) (root : FolderContext)
    (c : Counts) : Prop where
  /-- The tree has the files that are kept, at their paths. -/
  files : root.allFiles ~ keptFiles accepts items
  folders : ∀ q, q ∈ root.allFolders ↔ ∃ p ∈ items, q ∈ openedBelow accepts [] p.1
  nodup : root.allFolders.Nodup
  fileCount : c.files = (keptFiles accepts items).length
  total : c.total = ((keptFiles accepts items).map fun p => p.2.size).sum
  folderCount : c.folders = root.allFolders.length
  excludes : c.excludes = items.filterMap (excludedName accepts)

theorem keptFiles_append (items items' : List PickedFile) :
    keptFiles accepts (items ++ items') = keptFiles accepts items ++ keptFiles accepts items' := by
  rw [keptFiles, List.filter_append, List.map_append]
  rfl

theorem filesOf_fate {p : PickedFile} (h : fate accepts p ≠ .throws) :
    filesOf p.1 p.2 (fate accepts p) = keptFiles accepts [p] := by
  have hkept := fate_eq_kept_iff h
  rw [keptFiles, List.filter_singleton]
  by_cases hp : Kept accepts p
  · rw [hkept.2 hp, decide_eq_true hp]
    rfl
  · rw [decide_eq_false hp]
    rcases hfate : fate accepts p with _ | fullName | _
    · exact absurd (hkept.1 hfate) hp
    · rfl
    · rfl

/-- One more file. -/
theorem ScanExact.addFile {items : List PickedFile} {root : FolderContext} {c : Counts}
    (h : ScanExact accepts items root c) (p : PickedFile) :
    (fate accepts p = .throws → scanBelow accepts p.2 p.1 "" root c = none) ∧
      (fate accepts p ≠ .throws → ∃ root' c', scanBelow accepts p.2 p.1 "" root c =
        some (root', c') ∧ ScanExact accepts (items ++ [p]) root' c') := by
  have hopened : Opened accepts [] root := by
    intro q name hq
    obtain ⟨p, -, hp⟩ := (h.folders _).1 hq
    exact of_mem_openedBelow p.1 [] q name hp
  have hspec := scanBelow_spec p.2 p.1 [] root c h.nodup hopened
  unfold FateDone at hspec
  rw [← fate] at hspec
  constructor
  · intro hthrows
    rw [if_pos hthrows] at hspec
    exact hspec
  · intro hthrows
    rw [if_neg hthrows] at hspec
    obtain ⟨root', made, hscan, hlength, hscanned⟩ := hspec
    have hfiles := filesOf_fate hthrows
    have hlength' := h.folderCount
    refine ⟨root', _, hscan, ?_, fun q => ?_, hscanned.nodup, ?_, ?_, ?_, ?_⟩
    · rw [keptFiles_append, ← hfiles]
      exact hscanned.files.trans (h.files.append_right _)
    · rw [hscanned.folders, h.folders]
      simp only [List.mem_append, List.mem_singleton, or_and_right, exists_or, exists_eq_left]
    · rw [keptFiles_append, ← hfiles, List.length_append, ← h.fileCount]
      cases fate accepts p <;> rfl
    · rw [keptFiles_append, ← hfiles, List.map_append, List.sum_append, ← h.total]
      cases fate accepts p <;> rfl
    · dsimp only
      omega
    · rw [List.filterMap_append, ← h.excludes]
      cases hfate : fate accepts p <;> simp [excludedName, hfate, Counts.after, Counts.exclude]

/-- What the scanner sees of a file. -/
def seen (rootFolderName : String) (p : PickedFile) : PickedFile :=
  (belowRoot rootFolderName p.1, p.2)

theorem scan_concat (accepts : String → Bool) (rootFolderName : String) (items : List PickedFile)
    (p : PickedFile) : scan accepts rootFolderName (items ++ [p]) =
      (scan accepts rootFolderName items).bind fun s =>
        scanBelow accepts (seen rootFolderName p).2 (seen rootFolderName p).1 "" s.1 s.2 := by
  rw [scan, List.foldlM_append]
  exact congrArg _ (funext fun s => bind_pure _)

theorem scanExact_nil (accepts : String → Bool) :
    ScanExact accepts [] ⟨[], []⟩ ⟨0, 0, 0, []⟩ where
  files := List.Perm.refl _
  folders q := by simp [FolderContext.allFolders, folderPaths]
  nodup := List.nodup_nil
  fileCount := rfl
  total := rfl
  folderCount := rfl
  excludes := rfl

/-- The scan throws where a file makes it throw, and is exact otherwise. -/
theorem scan_exact (accepts : String → Bool) (rootFolderName : String) (items : List PickedFile) :
    (scan accepts rootFolderName items = none ↔
      ∃ p ∈ items.map (seen rootFolderName), fate accepts p = .throws) ∧
    ∀ root c, scan accepts rootFolderName items = some (root, c) →
      ScanExact accepts (items.map (seen rootFolderName)) root c := by
  induction items using List.reverseRecOn with
  | nil =>
    refine ⟨by simp [scan], fun root c h => ?_⟩
    obtain ⟨rfl, rfl⟩ := Prod.mk.inj (Option.some.inj h)
    exact scanExact_nil accepts
  | append_singleton items p ih =>
    obtain ⟨hthrows, hexact⟩ := ih
    rw [scan_concat, List.map_append, List.map_singleton]
    rcases hscan : scan accepts rootFolderName items with _ | ⟨root, c⟩
    · obtain ⟨q, hq, hfate⟩ := hthrows.1 hscan
      refine ⟨iff_of_true rfl ⟨q, List.mem_append_left _ hq, hfate⟩, fun root c h => ?_⟩
      cases h
    · have hnot : ¬∃ q ∈ items.map (seen rootFolderName), fate accepts q = .throws := by
        rw [← hthrows, hscan]
        exact Option.some_ne_none _
      obtain ⟨hnone, hsome⟩ := (hexact root c hscan).addFile (seen rootFolderName p)
      rw [Option.bind_some]
      dsimp only
      by_cases hfate : fate accepts (seen rootFolderName p) = .throws
      · rw [hnone hfate]
        refine ⟨iff_of_true rfl ⟨_, ?_, hfate⟩, fun root' c' h => by cases h⟩
        exact List.mem_append_right _ (List.mem_singleton_self _)
      · obtain ⟨root', c', hfile, hfileExact⟩ := hsome hfate
        rw [hfile]
        refine ⟨iff_of_false (Option.some_ne_none _) ?_, fun root'' c'' h => ?_⟩
        · rintro ⟨q, hq, hthrow⟩
          rcases List.mem_append.1 hq with hq | hq
          · exact hnot ⟨q, hq, hthrow⟩
          · rw [List.mem_singleton.1 hq] at hthrow
            exact hfate hthrow
        · obtain ⟨rfl, rfl⟩ := Prod.mk.inj (Option.some.inj h)
          exact hfileExact

end Scan

/-! ## Selections -/

/-- The name of the file with the patterns to leave out. -/
def cfIgnoreFileName : String := ".cfignore"

/-- What is left out in any case. -/
def cfDefaultIgnores : String := ".cfignore\n_darcs\n.DS_Store\n.git\n.gitignore\n.hg\n.svn\n"

/-- The files that the loop of `handleFileInputSelection` sees in the selected folder itself, up
to the first file that is further down. -/
def firstLevel (items : List PickedFile) : List PickedFile :=
  if items.length = 1 then []
  else (items.takeWhile fun p => p.1.length ≤ 1).filter fun p => p.1.length = 1

/-- The folder that was picked, by the first of its files. -/
def rootFolderName (items : List PickedFile) : String :=
  match (firstLevel items).head? with
  | some (name :: _, _) => name.1
  | _ => ""

/-- The ignore file at the root of the folder. -/
def findCfIgnoreFile (items : List PickedFile) : Option SourceFile :=
  ((firstLevel items).find? fun p => p.2.name.1 = cfIgnoreFileName).map Prod.snd

/-- The patterns of a selection. -/
def ignoresOf (readAsText : List UInt8 → String) (items : List PickedFile) : String :=
  cfDefaultIgnores ++ (findCfIgnoreFile items).elim "" fun file => readAsText file.data

/-- The filter as a test of names. -/
def acceptsOf (filter : IgnoreFilter.GitIgnoreFilter) (fullName : String) : Bool :=
  filter.accepts (units fullName)

/-- There is no result if the filter cannot be made, or if the scan throws. -/
def handleFileInputSelection (readAsText : List UInt8 → String) (items : List PickedFile) :
    Option (FolderContext × Counts) := do
  let filter ← IgnoreFilter.GitIgnoreFilter.new (units (ignoresOf readAsText items))
  scan (acceptsOf filter) (rootFolderName items) items

theorem handleFileInputSelection_eq_some {readAsText : List UInt8 → String}
    {items : List PickedFile} {result : FolderContext × Counts}
    (h : handleFileInputSelection readAsText items = some result) :
    ∃ filter, IgnoreFilter.GitIgnoreFilter.new (units (ignoresOf readAsText items)) = some filter ∧
      scan (acceptsOf filter) (rootFolderName items) items = some result := by
  rw [handleFileInputSelection, Option.bind_eq_bind] at h
  exact Option.bind_eq_some_iff.1 h

/-- A file as the user finds it. -/
def pathOf (p : PickedFile) : List Name := p.1 ++ [p.2.name]

/-- The files of one folder, or a file alone. -/
structure Selection where
  items : List PickedFile
  nodup : (items.map pathOf).Nodup
  /-- No file is a folder of another one. -/
  apart : ∀ p ∈ items, ∀ q ∈ items, ¬pathOf p <+: q.1
  sameRoot : ∀ p ∈ items, ∀ q ∈ items, p.1.head? = q.1.head?
  length_lt : items.length < 2 ^ 32

theorem prefix_of_mem_openedBelow {accepts : String → Bool} (names before : List Name)
    {q : List Name} (hq : q ∈ openedBelow accepts before names) : q <+: names := by
  induction names generalizing before q with
  | nil => cases hq
  | cons name names ih =>
    rw [openedBelow] at hq
    split_ifs at hq
    · cases hq
    · rcases List.mem_cons.1 hq with rfl | hq
      · exact ⟨names, rfl⟩
      · obtain ⟨q', hq', rfl⟩ := List.mem_map.1 hq
        exact List.cons_prefix_cons.2 ⟨rfl, ih _ hq'⟩

/-- The root is dropped from all paths of a selection, or from none. -/
theorem Selection.exists_root (sel : Selection) (rootFolderName : String) :
    ∃ root : List Name, ∀ p ∈ sel.items, p.1 = root ++ (seen rootFolderName p).1 := by
  rcases hitems : sel.items with _ | ⟨p, items⟩
  · exact ⟨[], fun p hp => by cases hp⟩
  · have hsame : ∀ q ∈ p :: items, q.1.head? = p.1.head? := by
      rw [← hitems]
      exact fun q hq => sel.sameRoot q hq p (hitems ▸ List.mem_cons_self)
    rcases hp : p.1 with _ | ⟨name, names⟩
    · refine ⟨[], fun q hq => ?_⟩
      have hhead := hsame q hq
      rw [hp] at hhead
      rw [List.head?_eq_none_iff.1 hhead, seen, List.head?_eq_none_iff.1 hhead]
      rfl
    · by_cases hroot : rootFolderName ≠ "" ∧ name.1 = rootFolderName
      · refine ⟨[name], fun q hq => ?_⟩
        have hhead := hsame q hq
        rw [hp] at hhead
        obtain ⟨names', hnames⟩ := List.head?_eq_some_iff.1 hhead
        rw [seen, hnames, belowRoot, if_pos hroot]
        rfl
      · refine ⟨[], fun q hq => ?_⟩
        have hhead := hsame q hq
        rw [hp] at hhead
        obtain ⟨names', hnames⟩ := List.head?_eq_some_iff.1 hhead
        rw [seen, hnames, belowRoot, if_neg hroot]
        rfl

/-- The tree of a selection has no path twice. -/
theorem ScanExact.once {accepts : String → Bool} {rootFolderName : String} {sel : Selection}
    {root : FolderContext} {c : Counts}
    (h : ScanExact accepts (sel.items.map (seen rootFolderName)) root c) :
    Once root.allFiles root.allFolders := by
  obtain ⟨dropped, hdropped⟩ := sel.exists_root rootFolderName
  have hpath : ∀ p ∈ sel.items, pathOf p = dropped ++ pathOf (seen rootFolderName p) := by
    intro p hp
    rw [pathOf, hdropped p hp, List.append_assoc]
    rfl
  have hkept : (keptFiles accepts (sel.items.map (seen rootFolderName))).map Prod.fst =
      ((sel.items.map (seen rootFolderName)).filter fun p => Kept accepts p).map pathOf := by
    rw [keptFiles, List.map_map]
    rfl
  refine ⟨h.nodup, ?_, fun p hp hmem => ?_⟩
  · have hnodup : ((sel.items.map (seen rootFolderName)).map pathOf).Nodup := by
      have hpaths : sel.items.map pathOf =
          ((sel.items.map (seen rootFolderName)).map pathOf).map (dropped ++ ·) := by
        rw [List.map_map, List.map_map]
        exact List.map_congr_left hpath
      have hall := sel.nodup
      rw [hpaths] at hall
      exact List.Nodup.of_map _ hall
    rw [(h.files.map Prod.fst).nodup_iff, hkept]
    exact hnodup.sublist (List.filter_sublist.map pathOf)
  · obtain ⟨q, hq, rfl⟩ := List.mem_map.1 (h.files.mem_iff.1 hp)
    obtain ⟨p, hpItems, rfl⟩ := List.mem_map.1 (List.mem_filter.1 hq).1
    obtain ⟨q', hq', hopened⟩ := (h.folders _).1 hmem
    obtain ⟨q, hqItems, rfl⟩ := List.mem_map.1 hq'
    have hprefix := prefix_of_mem_openedBelow _ _ hopened
    refine sel.apart p hpItems q hqItems ?_
    rw [hpath p hpItems, hdropped q hqItems]
    exact (List.prefix_append_right_inj _).2 hprefix

theorem ScanExact.length_lt {accepts : String → Bool} {rootFolderName : String} {sel : Selection}
    {root : FolderContext} {c : Counts}
    (h : ScanExact accepts (sel.items.map (seen rootFolderName)) root c) :
    root.allFiles.length < 2 ^ 32 := by
  have hlength := List.length_filter_le (fun p => decide (Kept accepts p))
    (sel.items.map (seen rootFolderName))
  rw [List.length_map] at hlength
  rw [h.files.length_eq, keptFiles, List.length_map]
  exact hlength.trans_lt sel.length_lt

end Stratos.FolderScan
