import Stratos.Frontend.FolderScan
import Stratos.Jetstream.FolderUploadEnd

/-!
# From a selection to the server

The user selects a folder, the scanner makes a tree of its files, and the deployer uploads the
tree. In the end the files on the server are those of the folder that its `.cfignore` and the
default patterns leave in (`selection_uploaded`).
-/

open Lib

namespace Stratos.FolderUpload

open FolderScan

/-- The upload of a selection at its end. -/
structure SelectionUploaded (tempDir : Path) (kept : List (List Name × SourceFile)) (c : Counts)
    (s : System) : Prop where
  ended : s.Ended
  /-- The files on the server are those that are kept. -/
  files : (writesOf s.done).Perm (kept.map (writeOf tempDir))
  filesSent : s.deployer.fileTransferStatus.filesSent = c.files
  bytesSent : s.deployer.fileTransferStatus.bytesSent = c.total

/-- Whatever the order of the steps, an upload of a selection ends, with all that is kept on the
server. -/
theorem selection_uploaded (wire : Wire) {tempDir : Path} (disk : TempDisk tempDir)
    (readAsText : List UInt8 → String) (sel : Selection) (root : FolderContext) (c : Counts)
    (hscan : handleFileInputSelection readAsText sel.items = some (root, c)) (now : Seconds) :
    ∃ filter, IgnoreFilter.GitIgnoreFilter.new (units (ignoresOf readAsText sel.items)) =
        some filter ∧
      ∀ s, Reachable wire disk ⟨c.total, root⟩ now s →
        Acc (fun s' s => Step wire disk s s') s ∧
          (s.Final wire disk →
            SelectionUploaded tempDir
              (keptFiles (acceptsOf filter) (sel.items.map (seen (rootFolderName sel.items))))
              c s) := by
  obtain ⟨filter, hfilter, hscan⟩ := handleFileInputSelection_eq_some hscan
  have hexact := (scan_exact (acceptsOf filter) (rootFolderName sel.items) sel.items).2 root c hscan
  refine ⟨filter, hfilter, fun s hs => ?_⟩
  have hends := upload_ends wire disk (ScannedTree.ofOnce root hexact.once hexact.length_lt) c.total
    now s hs
  refine ⟨hends.ends, fun hfinal => ?_⟩
  obtain ⟨hended, hwrites, -, hfiles, hbytes⟩ := hends.delivered hfinal
  refine ⟨hended, ?_, ?_, ?_⟩
  · rw [hwrites]
    exact hexact.files.map _
  · rw [hfiles, hexact.fileCount]
    exact hexact.files.length_eq
  · rw [hbytes, hexact.total]
    exact (hexact.files.map _).sum_eq

/-! ## A folder with a file that is left out -/

/-- A text that is a name. -/
def nameOf (s : String) (h : IsName s := by decide) : Name := ⟨s, h⟩

/-- A text of the first characters of Unicode. -/
def readASCII (data : List UInt8) : String := String.ofList (data.map fun b => Char.ofNat b.toNat)

/-- The file `.cfignore` names the folder `logs`. -/
def appItems : List FolderScan.PickedFile :=
  [([nameOf "site"], ⟨nameOf ".cfignore", [108, 111, 103, 115]⟩),
    ([nameOf "site", nameOf "pages"], ⟨nameOf "home", [1, 2]⟩),
    ([nameOf "site", nameOf "logs"], ⟨nameOf "out", [3]⟩)]

theorem nodup_appItems : (appItems.map FolderScan.pathOf).Nodup := by
  decide

theorem apart_appItems : ∀ p ∈ appItems, ∀ q ∈ appItems, ¬FolderScan.pathOf p <+: q.1 := by
  decide

theorem sameRoot_appItems : ∀ p ∈ appItems, ∀ q ∈ appItems, p.1.head? = q.1.head? := by
  decide

/-- A folder that was picked, with an ignore file. -/
def appSelection : Selection where
  items := appItems
  nodup := nodup_appItems
  apart := apart_appItems
  sameRoot := sameRoot_appItems
  length_lt := by decide

/-- What the scan makes of it. -/
def appTree : FolderContext :=
  ⟨[], [.node ⟨nameOf "pages", [⟨nameOf "home", [1, 2]⟩]⟩ []]⟩

theorem scan_appSelection : handleFileInputSelection readASCII appSelection.items =
    some (appTree, ⟨2, 1, 1, [".cfignore", "logs/"]⟩) :=
  Eq.refl _

/-- A folder with an ignore file and a file that it names. -/
theorem selection_uploaded_appSelection :
    ∃ filter, IgnoreFilter.GitIgnoreFilter.new
        (units (ignoresOf readASCII appSelection.items)) = some filter ∧
      ∀ s, Reachable jsonWire (TempDisk.willing (Path.ofNames [])) ⟨2, appTree⟩ epoch s →
        Acc (fun s' s => Step jsonWire (TempDisk.willing (Path.ofNames [])) s s') s ∧
          (s.Final jsonWire (TempDisk.willing (Path.ofNames [])) →
            SelectionUploaded (Path.ofNames [])
              (keptFiles (acceptsOf filter)
                (appSelection.items.map (seen (rootFolderName appSelection.items))))
              ⟨2, 1, 1, [".cfignore", "logs/"]⟩ s) :=
  selection_uploaded jsonWire (TempDisk.willing (Path.ofNames [])) readASCII appSelection appTree
    ⟨2, 1, 1, [".cfignore", "logs/"]⟩ scan_appSelection epoch

end Stratos.FolderUpload
