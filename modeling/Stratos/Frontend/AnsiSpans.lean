import Mathlib.Data.List.Forall2
import Stratos.Frontend.AnsiColors
import Stratos.Lib.Lists

/-!
# The spans of the messages

Each message of the log is shown in an element of its own, with its own spans, but the modes go on
from message to message. A character should be in a span with the classes of the modes in force,
or in none if no mode is on.

A span is opened when the first mode goes on, and not opened again before all modes are off. So it
keeps the classes of the modes with which it was opened (`coloured_iff`), and a message that leaves
a mode on leaves its span open. `eachColoured_iff` says for which messages the spans are right.
-/

namespace Stratos

open Lib Lib.Html

namespace LogColors

/-! ## Classes -/

/-- The classes in the value of a class attribute. -/
def classNames (value : List Char) : List (List Char) := (value.splitOn ' ').filter (· ≠ [])

namespace Modes

/-- The classes of the modes that are on. -/
def classes (modes : Modes) : List (List Char) :=
  (if modes.boldOn then ["intense".toList] else []) ++
  (modes.currentFg.elim [] fun fg => ["ansi-".toList ++ (fgAnsiToNames fg).toList]) ++
  modes.currentBg.elim [] fun bg => ["ansi-background-".toList ++ (bgAnsiToNames bg).toList]

/-- The spans in which a character should be. -/
def spans (modes : Modes) : List (List (List Char)) := if modes.on then [modes.classes] else []

end Modes

theorem classNames_cons {name : List Char} (hne : name ≠ []) (hspace : ' ' ∉ name)
    (rest : List Char) : classNames (name ++ ' ' :: rest) = name :: classNames rest := by
  rw [classNames, List.splitOn_append_cons_self_of_not_mem hspace, List.filter_cons_of_pos]
  · rfl
  · exact decide_eq_true hne

theorem classNames_eq_singleton {name : List Char} (hne : name ≠ []) (hspace : ' ' ∉ name) :
    classNames name = [name] := by
  rw [classNames, List.splitOn_eq_singleton hspace]
  exact List.filter_cons_of_pos (decide_eq_true hne)

/-- The names that `getColor` gives, with the one for a colour that there is not. -/
def colorNames : List (List Char) :=
  ["black".toList, "red".toList, "green".toList, "yellow".toList, "blue".toList, "magenta".toList,
    "cyan".toList, "white".toList, "undefined".toList]

theorem fgAnsiToNames_mem (mode : ℤ) : (fgAnsiToNames mode).toList ∈ colorNames := by
  unfold fgAnsiToNames
  split <;> decide

theorem space_notMem_name (mode : ℤ) : ' ' ∉ (fgAnsiToNames mode).toList := by
  have hall : ∀ name ∈ colorNames, ' ' ∉ name := by decide
  exact hall _ (fgAnsiToNames_mem mode)

/-- The attribute has the classes of the modes. -/
theorem classNames_classValue (modes : Modes) : classNames modes.classValue = modes.classes := by
  obtain ⟨fg, bg, bold⟩ := modes
  have hbg : classNames ((bg : Option Background).elim [] fun bg =>
      "ansi-background-".toList ++ (bgAnsiToNames bg).toList) =
      bg.elim [] fun bg => ["ansi-background-".toList ++ (bgAnsiToNames bg).toList] := by
    cases bg with
    | none => rfl
    | some bg =>
      refine classNames_eq_singleton (List.append_ne_nil_of_left_ne_nil (by decide) _) ?_
      simp [bgAnsiToNames, space_notMem_name]
  have hfg : ∀ rest, classNames (((fg : Option Foreground).elim [] fun fg =>
      "ansi-".toList ++ (fgAnsiToNames fg).toList ++ " ".toList) ++ rest) =
      (fg.elim [] fun fg => ["ansi-".toList ++ (fgAnsiToNames fg).toList]) ++
        classNames rest := by
    intro rest
    cases fg with
    | none => rfl
    | some fg =>
      have hcons := @classNames_cons ("ansi-".toList ++ (fgAnsiToNames fg).toList) (by simp)
        (by simp [space_notMem_name]) rest
      simpa using hcons
  have hbold : ∀ rest, classNames ((if bold then "intense ".toList else []) ++ rest) =
      (if bold then ["intense".toList] else []) ++ classNames rest := by
    intro rest
    cases bold with
    | false => rfl
    | true => exact @classNames_cons "intense".toList (by decide) (by decide) rest
  rw [Modes.classValue, Modes.classes, List.append_assoc, hbold, hfg, hbg, List.append_assoc]

theorem fgAnsiToNames_injective {mode mode' : ℤ} (h : mode ≤ 37 ∧ mode ≥ 30)
    (h' : mode' ≤ 37 ∧ mode' ≥ 30)
    (heq : (fgAnsiToNames mode).toList = (fgAnsiToNames mode').toList) : mode = mode' := by
  have hmem : ∀ mode : ℤ, mode ≤ 37 ∧ mode ≥ 30 → mode ∈ [30, 31, 32, 33, 34, 35, 36, 37] := by
    intro mode h
    simp only [List.mem_cons, List.not_mem_nil, or_false]
    omega
  have hall : ∀ mode ∈ ([30, 31, 32, 33, 34, 35, 36, 37] : List ℤ),
      ∀ mode' ∈ ([30, 31, 32, 33, 34, 35, 36, 37] : List ℤ),
        (fgAnsiToNames mode).toList = (fgAnsiToNames mode').toList → mode = mode' := by
    decide
  exact hall _ (hmem mode h) _ (hmem mode' h') heq

namespace Modes

theorem mem_classes {modes : Modes} {name : List Char} :
    name ∈ modes.classes ↔ (modes.boldOn = true ∧ name = "intense".toList) ∨
      (∃ fg ∈ modes.currentFg, name = "ansi-".toList ++ (fgAnsiToNames fg).toList) ∨
      ∃ bg ∈ modes.currentBg, name = "ansi-background-".toList ++ (bgAnsiToNames bg).toList := by
  obtain ⟨fg, bg, bold⟩ := modes
  rw [classes, List.mem_append, List.mem_append, or_assoc]
  refine or_congr ?_ (or_congr ?_ ?_)
  · cases bold <;> simp
  · cases fg <;> simp
  · cases bg <;> simp

theorem foreground_ne_background (mode mode' : ℤ) :
    "ansi-".toList ++ (fgAnsiToNames mode).toList ≠
      "ansi-background-".toList ++ (bgAnsiToNames mode').toList := by
  have hall : ∀ name ∈ colorNames, ∀ name' ∈ colorNames,
      "ansi-".toList ++ name ≠ "ansi-background-".toList ++ name' := by decide
  exact hall _ (fgAnsiToNames_mem mode) _ (fgAnsiToNames_mem (mode' - 10))

theorem intense_mem_iff (modes : Modes) :
    "intense".toList ∈ modes.classes ↔ modes.boldOn = true := by
  rw [mem_classes]
  constructor
  · rintro (⟨hbold, -⟩ | ⟨fg, -, hname⟩ | ⟨bg, -, hname⟩)
    · exact hbold
    · simp at hname
    · simp at hname
  · exact fun hbold => Or.inl ⟨hbold, rfl⟩

theorem foreground_mem_iff (modes : Modes) (fg : Foreground) :
    "ansi-".toList ++ (fgAnsiToNames fg).toList ∈ modes.classes ↔ fg ∈ modes.currentFg := by
  rw [mem_classes]
  constructor
  · rintro (⟨-, hname⟩ | ⟨fg', hfg', hname⟩ | ⟨bg, -, hname⟩)
    · simp at hname
    · have heq := fgAnsiToNames_injective fg.2 fg'.2 (List.append_cancel_left hname)
      rwa [Subtype.ext heq]
    · exact absurd hname (foreground_ne_background _ _)
  · exact fun hfg => Or.inr (Or.inl ⟨fg, hfg, rfl⟩)

theorem background_mem_iff (modes : Modes) (bg : Background) :
    "ansi-background-".toList ++ (bgAnsiToNames bg).toList ∈ modes.classes ↔
      bg ∈ modes.currentBg := by
  rw [mem_classes]
  constructor
  · rintro (⟨-, hname⟩ | ⟨fg, -, hname⟩ | ⟨bg', hbg', hname⟩)
    · simp at hname
    · exact absurd hname.symm (foreground_ne_background _ _)
    · have hbg := bg.2
      have hbg'' := bg'.2
      have heq := @fgAnsiToNames_injective (bg - 10) (bg' - 10) (by omega) (by omega)
        (List.append_cancel_left hname)
      have hval : bg = bg' := Subtype.ext (by omega)
      rwa [hval]
  · exact fun hbg => Or.inr (Or.inr ⟨bg, hbg, rfl⟩)

/-- Different modes have different classes. -/
theorem classes_injective {modes modes' : Modes} (h : modes.classes = modes'.classes) :
    modes = modes' := by
  have hfg : modes.currentFg = modes'.currentFg := Option.ext fun fg => by
    rw [← Option.mem_def, ← foreground_mem_iff, h, foreground_mem_iff, Option.mem_def]
  have hbg : modes.currentBg = modes'.currentBg := Option.ext fun bg => by
    rw [← Option.mem_def, ← background_mem_iff, h, background_mem_iff, Option.mem_def]
  have hbold : modes.boldOn = modes'.boldOn := Bool.eq_iff_iff.2 (by
    rw [← intense_mem_iff, h, intense_mem_iff])
  obtain ⟨fg, bg, bold⟩ := modes
  obtain ⟨fg', bg', bold'⟩ := modes'
  exact Modes.mk.injEq .. ▸ ⟨hfg, hbg, hbold⟩

end Modes

/-! ## What should be shown -/

/-- The characters of a message, each with the modes in force. -/
def inForce : Modes → List Item → List (Char × Modes)
  | _, [] => []
  | modes, .char c :: rest => (c, modes) :: inForce modes rest
  | modes, .sequence parameters :: rest => inForce (modes.after parameters) rest

/-- The modes in force at the end. -/
def modesAfter : Modes → List Item → Modes
  | modes, [] => modes
  | modes, .char _ :: rest => modesAfter modes rest
  | modes, .sequence parameters :: rest => modesAfter (modes.after parameters) rest

/-- The characters of the HTML, where a sign that starts a tag is a reference. -/
def escapedInForce (modes : Modes) (parts : List Item) : List (Char × Modes) :=
  (inForce modes parts).flatMap fun p => (escapeChar p.1).map (·, p.2)

/-- A character with the spans around it is in the spans of the modes. A line feed is not
visible. -/
def HasColours (shown : Char × List (List Char)) (expected : Char × Modes) : Prop :=
  shown.1 = expected.1 ∧
    (expected.1 ≠ '\n' → shown.2.map classNames = expected.2.spans)

/-- The spans of the HTML match, and every character is in those of the modes in force. -/
def Coloured (modes : Modes) (message html : List Char) : Prop :=
  ∃ shown, (read html).bind (spanned []) = some shown ∧
    List.Forall₂ HasColours shown (escapedInForce modes (items message))

/-- Each message is coloured after the modes of those before it. -/
def EachColoured : AnsiColors → Modes → List (List Char) → Prop
  | _, _, [] => True
  | colors, modes, message :: messages =>
    Coloured modes message (colors.ansiColorsToHtml message).2 ∧
      EachColoured (colors.ansiColorsToHtml message).1 (modesAfter modes (items message)) messages

/-- At every character the modes are off, or those of the open span, which are the first that were
on. At the end they are off. -/
def KeepsColours : Option Modes → Modes → List Chunk → Prop
  | _, modes, [] => modes.on = false
  | opened, modes, .char c :: rest =>
    (c ≠ '\n' → ∀ first ∈ opened, first = modes) ∧ KeepsColours opened modes rest
  | opened, modes, .sequences matched :: rest =>
    KeepsColours (if (modes.afterAll matched).on then opened.or (some (modes.afterAll matched))
      else none) (modes.afterAll matched) rest

/-! ## One message -/

theorem inForce_append (modes : Modes) (parts parts' : List Item) :
    inForce modes (parts ++ parts') =
      inForce modes parts ++ inForce (modesAfter modes parts) parts' := by
  induction parts generalizing modes with
  | nil => rfl
  | cons item parts ih =>
    cases item with
    | char c => exact congrArg ((c, modes) :: ·) (ih modes)
    | sequence parameters => exact ih _

theorem modesAfter_append (modes : Modes) (parts parts' : List Item) :
    modesAfter modes (parts ++ parts') = modesAfter (modesAfter modes parts) parts' := by
  induction parts generalizing modes with
  | nil => rfl
  | cons item parts ih => cases item <;> exact ih _

theorem inForce_chars (modes : Modes) (chars : List Char) :
    inForce modes (chars.map Item.char) = chars.map (·, modes) ∧
      modesAfter modes (chars.map Item.char) = modes := by
  induction chars with
  | nil => exact ⟨rfl, rfl⟩
  | cons c chars ih => exact ⟨congrArg ((c, modes) :: ·) ih.1, ih.2⟩

/-- The sequences of a match give line feeds and their modes. -/
theorem inForce_sequences (modes : Modes) (matched : List Sequence) :
    (inForce modes (Chunk.items (.sequences matched))).map Prod.fst =
        matched.flatMap Sequence.lineFeeds ∧
      modesAfter modes (Chunk.items (.sequences matched)) = modes.afterAll matched := by
  induction matched generalizing modes with
  | nil => exact ⟨rfl, rfl⟩
  | cons s matched ih =>
    obtain ⟨hchars, hafter⟩ := inForce_chars (modes.after s.graphicModes) s.lineFeeds
    obtain ⟨hfirst, hmodes⟩ := ih (modes.after s.graphicModes)
    rw [Chunk.items, List.flatMap_cons, ← Chunk.items, List.cons_append, inForce, modesAfter,
      inForce_append, modesAfter_append, hchars, hafter, hmodes, List.map_append, hfirst,
      List.flatMap_cons, List.map_map]
    refine ⟨congrArg (· ++ _) ?_, rfl⟩
    exact List.map_id' _

/-- After a message the modes are those in force, and a span is open if one of them is on. -/
theorem markup_fst (modes : Modes) (parts : List Chunk) :
    (AnsiColors.markup ⟨modes.on, modes⟩ parts).1 =
      ⟨(modesAfter modes (parts.flatMap Chunk.items)).on,
        modesAfter modes (parts.flatMap Chunk.items)⟩ := by
  induction parts generalizing modes with
  | nil => rfl
  | cons chunk rest ih =>
    rw [List.flatMap_cons, modesAfter_append]
    cases chunk with
    | char c => exact ih modes
    | sequences matched =>
      rw [(inForce_sequences modes matched).2]
      exact ih _

/-- The spans around the characters while a span is open. -/
def openSpans (opened : Option Modes) : List (List Char) := opened.toList.map Modes.classValue

theorem map_classNames_openSpans {opened : Option Modes} {modes : Modes}
    (hon : modes.on = opened.isSome) :
    (openSpans opened).map classNames = modes.spans ↔ ∀ first ∈ opened, first = modes := by
  rw [Modes.spans, hon]
  cases opened with
  | none => simp [openSpans]
  | some first =>
    simp only [openSpans, Option.toList_some, List.map_cons, List.map_nil, classNames_classValue,
      Option.isSome_some, if_true, Option.mem_some_iff, forall_eq', List.cons.injEq, and_true]
    exact ⟨Modes.classes_injective, congrArg Modes.classes⟩

theorem spanned_text_append (spans : List (List Char)) (chars : List Char)
    (nodes : List Markup) : spanned spans (chars.map Markup.text ++ nodes) =
      (spanned spans nodes).map (chars.map (·, spans) ++ ·) := by
  induction chars with
  | nil => cases h : spanned spans nodes <;> simp [h]
  | cons c chars ih =>
    rw [List.map_cons, List.cons_append, spanned, ih, Option.map_map]
    rfl

/-- The span that is open after a match. -/
theorem spanned_spanTags {opened : Option Modes} (modes : Modes) (nodes : List Markup) :
    spanned (openSpans opened) (AnsiColors.spanTags ⟨opened.isSome, modes⟩ ++ nodes) =
      spanned (openSpans (if modes.on then opened.or (some modes) else none)) nodes := by
  rw [AnsiColors.spanTags]
  cases hon : modes.on <;> cases opened <;> simp [openSpans, spanned]

theorem hasColours_escapeChar {spans : List (List Char)} {modes : Modes} (c : Char) :
    List.Forall₂ HasColours ((escapeChar c).map (·, spans)) ((escapeChar c).map (·, modes)) ↔
      (c ≠ '\n' → spans.map classNames = modes.spans) := by
  rw [List.forall₂_map_left_iff, List.forall₂_map_right_iff, List.forall₂_same]
  simp only [HasColours, true_and]
  rw [escapeChar]
  split_ifs with hlt
  · subst hlt
    simp
  · simp

/-- Line feeds are in no visible span. -/
theorem hasColours_lineFeeds (spans : List (List Char)) {lineFeeds : List (Char × Modes)}
    (h : ∀ p ∈ lineFeeds, p.1 = '\n') :
    List.Forall₂ HasColours ((lineFeeds.map Prod.fst).map (·, spans))
      (lineFeeds.flatMap fun p => (escapeChar p.1).map (·, p.2)) := by
  induction lineFeeds with
  | nil => exact List.Forall₂.nil
  | cons p lineFeeds ih =>
    obtain ⟨hp, hrest⟩ := List.forall_mem_cons.1 h
    obtain ⟨c, modes⟩ := p
    dsimp only at hp
    subst hp
    exact List.Forall₂.cons ⟨rfl, fun hne => absurd rfl hne⟩ (ih hrest)

/-- The rest of a message is shown with the right spans, where a span may be open. -/
theorem hasColours_iff {opened : Option Modes} {modes : Modes} {parts : List Chunk}
    (hon : modes.on = opened.isSome) (hvalid : ∀ chunk ∈ parts, chunk.Valid) :
    (∃ shown, spanned (openSpans opened) (AnsiColors.markup ⟨opened.isSome, modes⟩ parts).2 =
        some shown ∧
      List.Forall₂ HasColours shown (escapedInForce modes (parts.flatMap Chunk.items))) ↔
      KeepsColours opened modes parts := by
  induction parts generalizing opened modes with
  | nil =>
    rw [KeepsColours, hon]
    cases opened with
    | none => exact iff_of_true ⟨[], rfl, List.Forall₂.nil⟩ rfl
    | some first => exact iff_of_false (fun ⟨_, h, _⟩ => nomatch h) (fun h => nomatch h)
  | cons chunk rest ih =>
    obtain ⟨hchunk, hrest⟩ := List.forall_mem_cons.1 hvalid
    cases chunk with
    | char c =>
      have hexpected : escapedInForce modes ((Chunk.char c :: rest).flatMap Chunk.items) =
          (escapeChar c).map (·, modes) ++ escapedInForce modes (rest.flatMap Chunk.items) := rfl
      rw [AnsiColors.markup, spanned_text_append, hexpected, KeepsColours, ← ih hon hrest,
        ← map_classNames_openSpans hon, ← hasColours_escapeChar]
      simp only [Option.map_eq_some_iff]
      constructor
      · rintro ⟨_, ⟨shown, hshown, rfl⟩, hall⟩
        obtain ⟨hhere, hlater⟩ := (forall₂_append_iff (by simp)).1 hall
        exact ⟨hhere, shown, hshown, hlater⟩
      · rintro ⟨hhere, shown, hshown, hlater⟩
        exact ⟨_, ⟨shown, hshown, rfl⟩, (forall₂_append_iff (by simp)).2 ⟨hhere, hlater⟩⟩
    | sequences matched =>
      obtain ⟨hfirst, hmodes⟩ := inForce_sequences modes matched
      have hlineFeeds : ∀ p ∈ inForce modes (Chunk.items (.sequences matched)), p.1 = '\n' := by
        intro p hp
        have hmem := List.mem_map_of_mem (f := Prod.fst) hp
        rw [hfirst] at hmem
        obtain ⟨s, hs, hc⟩ := List.mem_flatMap.1 hmem
        exact (hchunk s hs).2 _ hc
      have hexpected : escapedInForce modes
          ((Chunk.sequences matched :: rest).flatMap Chunk.items) =
          (inForce modes (Chunk.items (.sequences matched))).flatMap
              (fun p => (escapeChar p.1).map (·, p.2)) ++
            escapedInForce (modes.afterAll matched) (rest.flatMap Chunk.items) := by
        rw [escapedInForce, List.flatMap_cons, inForce_append, hmodes, List.flatMap_append]
        rfl
      have hafter : (modes.afterAll matched).on =
          (if (modes.afterAll matched).on then opened.or (some (modes.afterAll matched))
            else none).isSome := by
        cases hon' : (modes.afterAll matched).on <;> simp
      have hhere := hasColours_lineFeeds
        (openSpans (if (modes.afterAll matched).on then opened.or (some (modes.afterAll matched))
          else none)) hlineFeeds
      rw [AnsiColors.markup, spanned_spanTags, spanned_text_append, hexpected, KeepsColours,
        ← ih hafter hrest, ← hafter, ← hfirst]
      simp only [Option.map_eq_some_iff]
      constructor
      · rintro ⟨_, ⟨shown, hshown, rfl⟩, hall⟩
        exact ⟨shown, hshown, ((forall₂_append_iff hhere.length_eq).1 hall).2⟩
      · rintro ⟨shown, hshown, hlater⟩
        exact ⟨_, ⟨shown, hshown, rfl⟩, (forall₂_append_iff hhere.length_eq).2 ⟨hhere, hlater⟩⟩

/-- A message that begins with all modes off is coloured exactly when it keeps its colours. -/
theorem coloured_iff (message : List Char) :
    Coloured {} message (({} : AnsiColors).ansiColorsToHtml message).2 ↔
      KeepsColours none {} (chunks message) := by
  rw [Coloured, read_ansiColorsToHtml, (chunks_spec message).2]
  exact @hasColours_iff none {} (chunks message) rfl (chunks_spec message).1

theorem KeepsColours.modesAfter {opened : Option Modes} {modes : Modes} {parts : List Chunk}
    (h : KeepsColours opened modes parts) :
    modesAfter modes (parts.flatMap Chunk.items) = {} := by
  induction parts generalizing opened modes with
  | nil =>
    obtain ⟨fg, bg, bold⟩ := modes
    cases fg <;> cases bg <;> cases bold <;> first | rfl | exact nomatch h
  | cons chunk rest ih =>
    rw [List.flatMap_cons, modesAfter_append]
    cases chunk with
    | char c => exact ih h.2
    | sequences matched =>
      rw [(inForce_sequences modes matched).2]
      exact ih h

/-- The messages are coloured exactly when each of them keeps the colours of the spans that it
opens, and ends with all modes off. -/
theorem eachColoured_iff (messages : List (List Char)) :
    EachColoured {} {} messages ↔
      ∀ message ∈ messages, KeepsColours none {} (chunks message) := by
  induction messages with
  | nil => exact iff_of_true trivial fun message h => nomatch h
  | cons message messages ih =>
    rw [EachColoured, coloured_iff, List.forall_mem_cons]
    refine and_congr_right fun h => ?_
    have hmodes : modesAfter {} (items message) = {} := by
      rw [(chunks_spec message).2]
      exact h.modesAfter
    have hcolors : (({} : AnsiColors).ansiColorsToHtml message).1 = {} := by
      rw [AnsiColors.ansiColorsToHtml_eq]
      refine (markup_fst {} (chunks message)).trans ?_
      rw [← (chunks_spec message).2, hmodes]
      rfl
    rw [hmodes, hcolors, ih]

theorem chunks_text_append {s : Sequence} (hs : s.Valid) {left : List Char}
    (hleft : sgr left = none) (hhead : left.head? ≠ some '\n') :
    chunks (s.text ++ left) = .sequences [s] :: chunks left := by
  have hnone : ansiEscapeExtractor left = none := Option.map_eq_none_iff.2 hleft
  have hsequences : sequences (s.text ++ left) = ([s], left) := by
    rw [sequences_of_some (ansiEscapeExtractor_eq_some_iff.2 ⟨rfl, hs, hhead⟩),
      sequences_of_none hnone]
  rw [chunks_of_ne_nil (by rw [hsequences]; exact List.cons_ne_nil _ _), hsequences]

/-- A span that is open is not closed when its colour changes. -/
theorem not_eachColoured_green :
    ¬EachColoured {} {} ["\x1b[31mA\x1b[32mB\x1b[0m".toList] := by
  rintro ⟨hcoloured, -⟩
  have hvalid : ∀ modes ∈ ["31".toList, "32".toList, "0".toList],
      Sequence.Valid ⟨modes, []⟩ := by
    have hall : (["31".toList, "32".toList, "0".toList].all fun modes =>
        modes.all isParameter) = true := by decide
    intro modes hmodes
    exact ⟨List.all_eq_true.1 (List.all_eq_true.1 hall modes hmodes), fun c hc => nomatch hc⟩
  have hchunks : chunks "\x1b[31mA\x1b[32mB\x1b[0m".toList =
      [.sequences [⟨"31".toList, []⟩], .char 'A', .sequences [⟨"32".toList, []⟩], .char 'B',
        .sequences [⟨"0".toList, []⟩]] := by
    have hnone : ∀ {c : Char} (rest : List Char), c ≠ '\x1b' →
        ansiEscapeMatcher (c :: rest) = none := fun rest hc =>
      ansiEscapeMatcher_eq_none_iff.2 (sgr_eq_none hc rest)
    change chunks (Sequence.text ⟨"31".toList, []⟩ ++ 'A' :: (Sequence.text ⟨"32".toList, []⟩ ++
      'B' :: (Sequence.text ⟨"0".toList, []⟩ ++ []))) = _
    rw [chunks_text_append (hvalid _ (by simp)) (sgr_eq_none (by decide) _) (by decide),
      chunks_of_none (hnone _ (by decide)),
      chunks_text_append (hvalid _ (by simp)) (sgr_eq_none (by decide) _) (by decide),
      chunks_of_none (hnone _ (by decide)),
      chunks_text_append (hvalid _ (by simp)) rfl (by decide), chunks]
  rw [coloured_iff, hchunks] at hcoloured
  have hsame := hcoloured.2.1 (by decide) (({} : Modes).afterAll [⟨"31".toList, []⟩]) rfl
  exact absurd hsame (by decide)

end LogColors

end Stratos
