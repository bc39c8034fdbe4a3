import Mathlib.Data.List.Infix
import Mathlib.Algebra.Order.Ring.Int
import Stratos.Lib.Html
import Stratos.Lib.JsText

/-!
# Colours in the log viewer

The log viewer shows each message in an element of its own, after `ansiColorsToHtml` has replaced
its escape sequences by spans. The modes of the text, and whether a span is open, are kept from
message to message.

Two expressions find the sequences. The first matches sequences that follow each other, with line
feeds between them, and the second takes such a match apart again. Its modes are collected in one
text, with the line feeds as negative numbers, and then handled one after the other
(`AnsiColors.smartReplacer_eq`). So the HTML is the markup of the message
(`AnsiColors.ansiColorsToHtml_eq`).

Only the sign that starts a tag is escaped. `showsText_iff` says which messages are shown as the
text that they are.
-/

namespace Stratos

open Lib Lib.Html

namespace LogColors

/-! ## The code -/

/-- Map of ANSI foreground color codes to color names -/
def fgAnsiToNames : ℤ → String
  | 30 => "black"
  | 31 => "red"
  | 32 => "green"
  | 33 => "yellow"
  | 34 => "blue"
  | 35 => "magenta"
  | 36 => "cyan"
  | 37 => "white"
  | _ => "undefined"

/-- Map of ANSI background color codes to color names -/
def bgAnsiToNames (mode : ℤ) : String := fgAnsiToNames (mode - 10)

/-- A mode that sets the colour of the text. -/
abbrev Foreground := {mode : ℤ // mode ≤ 37 ∧ mode ≥ 30}

/-- A mode that sets the colour behind the text. -/
abbrev Background := {mode : ℤ // mode ≤ 47 ∧ mode ≥ 40}

/-- The modes of the text. -/
structure Modes where
  currentFg : Option Foreground := none
  currentBg : Option Background := none
  boldOn : Bool := false
  deriving DecidableEq

/-- The state of the colorizer : whether a span is open, and the modes that are on. -/
structure AnsiColors where
  spanOpen : Bool := false
  modes : Modes := {}
  deriving DecidableEq

namespace Modes

/-- The modes after code 0, which clears them all. -/
def reset (_modes : Modes) : Modes := { currentFg := none, currentBg := none, boldOn := false }

/-- A mode that is no number is none of the cases. -/
def handleMode (modes : Modes) : Option ℤ → Modes
  | none => modes
  | some 0 => modes.reset
  | some 1 => { modes with boldOn := true }
  | some 22 => { modes with boldOn := false }
  | some 39 => { modes with currentFg := none }
  | some 49 => { modes with currentBg := none }
  | some mode =>
    if h : mode ≤ 37 ∧ mode ≥ 30 then { modes with currentFg := some ⟨mode, h⟩ }
    else if h : mode ≤ 47 ∧ mode ≥ 40 then { modes with currentBg := some ⟨mode, h⟩ }
    else modes

/-- `this.boldOn || this.currentFg || this.currentBg` -/
def on (modes : Modes) : Bool := modes.boldOn || modes.currentFg.isSome || modes.currentBg.isSome

/-- The value of the class attribute. -/
def classValue (modes : Modes) : List Char :=
  (if modes.boldOn then "intense ".toList else []) ++
  (modes.currentFg.elim [] fun fg =>
    "ansi-".toList ++ (fgAnsiToNames fg).toList ++ " ".toList) ++
  modes.currentBg.elim [] fun bg => "ansi-background-".toList ++ (bgAnsiToNames bg).toList

end Modes

/-- `parseInt(text, 10)`, for a text without white space and plus sign. -/
def parseInt (text : List Char) : Option ℤ :=
  match text with
  | '-' :: digits => (number digits).map fun n => -(n : ℤ)
  | digits => (number digits).map Int.ofNat
where
  /-- The number of the digits at the start. -/
  number (text : List Char) : Option ℕ :=
    if text.takeWhile Char.isDigit = [] then none
    else some (Nat.ofDigitChars 10 (text.takeWhile Char.isDigit) 0)

/-- `[0-9;]` -/
def isParameter (c : Char) : Bool := c.isDigit || c == ';'

/-- `\x1B\[([0-9;]*)m` at the start of a text: its group, and what is left. -/
def sgr : List Char → Option (List Char × List Char)
  | '\x1b' :: '[' :: text =>
    match text.dropWhile isParameter with
    | 'm' :: left => some (text.takeWhile isParameter, left)
    | _ => none
  | _ => none

/-- The groups of `ansiEscapeExtractor`. -/
structure Sequence where
  graphicModes : List Char
  lineFeeds : List Char
  deriving DecidableEq

/-- The text of a match. -/
def Sequence.text (s : Sequence) : List Char :=
  '\x1b' :: '[' :: (s.graphicModes ++ 'm' :: s.lineFeeds)

/-- A match at the start of a text, and what is left. -/
def ansiEscapeExtractor (text : List Char) : Option (Sequence × List Char) :=
  (sgr text).map fun r => (⟨r.1, r.2.takeWhile (· == '\n')⟩, r.2.dropWhile (· == '\n'))

theorem length_sgr {text left : List Char} {parameters : List Char}
    (h : sgr text = some (parameters, left)) : left.length < text.length := by
  unfold sgr at h
  split at h
  · next text =>
    split at h
    · next left' hdrop =>
      obtain ⟨-, rfl⟩ := Prod.mk.inj (Option.some.inj h)
      have hle := (List.dropWhile_suffix (l := text) isParameter).length_le
      rw [hdrop] at hle
      simp only [List.length_cons] at hle ⊢
      omega
    · cases h
  · cases h

theorem length_ansiEscapeExtractor {text left : List Char} {s : Sequence}
    (h : ansiEscapeExtractor text = some (s, left)) : left.length < text.length := by
  obtain ⟨⟨_, left'⟩, hsgr, heq⟩ := Option.map_eq_some_iff.1 h
  obtain ⟨-, rfl⟩ := Prod.mk.inj heq
  have hle := (List.dropWhile_suffix (l := left') (· == '\n')).length_le
  exact hle.trans_lt (length_sgr hsgr)

/-- The sequences at the start of a text, and what is left. -/
def sequences (text : List Char) : List Sequence × List Char :=
  match _h : ansiEscapeExtractor text with
  | some (s, left) => (s :: (sequences left).1, (sequences left).2)
  | none => ([], text)
termination_by text.length
decreasing_by all_goals exact length_ansiEscapeExtractor _h

theorem length_sequences (text : List Char) : (sequences text).2.length ≤ text.length := by
  induction hn : text.length using Nat.strong_induction_on generalizing text with
  | _ n ih =>
  subst hn
  rw [sequences]
  split
  · next s left h =>
    have hlt := length_ansiEscapeExtractor h
    exact (ih left.length hlt left rfl).trans hlt.le
  · exact le_rfl

/-- A match of `ansiEscapeMatcher` at the start of a text, and what is left. -/
def ansiEscapeMatcher (text : List Char) : Option (List Char × List Char) :=
  if (sequences text).1 = [] then none
  else some ((sequences text).1.flatMap Sequence.text, (sequences text).2)

theorem length_ansiEscapeMatcher {text m left : List Char}
    (h : ansiEscapeMatcher text = some (m, left)) : left.length < text.length := by
  rw [ansiEscapeMatcher] at h
  split_ifs at h with hnil
  obtain ⟨-, rfl⟩ := Prod.mk.inj (Option.some.inj h)
  rw [sequences] at hnil ⊢
  split at hnil
  · next s left h =>
    exact (length_sequences left).trans_lt (length_ansiEscapeExtractor h)
  · exact absurd rfl hnil

/-- `match.replace(ansiEscapeExtractor, parser)` -/
def replaceSequences (parser : Sequence → List Char) : List Char → List Char
  | [] => []
  | c :: rest =>
    match _h : ansiEscapeExtractor (c :: rest) with
    | some (s, left) => parser s ++ replaceSequences parser left
    | none => c :: replaceSequences parser rest
termination_by text => text.length
decreasing_by
  · exact length_ansiEscapeExtractor _h
  · exact Nat.lt_succ_self _

/-- What a group of adjacent sequences is replaced by : the line feeds as a negative count, and the
modes, each ended by a semicolon. -/
def ansiGroupParser (s : Sequence) : List Char :=
  (if s.lineFeeds ≠ [] then JsText.decimal (-s.lineFeeds.length) ++ [';'] else []) ++
    -- An empty mode string means reset all
    if s.graphicModes = [] then ['0', ';'] else s.graphicModes ++ [';']

/-- One mode of the loop in `smartReplacer`, with the line feeds so far. -/
def switchMode (r : Modes × List Char) (mode : Option ℤ) : Modes × List Char :=
  if mode.any (· < 0) then (r.1, r.2 ++ List.replicate (mode.getD 0).natAbs '\n')
  else (r.1.handleMode mode, r.2)

namespace AnsiColors

/-- Closes the span that is open, or opens one for the modes, but never one for another. -/
def makeSpan (colors : AnsiColors) : AnsiColors × List Char :=
  let span := if colors.modes.on then
    "<span class=\"".toList ++ colors.modes.classValue ++ "\">".toList else []
  if (span ≠ []) ≠ colors.spanOpen then
    ({ colors with spanOpen := span ≠ [] },
      (if colors.spanOpen then "</span>".toList else []) ++ span)
  else (colors, [])

/-- Replaces a group of sequences by a span, with the line feeds in it. -/
def smartReplacer (colors : AnsiColors) (m : List Char) : AnsiColors × List Char :=
  let modes := (replaceSequences ansiGroupParser m).splitOn ';'
  let r := (modes.dropLast.map parseInt).foldl switchMode (colors.modes, [])
  let span := makeSpan { colors with modes := r.1 }
  (span.1, span.2 ++ r.2)

/-- `str.replace(ansiEscapeMatcher, this.smartReplacer.bind(this))` -/
def replaceMatches (colors : AnsiColors) : List Char → AnsiColors × List Char
  | [] => (colors, [])
  | c :: rest =>
    match _h : ansiEscapeMatcher (c :: rest) with
    | some (m, left) =>
      let span := colors.smartReplacer m
      let replaced := replaceMatches span.1 left
      (replaced.1, span.2 ++ replaced.2)
    | none =>
      let replaced := replaceMatches colors rest
      (replaced.1, c :: replaced.2)
termination_by text => text.length
decreasing_by
  · exact length_ansiEscapeMatcher _h
  · exact Nat.lt_succ_self _

/-- The html of a text, its markup escaped and its sequences made spans. -/
def ansiColorsToHtml (colors : AnsiColors) (str : List Char) : AnsiColors × List Char :=
  colors.replaceMatches (escape str) -- Escape embedded markup

end AnsiColors

/-! ## A message as its sequences and the text between them -/

/-- A character of a message, or a sequence with its parameters. -/
inductive Item
  | char (c : Char)
  | sequence (parameters : List Char)
  deriving DecidableEq

/-- The characters and the SGR sequences of a text. -/
def items : List Char → List Item
  | [] => []
  | c :: rest =>
    match _h : sgr (c :: rest) with
    | some (parameters, left) => .sequence parameters :: items left
    | none => .char c :: items rest
termination_by text => text.length
decreasing_by
  · exact length_sgr _h
  · exact Nat.lt_succ_self _

/-- The message without its sequences. -/
def stripSequences (message : List Char) : List Char :=
  (items message).filterMap fun
    | .char c => some c
    | .sequence _ => none

/-- The modes of a sequence, where no parameters are a reset. -/
def modesOf (parameters : List Char) : List (Option ℤ) :=
  if parameters = [] then [some 0] else (parameters.splitOn ';').map parseInt

/-- The modes in force after a sequence. -/
def Modes.after (modes : Modes) (parameters : List Char) : Modes :=
  (modesOf parameters).foldl Modes.handleMode modes

/-- The modes in force after some sequences. -/
def Modes.afterAll (modes : Modes) (matched : List Sequence) : Modes :=
  matched.foldl (fun modes s => modes.after s.graphicModes) modes

/-- A character, or sequences that are matched together. -/
inductive Chunk
  | char (c : Char)
  | sequences (matched : List Sequence)

/-- The characters of a text and its groups of adjacent escape sequences. -/
def chunks : List Char → List Chunk
  | [] => []
  | c :: rest =>
    match _h : ansiEscapeMatcher (c :: rest) with
    | some (_, left) => .sequences (sequences (c :: rest)).1 :: chunks left
    | none => .char c :: chunks rest
termination_by text => text.length
decreasing_by
  · exact length_ansiEscapeMatcher _h
  · exact Nat.lt_succ_self _

/-! ## The two expressions -/

theorem sgr_eq_some_iff {text parameters left : List Char} :
    sgr text = some (parameters, left) ↔
      text = '\x1b' :: '[' :: (parameters ++ 'm' :: left) ∧
        ∀ c ∈ parameters, isParameter c = true := by
  constructor
  · intro h
    unfold sgr at h
    split at h
    · next text =>
      split at h
      · next left' hdrop =>
        obtain ⟨rfl, rfl⟩ := Prod.mk.inj (Option.some.inj h)
        rw [← hdrop, List.takeWhile_append_dropWhile]
        exact ⟨rfl, fun c => List.mem_takeWhile_imp⟩
      · cases h
    · cases h
  · rintro ⟨rfl, h⟩
    have htake : (parameters ++ 'm' :: left).takeWhile isParameter = parameters ++ [] :=
      List.takeWhile_append_of_pos h
    have hdrop : (parameters ++ 'm' :: left).dropWhile isParameter = 'm' :: left :=
      List.dropWhile_append_of_pos h
    simp only [sgr, hdrop, htake, List.append_nil]

/-- The groups of a match are what the expression says. -/
def Sequence.Valid (s : Sequence) : Prop :=
  (∀ c ∈ s.graphicModes, isParameter c = true) ∧ ∀ c ∈ s.lineFeeds, c = '\n'

theorem takeWhile_lineFeeds {lineFeeds left : List Char} (h : ∀ c ∈ lineFeeds, c = '\n')
    (hleft : left.head? ≠ some '\n') :
    (lineFeeds ++ left).takeWhile (· == '\n') = lineFeeds ∧
      (lineFeeds ++ left).dropWhile (· == '\n') = left := by
  have hpos : ∀ c ∈ lineFeeds, (c == '\n') = true := fun c hc => beq_iff_eq.2 (h c hc)
  rw [List.takeWhile_append_of_pos hpos, List.dropWhile_append_of_pos hpos]
  cases left with
  | nil => simp
  | cons c left =>
    have hc : (c == '\n') = false := beq_false_of_ne fun heq => hleft (congrArg some heq)
    simp [hc]

theorem ansiEscapeExtractor_eq_some_iff {text left : List Char} {s : Sequence} :
    ansiEscapeExtractor text = some (s, left) ↔
      text = s.text ++ left ∧ s.Valid ∧ left.head? ≠ some '\n' := by
  constructor
  · intro h
    obtain ⟨⟨parameters, left'⟩, hsgr, heq⟩ := Option.map_eq_some_iff.1 h
    obtain ⟨rfl, rfl⟩ := Prod.mk.inj heq
    obtain ⟨rfl, hparameters⟩ := sgr_eq_some_iff.1 hsgr
    refine ⟨?_, ⟨hparameters, fun c hc =>
      beq_iff_eq.1 (@List.mem_takeWhile_imp _ (· == '\n') left' c hc)⟩, ?_⟩
    · simp [Sequence.text]
    · intro hhead
      have hnot := List.head?_dropWhile_not (· == '\n') left'
      rw [hhead] at hnot
      exact nomatch hnot
  · rintro ⟨rfl, ⟨hparameters, hlineFeeds⟩, hleft⟩
    have hsgr : sgr (s.text ++ left) = some (s.graphicModes, s.lineFeeds ++ left) :=
      sgr_eq_some_iff.2 ⟨by simp [Sequence.text], hparameters⟩
    obtain ⟨htake, hdrop⟩ := takeWhile_lineFeeds hlineFeeds hleft
    rw [ansiEscapeExtractor, hsgr, Option.map_some, htake, hdrop]

theorem amp_notMem_text {s : Sequence} (h : s.Valid) : '&' ∉ s.text := by
  have hmodes : '&' ∉ s.graphicModes := fun hc => absurd (h.1 _ hc) (by decide)
  have hlineFeeds : '&' ∉ s.lineFeeds := fun hc => absurd (h.2 _ hc) (by decide)
  simp [Sequence.text, hmodes, hlineFeeds]

theorem lt_notMem_text {s : Sequence} (h : s.Valid) : '<' ∉ s.text := by
  have hmodes : '<' ∉ s.graphicModes := fun hc => absurd (h.1 _ hc) (by decide)
  have hlineFeeds : '<' ∉ s.lineFeeds := fun hc => absurd (h.2 _ hc) (by decide)
  simp [Sequence.text, hmodes, hlineFeeds]

/-- The sequences are where they were before the text was escaped. -/
theorem ansiEscapeExtractor_escape (text : List Char) :
    ansiEscapeExtractor (escape text) =
      (ansiEscapeExtractor text).map fun r => (r.1, escape r.2) := by
  refine Option.ext fun ⟨s, left⟩ => ?_
  simp only [Option.map_eq_some_iff, ansiEscapeExtractor_eq_some_iff, Prod.exists, Prod.mk.injEq]
  constructor
  · rintro ⟨htext, hvalid, hleft⟩
    obtain ⟨rest, rfl, rfl⟩ := escape_eq_append (amp_notMem_text hvalid) htext
    rw [Ne, head_escape (by decide) (by decide)] at hleft
    exact ⟨s, rest, ⟨rfl, hvalid, hleft⟩, rfl, rfl⟩
  · rintro ⟨_, rest, ⟨rfl, hvalid, hleft⟩, rfl, rfl⟩
    rw [escape_append, escape_of_notMem (lt_notMem_text hvalid), Ne,
      head_escape (by decide) (by decide)]
    exact ⟨rfl, hvalid, hleft⟩

theorem sequences_of_some {text left : List Char} {s : Sequence}
    (h : ansiEscapeExtractor text = some (s, left)) :
    sequences text = (s :: (sequences left).1, (sequences left).2) := by
  rw [sequences]
  split
  · next h' =>
    obtain ⟨rfl, rfl⟩ := Prod.mk.inj (Option.some.inj (h.symm.trans h'))
    rfl
  · next h' => exact nomatch h.symm.trans h'

theorem sequences_of_none {text : List Char} (h : ansiEscapeExtractor text = none) :
    sequences text = ([], text) := by
  rw [sequences]
  split
  · next h' => exact nomatch h.symm.trans h'
  · rfl

/-- What holds of the sequences at the start of any text. -/
theorem sequences_spec (text : List Char) :
    (∀ s ∈ (sequences text).1, s.Valid) ∧
      text = (sequences text).1.flatMap Sequence.text ++ (sequences text).2 ∧
      sequences (escape text) = ((sequences text).1, escape (sequences text).2) := by
  induction hn : text.length using Nat.strong_induction_on generalizing text with
  | _ n ih =>
  subst hn
  cases h : ansiEscapeExtractor text with
  | none =>
    have hesc : ansiEscapeExtractor (escape text) = none := by
      rw [ansiEscapeExtractor_escape, h, Option.map_none]
    rw [sequences_of_none h, sequences_of_none hesc]
    exact ⟨fun s hs => (nomatch hs), rfl, rfl⟩
  | some r =>
    obtain ⟨s, left⟩ := r
    have hesc : ansiEscapeExtractor (escape text) = some (s, escape left) := by
      rw [ansiEscapeExtractor_escape, h, Option.map_some]
    obtain ⟨hvalid, htext, hescape⟩ := ih left.length (length_ansiEscapeExtractor h) left rfl
    obtain ⟨htext', hs, -⟩ := ansiEscapeExtractor_eq_some_iff.1 h
    rw [sequences_of_some h, sequences_of_some hesc, hescape]
    refine ⟨List.forall_mem_cons.2 ⟨hs, hvalid⟩, ?_, rfl⟩
    rw [List.flatMap_cons, List.append_assoc, ← htext]
    exact htext'

/-- The sequences of a match are parsed one after the other. -/
theorem replaceSequences_flatMap (parser : Sequence → List Char) {matched : List Sequence}
    (h : ∀ s ∈ matched, s.Valid) :
    replaceSequences parser (matched.flatMap Sequence.text) = matched.flatMap parser := by
  induction matched with
  | nil => rw [List.flatMap_nil, List.flatMap_nil, replaceSequences]
  | cons s matched ih =>
    obtain ⟨hs, hmatched⟩ := List.forall_mem_cons.1 h
    have hhead : (matched.flatMap Sequence.text).head? ≠ some '\n' := by
      cases matched with
      | nil => exact fun h => nomatch h
      | cons s' matched => exact fun h => absurd (Option.some.inj h) (by decide)
    have hfind := ansiEscapeExtractor_eq_some_iff.2
      ⟨@List.flatMap_cons _ _ s matched Sequence.text, hs, hhead⟩
    rw [List.flatMap_cons] at hfind
    rw [List.flatMap_cons, List.flatMap_cons, ← ih hmatched]
    change replaceSequences parser ('\x1b' :: _) = _
    rw [replaceSequences]
    split
    · next h' =>
      obtain ⟨rfl, rfl⟩ := Prod.mk.inj (Option.some.inj (hfind.symm.trans h'))
      rfl
    · next h' => exact nomatch hfind.symm.trans h'

/-! ## The modes of a match -/

theorem notMem_of_mem_splitOn {c sep : Char} {text part : List Char}
    (hpart : part ∈ text.splitOn sep) (h : c ∉ text) : c ∉ part := by
  induction text generalizing part with
  | nil =>
    rw [List.splitOn_nil, List.mem_singleton] at hpart
    rwa [hpart]
  | cons d text ih =>
    rw [List.mem_cons, not_or] at h
    rw [List.splitOn_cons_eq_if_modifyHead] at hpart
    split_ifs at hpart with hsep
    · rcases List.mem_cons.1 hpart with rfl | hpart
      · exact List.not_mem_nil
      · exact ih hpart h.2
    · obtain ⟨first, others, hsplit⟩ :=
        List.exists_cons_of_ne_nil (List.splitOn_ne_nil sep text)
      rw [hsplit, List.modifyHead_cons] at hpart
      rcases List.mem_cons.1 hpart with rfl | hpart
      · rw [List.mem_cons, not_or]
        exact ⟨h.1, ih (hsplit ▸ List.mem_cons_self) h.2⟩
      · exact ih (hsplit ▸ List.mem_cons_of_mem _ hpart) h.2

theorem number_toDigits (n : ℕ) : parseInt.number (Nat.toDigits 10 n) = some n := by
  have hdigits : ∀ c ∈ Nat.toDigits 10 n, c.isDigit = true := fun c hc =>
    Nat.isDigit_of_mem_toDigits (by decide) (by decide) hc
  have htake : (Nat.toDigits 10 n).takeWhile Char.isDigit = Nat.toDigits 10 n :=
    List.takeWhile_eq_self_iff.2 hdigits
  rw [parseInt.number, htake, if_neg Nat.toDigits_ne_nil, Nat.ofDigitChars_ten_toDigits]

/-- A negative number is read as what it is. -/
theorem parseInt_decimal (n : ℕ) : parseInt (JsText.decimal (Int.negSucc n)) =
    some (Int.negSucc n) := by
  change ((parseInt.number (Nat.toDigits 10 (n + 1))).map fun n => -(n : ℤ)) = _
  rw [number_toDigits]
  rfl

theorem not_lt_zero_of_notMem {text : List Char} (h : '-' ∉ text) :
    (parseInt text).any (· < 0) = false := by
  unfold parseInt
  split
  · exact absurd List.mem_cons_self h
  · cases parseInt.number text with
    | none => rfl
    | some n => simp

/-- The parts of what `ansiGroupParser` gives. -/
def modeTexts (s : Sequence) : List (List Char) :=
  (if s.lineFeeds ≠ [] then [JsText.decimal (-s.lineFeeds.length)] else []) ++
    if s.graphicModes = [] then [['0']] else s.graphicModes.splitOn ';'

theorem semicolon_notMem_decimal (n : ℤ) : ';' ∉ JsText.decimal n := by
  have hdigits : ∀ n : ℕ, ';' ∉ Nat.toDigits 10 n := fun n hc =>
    absurd (Nat.isDigit_of_mem_toDigits (by decide) (by decide) hc) (by decide)
  cases n with
  | ofNat n => exact hdigits n
  | negSucc n =>
    rw [JsText.decimal, List.mem_cons, not_or]
    exact ⟨by decide, hdigits _⟩

theorem splitOn_ansiGroupParser (matched : List Sequence) :
    (matched.flatMap ansiGroupParser).splitOn ';' = matched.flatMap modeTexts ++ [[]] := by
  induction matched with
  | nil => rfl
  | cons s matched ih =>
    have hmodes : ∀ rest : List Char, ((if s.graphicModes = [] then ['0', ';']
        else s.graphicModes ++ [';']) ++ rest).splitOn ';' =
          (if s.graphicModes = [] then [['0']] else s.graphicModes.splitOn ';') ++
            rest.splitOn ';' := by
      intro rest
      split_ifs
      · exact List.splitOn_append_cons_self ['0'] rest
      · rw [List.append_assoc]
        exact List.splitOn_append_cons_self _ _
    rw [List.flatMap_cons, List.flatMap_cons, ansiGroupParser, modeTexts, List.append_assoc,
      List.append_assoc, List.append_assoc, ← ih, ← hmodes]
    by_cases hnil : s.lineFeeds = []
    · simp only [hnil, ne_eq, not_true, if_false, List.nil_append]
    · simp only [hnil, ne_eq, not_false_iff, if_true]
      rw [List.append_assoc]
      exact List.splitOn_append_cons_self_of_not_mem (semicolon_notMem_decimal _) _

/-- The modes and the line feeds of a sequence. -/
theorem switchMode_modeTexts {s : Sequence} (h : s.Valid) (r : Modes × List Char) :
    ((modeTexts s).map parseInt).foldl switchMode r =
      (r.1.after s.graphicModes, r.2 ++ s.lineFeeds) := by
  have hmodes : ∀ r : Modes × List Char,
      (modesOf s.graphicModes).foldl switchMode r = (r.1.after s.graphicModes, r.2) := by
    have hnot : ∀ mode ∈ modesOf s.graphicModes, mode.any (· < 0) = false := by
      intro mode hmode
      rw [modesOf] at hmode
      split_ifs at hmode
      · rw [List.mem_singleton.1 hmode]
        rfl
      · obtain ⟨part, hpart, rfl⟩ := List.mem_map.1 hmode
        refine not_lt_zero_of_notMem (notMem_of_mem_splitOn hpart fun hc => ?_)
        exact absurd (h.1 _ hc) (by decide)
    intro r
    rw [Modes.after]
    generalize modesOf s.graphicModes = modes at hnot ⊢
    induction modes generalizing r with
    | nil => rfl
    | cons mode modes ih =>
      obtain ⟨hmode, hmodes⟩ := List.forall_mem_cons.1 hnot
      rw [List.foldl_cons, List.foldl_cons, switchMode, if_neg (by simp [hmode]), ih _ hmodes]
  have htexts : (if s.graphicModes = [] then [['0']] else s.graphicModes.splitOn ';').map
      parseInt = modesOf s.graphicModes := by
    rw [modesOf]
    split_ifs <;> rfl
  rw [modeTexts, List.map_append, List.foldl_append, htexts, hmodes]
  have hreplicate : s.lineFeeds = List.replicate s.lineFeeds.length '\n' :=
    List.eq_replicate_iff.2 ⟨rfl, h.2⟩
  cases hlength : s.lineFeeds.length with
  | zero =>
    rw [List.length_eq_zero_iff.1 hlength]
    simp
  | succ n =>
    have hne : s.lineFeeds ≠ [] := fun hnil => by simp [hnil] at hlength
    have hneg : -((n + 1 : ℕ) : ℤ) = Int.negSucc n := rfl
    have hlt : (some (Int.negSucc n)).any (· < 0) = true :=
      decide_eq_true (Int.negSucc_lt_zero n)
    rw [if_pos hne, hneg, List.map_singleton, parseInt_decimal, List.foldl_cons, List.foldl_nil,
      switchMode, if_pos hlt]
    rw [hlength] at hreplicate
    rw [hreplicate]
    rfl

namespace AnsiColors

/-- The tags with which the modes are shown. -/
def spanTags (colors : AnsiColors) : List Markup :=
  if colors.modes.on = colors.spanOpen then []
  else if colors.spanOpen then [.closeSpan]
  else [.openSpan colors.modes.classValue]

theorem makeSpan_eq (colors : AnsiColors) :
    colors.makeSpan =
      ({ colors with spanOpen := colors.modes.on }, colors.spanTags.flatMap Markup.html) := by
  obtain ⟨spanOpen, modes⟩ := colors
  rw [makeSpan, spanTags]
  cases hon : modes.on <;> cases spanOpen <;> simp [Markup.html]

/-- Line feeds and modes are what the sequences of a match have. -/
theorem smartReplacer_eq (colors : AnsiColors) {matched : List Sequence}
    (h : ∀ s ∈ matched, s.Valid) :
    colors.smartReplacer (matched.flatMap Sequence.text) =
      let modes := colors.modes.afterAll matched
      (⟨modes.on, modes⟩, (spanTags ⟨colors.spanOpen, modes⟩).flatMap Markup.html ++
        matched.flatMap Sequence.lineFeeds) := by
  have hfold : ∀ (matched : List Sequence) (r : Modes × List Char), (∀ s ∈ matched, s.Valid) →
      ((matched.flatMap modeTexts).map parseInt).foldl switchMode r =
        (r.1.afterAll matched, r.2 ++ matched.flatMap Sequence.lineFeeds) := by
    intro matched
    induction matched with
    | nil => exact fun r _ => by simp [Modes.afterAll]
    | cons s matched ih =>
      intro r h
      obtain ⟨hs, hmatched⟩ := List.forall_mem_cons.1 h
      rw [List.flatMap_cons, List.map_append, List.foldl_append, switchMode_modeTexts hs,
        ih _ hmatched, List.append_assoc, List.flatMap_cons]
      rfl
  rw [smartReplacer, replaceSequences_flatMap _ h, splitOn_ansiGroupParser,
    List.dropLast_concat, hfold _ _ h]
  simp only [makeSpan_eq, List.nil_append]

end AnsiColors

/-! ## The markup of a message -/

theorem sgr_eq_none {c : Char} (h : c ≠ '\x1b') (rest : List Char) : sgr (c :: rest) = none := by
  cases hsgr : sgr (c :: rest) with
  | none => rfl
  | some r => exact absurd (List.cons.inj (sgr_eq_some_iff.1 hsgr).1).1 h

theorem ansiEscapeMatcher_eq_none_iff {text : List Char} :
    ansiEscapeMatcher text = none ↔ sgr text = none := by
  rw [ansiEscapeMatcher]
  cases h : ansiEscapeExtractor text with
  | none =>
    rw [sequences_of_none h, if_pos rfl]
    exact iff_of_true rfl (Option.map_eq_none_iff.1 h)
  | some r =>
    rw [sequences_of_some h, if_neg (List.cons_ne_nil _ _)]
    refine iff_of_false (fun hnone => nomatch hnone) fun hnone => ?_
    rw [ansiEscapeExtractor, hnone] at h
    cases h

theorem ansiEscapeMatcher_of_ne_nil {text : List Char} (h : (sequences text).1 ≠ []) :
    ansiEscapeMatcher text =
      some ((sequences text).1.flatMap Sequence.text, (sequences text).2) :=
  if_neg h

theorem chunks_of_ne_nil {text : List Char} (h : (sequences text).1 ≠ []) :
    chunks text = .sequences (sequences text).1 :: chunks (sequences text).2 := by
  have hmatch := ansiEscapeMatcher_of_ne_nil h
  cases text with
  | nil => exact absurd (by rw [sequences_of_none rfl]) h
  | cons c rest =>
    rw [chunks]
    split
    · next h' =>
      obtain ⟨-, rfl⟩ := Prod.mk.inj (Option.some.inj (hmatch.symm.trans h'))
      rfl
    · next h' => exact nomatch hmatch.symm.trans h'

theorem chunks_of_none {c : Char} {rest : List Char} (h : ansiEscapeMatcher (c :: rest) = none) :
    chunks (c :: rest) = .char c :: chunks rest := by
  rw [chunks]
  split
  · next h' => exact nomatch h.symm.trans h'
  · rfl

theorem items_of_some {text parameters left : List Char} (h : sgr text = some (parameters, left)) :
    items text = .sequence parameters :: items left := by
  cases text with
  | nil => exact nomatch h
  | cons c rest =>
    rw [items]
    split
    · next h' =>
      obtain ⟨rfl, rfl⟩ := Prod.mk.inj (Option.some.inj (h.symm.trans h'))
      rfl
    · next h' => exact nomatch h.symm.trans h'

theorem items_of_none {c : Char} {rest : List Char} (h : sgr (c :: rest) = none) :
    items (c :: rest) = .char c :: items rest := by
  rw [items]
  split
  · next h' => exact nomatch h.symm.trans h'
  · rfl

theorem items_text {s : Sequence} (h : s.Valid) (left : List Char) :
    items (s.text ++ left) =
      .sequence s.graphicModes :: (s.lineFeeds.map Item.char ++ items left) := by
  have hsgr : sgr (s.text ++ left) = some (s.graphicModes, s.lineFeeds ++ left) :=
    sgr_eq_some_iff.2 ⟨by simp [Sequence.text], h.1⟩
  have hlineFeeds : ∀ lineFeeds : List Char, (∀ c ∈ lineFeeds, c = '\n') →
      items (lineFeeds ++ left) = lineFeeds.map Item.char ++ items left := by
    intro lineFeeds
    induction lineFeeds with
    | nil => exact fun _ => rfl
    | cons c lineFeeds ih =>
      intro hall
      obtain ⟨rfl, hrest⟩ := List.forall_mem_cons.1 hall
      rw [List.cons_append, items_of_none (sgr_eq_none (by decide) _), ih hrest]
      rfl
  rw [items_of_some hsgr, hlineFeeds _ h.2]

/-- The items of a part of the message. -/
def Chunk.items : Chunk → List Item
  | .char c => [.char c]
  | .sequences matched => matched.flatMap fun s =>
      .sequence s.graphicModes :: s.lineFeeds.map Item.char

/-- The sequences of the group are SGR sequences. -/
def Chunk.Valid : Chunk → Prop
  | .char _ => True
  | .sequences matched => ∀ s ∈ matched, s.Valid

/-- The parts of a message have its items. -/
theorem chunks_spec (text : List Char) :
    (∀ chunk ∈ chunks text, chunk.Valid) ∧ items text = (chunks text).flatMap Chunk.items := by
  induction hn : text.length using Nat.strong_induction_on generalizing text with
  | _ n ih =>
  subst hn
  by_cases hnil : (sequences text).1 = []
  · cases text with
    | nil =>
      rw [chunks, items]
      exact ⟨fun chunk hchunk => (nomatch hchunk), rfl⟩
    | cons c rest =>
      have hmatch : ansiEscapeMatcher (c :: rest) = none := if_pos hnil
      obtain ⟨hvalid, hitems⟩ := ih rest.length (Nat.lt_succ_self _) rest rfl
      rw [chunks_of_none hmatch, items_of_none (ansiEscapeMatcher_eq_none_iff.1 hmatch), hitems]
      exact ⟨List.forall_mem_cons.2 ⟨trivial, hvalid⟩, rfl⟩
  · have hlt := length_ansiEscapeMatcher (ansiEscapeMatcher_of_ne_nil hnil)
    obtain ⟨hvalid, hitems⟩ := ih _ hlt _ rfl
    obtain ⟨hmatched, htext, -⟩ := sequences_spec text
    have hall : ∀ (matched : List Sequence) (left : List Char), (∀ s ∈ matched, s.Valid) →
        items (matched.flatMap Sequence.text ++ left) =
          Chunk.items (.sequences matched) ++ items left := by
      intro matched left
      induction matched with
      | nil => exact fun _ => rfl
      | cons s matched ih =>
        intro h
        obtain ⟨hs, hrest⟩ := List.forall_mem_cons.1 h
        rw [List.flatMap_cons, List.append_assoc, items_text hs, ih hrest]
        simp [Chunk.items]
    rw [chunks_of_ne_nil hnil]
    refine ⟨List.forall_mem_cons.2 ⟨hmatched, hvalid⟩, ?_⟩
    rw [List.flatMap_cons, ← hitems, ← hall _ _ hmatched, ← htext]

namespace AnsiColors

/-- The colours after the sequences of a match. -/
def after (colors : AnsiColors) (matched : List Sequence) : AnsiColors :=
  ⟨(colors.modes.afterAll matched).on, colors.modes.afterAll matched⟩

/-- The markup of a message, and the colours after it. -/
def markup : AnsiColors → List Chunk → AnsiColors × List Markup
  | colors, [] => (colors, [])
  | colors, .char c :: rest =>
    ((colors.markup rest).1, (escapeChar c).map .text ++ (colors.markup rest).2)
  | colors, .sequences matched :: rest =>
    (((colors.after matched).markup rest).1,
      spanTags ⟨colors.spanOpen, colors.modes.afterAll matched⟩ ++
        ((matched.flatMap Sequence.lineFeeds).map .text ++ ((colors.after matched).markup rest).2))

theorem replaceMatches_of_some {text m left : List Char} (colors : AnsiColors)
    (h : ansiEscapeMatcher text = some (m, left)) :
    colors.replaceMatches text =
      (((colors.smartReplacer m).1.replaceMatches left).1,
        (colors.smartReplacer m).2 ++ ((colors.smartReplacer m).1.replaceMatches left).2) := by
  cases text with
  | nil =>
    have hnone : ansiEscapeMatcher [] = none := ansiEscapeMatcher_eq_none_iff.2 rfl
    exact nomatch hnone.symm.trans h
  | cons c rest =>
    rw [replaceMatches]
    split
    · next h' =>
      obtain ⟨rfl, rfl⟩ := Prod.mk.inj (Option.some.inj (h.symm.trans h'))
      rfl
    · next h' => exact nomatch h.symm.trans h'

theorem replaceMatches_of_none {c : Char} {rest : List Char} (colors : AnsiColors)
    (h : ansiEscapeMatcher (c :: rest) = none) :
    colors.replaceMatches (c :: rest) =
      ((colors.replaceMatches rest).1, c :: (colors.replaceMatches rest).2) := by
  rw [replaceMatches]
  split
  · next h' => exact nomatch h.symm.trans h'
  · rfl

/-- Text without sequences is kept. -/
theorem replaceMatches_append {start : List Char} (h : '\x1b' ∉ start) (colors : AnsiColors)
    (rest : List Char) : colors.replaceMatches (start ++ rest) =
      ((colors.replaceMatches rest).1, start ++ (colors.replaceMatches rest).2) := by
  induction start with
  | nil => rfl
  | cons c start ih =>
    rw [List.mem_cons, not_or] at h
    have hnone : ansiEscapeMatcher (c :: (start ++ rest)) = none :=
      ansiEscapeMatcher_eq_none_iff.2 (sgr_eq_none (Ne.symm h.1) _)
    rw [List.cons_append, replaceMatches_of_none colors hnone, ih h.2]
    rfl

/-- The HTML of a message is its markup. -/
theorem ansiColorsToHtml_eq (colors : AnsiColors) (message : List Char) :
    colors.ansiColorsToHtml message =
      ((colors.markup (chunks message)).1,
        (colors.markup (chunks message)).2.flatMap Markup.html) := by
  rw [ansiColorsToHtml]
  induction hn : message.length using Nat.strong_induction_on generalizing message colors with
  | _ n ih =>
  subst hn
  by_cases hnil : (sequences message).1 = []
  · cases message with
    | nil =>
      change colors.replaceMatches [] = _
      rw [replaceMatches, chunks]
      rfl
    | cons c rest =>
      have hmatch : ansiEscapeMatcher (c :: rest) = none := if_pos hnil
      have hrest := ih rest.length (Nat.lt_succ_self _) colors rest rfl
      rw [chunks_of_none hmatch, markup, List.flatMap_append, flatMap_html_text, escape_cons]
      by_cases hesc : '\x1b' ∈ escapeChar c
      · have hlt : c ≠ '<' := by
          rintro rfl
          exact absurd hesc (by decide)
        have hmatch' : ansiEscapeMatcher (c :: escape rest) = none := by
          have hsequences := (sequences_spec (c :: rest)).2.2
          rw [hnil, escape_cons, escapeChar_of_ne hlt, List.singleton_append] at hsequences
          rw [ansiEscapeMatcher, hsequences, if_pos rfl]
        rw [escapeChar_of_ne hlt, List.singleton_append, List.singleton_append,
          replaceMatches_of_none colors hmatch', hrest]
      · rw [replaceMatches_append hesc, hrest]
  · have hlt := length_ansiEscapeMatcher (ansiEscapeMatcher_of_ne_nil hnil)
    obtain ⟨hvalid, -, hescape⟩ := sequences_spec message
    have hmatch : ansiEscapeMatcher (escape message) =
        some ((sequences message).1.flatMap Sequence.text, escape (sequences message).2) := by
      rw [ansiEscapeMatcher, hescape, if_neg hnil]
    rw [replaceMatches_of_some colors hmatch, smartReplacer_eq colors hvalid,
      chunks_of_ne_nil hnil, markup, List.flatMap_append, List.flatMap_append, flatMap_html_text]
    change (((colors.after _).replaceMatches _).1, _ ++ ((colors.after _).replaceMatches _).2) = _
    rw [ih _ hlt _ _ rfl, List.append_assoc]

end AnsiColors

/-! ## The text that is shown -/

/-- The text of a part of the message. -/
def Chunk.shown : Chunk → List Char
  | .char c => [c]
  | .sequences matched => matched.flatMap Sequence.lineFeeds

theorem stripSequences_eq (message : List Char) :
    stripSequences message = (chunks message).flatMap Chunk.shown := by
  have hchunk : ∀ chunk : Chunk, (chunk.items.filterMap fun
      | .char c => some c
      | .sequence _ => none) = chunk.shown := by
    intro chunk
    cases chunk with
    | char c => rfl
    | sequences matched =>
      induction matched with
      | nil => rfl
      | cons s matched ih =>
        have hlineFeeds : ((s.lineFeeds.map Item.char).filterMap fun
            | .char c => some c
            | .sequence _ => none) = s.lineFeeds := by
          rw [List.filterMap_map]
          exact List.filterMap_some
        rw [Chunk.items, List.flatMap_cons, List.filterMap_append]
        rw [Chunk.items] at ih
        rw [ih, Chunk.shown, Chunk.shown, List.flatMap_cons]
        exact congrArg (· ++ _) hlineFeeds
  rw [stripSequences, (chunks_spec message).2]
  induction chunks message with
  | nil => rfl
  | cons chunk rest ih => rw [List.flatMap_cons, List.filterMap_append, ih, hchunk,
      List.flatMap_cons]

/-- The stretches of text between the places where a span is opened or closed. -/
def stretches : AnsiColors → List Chunk → List (List Char)
  | _, [] => [[]]
  | colors, .char c :: rest => (stretches colors rest).modifyHead (c :: ·)
  | colors, .sequences matched :: rest =>
    let stretchesAfter := (stretches (colors.after matched) rest).modifyHead
      (matched.flatMap Sequence.lineFeeds ++ ·)
    if (colors.modes.afterAll matched).on = colors.spanOpen then stretchesAfter
    else [] :: stretchesAfter

theorem flatten_modifyHead_append (start : List Char) {texts : List (List Char)}
    (h : texts ≠ []) : (texts.modifyHead (start ++ ·)).flatten = start ++ texts.flatten := by
  obtain ⟨text, texts, rfl⟩ := List.exists_cons_of_ne_nil h
  rw [List.modifyHead_cons, List.flatten_cons, List.flatten_cons, List.append_assoc]

theorem stretches_ne_nil (colors : AnsiColors) (parts : List Chunk) :
    stretches colors parts ≠ [] := by
  induction parts generalizing colors with
  | nil => exact List.cons_ne_nil _ _
  | cons chunk rest ih =>
    cases chunk with
    | char c => simpa [stretches] using ih colors
    | sequences matched =>
      rw [stretches]
      split_ifs
      · simpa using ih _
      · exact List.cons_ne_nil _ _

theorem flatten_stretches (colors : AnsiColors) (parts : List Chunk) :
    (stretches colors parts).flatten = parts.flatMap Chunk.shown := by
  induction parts generalizing colors with
  | nil => rfl
  | cons chunk rest ih =>
    rw [List.flatMap_cons]
    cases chunk with
    | char c =>
      rw [← ih colors]
      exact flatten_modifyHead_append [c] (stretches_ne_nil colors rest)
    | sequences matched =>
      have hflatten := flatten_modifyHead_append (matched.flatMap Sequence.lineFeeds)
        (stretches_ne_nil (colors.after matched) rest)
      rw [ih] at hflatten
      rw [stretches]
      split_ifs
      · exact hflatten
      · exact hflatten

theorem escape_lineFeeds {matched : List Sequence} (h : ∀ s ∈ matched, s.Valid) :
    escape (matched.flatMap Sequence.lineFeeds) = matched.flatMap Sequence.lineFeeds := by
  refine escape_of_notMem fun hc => ?_
  obtain ⟨s, hs, hc⟩ := List.mem_flatMap.1 hc
  exact absurd ((h s hs).2 _ hc) (by decide)

theorem map_escape_modifyHead (start : List Char) (texts : List (List Char)) :
    (texts.modifyHead (start ++ ·)).map escape =
      (texts.map escape).modifyHead (escape start ++ ·) := by
  cases texts with
  | nil => rfl
  | cons text texts =>
    rw [List.modifyHead_cons, List.map_cons, List.map_cons, List.modifyHead_cons, escape_append]

/-- The text between the tags is the escaped text of the stretches. -/
theorem textRuns_markup (colors : AnsiColors) {parts : List Chunk}
    (h : ∀ chunk ∈ parts, chunk.Valid) :
    textRuns (colors.markup parts).2 = (stretches colors parts).map escape := by
  induction parts generalizing colors with
  | nil => rfl
  | cons chunk rest ih =>
    obtain ⟨hchunk, hrest⟩ := List.forall_mem_cons.1 h
    cases chunk with
    | char c =>
      have hescape := map_escape_modifyHead [c] (stretches colors rest)
      rw [escape_cons, escape, List.flatMap_nil, List.append_nil] at hescape
      rw [AnsiColors.markup, textRuns_text_append, ih colors hrest, stretches]
      exact hescape.symm
    | sequences matched =>
      have hescape := map_escape_modifyHead (matched.flatMap Sequence.lineFeeds)
        (stretches (colors.after matched) rest)
      rw [escape_lineFeeds hchunk, ← ih (colors.after matched) hrest,
        ← textRuns_text_append] at hescape
      rw [AnsiColors.markup, stretches, AnsiColors.spanTags]
      split_ifs
      · exact hescape.symm
      · exact congrArg ([] :: ·) hescape.symm
      · exact congrArg ([] :: ·) hescape.symm

theorem quote_notMem_classValue (modes : Modes) : '"' ∉ modes.classValue := by
  have hnames : ∀ mode : ℤ, '"' ∉ (fgAnsiToNames mode).toList := by
    intro mode
    unfold fgAnsiToNames
    split <;> decide
  obtain ⟨fg, bg, bold⟩ := modes
  cases fg <;> cases bg <;> cases bold <;>
    simp [Modes.classValue, bgAnsiToNames, hnames]

/-- The markup has no other signs than those of its tags. -/
theorem plain_markup (colors : AnsiColors) {parts : List Chunk}
    (h : ∀ chunk ∈ parts, chunk.Valid) : ∀ m ∈ (colors.markup parts).2, m.Plain := by
  induction parts generalizing colors with
  | nil => exact fun m hm => nomatch hm
  | cons chunk rest ih =>
    obtain ⟨hchunk, hrest⟩ := List.forall_mem_cons.1 h
    cases chunk with
    | char c =>
      intro m hm
      rcases List.mem_append.1 hm with hm | hm
      · obtain ⟨d, hd, rfl⟩ := List.mem_map.1 hm
        rintro rfl
        exact lt_notMem_escape [c] (List.mem_flatMap.2 ⟨c, List.mem_singleton_self c, hd⟩)
      · exact ih colors hrest m hm
    | sequences matched =>
      intro m hm
      rcases List.mem_append.1 hm with hm | hm
      · rw [AnsiColors.spanTags] at hm
        split_ifs at hm
        · exact nomatch hm
        · rw [List.mem_singleton.1 hm]
          trivial
        · rw [List.mem_singleton.1 hm]
          exact quote_notMem_classValue _
      · rcases List.mem_append.1 hm with hm | hm
        · obtain ⟨d, hd, rfl⟩ := List.mem_map.1 hm
          obtain ⟨s, hs, hd⟩ := List.mem_flatMap.1 hd
          rw [(hchunk s hs).2 d hd]
          exact (by decide : '\n' ≠ '<')
        · exact ih _ hrest m hm

theorem read_ansiColorsToHtml (colors : AnsiColors) (message : List Char) :
    read (colors.ansiColorsToHtml message).2 = some (colors.markup (chunks message)).2 := by
  rw [AnsiColors.ansiColorsToHtml_eq]
  exact read_html (plain_markup colors (chunks_spec message).1)

/-- The HTML has no other markup than spans, and shows the message without its sequences. -/
def ShowsText (refs : CharacterReferences) (message html : List Char) : Prop :=
  ∃ nodes, read html = some nodes ∧ refs.shownText nodes = stripSequences message

/-- What is shown are the stretches, each with its references replaced. -/
theorem showsText_iff_flatMap (refs : CharacterReferences) (colors : AnsiColors)
    (message : List Char) : ShowsText refs message (colors.ansiColorsToHtml message).2 ↔
      ((stretches colors (chunks message)).flatMap fun text => refs.decode (escape text)) =
        (stretches colors (chunks message)).flatten := by
  have hshown : refs.shownText (colors.markup (chunks message)).2 =
      (stretches colors (chunks message)).flatMap fun text => refs.decode (escape text) := by
    rw [CharacterReferences.shownText, textRuns_markup colors (chunks_spec message).1,
      List.flatMap_map]
  rw [flatten_stretches, ← stripSequences_eq, ← hshown, ShowsText, read_ansiColorsToHtml]
  simp only [Option.some.injEq, exists_eq_left']

/-- A message is shown as the text that it is exactly when no character reference begins in a
stretch of its text. -/
theorem showsText_iff (refs : CharacterReferences) (colors : AnsiColors) (message : List Char) :
    ShowsText refs message (colors.ansiColorsToHtml message).2 ↔
      ∀ stretch ∈ stretches colors (chunks message), refs.NoReference stretch := by
  rw [showsText_iff_flatMap, refs.decode_escape_iff]

theorem chunks_of_notMem {message : List Char} (h : '\x1b' ∉ message) :
    chunks message = message.map Chunk.char := by
  induction message with
  | nil => rw [chunks, List.map_nil]
  | cons c rest ih =>
    rw [List.mem_cons, not_or] at h
    have hnone := ansiEscapeMatcher_eq_none_iff.2 (sgr_eq_none (Ne.symm h.1) rest)
    rw [chunks_of_none hnone, ih h.2, List.map_cons]

/-- The text of a reference is shown as what it stands for. -/
theorem not_showsText_reference :
    ¬ShowsText .xml "&lt;".toList (({} : AnsiColors).ansiColorsToHtml "&lt;".toList).2 := by
  have hstretches : stretches {} (chunks "&lt;".toList) = ["&lt;".toList] := by
    rw [chunks_of_notMem (by decide)]
    rfl
  have hdecode : CharacterReferences.xml.decode (escape "&lt;".toList) = ['<'] := by
    change CharacterReferences.xml.decode ('&' :: 'l' :: 't' :: ';' :: []) = _
    rw [CharacterReferences.decode_of_some _ (CharacterReferences.reference_lt _ []),
      CharacterReferences.decode_nil]
    rfl
  rw [showsText_iff_flatMap, hstretches, List.flatMap_singleton, hdecode]
  decide

end LogColors

end Stratos
