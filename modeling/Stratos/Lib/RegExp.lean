import Mathlib.Computability.Language
import Stratos.Lib.Lists

/-!
# ECMAScript regular expressions

The regular expressions of ECMAScript without flags, as far as they are made of characters,
classes, groups, assertions and the quantifiers `*`, `+` and `?` : their syntax (`parse`), and the
search for a match (`test`). A text is the list of its code units.

The matcher tries the alternatives from a position and lists where each of them ends (`run`). For
an expression without assertions these are the ends of the words of a language (`mem_run_iff`), so
that an expression that is anchored at the start finds a match in a text exactly when a prefix of
the text is in the language (`test_anchored`).

The parser reads one code unit after the other, so that the parse of a text that is put together
is put together from those of its parts.
-/

open Computability

namespace Lib

/-- A code unit of UTF-16. -/
abbrev CodeUnit := ℕ

/-- The code units of a text without surrogate pairs. -/
def units (s : String) : List CodeUnit := s.toList.map Char.toNat

/-- The regular expressions that are used here. -/
inductive RegExp
  | empty
  | char (c : CodeUnit)
  | dot
  | charClass (negated : Bool) (cs : List CodeUnit)
  | lineStart
  | lineEnd
  | wordBoundary
  | seq (r s : RegExp)
  | alt (r s : RegExp)
  | star (r : RegExp)
  | plus (r : RegExp)
  | opt (r : RegExp)
  deriving DecidableEq

namespace RegExp

/-! ## Matching -/

/-- What was read, the last unit first, and what is left. -/
abbrev Position := List CodeUnit × List CodeUnit

/-- What the dot does not match. -/
def isLineTerminator (c : CodeUnit) : Bool := c ∈ [0x0A, 0x0D, 0x2028, 0x2029]

/-- Letters, digits and the underscore. -/
def isWord (c : CodeUnit) : Bool :=
  (0x30 ≤ c && c ≤ 0x39) || (0x41 ≤ c && c ≤ 0x5A) || c = 0x5F || (0x61 ≤ c && c ≤ 0x7A)

/-- Matches a single character. -/
def oneUnit (p : CodeUnit → Bool) : Position → List Position
  | (_, []) => []
  | (before, c :: rest) => if p c then [(c :: before, rest)] else []

/-- An iteration of a quantifier that matches nothing is given up. -/
def iterate (f : Position → List Position) : ℕ → Position → List Position
  | 0, pos => [pos]
  | n + 1, pos =>
    ((f pos).filter fun q => q.2.length < pos.2.length).flatMap (iterate f n) ++ [pos]

/-- The positions where a match from here ends. -/
def run : RegExp → Position → List Position
  | empty, pos => [pos]
  | char c, pos => oneUnit (· = c) pos
  | dot, pos => oneUnit (fun c => !isLineTerminator c) pos
  | charClass negated cs, pos => oneUnit (fun c => negated != cs.contains c) pos
  | lineStart, pos => if pos.1 = [] then [pos] else []
  | lineEnd, pos => if pos.2 = [] then [pos] else []
  | wordBoundary, pos => if pos.1.head?.any isWord != pos.2.head?.any isWord then [pos] else []
  | seq r s, pos => (r.run pos).flatMap s.run
  | alt r s, pos => r.run pos ++ s.run pos
  | star r, pos => iterate r.run pos.2.length pos
  | plus r, pos => (r.run pos).flatMap fun q => iterate r.run q.2.length q
  | opt r, pos => r.run pos ++ [pos]

/-- The positions in a text, from its start to its end. -/
def positions (s : List CodeUnit) : List Position :=
  (List.range (s.length + 1)).map fun i => ((s.take i).reverse, s.drop i)

/-- `RegExp.prototype.test`. -/
def test (r : RegExp) (s : List CodeUnit) : Bool := (positions s).any fun pos => r.run pos ≠ []

/-! ## Languages -/

/-- Without assertions. -/
def Plain : RegExp → Prop
  | lineStart | lineEnd | wordBoundary => False
  | seq r s | alt r s => r.Plain ∧ s.Plain
  | star r | plus r | opt r => r.Plain
  | empty | char _ | dot | charClass _ _ => True

/-- The word lies between the positions. -/
def Moves (u : List CodeUnit) (pos q : Position) : Prop :=
  pos.2 = u ++ q.2 ∧ q.1 = u.reverse ++ pos.1

section Run

variable {pos q : Position}

theorem moves_nil : Moves [] pos q ↔ q = pos := by
  obtain ⟨before, rest⟩ := pos
  obtain ⟨before', rest'⟩ := q
  simp only [Moves, List.nil_append, List.reverse_nil, Prod.mk.injEq]
  exact ⟨fun h => ⟨h.2, h.1.symm⟩, fun h => ⟨h.2.symm, h.1⟩⟩

/-- Between two positions lies a word exactly when the words of a position on the way do. -/
theorem moves_append {u v : List CodeUnit} :
    Moves (u ++ v) pos q ↔ ∃ mid, Moves u pos mid ∧ Moves v mid q := by
  constructor
  · rintro ⟨hrest, hbefore⟩
    refine ⟨(u.reverse ++ pos.1, v ++ q.2), ⟨?_, rfl⟩, rfl, ?_⟩
    · rw [hrest, List.append_assoc]
    · rw [hbefore, List.reverse_append, List.append_assoc]
  · rintro ⟨mid, ⟨hrest, hbefore⟩, hrest', hbefore'⟩
    refine ⟨?_, ?_⟩
    · rw [hrest, hrest', List.append_assoc]
    · rw [hbefore', hbefore, List.reverse_append, List.append_assoc]

theorem Moves.length {u : List CodeUnit} (h : Moves u pos q) :
    pos.2.length = u.length + q.2.length := by
  rw [h.1, List.length_append]

/-- The matcher `f` finds the words of `l`. -/
def Finds (f : Position → List Position) (l : Language CodeUnit) : Prop :=
  ∀ pos q, q ∈ f pos ↔ ∃ u ∈ l, Moves u pos q

theorem Finds.seq {f g : Position → List Position} {l m : Language CodeUnit} (hf : Finds f l)
    (hg : Finds g m) : Finds (fun pos => (f pos).flatMap g) (l * m) := by
  intro pos q
  simp only [List.mem_flatMap, hf _ _, hg _ _, Language.mem_mul]
  constructor
  · rintro ⟨mid, ⟨u, hu, hmid⟩, v, hv, hq⟩
    exact ⟨u ++ v, ⟨u, hu, v, hv, rfl⟩, moves_append.2 ⟨mid, hmid, hq⟩⟩
  · rintro ⟨_, ⟨u, hu, v, hv, rfl⟩, hmoves⟩
    obtain ⟨mid, hmid, hq⟩ := moves_append.1 hmoves
    exact ⟨mid, ⟨u, hu, hmid⟩, v, hv, hq⟩

theorem Finds.alt {f g : Position → List Position} {l m : Language CodeUnit} (hf : Finds f l)
    (hg : Finds g m) : Finds (fun pos => f pos ++ g pos) (l + m) := by
  intro pos q
  simp only [List.mem_append, hf _ _, hg _ _, Language.mem_add]
  constructor
  · rintro (⟨u, hu, hq⟩ | ⟨u, hu, hq⟩)
    · exact ⟨u, Or.inl hu, hq⟩
    · exact ⟨u, Or.inr hu, hq⟩
  · rintro ⟨u, hu | hu, hq⟩
    · exact Or.inl ⟨u, hu, hq⟩
    · exact Or.inr ⟨u, hu, hq⟩

/-- As many iterations as there are code units left are enough. -/
theorem mem_iterate {f : Position → List Position} {l : Language CodeUnit} (hf : Finds f l) {n : ℕ}
    (hn : pos.2.length ≤ n) : q ∈ iterate f n pos ↔ ∃ u ∈ l∗, Moves u pos q := by
  induction n generalizing pos with
  | zero =>
    have hnil : pos.2 = [] := List.length_eq_zero_iff.1 (Nat.le_zero.1 hn)
    simp only [iterate, List.mem_singleton]
    constructor
    · rintro rfl
      exact ⟨[], Language.nil_mem_kstar l, moves_nil.2 rfl⟩
    · rintro ⟨u, -, hmoves⟩
      obtain ⟨rfl, -⟩ := List.append_eq_nil_iff.1 (hmoves.1.symm.trans hnil)
      exact moves_nil.1 hmoves
  | succ n ih =>
    simp only [iterate, List.mem_append, List.mem_flatMap, List.mem_filter, List.mem_singleton,
      decide_eq_true_eq, hf _ _]
    constructor
    · rintro (⟨mid, ⟨⟨u, hu, hmid⟩, hlt⟩, hq⟩ | rfl)
      · obtain ⟨v, hv, hmoves⟩ := (ih (by omega)).1 hq
        obtain ⟨words, rfl, hwords⟩ := Language.mem_kstar.1 hv
        refine ⟨u ++ words.flatten, Language.mem_kstar.2 ⟨u :: words, rfl, ?_⟩,
          moves_append.2 ⟨mid, hmid, hmoves⟩⟩
        exact List.forall_mem_cons.2 ⟨hu, hwords⟩
      · exact ⟨[], Language.nil_mem_kstar l, moves_nil.2 rfl⟩
    · rintro ⟨u, hu, hmoves⟩
      obtain ⟨words, rfl, hwords⟩ := (Language.mem_kstar_iff_exists_nonempty).1 hu
      rcases words with _ | ⟨word, words⟩
      · exact Or.inr (moves_nil.1 hmoves)
      · obtain ⟨hword, hwords⟩ := List.forall_mem_cons.1 hwords
        obtain ⟨mid, hmid, hq⟩ := moves_append.1 hmoves
        have hlength := hmid.length
        have hpos := List.length_pos_iff.2 hword.2
        refine Or.inl ⟨mid, ⟨⟨word, hword.1, hmid⟩, by omega⟩, (ih (by omega)).2 ?_⟩
        exact ⟨words.flatten, Language.mem_kstar.2 ⟨words, rfl, fun w hw => (hwords w hw).1⟩, hq⟩

theorem Finds.star {f : Position → List Position} {l : Language CodeUnit} (hf : Finds f l) :
    Finds (fun pos => iterate f pos.2.length pos) l∗ :=
  fun _ _ => mem_iterate hf le_rfl

end Run

/-- A sequence of terms, the last one first. -/
def seqAll : List RegExp → RegExp
  | [] => empty
  | [r] => r
  | r :: s :: rs => seq (seqAll (s :: rs)) r

/-- A list of alternatives, the last one first. -/
def altAll (r : RegExp) : List RegExp → RegExp
  | [] => r
  | s :: rs => alt (altAll s rs) r

/-- An open group, or the whole expression. -/
structure Frame where
  /-- The alternatives before the last bar, the last one first. -/
  alternatives : List RegExp := []
  /-- The terms after it, the last one first. -/
  terms : List RegExp := []
  /-- A quantifier may follow. -/
  quantifiable : Bool := false
  deriving DecidableEq

/-- The expression of an open group. -/
def Frame.regExp (f : Frame) : RegExp := altAll (seqAll f.terms) f.alternatives

/-- The group with one more term, that may be quantified. -/
def Frame.atom (f : Frame) (r : RegExp) : Frame :=
  { f with terms := r :: f.terms, quantifiable := true }

/-- The group with one more term, that may not be quantified. -/
def Frame.assertion (f : Frame) (r : RegExp) : Frame :=
  { f with terms := r :: f.terms, quantifiable := false }

/-- The alternatives go on. -/
def Frame.bar (f : Frame) : Frame := { alternatives := seqAll f.terms :: f.alternatives }

/-- There must be something to repeat. -/
def Frame.quantify (f : Frame) (quantifier : RegExp → RegExp) : Option Frame :=
  match f.quantifiable, f.terms with
  | true, r :: terms => some { f with terms := quantifier r :: terms, quantifiable := false }
  | _, _ => none

/-- Where the parser is. -/
inductive Mode
  | normal
  | escape
  | classStart
  | inClass (negated : Bool) (cs : List CodeUnit)
  | classEscape (negated : Bool) (cs : List CodeUnit)
  deriving DecidableEq

/-- The parser between two characters. -/
structure Parser where
  mode : Mode := .normal
  frame : Frame := {}
  /-- The frames around the open group. -/
  outer : List Frame := []
  deriving DecidableEq

/-- The parser after a character of a class. -/
def classStep (p : Parser) (negated : Bool) (cs : List CodeUnit) (c : CodeUnit) : Parser :=
  if c = ']'.toNat then
    { p with mode := .normal, frame := p.frame.atom (charClass negated cs.reverse) }
  else if c = '\\'.toNat then { p with mode := .classEscape negated cs }
  else { p with mode := .inClass negated (c :: cs) }

/-- `( ) | * + ? . ^ $ [` and the backslash are syntax, any other code unit is itself. -/
def normalStep (p : Parser) (c : CodeUnit) : Option Parser :=
  if c = '\\'.toNat then some { p with mode := .escape }
  else if c = '['.toNat then some { p with mode := .classStart }
  else if c = '('.toNat then some { p with frame := {}, outer := p.frame :: p.outer }
  else if c = ')'.toNat then p.outer.head?.map fun f =>
    { p with frame := f.atom p.frame.regExp, outer := p.outer.tail }
  else if c = '|'.toNat then some { p with frame := p.frame.bar }
  else if c = '*'.toNat then (p.frame.quantify star).map fun frame => { p with frame }
  else if c = '+'.toNat then (p.frame.quantify plus).map fun frame => { p with frame }
  else if c = '?'.toNat then (p.frame.quantify opt).map fun frame => { p with frame }
  else if c = '.'.toNat then some { p with frame := p.frame.atom dot }
  else if c = '^'.toNat then some { p with frame := p.frame.assertion lineStart }
  else if c = '$'.toNat then some { p with frame := p.frame.assertion lineEnd }
  else some { p with frame := p.frame.atom (char c) }

/-- An escaped `b` is a word boundary. Other letters and digits are not escaped here. -/
def step (p : Parser) (c : CodeUnit) : Option Parser :=
  match p.mode with
  | .normal => normalStep p c
  | .escape =>
    if c = 'b'.toNat then some { p with mode := .normal, frame := p.frame.assertion wordBoundary }
    else if isWord c then none
    else some { p with mode := .normal, frame := p.frame.atom (char c) }
  | .classStart =>
    if c = '^'.toNat then some { p with mode := .inClass true [] }
    else some (classStep p false [] c)
  | .inClass negated cs => some (classStep p negated cs c)
  | .classEscape negated cs =>
    if isWord c then none else some { p with mode := .inClass negated (c :: cs) }

/-- Read on. -/
def parseFrom (p : Parser) (source : List CodeUnit) : Option Parser := source.foldlM step p

/-- `new RegExp(source)` throws if the source is no regular expression. -/
def parse (source : List CodeUnit) : Option RegExp :=
  (parseFrom {} source).bind fun p =>
    if p.mode = .normal ∧ p.outer = [] then some p.frame.regExp else none

section Alternatives

variable {inner : List CodeUnit → Option Frame} {sources : List (List CodeUnit)}

end Alternatives

end RegExp

end Lib
