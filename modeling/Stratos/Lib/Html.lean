import Mathlib.Data.List.Basic
import Mathlib.Data.List.Infix

/-!
# Text and spans in HTML

HTML that is made of text and of the tags of spans. `read` takes it apart, and refuses any other
markup.

A browser shows the text between two tags with its character references replaced (`decode`).
`escape` replaces the sign that starts a tag, but not the ampersand, so a reference of the text
itself is replaced as well: `decode_escape_iff` says that the text is shown as it is exactly when
no reference begins in it.
-/

namespace Lib

namespace Html

/-! ## Character references -/

/-- The character references of HTML, without their ampersand. -/
structure CharacterReferences where
  /-- The text for which a reference stands. -/
  stands : List Char → Option (List Char)
  lt : stands ['l', 't', ';'] = some ['<']
  alphabet : ∀ {name text}, stands name = some text →
    ∀ c ∈ name, c.isAlphanum = true ∨ c = '#' ∨ c = ';'
  /-- A semicolon ends a reference. -/
  ended : ∀ {name text}, stands name = some text → ';' ∉ name.dropLast
  short : ∀ {name text}, stands name = some text → text.length ≤ name.length

namespace CharacterReferences

/-- The named references of XML, and what they stand for. -/
def xmlNames : List (List Char × Char) :=
  [("lt;".toList, '<'), ("gt;".toList, '>'), ("amp;".toList, '&'), ("quot;".toList, '"')]

theorem mem_xmlNames {name text : List Char}
    (h : (xmlNames.lookup name).map ([·]) = some text) :
    ∃ entry ∈ xmlNames, entry.1 = name ∧ [entry.2] = text := by
  obtain ⟨c, hc, rfl⟩ := Option.map_eq_some_iff.1 h
  obtain ⟨before, after, heq, -⟩ := List.lookup_eq_some_iff.1 hc
  exact ⟨(name, c), heq ▸ List.mem_append_right _ List.mem_cons_self, rfl, rfl⟩

/-- The references of the signs of markup. -/
def xml : CharacterReferences where
  stands name := (xmlNames.lookup name).map ([·])
  lt := rfl
  alphabet h := by
    obtain ⟨entry, hentry, rfl, -⟩ := mem_xmlNames h
    have hall : (xmlNames.all fun entry =>
        entry.1.all fun c => c.isAlphanum || c == '#' || c == ';') = true := by decide
    intro c hc
    simpa [or_assoc] using List.all_eq_true.1 (List.all_eq_true.1 hall entry hentry) c hc
  ended h := by
    obtain ⟨entry, hentry, rfl, -⟩ := mem_xmlNames h
    clear h
    revert entry
    decide
  short h := by
    obtain ⟨entry, hentry, rfl, rfl⟩ := mem_xmlNames h
    clear h
    revert entry
    decide

variable (refs : CharacterReferences)

/-- The longest reference that begins with `name` and goes on in the text, and what is left. -/
def reference : List Char → List Char → Option (List Char × List Char)
  | name, [] => (refs.stands name).map (·, [])
  | name, c :: text =>
    (reference (name ++ [c]) text).or ((refs.stands name).map (·, c :: text))

theorem length_reference {name text stood left : List Char}
    (h : refs.reference name text = some (stood, left)) :
    stood.length + left.length ≤ name.length + text.length := by
  induction text generalizing name with
  | nil =>
    obtain ⟨_, hstands, heq⟩ := Option.map_eq_some_iff.1 h
    obtain ⟨rfl, rfl⟩ := Prod.mk.inj heq
    exact Nat.add_le_add_right (refs.short hstands) _
  | cons c text ih =>
    rcases Option.or_eq_some_iff.1 h with hlonger | ⟨-, hhere⟩
    · have hle := ih hlonger
      rw [List.length_append, List.length_singleton] at hle
      rw [List.length_cons]
      omega
    · obtain ⟨_, hstands, heq⟩ := Option.map_eq_some_iff.1 hhere
      obtain ⟨rfl, rfl⟩ := Prod.mk.inj heq
      exact Nat.add_le_add_right (refs.short hstands) _

theorem length_left {name text stood left : List Char}
    (h : refs.reference name text = some (stood, left)) : left.length ≤ text.length := by
  induction text generalizing name with
  | nil =>
    obtain ⟨_, -, heq⟩ := Option.map_eq_some_iff.1 h
    rw [← (Prod.mk.inj heq).2]
  | cons c text ih =>
    rcases Option.or_eq_some_iff.1 h with hlonger | ⟨-, hhere⟩
    · exact (ih hlonger).trans (Nat.le_succ _)
    · obtain ⟨_, -, heq⟩ := Option.map_eq_some_iff.1 hhere
      rw [← (Prod.mk.inj heq).2]

/-- The text that is shown for a text without tags. -/
def decode : List Char → List Char
  | [] => []
  | c :: text =>
    if c = '&' then
      match _h : refs.reference [] text with
      | some (stood, left) => stood ++ decode left
      | none => c :: decode text
    else c :: decode text
termination_by text => text.length
decreasing_by
  · exact Nat.lt_succ_of_le (refs.length_left _h)
  · exact Nat.lt_succ_self _
  · exact Nat.lt_succ_self _

theorem decode_nil : refs.decode [] = [] := by
  rw [decode]

theorem decode_cons {c : Char} (h : c ≠ '&') (text : List Char) :
    refs.decode (c :: text) = c :: refs.decode text := by
  rw [decode, if_neg h]

theorem decode_of_some {text stood left : List Char}
    (h : refs.reference [] text = some (stood, left)) :
    refs.decode ('&' :: text) = stood ++ refs.decode left := by
  rw [decode, if_pos rfl]
  split
  · next h' =>
    obtain ⟨rfl, rfl⟩ := Prod.mk.inj (Option.some.inj (h.symm.trans h'))
    rfl
  · next h' => exact nomatch h.symm.trans h'

theorem decode_of_none {text : List Char} (h : refs.reference [] text = none) :
    refs.decode ('&' :: text) = '&' :: refs.decode text := by
  rw [decode, if_pos rfl]
  split
  · next h' => exact nomatch h.symm.trans h'
  · rfl

/-- No reference begins in the text. -/
def NoReference (text : List Char) : Prop :=
  ∀ left, '&' :: left <:+ text → refs.reference [] left = none

theorem noReference_nil : refs.NoReference [] :=
  fun _ h => nomatch List.suffix_nil.1 h

theorem noReference_cons {c : Char} {text : List Char} :
    refs.NoReference (c :: text) ↔
      (c = '&' → refs.reference [] text = none) ∧ refs.NoReference text := by
  simp only [NoReference, List.suffix_cons_iff, List.cons.injEq]
  constructor
  · exact fun h => ⟨fun hc => h text (Or.inl ⟨hc.symm, rfl⟩), fun left hleft =>
      h left (Or.inr hleft)⟩
  · rintro ⟨hhead, htail⟩ left (⟨rfl, rfl⟩ | hleft)
    · exact hhead rfl
    · exact htail left hleft

/-- No reference goes on with a character that references do not have. -/
theorem reference_eq_none {name : List Char} (h : ∀ more, refs.stands (name ++ more) = none)
    (text : List Char) : refs.reference name text = none := by
  have hname : refs.stands name = none := by
    simpa using h []
  induction text generalizing name with
  | nil => rw [reference, hname, Option.map_none]
  | cons c text ih =>
    have hnext : ∀ more, refs.stands (name ++ [c] ++ more) = none := fun more => by
      rw [List.append_assoc]
      exact h _
    rw [reference, hname, Option.map_none, ih hnext (by simpa using hnext []), Option.or_none]

theorem stands_eq_none_of_mem {name : List Char} {c : Char} (hc : c ∈ name)
    (h : c = '<' ∨ c = '&') : refs.stands name = none := by
  cases hstands : refs.stands name with
  | none => rfl
  | some text =>
    rcases h with rfl | rfl <;> exact absurd (refs.alphabet hstands _ hc) (by decide)

end CharacterReferences

/-! ## Escaped text -/

/-- The sign that starts a tag is replaced by a reference. -/
def escapeChar (c : Char) : List Char := if c = '<' then ['&', 'l', 't', ';'] else [c]

/-- The text with its markup escaped. -/
def escape (text : List Char) : List Char := text.flatMap escapeChar

theorem escapeChar_of_ne {c : Char} (h : c ≠ '<') : escapeChar c = [c] :=
  if_neg h

theorem escape_cons (c : Char) (text : List Char) :
    escape (c :: text) = escapeChar c ++ escape text :=
  List.flatMap_cons

theorem escape_append (text text' : List Char) :
    escape (text ++ text') = escape text ++ escape text' :=
  List.flatMap_append

theorem escape_of_notMem {text : List Char} (h : '<' ∉ text) : escape text = text := by
  induction text with
  | nil => rfl
  | cons c text ih =>
    rw [List.mem_cons, not_or] at h
    rw [escape_cons, escapeChar_of_ne (Ne.symm h.1), ih h.2, List.singleton_append]

theorem lt_notMem_escape (text : List Char) : '<' ∉ escape text := by
  intro h
  obtain ⟨c, -, hc⟩ := List.mem_flatMap.1 h
  rw [escapeChar] at hc
  split_ifs at hc with hlt
  · revert hc
    decide
  · exact hlt (List.mem_singleton.1 hc).symm

/-- What is no reference stood there before. -/
theorem escape_eq_append {text start left : List Char} (hamp : '&' ∉ start)
    (h : escape text = start ++ left) : ∃ rest, text = start ++ rest ∧ left = escape rest := by
  induction start generalizing text with
  | nil => exact ⟨text, rfl, h.symm⟩
  | cons c start ih =>
    rw [List.mem_cons, not_or] at hamp
    cases text with
    | nil => exact nomatch h
    | cons d text =>
      rw [escape_cons, escapeChar] at h
      split_ifs at h with hlt
      · exact absurd (List.cons.inj h).1 hamp.1
      · obtain ⟨rfl, hrest⟩ := List.cons.inj h
        obtain ⟨rest, rfl, hleft⟩ := ih hamp.2 hrest
        exact ⟨rest, rfl, hleft⟩

theorem head_escape {c : Char} (hlt : c ≠ '<') (hamp : c ≠ '&') (text : List Char) :
    (escape text).head? = some c ↔ text.head? = some c := by
  cases text with
  | nil => rfl
  | cons d text =>
    rw [escape_cons, escapeChar]
    split_ifs with h
    · subst h
      simp [Ne.symm hlt, Ne.symm hamp]
    · rfl

namespace CharacterReferences

variable (refs : CharacterReferences)

/-- References begin in the escaped text where they do in the text, and at the escaped signs. -/
theorem reference_escape (name text : List Char) :
    refs.reference name (escape text) =
      (refs.reference name text).map fun r => (r.1, escape r.2) := by
  induction text generalizing name with
  | nil =>
    simp only [escape, List.flatMap_nil, reference, Option.map_map]
    rfl
  | cons c text ih =>
    have hhere : (refs.stands name).map (·, escape (c :: text)) =
        ((refs.stands name).map (·, c :: text)).map fun r => (r.1, escape r.2) := by
      rw [Option.map_map]
      rfl
    by_cases hlt : c = '<'
    · subst hlt
      have hlonger : ∀ left, refs.reference (name ++ ['&']) left = none :=
        refs.reference_eq_none fun more =>
          refs.stands_eq_none_of_mem (c := '&') (by simp) (Or.inr rfl)
      have hlonger' : ∀ left, refs.reference (name ++ ['<']) left = none :=
        refs.reference_eq_none fun more =>
          refs.stands_eq_none_of_mem (c := '<') (by simp) (Or.inl rfl)
      rw [reference, hlonger', Option.none_or, ← hhere]
      change refs.reference name ('&' :: ('l' :: 't' :: ';' :: escape text)) = _
      rw [reference, hlonger, Option.none_or]
      rfl
    · rw [escape_cons, escapeChar_of_ne hlt, List.singleton_append] at hhere ⊢
      rw [reference, reference, ih, hhere, Option.map_or]

theorem reference_lt (text : List Char) :
    refs.reference [] ('l' :: 't' :: ';' :: text) = some (['<'], text) := by
  have hends : refs.reference ['l', 't', ';'] text = some (['<'], text) := by
    cases text with
    | nil => rw [reference, refs.lt, Option.map_some]
    | cons c text =>
      have hlonger : refs.reference (['l', 't', ';'] ++ [c]) text = none := by
        refine refs.reference_eq_none (fun more => ?_) text
        cases hstands : refs.stands (['l', 't', ';'] ++ [c] ++ more) with
        | none => rfl
        | some stood =>
          refine absurd (refs.ended hstands) (not_not.2 ?_)
          rw [List.append_assoc, List.dropLast_append_of_ne_nil (by simp)]
          simp
      rw [reference, hlonger, Option.none_or, refs.lt, Option.map_some]
  simp [reference, hends]

/-- An escaped text is not shown longer than it is, and shorter if a reference begins in it. -/
theorem length_decode_escape (text : List Char) :
    (refs.decode (escape text)).length ≤ text.length ∧
      ((refs.decode (escape text)).length = text.length ↔ refs.NoReference text) := by
  induction hn : text.length using Nat.strong_induction_on generalizing text with
  | _ n ih =>
  subst hn
  cases text with
  | nil => exact ⟨by rw [escape, List.flatMap_nil, decode_nil],
      iff_of_true (by rw [escape, List.flatMap_nil, decode_nil]) refs.noReference_nil⟩
  | cons c text =>
    obtain ⟨hle, hiff⟩ := ih text.length (Nat.lt_succ_self _) text rfl
    rw [refs.noReference_cons, escape_cons, List.length_cons]
    by_cases hlt : c = '<'
    · subst hlt
      change (refs.decode ('&' :: ('l' :: 't' :: ';' :: escape text))).length ≤ _ ∧
        ((refs.decode ('&' :: ('l' :: 't' :: ';' :: escape text))).length = _ ↔ _)
      rw [refs.decode_of_some (refs.reference_lt _), List.singleton_append, List.length_cons]
      simpa using ⟨hle, hiff⟩
    · rw [escapeChar_of_ne hlt, List.singleton_append]
      by_cases hamp : c = '&'
      · subst hamp
        cases href : refs.reference [] text with
        | none =>
          have hesc : refs.reference [] (escape text) = none := by
            rw [reference_escape, href, Option.map_none]
          rw [refs.decode_of_none hesc, List.length_cons]
          simpa using ⟨hle, hiff⟩
        | some r =>
          obtain ⟨stood, left⟩ := r
          have hesc : refs.reference [] (escape text) = some (stood, escape left) := by
            rw [reference_escape, href, Option.map_some]
          have hlength := refs.length_reference href
          have hleft := (ih left.length (Nat.lt_succ_of_le (refs.length_left href)) left rfl).1
          rw [List.length_nil, Nat.zero_add] at hlength
          rw [refs.decode_of_some hesc, List.length_append]
          refine ⟨by omega, iff_of_false (by omega) fun h => ?_⟩
          exact nomatch h.1 rfl
      · rw [refs.decode_cons hamp, List.length_cons]
        simpa [hamp] using ⟨hle, hiff⟩

theorem decode_escape {text : List Char} (h : refs.NoReference text) :
    refs.decode (escape text) = text := by
  induction text with
  | nil => exact refs.decode_nil
  | cons c text ih =>
    obtain ⟨hhead, htail⟩ := refs.noReference_cons.1 h
    rw [escape_cons]
    by_cases hlt : c = '<'
    · subst hlt
      change refs.decode ('&' :: ('l' :: 't' :: ';' :: escape text)) = _
      rw [refs.decode_of_some (refs.reference_lt _), ih htail, List.singleton_append]
    · rw [escapeChar_of_ne hlt, List.singleton_append]
      by_cases hamp : c = '&'
      · subst hamp
        have hesc : refs.reference [] (escape text) = none := by
          rw [reference_escape, hhead rfl, Option.map_none]
        rw [refs.decode_of_none hesc, ih htail]
      · rw [refs.decode_cons hamp, ih htail]

/-- Escaped texts are shown as they are exactly when no reference begins in one of them. -/
theorem decode_escape_iff (texts : List (List Char)) :
    (texts.flatMap fun text => refs.decode (escape text)) = texts.flatten ↔
      ∀ text ∈ texts, refs.NoReference text := by
  constructor
  · intro h
    have hlength : ∀ texts : List (List Char),
        (texts.flatMap fun text => refs.decode (escape text)).length ≤ texts.flatten.length ∧
          ((texts.flatMap fun text => refs.decode (escape text)).length = texts.flatten.length →
            ∀ text ∈ texts, refs.NoReference text) := by
      intro texts
      induction texts with
      | nil => simp
      | cons text texts ih =>
        obtain ⟨hle, hiff⟩ := refs.length_decode_escape text
        obtain ⟨hle', himp⟩ := ih
        rw [List.flatMap_cons, List.flatten_cons, List.length_append, List.length_append]
        refine ⟨by omega, fun heq => List.forall_mem_cons.2 ⟨hiff.1 (by omega), himp (by omega)⟩⟩
    exact (hlength texts).2 (congrArg List.length h)
  · intro h
    rw [List.flatten_eq_flatMap]
    exact List.flatMap_congr fun text htext => refs.decode_escape (h text htext)

end CharacterReferences

/-! ## Spans -/

/-- A tag, or a character of the text. -/
inductive Markup
  /-- With the value of its class attribute. -/
  | openSpan (classes : List Char)
  | closeSpan
  | text (c : Char)
  deriving DecidableEq

namespace Markup

/-- How markup is written. -/
def html : Markup → List Char
  | openSpan classes => '<' :: ("span class=\"".toList ++ (classes ++ "\">".toList))
  | closeSpan => '<' :: "/span>".toList
  | text c => [c]

/-- A character that is no markup, or a tag. -/
def Plain : Markup → Prop
  | openSpan classes => '"' ∉ classes
  | closeSpan => True
  | text c => c ≠ '<'

end Markup

open Markup

theorem flatMap_html_text (chars : List Char) :
    (chars.map Markup.text).flatMap Markup.html = chars := by
  rw [List.flatMap_map]
  exact List.flatMap_singleton' chars

/-- The tag that goes on with this text, and what is left. -/
def tag (rest : List Char) : Option (Markup × List Char) :=
  match rest.dropPrefix? "span class=\"".toList with
  | some value =>
    ((value.dropWhile (· != '"')).dropPrefix? "\">".toList).map fun left =>
      (openSpan (value.takeWhile (· != '"')), left)
  | none => (rest.dropPrefix? "/span>".toList).map (closeSpan, ·)

theorem length_of_dropPrefix {rest start left : List Char}
    (h : rest.dropPrefix? start = some left) : left.length ≤ rest.length := by
  obtain ⟨start', rfl, -⟩ := List.dropPrefix?_eq_some_iff.1 h
  rw [List.length_append]
  exact Nat.le_add_left _ _

theorem length_tag {rest left : List Char} {m : Markup} (h : tag rest = some (m, left)) :
    left.length ≤ rest.length := by
  rw [tag] at h
  split at h
  · next value hopen =>
    obtain ⟨left', hclose, heq⟩ := Option.map_eq_some_iff.1 h
    obtain ⟨-, rfl⟩ := Prod.mk.inj heq
    have hvalue := (List.dropWhile_suffix (l := value) (· != '"')).length_le
    exact ((length_of_dropPrefix hclose).trans hvalue).trans (length_of_dropPrefix hopen)
  · obtain ⟨left', hclose, heq⟩ := Option.map_eq_some_iff.1 h
    obtain ⟨-, rfl⟩ := Prod.mk.inj heq
    exact length_of_dropPrefix hclose

/-- The tags and the characters of HTML that has no other markup. -/
def read : List Char → Option (List Markup)
  | [] => some []
  | c :: rest =>
    if c = '<' then
      match _h : tag rest with
      | some (m, left) => (read left).map (m :: ·)
      | none => none
    else (read rest).map (text c :: ·)
termination_by html => html.length
decreasing_by
  · exact Nat.lt_succ_of_le (length_tag _h)
  · exact Nat.lt_succ_self _

theorem read_of_tag {rest left : List Char} {m : Markup} (h : tag rest = some (m, left)) :
    read ('<' :: rest) = (read left).map (m :: ·) := by
  rw [read, if_pos rfl]
  split
  · next h' =>
    obtain ⟨rfl, rfl⟩ := Prod.mk.inj (Option.some.inj (h.symm.trans h'))
    rfl
  · next h' => exact nomatch h.symm.trans h'

theorem dropPrefix_append (start rest : List Char) :
    (start ++ rest).dropPrefix? start = some rest :=
  List.dropPrefix?_eq_some_iff.2 ⟨start, rfl, beq_self_eq_true start⟩

theorem tag_openSpan {classes : List Char} (h : '"' ∉ classes) (rest : List Char) :
    tag ("span class=\"".toList ++ (classes ++ "\">".toList) ++ rest) =
      some (openSpan classes, rest) := by
  have hne : ∀ c ∈ classes, (c != '"') = true := fun c hc =>
    bne_iff_ne.2 fun heq => h (heq ▸ hc)
  rw [tag, List.append_assoc, dropPrefix_append]
  dsimp only
  rw [List.append_assoc, List.dropWhile_append_of_pos hne, List.takeWhile_append_of_pos hne]
  change ((("\">".toList ++ rest).dropPrefix? "\">".toList).map fun left =>
    (openSpan (classes ++ []), left)) = _
  rw [dropPrefix_append, Option.map_some, List.append_nil]

/-- What is written without other markup is read again. -/
theorem read_html {nodes : List Markup} (h : ∀ m ∈ nodes, m.Plain) :
    read (nodes.flatMap Markup.html) = some nodes := by
  induction nodes with
  | nil => rw [List.flatMap_nil, read]
  | cons m nodes ih =>
    obtain ⟨hm, hnodes⟩ := List.forall_mem_cons.1 h
    rw [List.flatMap_cons]
    cases m with
    | openSpan classes => rw [Markup.html, List.cons_append, read_of_tag (tag_openSpan hm _),
        ih hnodes, Option.map_some]
    | closeSpan =>
      have htag : tag ("/span>".toList ++ nodes.flatMap Markup.html) =
          some (closeSpan, nodes.flatMap Markup.html) := by
        rw [tag, dropPrefix_append]
        rfl
      rw [Markup.html, List.cons_append, read_of_tag htag, ih hnodes, Option.map_some]
    | text c => rw [Markup.html, List.singleton_append, read, if_neg hm, ih hnodes,
        Option.map_some]

/-! ## What is shown -/

/-- The stretches of text between the tags. -/
def textRuns : List Markup → List (List Char)
  | [] => [[]]
  | text c :: nodes => (textRuns nodes).modifyHead (c :: ·)
  | _ :: nodes => [] :: textRuns nodes

theorem textRuns_text_append (text : List Char) (nodes : List Markup) :
    textRuns (text.map Markup.text ++ nodes) = (textRuns nodes).modifyHead (text ++ ·) := by
  induction text with
  | nil =>
    change textRuns nodes = (textRuns nodes).modifyHead id
    rw [List.modifyHead_id, id]
  | cons c text ih =>
    rw [List.map_cons, List.cons_append, textRuns, ih, List.modifyHead_modifyHead]
    rfl

/-- The text that a browser shows. -/
def CharacterReferences.shownText (refs : CharacterReferences) (nodes : List Markup) :
    List Char :=
  (textRuns nodes).flatMap refs.decode

/-- The characters with the spans around them, the innermost first, if the tags match. -/
def spanned : List (List Char) → List Markup → Option (List (Char × List (List Char)))
  | [], [] => some []
  | _ :: _, [] => none
  | spans, openSpan classes :: nodes => spanned (classes :: spans) nodes
  | [], closeSpan :: _ => none
  | _ :: spans, closeSpan :: nodes => spanned spans nodes
  | spans, text c :: nodes => (spanned spans nodes).map ((c, spans) :: ·)

end Html

end Lib
