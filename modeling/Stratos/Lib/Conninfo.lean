import Mathlib.Data.List.Basic

/-!
# Connection strings of keywords and values

A connection string is a list of `name=value` with spaces between (`parse`). A value stands bare,
or between single quotes, where a backslash takes the next character as it is (`readQuoted`).

An `Item` is a name with its value and the way the value is written : bare, between quotes as it
is, or between quotes with a backslash before each quote. `parse_spaced_iff` says when the items
of a string are read back : each quoted value is free of backslashes, and of quotes unless these
were escaped (`Readable`). A value that is not readable is never read back by accident, whatever
follows it (`readQuoted_written_iff`).
-/

namespace Lib

namespace Conninfo

/-! ## The grammar -/

/-- `isspace` of C. -/
def isSpace (c : Char) : Bool :=
  c = ' ' || c = '\t' || c = '\n' || c = '\x0b' || c = '\x0c' || c = '\r'

/-- A name and its value. -/
abbrev Param := List Char × List Char

/-- Where a character stands. -/
inductive Mode
  /-- Before a name. -/
  | between
  | name (name : List Char)
  /-- After a name, before its `=`. -/
  | afterName (name : List Char)
  | beforeValue (name : List Char)
  /-- In a value without quotes, and whether the next character is escaped. -/
  | bare (name value : List Char) (escaped : Bool)
  /-- In a value with quotes, and whether the next character is escaped. -/
  | quoted (name value : List Char) (escaped : Bool)

/-- The parameters that are still to come, or `none` if the text is not well formed. -/
def parseFrom : Mode → List Char → Option (List Param)
  | .between, [] => some []
  | .between, c :: text =>
    if isSpace c then parseFrom .between text
    else if c = '=' then parseFrom (.beforeValue []) text
    else parseFrom (.name [c]) text
  | .name _, [] => none
  | .name n, c :: text =>
    if isSpace c then parseFrom (.afterName n) text
    else if c = '=' then parseFrom (.beforeValue n) text
    else parseFrom (.name (n ++ [c])) text
  | .afterName _, [] => none
  | .afterName n, c :: text =>
    if isSpace c then parseFrom (.afterName n) text
    else if c = '=' then parseFrom (.beforeValue n) text
    else none
  | .beforeValue n, [] => some [(n, [])]
  | .beforeValue n, c :: text =>
    if isSpace c then parseFrom (.beforeValue n) text
    else if c = '\'' then parseFrom (.quoted n [] false) text
    else if c = '\\' then parseFrom (.bare n [] true) text
    else parseFrom (.bare n [c] false) text
  | .bare n v _, [] => some [(n, v)]
  | .bare n v true, c :: text => parseFrom (.bare n (v ++ [c]) false) text
  | .bare n v false, c :: text =>
    if isSpace c then (parseFrom .between text).map ((n, v) :: ·)
    else if c = '\\' then parseFrom (.bare n v true) text
    else parseFrom (.bare n (v ++ [c]) false) text
  | .quoted _ _ _, [] => none
  | .quoted n v true, c :: text => parseFrom (.quoted n (v ++ [c]) false) text
  | .quoted n v false, c :: text =>
    if c = '\'' then (parseFrom .between text).map ((n, v) :: ·)
    else if c = '\\' then parseFrom (.quoted n v true) text
    else parseFrom (.quoted n (v ++ [c]) false) text

/-- The parameters of a connection string, if it is one. -/
def parse (text : List Char) : Option (List Param) := parseFrom .between text

/-- The value up to the quote that ends it, and the text after that quote. -/
def readQuoted : List Char → Option (List Char × List Char)
  | [] => none
  | ['\\'] => none
  | '\\' :: c :: text => (readQuoted text).map fun r => (c :: r.1, r.2)
  | c :: text =>
    if c = '\'' then some ([], text) else (readQuoted text).map fun r => (c :: r.1, r.2)

/-! ## Values between quotes -/

section Quoted

variable {n v s text rest r : List Char} {c : Char}

@[simp] theorem readQuoted_nil : readQuoted [] = none :=
  rfl

@[simp] theorem readQuoted_quote : readQuoted ('\'' :: text) = some ([], text) := by
  simp [readQuoted]

@[simp] theorem readQuoted_escaped :
    readQuoted ('\\' :: c :: text) = (readQuoted text).map fun r => (c :: r.1, r.2) := by
  simp [readQuoted]

theorem readQuoted_cons (hslash : c ≠ '\\') (hquote : c ≠ '\'') :
    readQuoted (c :: text) = (readQuoted text).map fun r => (c :: r.1, r.2) := by
  rw [readQuoted.eq_def]
  simp [hslash, hquote]

theorem parseFrom_quoted (n v text : List Char) :
    parseFrom (.quoted n v false) text = (readQuoted text).bind fun r =>
      (parse r.2).map ((n, v ++ r.1) :: ·) := by
  fun_induction readQuoted text generalizing v with
  | case1 => rfl
  | case2 => simp [parseFrom]
  | case3 c text ih =>
    simp only [parseFrom, ih, Option.bind_map, List.append_assoc, List.singleton_append]
    rfl
  | case4 text => simp [parseFrom, parse]
  | case5 c text hslash hescaped hquote ih =>
    have hne : c ≠ '\\' := by
      rintro rfl
      rcases text with _ | ⟨d, text⟩
      · exact hslash rfl rfl
      · exact hescaped d text rfl rfl
    simp only [parseFrom, hne, hquote, ih, Option.bind_map, List.append_assoc,
      List.singleton_append]
    rfl

/-- A value between quotes, with a backslash before each quote if `escape` says so. -/
def written (escape : Bool) (s : List Char) : List Char :=
  s.flatMap fun c => if escape = true ∧ c = '\'' then ['\\', c] else [c]

/-- The values that are read back when they are written so. -/
def Readable (escape : Bool) (s : List Char) : Prop :=
  '\\' ∉ s ∧ (escape = false → '\'' ∉ s)

@[simp] theorem written_nil (escape : Bool) : written escape [] = [] :=
  rfl

theorem written_cons (escape : Bool) (c : Char) (s : List Char) :
    written escape (c :: s) =
      (if escape = true ∧ c = '\'' then ['\\', c] else [c]) ++ written escape s :=
  rfl

@[simp] theorem written_cons_of_ne (escape : Bool) (hquote : c ≠ '\'') :
    written escape (c :: s) = c :: written escape s := by
  simp [written_cons, hquote]

theorem readQuoted_written {escape : Bool} (h : Readable escape s) (rest : List Char) :
    readQuoted (written escape s ++ '\'' :: rest) = some (s, rest) := by
  obtain ⟨hslash, hquote⟩ := h
  induction s with
  | nil => simp
  | cons c s ih =>
    obtain ⟨hc, hslash⟩ := List.ne_and_not_mem_of_not_mem_cons hslash
    have hrest := ih hslash fun h hmem => hquote h (List.mem_cons_of_mem c hmem)
    rcases eq_or_ne c '\'' with rfl | hne
    · have hescape : escape = true := by
        by_contra hfalse
        exact hquote (by simpa using hfalse) List.mem_cons_self
      subst hescape
      simp [written_cons, hrest]
    · simp [hne, readQuoted_cons hc.symm hne, hrest]

theorem replicate_append_cons (k : ℕ) (c : Char) (s : List Char) :
    List.replicate k c ++ c :: s = c :: (List.replicate k c ++ s) := by
  rw [List.append_cons, ← List.replicate_succ', List.replicate_succ, List.cons_append]

/-- A raw backslash takes a character with it, so `k` more of them are owed than are read, and a
value that owes one is never read in full. The induction takes away a pair of backslashes. -/
theorem readable_of_readQuoted {escape : Bool} (k : ℕ)
    (h : readQuoted (written escape s ++ '\'' :: rest) = some (List.replicate k '\\' ++ s, r)) :
    k = 0 ∧ Readable escape s := by
  induction hn : s.length using Nat.strongRecOn generalizing k s with
  | _ n ih =>
  subst hn
  rcases s with _ | ⟨c, s⟩
  · have hk : k = 0 ∧ rest = r := by simpa using h
    exact ⟨hk.1, by simp [Readable]⟩
  rcases eq_or_ne c '\\' with rfl | hslash
  · -- The backslash is read with what stands after it, which must be a backslash too.
    exfalso
    rw [replicate_append_cons, written_cons_of_ne _ (by decide), List.cons_append] at h
    rcases s with _ | ⟨d, s⟩
    · simp at h
    rcases eq_or_ne d '\'' with rfl | hquote
    · cases escape <;> simp [written_cons] at h
    · rw [written_cons_of_ne _ hquote, List.cons_append, readQuoted_escaped,
        Option.map_eq_some_iff] at h
      obtain ⟨⟨v, r'⟩, hread, heq⟩ := h
      obtain ⟨⟨rfl, hv⟩, rfl⟩ : (d = '\\' ∧ v = List.replicate k '\\' ++ d :: s) ∧ r' = r := by
        simpa using heq
      rw [replicate_append_cons, ← List.cons_append, ← List.replicate_succ] at hv
      subst hv
      have := ih s.length (by simp only [List.length_cons]; omega) (k + 1) hread rfl
      omega
  · -- Nothing is owed, since the first character that is read is none.
    obtain ⟨v, hread, hescape, heq⟩ : ∃ v,
        readQuoted (written escape s ++ '\'' :: rest) = some (v, r) ∧
        (c = '\'' → escape = true) ∧ c :: v = List.replicate k '\\' ++ c :: s := by
      rcases eq_or_ne c '\'' with rfl | hquote
      · cases escape
        · simp [written_cons] at h
        · obtain ⟨v, hread, heq⟩ : ∃ v, readQuoted (written true s ++ '\'' :: rest) = some (v, r) ∧
              '\'' :: v = List.replicate k '\\' ++ '\'' :: s := by
            simpa [written_cons] using h
          exact ⟨v, hread, fun _ => rfl, heq⟩
      · rw [written_cons_of_ne _ hquote, List.cons_append, readQuoted_cons hslash hquote,
          Option.map_eq_some_iff] at h
        obtain ⟨⟨v, r'⟩, hread, heq⟩ := h
        obtain rfl : r' = r := congrArg Prod.snd heq
        exact ⟨v, hread, fun h => absurd h hquote, congrArg Prod.fst heq⟩
    rcases k with _ | k
    · obtain rfl : v = s := by simpa using heq
      obtain ⟨-, hs, hquote⟩ := ih v.length (by simp) 0 (by simpa using hread) rfl
      refine ⟨rfl, List.not_mem_cons_of_ne_of_not_mem hslash.symm hs, fun hfalse => ?_⟩
      refine List.not_mem_cons_of_ne_of_not_mem ?_ (hquote hfalse)
      rintro rfl
      simp [hescape rfl] at hfalse
    · rw [List.replicate_succ, List.cons_append] at heq
      exact absurd (List.cons.inj heq).1 hslash

theorem readQuoted_written_iff {escape : Bool} :
    readQuoted (written escape s ++ '\'' :: rest) = some (s, r) ↔
      Readable escape s ∧ r = rest := by
  constructor
  · intro h
    have hs : Readable escape s := (readable_of_readQuoted 0 (by simpa using h)).2
    rw [readQuoted_written hs] at h
    exact ⟨hs, (Prod.mk.inj (Option.some.inj h)).2.symm⟩
  · rintro ⟨hs, rfl⟩
    exact readQuoted_written hs r

end Quoted

/-! ## Strings of items -/

/-- How a value is written. -/
inductive Style
  | bare
  | quoted (escape : Bool)

/-- A parameter, and how it is written. -/
structure Item where
  name : List Char
  value : List Char
  style : Style

namespace Item

/-- What an item should be read as. -/
def param (i : Item) : Param := (i.name, i.value)

/-- How an item is written. -/
def text (i : Item) : List Char :=
  i.name ++ '=' :: match i.style with
    | .bare => i.value
    | .quoted escape => '\'' :: (written escape i.value ++ ['\''])

/-- The name is a word, and so is a value that is written bare. -/
structure Proper (i : Item) : Prop where
  name_ne_nil : i.name ≠ []
  name_word : ∀ c ∈ i.name, isSpace c = false ∧ c ≠ '='
  value_ne_nil : i.style = .bare → i.value ≠ []
  value_word : i.style = .bare → ∀ c ∈ i.value, isSpace c = false ∧ c ≠ '\'' ∧ c ≠ '\\'

/-- The value is read back. -/
def IsReadable (i : Item) : Prop := ∀ escape, i.style = .quoted escape → Readable escape i.value

end Item

/-- The items with a space before each. -/
def spaced (items : List Item) : List Char := items.flatMap fun i => ' ' :: i.text

section Items

variable {n v word text rest : List Char} {i : Item} {items : List Item}

theorem parseFrom_name (hword : ∀ c ∈ word, isSpace c = false ∧ c ≠ '=') (n text : List Char) :
    parseFrom (.name n) (word ++ '=' :: text) = parseFrom (.beforeValue (n ++ word)) text := by
  induction word generalizing n with
  | nil => simp [parseFrom, isSpace]
  | cons c word ih =>
    obtain ⟨⟨hspace, heq⟩, hword⟩ := List.forall_mem_cons.1 hword
    simp [parseFrom, hspace, heq, ih hword]

theorem parseFrom_between (hne : word ≠ []) (hword : ∀ c ∈ word, isSpace c = false ∧ c ≠ '=')
    (text : List Char) :
    parseFrom .between (word ++ '=' :: text) = parseFrom (.beforeValue word) text := by
  rcases word with _ | ⟨c, word⟩
  · exact absurd rfl hne
  · obtain ⟨⟨hspace, heq⟩, hword⟩ := List.forall_mem_cons.1 hword
    simp [parseFrom, hspace, heq, parseFrom_name hword]

/-- The text ends here or goes on with a space. -/
def Ends (text : List Char) : Prop := ∀ c ∈ text.head?, isSpace c = true

theorem ends_spaced (items : List Item) : Ends (spaced items) := by
  rcases items with _ | ⟨i, items⟩
  · simp [Ends, spaced]
  · simp [Ends, spaced, isSpace]

theorem parseFrom_bare (hword : ∀ c ∈ word, isSpace c = false ∧ c ≠ '\'' ∧ c ≠ '\\')
    (n v : List Char) (hrest : Ends rest) :
    parseFrom (.bare n v false) (word ++ rest) = (parse rest).map ((n, v ++ word) :: ·) := by
  induction word generalizing v with
  | nil =>
    rcases rest with _ | ⟨c, rest⟩
    · simp [parseFrom, parse]
    · have hspace : isSpace c = true := hrest c rfl
      simp [parseFrom, parse, hspace]
  | cons c word ih =>
    obtain ⟨⟨hspace, -, hslash⟩, hword⟩ := List.forall_mem_cons.1 hword
    simp [parseFrom, hspace, hslash, ih hword]

theorem parse_space : parse (' ' :: text) = parse text := by
  simp [parse, parseFrom, isSpace]

@[simp] theorem spaced_nil : spaced [] = [] :=
  rfl

theorem spaced_cons (i : Item) (items : List Item) :
    spaced (i :: items) = ' ' :: (i.text ++ spaced items) :=
  rfl

theorem parse_quoted_item {escape : Bool} (hproper : Item.Proper ⟨n, v, .quoted escape⟩)
    (rest : List Char) :
    parse (Item.text ⟨n, v, .quoted escape⟩ ++ rest) =
      (readQuoted (written escape v ++ '\'' :: rest)).bind fun r =>
        (parse r.2).map ((n, r.1) :: ·) := by
  have hname := parseFrom_between hproper.name_ne_nil hproper.name_word
    ('\'' :: (written escape v ++ '\'' :: rest))
  have hquoted := parseFrom_quoted n [] (written escape v ++ '\'' :: rest)
  simp only [List.nil_append] at hquoted
  rw [← hquoted]
  simpa [Item.text, parse, parseFrom, isSpace] using hname

theorem spaced_append (items items' : List Item) :
    spaced (items ++ items') = spaced items ++ spaced items' :=
  List.flatMap_append

/-- An item that is read back is read alone. -/
theorem parse_item (hproper : i.Proper) (hread : i.IsReadable) (hrest : Ends rest) :
    parse (i.text ++ rest) = (parse rest).map (i.param :: ·) := by
  obtain ⟨n, v, style⟩ := i
  cases style with
  | bare =>
    obtain ⟨c, v, rfl⟩ := List.exists_cons_of_ne_nil (hproper.value_ne_nil rfl)
    obtain ⟨⟨hspace, hquote, hslash⟩, hword⟩ := List.forall_mem_cons.1 (hproper.value_word rfl)
    have hname := parseFrom_between hproper.name_ne_nil hproper.name_word (c :: (v ++ rest))
    have hbare := parseFrom_bare hword n [c] hrest
    simp only [parseFrom, hspace, hquote, hslash, Bool.false_eq_true, if_false, hbare] at hname
    simpa [Item.text, Item.param, parse] using hname
  | quoted escape =>
    rw [parse_quoted_item hproper, readQuoted_written (hread escape rfl)]
    rfl

/-- A string that is read as its first item and more has a first item that is read back. -/
theorem readable_of_parse_item {params : List Param} (hproper : i.Proper)
    (h : parse (i.text ++ rest) = some (i.param :: params)) : i.IsReadable := by
  obtain ⟨n, v, style⟩ := i
  rintro escape ⟨rfl⟩
  rw [parse_quoted_item hproper, Option.bind_eq_some_iff] at h
  obtain ⟨⟨value, r⟩, hread, hparams⟩ := h
  obtain ⟨ps, -, heq⟩ := Option.map_eq_some_iff.1 hparams
  obtain rfl : value = v := congrArg Prod.snd (List.cons.inj heq).1
  exact (readQuoted_written_iff.1 hread).1

theorem parse_spaced_iff (hproper : ∀ i ∈ items, i.Proper) :
    parse (spaced items) = some (items.map Item.param) ↔ ∀ i ∈ items, i.IsReadable := by
  induction items with
  | nil => simp [spaced, parse, parseFrom]
  | cons i items ih =>
    obtain ⟨hi, hproper⟩ := List.forall_mem_cons.1 hproper
    rw [spaced_cons, parse_space, List.forall_mem_cons, ← ih hproper]
    constructor
    · intro h
      have hread := readable_of_parse_item hi h
      rw [parse_item hi hread (ends_spaced items)] at h
      exact ⟨hread, by simpa using h⟩
    · rintro ⟨hread, h⟩
      rw [parse_item hi hread (ends_spaced items), h]
      rfl

end Items

end Conninfo

end Lib
