import Mathlib.Data.List.Basic

/-!
# Data source names of MySQL

A data source name is `user:password@net(address)/database?parameters` (`Dsn.parse`). It has no
escapes : the database stands after the last slash, the address after the last `@` before it, and
the password after the first colon. So a name is read as it was written (`parse_text`) unless a
separator stands where it must not, and an `@` in the address makes the password longer
(`passwd_of_at_mem`).

The address of a TCP connection is `host:port`. A host with a colon stands in square brackets, and
without them the whole address is taken for the host (`hostPort_append_iff`).
-/

namespace Lib

/-- The text before the first `c`, and the text after it. -/
def cut (c : Char) : List Char → Option (List Char × List Char)
  | [] => none
  | d :: s => if d = c then some ([], s) else (cut c s).map fun r => (d :: r.1, r.2)

/-- The text before the last `c`, and the text after it. -/
def cutLast (c : Char) (s : List Char) : Option (List Char × List Char) :=
  (cut c s.reverse).map fun r => (r.2.reverse, r.1.reverse)

theorem cut_append {c : Char} {a : List Char} (h : c ∉ a) (b : List Char) :
    cut c (a ++ c :: b) = some (a, b) := by
  induction a with
  | nil => simp [cut]
  | cons d a ih =>
    obtain ⟨hne, h⟩ := List.ne_and_not_mem_of_not_mem_cons h
    simp [cut, hne.symm, ih h]

theorem cutLast_eq_some {c : Char} {s a b : List Char} (heq : s = a ++ c :: b) (h : c ∉ b) :
    cutLast c s = some (a, b) := by
  have hreverse : s.reverse = b.reverse ++ c :: a.reverse := by simp [heq]
  rw [cutLast, hreverse, cut_append (by simpa using h)]
  simp

theorem exists_last_of_mem {c : Char} {s : List Char} (h : c ∈ s) :
    ∃ a b, s = a ++ c :: b ∧ c ∉ b := by
  obtain ⟨b, a, heq, hb⟩ := List.eq_append_cons_of_mem (List.mem_reverse.2 h)
  refine ⟨a.reverse, b.reverse, ?_, by simpa using hb⟩
  rw [← List.reverse_reverse s, heq]
  simp

/-- What the driver reads of a data source name. -/
@[ext]
structure Dsn where
  user : List Char
  passwd : List Char
  net : List Char
  host : List Char
  port : List Char
  dbName : List Char
  params : List (List Char × List Char)
  deriving DecidableEq

namespace Dsn

/-- The user and the password, before the `@`. -/
def credentials (s : List Char) : List Char × List Char := (cut ':' s).getD (s, [])

/-- The net and the address. An address ends with the closing bracket. -/
def network (s : List Char) : Option (List Char × List Char) :=
  match cut '(' s with
  | none => some (s, [])
  | some (net, addr) => if addr.getLast? = some ')' then some (net, addr.dropLast) else none

/-- `net.SplitHostPort`, unless there is an error. -/
def splitHostPort (hostport : List Char) : Option (List Char × List Char) := do
  let (host, port) ← cutLast ':' hostport
  match host with
  | '[' :: rest =>
    -- The first closing bracket stands before the last colon.
    let (inside, after) ← cut ']' rest
    if after = [] ∧ '[' ∉ inside ∧ '[' ∉ port ∧ ']' ∉ port then some (inside, port) else none
  | _ =>
    if ':' ∉ host ∧ '[' ∉ host ∧ ']' ∉ host ∧ '[' ∉ port ∧ ']' ∉ port then some (host, port)
    else none

/-- The host and the port of an address, which has the default port if it cannot be split. -/
def hostPort (net addr : List Char) : List Char × List Char :=
  if net = "tcp".toList then
    if addr = [] then ("127.0.0.1".toList, "3306".toList)
    else (splitHostPort addr).getD (addr, "3306".toList)
  else (addr, [])

/-- The parameters, without those that have no value. -/
def parameters (s : List Char) : List (List Char × List Char) :=
  (s.splitOn '&').filterMap (cut '=')

/-- The database and the parameters, after the slash. -/
def database (s : List Char) : List Char × List (List Char × List Char) :=
  match cut '?' s with
  | none => (s, [])
  | some (dbName, params) => (dbName, parameters params)

/-- What the driver reads of a text. Fails without the slash before the database. -/
def parse (dsn : List Char) : Option Dsn := do
  let (left, right) ← cutLast '/' dsn
  let (login, server) := (cutLast '@' left).getD ([], left)
  let (net, addr) ← network server
  let (host, port) := hostPort net addr
  let (user, passwd) := credentials login
  let (dbName, params) := database right
  return { user, passwd, net, host, port, dbName, params }

/-! ## Names that are written with all their parts -/

section Text

variable {user passwd net addr dbName params : List Char}

/-- A data source name of the usual form. -/
def text (user passwd net addr dbName params : List Char) : List Char :=
  user ++ ':' :: (passwd ++ '@' :: (net ++ '(' :: (addr ++ ')' :: '/' ::
    (dbName ++ '?' :: params))))

/-- The parts that nothing escapes have no separator of theirs. -/
structure Separable (user net dbName params : List Char) : Prop where
  user : ':' ∉ user
  net_at : '@' ∉ net
  net_bracket : '(' ∉ net
  dbName_slash : '/' ∉ dbName
  dbName_mark : '?' ∉ dbName
  params : '/' ∉ params

theorem parse_text (h : Separable user net dbName params) (haddr : '@' ∉ addr) :
    parse (text user passwd net addr dbName params) =
      some ⟨user, passwd, net, (hostPort net addr).1, (hostPort net addr).2, dbName,
        parameters params⟩ := by
  have hslash : cutLast '/' (text user passwd net addr dbName params) =
      some (user ++ ':' :: (passwd ++ '@' :: (net ++ '(' :: (addr ++ [')']))),
        dbName ++ '?' :: params) :=
    cutLast_eq_some (by simp [text]) (by simp [h.dbName_slash, h.params])
  have hat : cutLast '@' (user ++ ':' :: (passwd ++ '@' :: (net ++ '(' :: (addr ++ [')'])))) =
      some (user ++ ':' :: passwd, net ++ '(' :: (addr ++ [')'])) :=
    cutLast_eq_some (by simp) (by simp [h.net_at, haddr])
  simp [parse, hslash, hat, network, credentials, database, cut_append h.net_bracket,
    cut_append h.user, cut_append h.dbName_mark]

/-- An `@` in the address is taken for the end of the password. -/
theorem passwd_of_at_mem {d : Dsn} (h : Separable user net dbName params) (haddr : '@' ∈ addr)
    (hparse : parse (text user passwd net addr dbName params) = some d) :
    passwd.length < d.passwd.length := by
  obtain ⟨a, b, rfl, hb⟩ := exists_last_of_mem haddr
  have hslash : cutLast '/' (text user passwd net (a ++ '@' :: b) dbName params) =
      some (user ++ ':' :: (passwd ++ '@' :: (net ++ '(' :: (a ++ '@' :: (b ++ [')'])))),
        dbName ++ '?' :: params) :=
    cutLast_eq_some (by simp [text]) (by simp [h.dbName_slash, h.params])
  have hat : cutLast '@'
      (user ++ ':' :: (passwd ++ '@' :: (net ++ '(' :: (a ++ '@' :: (b ++ [')']))))) =
      some (user ++ ':' :: (passwd ++ '@' :: (net ++ '(' :: a)), b ++ [')']) :=
    cutLast_eq_some (by simp) (by simp [hb])
  simp only [parse, hslash, hat, Option.bind_eq_bind, Option.bind_some, Option.getD_some,
    credentials, cut_append h.user, Option.bind_eq_some_iff] at hparse
  obtain ⟨⟨net', addr'⟩, -, heq⟩ := hparse
  obtain rfl := Option.some.inj heq
  simp

end Text

/-! ## Hosts and ports -/

section HostPort

variable {host port : List Char}

theorem splitHostPort_append (h : ':' ∉ port) (hopen : '[' ∉ port) (hclose : ']' ∉ port)
    (hhost : ':' ∉ host ∧ '[' ∉ host ∧ ']' ∉ host) :
    splitHostPort (host ++ ':' :: port) = some (host, port) := by
  have hcut : cutLast ':' (host ++ ':' :: port) = some (host, port) := cutLast_eq_some rfl h
  rw [splitHostPort, hcut, Option.bind_eq_bind, Option.bind_some]
  dsimp only
  split
  · exact absurd List.mem_cons_self hhost.2.1
  · exact if_pos ⟨hhost.1, hhost.2.1, hhost.2.2, hopen, hclose⟩

/-- A host that is not written plainly is another one. -/
theorem splitHostPort_append_ne (h : ':' ∉ port)
    (hhost : ¬(':' ∉ host ∧ '[' ∉ host ∧ ']' ∉ host)) :
    splitHostPort (host ++ ':' :: port) ≠ some (host, port) := by
  have hcut : cutLast ':' (host ++ ':' :: port) = some (host, port) := cutLast_eq_some rfl h
  rw [splitHostPort, hcut, Option.bind_eq_bind, Option.bind_some]
  dsimp only
  split
  · rename_i rest
    intro hsplit
    obtain ⟨⟨inside, after⟩, hinside, hsplit⟩ := Option.bind_eq_some_iff.1 hsplit
    dsimp only at hsplit
    split_ifs at hsplit with hwhole
    obtain ⟨rfl, -⟩ := Prod.mk.inj (Option.some.inj hsplit)
    exact hwhole.2.1 List.mem_cons_self
  · intro hsplit
    obtain ⟨⟨hcolon, hopen, hclose, -⟩, -⟩ := Option.ite_none_right_eq_some.1 hsplit
    exact hhost ⟨hcolon, hopen, hclose⟩

/-- The host is read as it was written unless it has a colon or a bracket. -/
theorem hostPort_append_iff (h : ':' ∉ port) (hopen : '[' ∉ port) (hclose : ']' ∉ port) :
    hostPort "tcp".toList (host ++ ':' :: port) = (host, port) ↔
      ':' ∉ host ∧ '[' ∉ host ∧ ']' ∉ host := by
  rw [hostPort, if_pos rfl, if_neg (by simp)]
  constructor
  · intro heq
    by_contra hhost
    cases hsplit : splitHostPort (host ++ ':' :: port) with
    | none =>
      rw [hsplit] at heq
      simpa using congrArg (List.length ∘ Prod.fst) heq
    | some split =>
      rw [hsplit, Option.getD_some] at heq
      exact splitHostPort_append_ne h hhost (hsplit.trans (congrArg some heq))
  · intro hhost
    rw [splitHostPort_append h hopen hclose hhost, Option.getD_some]

end HostPort

end Dsn

end Lib
