import Conversa.Interface.Basic
import Conversa.Numeric.Reading

/-!
# The listing form of the catalogue

The catalogue is text, one record a line.  `M name` opens a module (`k.rest` keeps the first `k`
dotted parts of the one before); under it `!` (a loading failure), `F`, `C`/`S` (class, plain or
serializable), `K`, `X`.  Under a class: `m`, `s`, `c` (`i` a method without `self`, `I` its
`__init__`), `p`, `a`/`A`, `e`/`E`, `f`, `x`; `~k` is the member `k` of `commonMembers`.  A
parameter is a name after its passing mark, then `=value`; values are `N`, `T`, `F`, numbers,
`f` doubles, counted texts `s`/`m`/`t`/`k`/`z`, `A`, `H`, `[..]`, `(..)` and records `r`.
-/

namespace Conversa.Interface.Listing

def endsWord (c : Char) : Bool :=
  c == ' ' || c == '\n' || c == ',' || c == ']' || c == ')' || c == '='

def word (cs : List Char) : String × List Char :=
  (String.ofList (cs.takeWhile (!endsWord ·)), cs.dropWhile (!endsWord ·))

def number (cs : List Char) : Nat × List Char :=
  ((cs.takeWhile Char.isDigit).foldl (fun n c => 10 * n + (c.toNat - '0'.toNat)) 0,
   cs.dropWhile Char.isDigit)

/-- A counted text `n:chars`: `n` characters after the colon. -/
def counted (cs : List Char) : Option (String × List Char) :=
  match number cs with
  | (n, ':' :: rest) =>
    let chars := rest.take n
    if chars.length == n then some (String.ofList chars, rest.drop n) else none
  | _ => none

def double (cs : List Char) : Option (Float × List Char) :=
  let (w, rest) := word cs
  (Numeric.readFloat? w).map (·, rest)

mutual

/-- A value, and the characters after it. -/
def value : Nat → List Char → Option (Value × List Char)
  | 0, _ => none
  | fuel + 1, cs =>
    match cs with
    | 'N' :: r => some (.null, r)
    | 'T' :: r => some (.bool true, r)
    | 'F' :: r => some (.bool false, r)
    | 'A' :: r => some (.absent, r)
    | 'H' :: r => some (.typed "_HAS_DEFAULT_FACTORY_CLASS", r)
    | 'f' :: r => (double r).map fun (x, r) => (.float x, r)
    | 's' :: r => (counted r).map fun (s, r) => (.str s, r)
    | 'm' :: r => (counted r).map fun (s, r) => (.member s, r)
    | 't' :: r => (counted r).map fun (s, r) => (.typed s, r)
    | 'k' :: r => (counted r).map fun (s, r) => (.classRef s, r)
    | 'z' :: r => do
      let (s, r) ← counted r
      let (n, r) := number r
      some (.sized s n, r)
    | 'r' :: r => do
      let (cls, r) ← counted r
      let r ← match r with
        | '(' :: r => some r
        | _ => none
      let (es, r) ← entries fuel r
      some (.record cls es, r)
    | '[' :: r => do
      let (xs, r) ← items fuel r
      some (.seq xs, r)
    | '(' :: r => do
      let (es, r) ← entries fuel r
      some (.map es, r)
    | '-' :: r =>
      let (n, r) := number r
      some (.int (-(n : Int)), r)
    | c :: _ =>
      if c.isDigit then
        let (n, r) := number cs
        some (.int n, r)
      else none
    | [] => none

/-- The items of a sequence after its `[`, up to and past its `]`. -/
def items : Nat → List Char → Option (List Value × List Char)
  | 0, _ => none
  | _ + 1, ']' :: r => some ([], r)
  | fuel + 1, cs => do
    let (v, r) ← value fuel cs
    match r with
    | ',' :: r =>
      let (vs, r) ← items fuel r
      some (v :: vs, r)
    | ']' :: r => some ([v], r)
    | _ => none

/-- The entries of a mapping after its `(`, up to and past its `)`. -/
def entries : Nat → List Char → Option (List (String × Value) × List Char)
  | 0, _ => none
  | _ + 1, ')' :: r => some ([], r)
  | fuel + 1, cs => do
    let (k, r) ← counted cs
    let (v, r) ← value fuel r
    match r with
    | ',' :: r =>
      let (es, r) ← entries fuel r
      some ((k, v) :: es, r)
    | ')' :: r => some ([(k, v)], r)
    | _ => none

end

/-- How a parameter is passed, by its mark, and the characters after the mark. -/
def passing (cs : List Char) : Passing × List Char :=
  match cs with
  | '/' :: r => (.positionalOnly, r)
  | '~' :: r => (.keywordOnly, r)
  | '*' :: r => (.variadic, r)
  | '&' :: r => (.variadicKeywords, r)
  | r => (.positionalOrKeyword, r)

/-- The parameters of a signature, each after a blank, up to the end of the line. -/
def parameters : Nat → List Char → Option (Signature × List Char)
  | 0, _ => none
  | fuel + 1, ' ' :: r => do
    let (how, r) := passing r
    let (name, r) := word r
    let (default, r) ← match r with
      | '=' :: r => (value fuel r).map fun (v, r) => (some v, r)
      | r => some (none, r)
    let (ps, r) ← parameters fuel r
    some (⟨name, how, default⟩ :: ps, r)
  | _ + 1, r => some ([], r)

/-- The names of a line, each after a blank. -/
def names : Nat → List Char → List String × List Char
  | fuel + 1, ' ' :: r =>
    let (n, r) := word r
    let (ns, r) := names fuel r
    (n :: ns, r)
  | _, r => ([], r)

/-- A record of a listing. -/
inductive Line where
  | module (name : String)
  | failure (f : Failure)
  | function (name : String) (sig : Signature)
  /-- A class, by name and bases and whether it is serializable; the records after it fill it. -/
  | classHead (name : String) (bases : List String) (serializable : Bool)
  | method (name : String) (m : Method)
  | attr (name : String) (v : Value)
  | member (name : String) (v : Value)
  | enumeration
  | fields (names : List String)
  /-- A field of the record class made afresh for each instance. -/
  | factory (name : String) (v : Value)
  | constant (name : String) (v : Value)
  | exported (names : List String)

/-- A name, a blank and a value. -/
def namedValue (fuel : Nat) (cs : List Char) : Option (String × Value × List Char) := do
  let (n, r) := word cs
  let r ← match r with
    | ' ' :: r => some r
    | _ => none
  let (v, r) ← value fuel r
  some (n, v, r)

def commonMembers : List (Char × String) :=
  [('0', "output_types"), ('1', "input_types"), ('2', "forward"), ('3', "list_available_models"),
    ('4', "setup_validation_data"), ('5', "setup_training_data"),
    ('6', "_setup_dataloader_from_config"), ('7', "validation_step"), ('8', "validation_epoch_end"),
    ('9', "training_step"), ('a', "setup_test_data")]

/-- A member's name: a common one by its mark, or a word. -/
def memberName (cs : List Char) : String × List Char :=
  match cs with
  | '~' :: c :: r => (((commonMembers.find? (·.1 == c)).map (·.2)).getD "", r)
  | _ => word cs

/-- A method of a kind: its name and parameters. -/
def methodLine (fuel : Nat) (kind : Signature → Method) (cs : List Char) : Option (Line × List Char) := do
  let (n, r) := memberName cs
  let (sig, r) ← parameters fuel r
  some (.method n (kind sig), r)

/-- One record, and the characters after its line. -/
def line (fuel : Nat) (cs : List Char) : Option (Line × List Char) := do
  let (l, r) ← match cs with
    | 'M' :: ' ' :: r =>
      let (n, r) := word r
      some (Line.module n, r)
    | '!' :: ' ' :: r => do
      let (kind, r) := word r
      let r ← match r with
        | ' ' :: r => some r
        | _ => none
      let (msg, r) ← counted r
      some (.failure ⟨kind, msg⟩, r)
    | 'F' :: ' ' :: r => do
      let (n, r) := word r
      let (sig, r) ← parameters fuel r
      some (.function n sig, r)
    | 'C' :: ' ' :: r =>
      let (n, r) := word r
      let (bases, r) := names fuel r
      some (.classHead n bases false, r)
    | 'S' :: ' ' :: r =>
      let (n, r) := word r
      let (bases, r) := names fuel r
      some (.classHead n bases true, r)
    | 'm' :: ' ' :: r => methodLine fuel .function r
    | 'i' :: ' ' :: r => do
      let (n, r) := memberName r
      let (sig, r) ← parameters fuel (" self".toList ++ r)
      some (.method n (.function sig), r)
    | 'I' :: r => do
      let (sig, r) ← parameters fuel (" self".toList ++ r)
      some (.method "__init__" (.function sig), r)
    | 's' :: ' ' :: r => methodLine fuel .static r
    | 'c' :: ' ' :: r => methodLine fuel .classMethod r
    | 'p' :: ' ' :: r =>
      let (n, r) := memberName r
      some (.method n .property, r)
    | 'a' :: ' ' :: r => (namedValue fuel r).map fun (n, v, r) => (.attr n v, r)
    | 'e' :: ' ' :: r => (namedValue fuel r).map fun (n, v, r) => (.member n v, r)
    | 'x' :: ' ' :: r => (namedValue fuel r).map fun (n, v, r) => (.factory n v, r)
    | 'K' :: ' ' :: r => (namedValue fuel r).map fun (n, v, r) => (.constant n v, r)
    | 'E' :: r => some (.enumeration, r)
    | 'A' :: r => some (.attr "_abc_impl" (.typed "_abc_data"), r)
    | 'f' :: r =>
      let (ns, r) := names fuel r
      some (.fields ns, r)
    | 'X' :: r =>
      let (ns, r) := names fuel r
      some (.exported ns, r)
    | _ => none
  match r with
  | '\n' :: r => some (l, r)
  | _ => none

/-- The records of a listing, up to its end or to the first line that does not read. -/
def lines (fuel : Nat) : Nat → List Char → List Line
  | 0, _ => []
  | n + 1, cs =>
    match line fuel cs with
    | some (l, r) => l :: lines fuel n r
    | none => []

/-- A list with its last item changed. -/
def onLast {α : Type} (f : α → α) : List α → List α
  | [] => []
  | [x] => [f x]
  | x :: xs => x :: onLast f xs

def addToClass (c : ClassInfo) : Line → ClassInfo
  | .method n m => { c with methods := c.methods ++ [(n, m)] }
  | .attr n v => { c with attrs := c.attrs ++ [(n, v)] }
  | .member n v => { c with members := some (c.members.getD [] ++ [(n, v)]) }
  | .enumeration => { c with members := some (c.members.getD []) }
  | .fields ns => { c with fields := some ns }
  | .factory n v => { c with factories := c.factories ++ [(n, v)] }
  | _ => c

/-- A module with one more of its records: a record of a class fills the last class. -/
def addToModule (m : Module) : Line → Module
  | .function n sig => { m with functions := m.functions ++ [(n, sig)] }
  | .classHead n bases serializable => { m with classes := m.classes ++ [(n, { bases, serializable })] }
  | .constant n v => { m with constants := m.constants ++ [(n, v)] }
  | .exported ns => { m with exported := some ns }
  | .module _ | .failure _ => m
  | l => { m with classes := onLast (fun (n, c) => (n, addToClass c l)) m.classes }

/-- A module's name as a listing writes it, given the name before it: `k.rest` keeps the first `k`
dotted parts of the name before it and adds the rest. -/
def expandName (previous : Option String) (n : String) : String :=
  match number n.toList, previous with
  | (k + 1, '.' :: rest), some p => ".".intercalate ((p.splitOn ".").take (k + 1) ++ [String.ofList rest])
  | _, _ => n

/-- The modules records give, newest first: a failure replaces the module it is in. -/
def assemble (done : List (String × Loading)) : Line → List (String × Loading)
  | .module n => (expandName (done.head?.map (·.1)) n, .ok {}) :: done
  | .failure f =>
    match done with
    | (n, _) :: rest => (n, .error f) :: rest
    | [] => []
  | l =>
    match done with
    | (n, .ok m) :: rest => (n, .ok (addToModule m l)) :: rest
    | other => other

def read (text : String) : List (String × Loading) :=
  let cs := text.toList
  ((lines cs.length cs.length cs).foldl assemble []).reverse

end Conversa.Interface.Listing
