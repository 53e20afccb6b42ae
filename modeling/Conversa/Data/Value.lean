import Conversa.Numeric.Binary

/-!
# Structured data

`Data` is the value of the files and configurations the toolkit reads and writes.  It keeps two
distinctions that matter downstream: whole numbers and doubles differ (`1` is not `1.0`), and a
mapping's entries keep their written order.  The accessors say `none` for an absent field;
nothing here decides what an absent field means.
-/

namespace Conversa

/-- A value of a data file or configuration. -/
inductive Data where
  | null
  | bool (b : Bool)
  | int (n : Int)
  | float (x : Float)
  | str (s : String)
  | list (xs : List Data)
  /-- A mapping from names to values, in the order the entries were written. -/
  | dict (kvs : List (String × Data))
deriving Inhabited, Repr, BEq

/-- The entries of a mapping, in order. -/
abbrev Entries := List (String × Data)

namespace Data

/-- The value stored under `k`, if the mapping has that key. -/
def get? : Data → String → Option Data
  | .dict kvs, k => (kvs.find? (·.1 == k)).map (·.2)
  | _, _ => none

def has (d : Data) (k : String) : Bool := (d.get? k).isSome

/-- The value stored under `k`, or `null` when it is absent. -/
def getD (d : Data) (k : String) : Data := (d.get? k).getD .null

/-- The entries of a mapping, or none for any other value. -/
def entries : Data → Entries
  | .dict kvs => kvs
  | _ => []

/-- The elements of a sequence, or none for any other value. -/
def items : Data → List Data
  | .list xs => xs
  | _ => []

def str? : Data → Option String
  | .str s => some s
  | _ => none

def int? : Data → Option Int
  | .int n => some n
  | _ => none

/-- A number of either kind, as a double. -/
def num? : Data → Option Float
  | .int n => some (Numeric.ofInt n)
  | .float x => some x
  | _ => none

def isNull : Data → Bool
  | .null => true
  | _ => false

/-- Replaces the value under `k`, or appends the entry when the key is new. -/
def set (d : Data) (k : String) (v : Data) : Data :=
  match d with
  | .dict kvs =>
    if kvs.any (·.1 == k) then .dict (kvs.map fun e => if e.1 == k then (k, v) else e)
    else .dict (kvs ++ [(k, v)])
  | _ => .dict [(k, v)]

def erase (d : Data) (k : String) : Data :=
  match d with
  | .dict kvs => .dict (kvs.filter (·.1 != k))
  | other => other

def strs (xs : List String) : Data := .list (xs.map .str)

def ints (xs : List Int) : Data := .list (xs.map .int)

def nats (xs : List Nat) : Data := .list (xs.map fun (n : Nat) => Data.int (Int.ofNat n))

def floats (xs : List Float) : Data := .list (xs.map .float)

/-- An optional value, `null` when absent. -/
def opt {α : Type} (f : α → Data) : Option α → Data
  | some a => f a
  | none => .null

end Data

/-- The positional argument `i` of a call, `None` where it is not given. -/
def arg (vals : List Data) (i : Nat) : Data := vals.getD i .null

/-- The keyword argument `k` of a call, `None` where it is not given. -/
def kwarg (args : Entries) (k : String) : Data := (args.lookup k).getD .null

mutual

def Data.depth : Data → Nat
  | .list xs => Data.depthItems xs + 1
  | .dict kvs => Data.depthEntries kvs + 1
  | _ => 0

def Data.depthItems : List Data → Nat
  | [] => 0
  | x :: xs => max x.depth (Data.depthItems xs)

def Data.depthEntries : Entries → Nat
  | [] => 0
  | (_, v) :: kvs => max v.depth (Data.depthEntries kvs)

end

end Conversa
