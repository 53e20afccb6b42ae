import Conversa.Data.Number
import Conversa.Data.Show

/-!
# Reading documents by key and position

A malformed annotation document fails at the first access that does not fit, as the access
does: a missing key is a `KeyError`, indexing the wrong kind a `TypeError`, a position past an
end an `IndexError`.  `Data.key`, `Data.item`, `Data.elements` and `Data.holds` are those
accesses; `Data.joinTexts` joins a sequence of texts.
-/

namespace Conversa

namespace Data

def notSubscriptable (d : Data) : Failure := .type s!"'{d.kindName}' object is not subscriptable"

/-- The field `k` of a mapping. -/
def key (d : Data) (k : String) : Result Data :=
  match d with
  | .dict kvs =>
    match kvs.find? (·.1 == k) with
    | some (_, v) => .ok v
    | none => .error (.key (Text.quote k))
  | .list _ => .error (.type "list indices must be integers or slices, not str")
  | .str _ => .error (.type "string indices must be integers, not 'str'")
  | other => .error (notSubscriptable other)

/-- The element at position `i` of a sequence or text, counted from the end when negative. -/
def item (d : Data) (i : Int) : Result Data :=
  let pos (n : Nat) : Option Nat := if i < 0 then (if n + i < 0 then none else some (n + i).toNat)
    else if i < n then some i.toNat else none
  match d with
  | .list xs =>
    match (pos xs.length).bind (xs[·]?) with
    | some v => .ok v
    | none => .error .listIndex
  | .str s =>
    match (pos s.length).bind (s.toList[·]?) with
    | some c => .ok (.str (String.singleton c))
    | none => .error (.index "string index out of range")
  | .dict _ => .error (.key (toString i))
  | other => .error (notSubscriptable other)

/-- The elements a loop over a value visits: the elements of a sequence, the keys of a mapping,
the characters of a text. -/
def elements (d : Data) : Result (List Data) :=
  match d with
  | .list xs => .ok xs
  | .dict kvs => .ok (kvs.map fun (k, _) => .str k)
  | .str s => .ok (s.toList.map fun c => .str (String.singleton c))
  | other => .error (.type s!"'{other.kindName}' object is not iterable")

/-- Whether a value is found in a container: a key of a mapping, an element of a sequence, a
piece of a text. -/
def holds (container x : Data) : Result Bool :=
  match container with
  | .dict kvs =>
    match x with
    | .str k => .ok (kvs.any (·.1 == k))
    | .list _ => .error (.type "unhashable type: 'list'")
    | .dict _ => .error (.type "unhashable type: 'dict'")
    | _ => .ok false
  | .list xs => .ok (xs.any (Data.same · x))
  | .str s =>
    match x with
    | .str t => .ok ((s.splitOn t).length > 1 || t.isEmpty)
    | other => .error (.type s!"'in <string>' requires string as left operand, not {other.kindName}")
  | other => .error (.type s!"argument of type '{other.kindName}' is not iterable")

/-- A value used as a position: a whole number, or a truth value as one or zero. -/
def asIndex (d : Data) : Result Int :=
  match d with
  | .int n => .ok n
  | .bool b => .ok (if b then 1 else 0)
  | other => .error (.type s!"list indices must be integers or slices, not {other.kindName}")

/-- The number of elements of a sequence or mapping, or of characters of a text. -/
def size (d : Data) : Result Nat :=
  match d with
  | .list xs => .ok xs.length
  | .dict kvs => .ok kvs.length
  | .str s => .ok s.length
  | other => .error (.type s!"object of type '{other.kindName}' has no len()")

/-- The text of a text value, or the failure of using another value as one. -/
def asText (d : Data) (what : String) : Result String :=
  match d with
  | .str s => .ok s
  | other => .error (.type s!"{what} must be str, not {other.kindName}")

/-- The texts of a sequence joined by a separator; an element that is no text is refused with
its position. -/
def joinTexts (sep : String) (xs : List Data) : Result String := do
  let parts ← xs.zipIdx.mapM fun (x, i) => match x with
    | .str s => .ok s
    | other => .error (.type s!"sequence item {i}: expected str instance, {other.kindName} found")
  pure (sep.intercalate parts)

end Data

end Conversa
