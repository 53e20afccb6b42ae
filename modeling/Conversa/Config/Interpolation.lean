import Conversa.Data.Show
import Conversa.Failure

/-!
# Interpolations in configurations

A text value may refer to other values with `${path}`, dotted from the root or relative after
leading dots (one dot the holding mapping, each further dot one level up).  A text that is one
interpolation takes the value, of whatever kind; otherwise each is replaced by the value as
text, resolved in turn.  A path that names nothing is refused with the key, the full key of the
referring value and the kind of its container.
-/

namespace Conversa.Config

/-- A piece of a text with interpolations: plain text, or a reference by path. -/
inductive Piece where
  | plain (s : String)
  | ref (path : String)
deriving Inhabited, Repr, BEq

/-- The pieces of a text: `${` opens a reference and the next `}` closes it.  `fuel` bounds the
references read. -/
def piecesFrom (fuel : Nat) (acc : List Char) (cs : List Char) : List Piece :=
  match fuel, cs with
  | 0, _ => if acc.isEmpty && cs.isEmpty then [] else [.plain (String.ofList (acc.reverse ++ cs))]
  | fuel + 1, '$' :: '\x7b' :: rest =>
    let inside := rest.takeWhile (· != '\x7d')
    if rest.drop inside.length == [] then [.plain (String.ofList (acc.reverse ++ '$' :: '\x7b' :: rest))]
    else
      (if acc.isEmpty then [] else [Piece.plain (String.ofList acc.reverse)]) ++
        Piece.ref (String.ofList inside) :: piecesFrom fuel [] (rest.drop (inside.length + 1))
  | fuel + 1, c :: rest => piecesFrom fuel (c :: acc) rest
  | _ + 1, [] => if acc.isEmpty then [] else [.plain (String.ofList acc.reverse)]

def pieces (s : String) : List Piece := piecesFrom (s.length + 1) [] s.toList

def hasInterpolation (s : String) : Bool := (pieces s).any fun p => match p with
  | .ref _ => true
  | .plain _ => false

/-- The child of a container by key: an entry of a mapping, an element of a sequence by
position. -/
def child (d : Data) (k : String) : Option Data :=
  match d with
  | .dict kvs => (kvs.find? (·.1 == k)).map (·.2)
  | .list xs => k.toNat?.bind (xs[·]?)
  | _ => none

def valueAt (root : Data) (path : List String) : Option Data :=
  path.foldlM child root

/-- The full key of a path: keys joined by dots, positions in brackets. -/
def fullKey (root : Data) (path : List String) : String :=
  let (out, _) := path.foldl (fun (acc : String × Data) k =>
    let (out, node) := acc
    let part := match node with
      | .list _ => s!"[{k}]"
      | _ => if out.isEmpty then k else "." ++ k
    (out ++ part, (child node k).getD .null)) ("", root)
  out

def referencePath (at_ : List String) (ref : String) : List String :=
  let dots := (ref.toList.takeWhile (· == '.')).length
  let rest := (String.ofList (ref.toList.drop dots)).splitOn "." |>.filter (!·.isEmpty)
  if dots == 0 then rest
  else (at_.dropLast.take (at_.dropLast.length - (dots - 1))) ++ rest

def interpolatedText (d : Data) : String := d.text

mutual

/-- A value with its interpolations resolved; `at` is its path, `fuel` bounds the chain of
references. -/
def resolveValue (fuel : Nat) (root : Data) (at_ : List String) (d : Data) : Result Data :=
  match fuel with
  | 0 => .error ⟨"InterpolationResolutionError", "Recursive interpolation detected"⟩
  | fuel + 1 =>
    match d with
    | .str s =>
      if !hasInterpolation s then .ok d
      else match pieces s with
        | [.ref r] => resolveRef fuel root at_ r
        | ps => do
          let parts ← ps.mapM fun p => match p with
            | .plain t => pure t
            | .ref r => do pure (interpolatedText (← resolveRef fuel root at_ r))
          pure (.str (String.join parts))
    | .list xs => do
      pure (.list (← xs.zipIdx.mapM fun (x, i) => resolveValue fuel root (at_ ++ [toString i]) x))
    | .dict kvs => do
      pure (.dict (← kvs.mapM fun (k, v) => do pure (k, ← resolveValue fuel root (at_ ++ [k]) v)))
    | other => .ok other

def resolveRef (fuel : Nat) (root : Data) (at_ : List String) (ref : String) : Result Data :=
  match fuel with
  | 0 => .error ⟨"InterpolationResolutionError", "Recursive interpolation detected"⟩
  | fuel + 1 =>
    let path := referencePath at_ ref
    match valueAt root path with
    | some v => resolveValue fuel root path v
    | none =>
      let holder := match valueAt root at_.dropLast with
        | some (.list _) => "list"
        | _ => "dict"
      .error ⟨"InterpolationKeyError",
        s!"Interpolation key {Text.quote ref} not found\n    full_key: {fullKey root at_}\n    object_type={holder}"⟩

end

def resolveAll (root : Data) : Result Data :=
  resolveValue (4 * (Data.show root).length + 4) root [] root

end Conversa.Config
