/-!
# Paths

Paths are texts of `/`-separated parts.  This file gives the pieces of a path that the toolkit
reads — the last part (`name`), the name without its last suffix (`stem`) and the parent — and a
normal form in which `.` parts and repeated separators are gone and `..` takes back the part
before it.  `display` is the text a path object shows, which keeps `..` parts.
-/

namespace Conversa.FileSystem

/-- The non-empty parts of a path, without `.` parts. -/
def parts (p : String) : List String :=
  (p.splitOn "/").filter fun s => !s.isEmpty && s != "."

/-- The parts of a path with `..` resolved against the parts before it; a `..` at the start
stays. -/
def normalParts (p : String) : List String :=
  ((parts p).foldl (fun acc s =>
    if s == ".." then
      match acc with
      | x :: rest => if x == ".." then s :: acc else rest
      | [] => [s]
    else s :: acc) []).reverse

def isAbsolute (p : String) : Bool := p.startsWith "/"

/-- The last part of a path, empty for the root or an empty path. -/
def name (p : String) : String := ((parts p).getLast?).getD ""

/-- The position of the last dot of a name that separates a suffix: not the first character
and not the last. -/
def suffixDot (n : String) : Option Nat :=
  let cs := n.toList
  match (cs.zipIdx.filter (·.1 == '.')).getLast? with
  | some (_, i) => if 0 < i && i + 1 < cs.length then some i else none
  | none => none

def stem (p : String) : String :=
  let n := name p
  match suffixDot n with
  | some i => String.ofList (n.toList.take i)
  | none => n

/-- The part of a path before its last separator, the separators that end it dropped unless it
holds nothing else; empty for a path without a separator. -/
def directoryPart (p : String) : String :=
  let cs := p.toList
  match (cs.zipIdx.filter (·.1 == '/')).getLast? with
  | none => ""
  | some (_, i) =>
    let h := cs.take (i + 1)
    let trimmed := (h.reverse.dropWhile (· == '/')).reverse
    String.ofList (if trimmed.isEmpty then h else trimmed)

/-- The path without its last part: `.` for a single relative part. -/
def parent (p : String) : String :=
  let ps := parts p
  let lead := if isAbsolute p then "/" else ""
  match ps.dropLast with
  | [] => if isAbsolute p then "/" else "."
  | qs => lead ++ "/".intercalate qs

/-- The text of a path as a path object writes it: its parts joined by single separators,
`.` for a relative path without parts. -/
def display (p : String) : String :=
  let lead := if isAbsolute p then "/" else ""
  match parts p with
  | [] => if isAbsolute p then "/" else "."
  | ps => lead ++ "/".intercalate ps

/-- Two paths joined as path objects join them, written as a path: the second replaces the first
when it is absolute. -/
def joinDisplay (a b : String) : String :=
  if isAbsolute b then display b
  else
    match parts a, parts b with
    | [], [] => display a
    | _, [] => display a
    | [], _ => if isAbsolute a then display ("/" ++ b) else display b
    | _, _ => display (a ++ "/" ++ b)

/-- Two paths joined, the second replacing the first when it is absolute. -/
def join (a b : String) : String :=
  if isAbsolute b || a.isEmpty then b
  else if a.endsWith "/" then a ++ b
  else a ++ "/" ++ b

end Conversa.FileSystem
