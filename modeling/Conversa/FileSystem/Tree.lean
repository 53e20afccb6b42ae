import Conversa.FileSystem.Path
import Conversa.Data.Value

/-!
# The working directory

A request that works with files gets a fresh working directory holding the files it lists, each
with its text.  `Tree` is that directory: the files by relative path, and the directories they
imply.  A relative path names what lies under the working directory; an absolute path names
nothing here but the root itself.
-/

namespace Conversa.FileSystem

/-- The files of a working directory, by normalized relative path, with their texts, and the
directories made without files in them. -/
structure Tree where
  files : List (String × String)
  /-- Directories made explicitly, by normalized relative path. -/
  dirs : List String := []
  /-- Files that hold structured content rather than text (archives, stored objects), by
  normalized relative path. -/
  stored : Entries := []
deriving Inhabited, Repr

namespace Tree

def ofFiles (fs : List (String × String)) : Tree :=
  { files := fs.map fun (p, t) => ("/".intercalate (normalParts p), t) }

/-- The normalized relative form of a path, if it lies under the working directory. -/
def relative (p : String) : Option String :=
  if isAbsolute p then none
  else
    let ps := normalParts p
    if ps.head? == some ".." then none else some ("/".intercalate ps)

def isFile (t : Tree) (p : String) : Bool :=
  match relative p with
  | some r => !r.isEmpty && (t.files.any (·.1 == r) || t.stored.any (·.1 == r))
  | none => false

/-- Whether a path names a directory: the working directory itself or one that holds a
file. -/
def isDir (t : Tree) (p : String) : Bool :=
  if p.isEmpty then false
  else match relative p with
    | some "" => true
    | some r => t.files.any (fun (f, _) => f.startsWith (r ++ "/")) ||
      t.stored.any (fun (f, _) => f.startsWith (r ++ "/")) ||
      t.dirs.any fun d => d == r || d.startsWith (r ++ "/")
    | none => parts p == []

def exists_ (t : Tree) (p : String) : Bool := t.isFile p || t.isDir p

def read? (t : Tree) (p : String) : Option String :=
  match relative p with
  | some r => (t.files.find? (·.1 == r)).map (·.2)
  | none => none

/-- The working directory with a file written: created, or replaced with the new text. -/
def write (t : Tree) (p : String) (text : String) : Tree :=
  match relative p with
  | some r =>
    let t := { t with stored := t.stored.filter (·.1 != r) }
    if t.files.any (·.1 == r) then { t with files := t.files.map fun (f, x) => if f == r then (f, text) else (f, x) }
    else { t with files := t.files ++ [(r, text)] }
  | none => t

/-- The names of the entries directly under a directory, files and directories alike, sorted. -/
def entries (t : Tree) (dir : String) : List String :=
  let pre : String := match relative dir with
    | some "" | none => ""
    | some r => r ++ "/"
  let paths := t.files.map (·.1) ++ t.stored.map (·.1) ++ t.dirs
  let names := paths.filterMap fun f =>
    if f.startsWith pre && f != pre then (String.ofList (f.toList.drop pre.length) |>.splitOn "/").head? else none
  (names.foldl (fun acc n => if acc.contains n then acc else acc ++ [n]) []).mergeSort
    fun a b => decide (a ≤ b)

def remove (t : Tree) (p : String) : Tree :=
  match relative p with
  | some r => { t with files := t.files.filter (·.1 != r), stored := t.stored.filter (·.1 != r) }
  | none => t

def readStored? (t : Tree) (p : String) : Option Data :=
  match relative p with
  | some r => (t.stored.find? (·.1 == r)).map (·.2)
  | none => none

def writeStored (t : Tree) (p : String) (d : Data) : Tree :=
  match relative p with
  | some r =>
    let t := { t with files := t.files.filter (·.1 != r) }
    if t.stored.any (·.1 == r) then { t with stored := t.stored.map fun (f, x) => if f == r then (f, d) else (f, x) }
    else { t with stored := t.stored ++ [(r, d)] }
  | none => t

/-- The working directory with a directory made, and the directories above it. -/
def makeDir (t : Tree) (p : String) : Tree :=
  match relative p with
  | some "" | none => t
  | some r => if t.dirs.contains r then t else { t with dirs := t.dirs ++ [r] }

/-- The files under a directory, at any depth, by path, sorted. -/
def filesUnder (t : Tree) (dir : String) : List String :=
  let pre : String := match relative dir with
    | some "" | none => ""
    | some r => r ++ "/"
  ((t.files.map (·.1)).filter (·.startsWith pre)).mergeSort fun a b => decide (a ≤ b)

/-- The files a later working directory has that an earlier one has not, or has with another
text, sorted by path. -/
def written (before after : Tree) : List (String × String) :=
  (after.files.filter fun (p, x) => before.read? p != some x).mergeSort fun a b => decide (a.1 ≤ b.1)

/-- The files of structured content a later working directory has that an earlier one has not,
or has with other content, sorted by path. -/
def writtenStored (before after : Tree) : Entries :=
  (after.stored.filter fun (p, x) => before.readStored? p != some x).mergeSort fun a b => decide (a.1 ≤ b.1)

/-- The files an earlier working directory has that a later one has not, sorted. -/
def removed (before after : Tree) : List String :=
  ((before.files.map (·.1) ++ before.stored.map (·.1)).eraseDups.filter fun p => !after.isFile p).mergeSort
    fun a b => decide (a ≤ b)

end Tree

end Conversa.FileSystem
