import Conversa.FileSystem.Tree
import Conversa.Text.Unicode
import Conversa.Text.Bytes
import Conversa.Numeric.Twister

/-!
# The effects of a call

A call into the toolkit may read and write files of its working directory and print text.  `Work`
is a computation with those effects that may fail; a failure keeps the effects that came before
it, as a program that stops on an error leaves behind the files it already wrote and the text it
already printed.  A call also shares one standard generator, which a request may seed.
-/

namespace Conversa.Entry

open FileSystem

/-- The working directory of a call and the text it printed so far. -/
structure Workspace where
  tree : Tree
  printed : String := ""
  current : Data := .null
  chance : Numeric.Generator := Numeric.Generator.standard 0
deriving Inhabited

/-- A computation on a workspace that may fail, keeping the workspace it reached. -/
abbrev Work := EStateM Failure Workspace

namespace Work

def fail {α : Type} (f : Failure) : Work α := throw f

def lift {α : Type} : Result α → Work α
  | .ok a => pure a
  | .error f => throw f

instance : MonadLift (Except Failure) Work := ⟨lift⟩

def files : Work Tree := do pure (← get).tree

def noSuchFile (p : String) : Failure :=
  ⟨"FileNotFoundError", s!"[Errno 2] No such file or directory: {Text.quote p}"⟩

/-- The text of a file; a missing file fails as opening it does. -/
def readFile (p : String) : Work String := do
  match (← get).tree.read? p with
  | some t => pure t
  | none => throw (noSuchFile p)

/-- The bytes of a file: those it arrived with, or the UTF-8 of its text; a missing file fails as
opening it does. -/
def readBytes (p : String) : Work (List UInt8) := do
  let t := (← get).tree
  match t.readStored? p with
  | some (.dict [("bytes", .str hex)]) =>
    match Text.hexBytes? hex.toList with
    | some bs => pure bs
    | none => pure []
  | _ =>
    match t.read? p with
    | some s => pure s.toUTF8.toList
    | none => throw (noSuchFile p)

/-- The lines of a text as reading it line by line gives them: a carriage return, alone or
before a newline, ends a line as a newline does, and each line keeps its end. -/
def textLines (text : String) : List String :=
  let parts := ((text.replace "\r\n" "\n").replace "\r" "\n").splitOn "\n"
  let full := parts.dropLast.map (· ++ "\n")
  match parts.getLast? with
  | some "" | none => full
  | some last => full ++ [last]

/-- The lines of a text file, each with its end; a missing file fails as opening it does. -/
def readLines (p : String) : Work (List String) := do
  pure (textLines (← readFile p))

def parentExists (p : String) : Work Bool := do
  let dir := FileSystem.parent p
  pure (dir.isEmpty || dir == "." || (← get).tree.isDir dir)

def writeFile (p : String) (text : String) : Work Unit := do
  if !(← parentExists p) then throw (noSuchFile p)
  modify fun w => { w with tree := w.tree.write p text }

def writeStored (p : String) (d : Data) : Work Unit := do
  if !(← parentExists p) then throw (noSuchFile p)
  modify fun w => { w with tree := w.tree.writeStored p d }

def makeDirs (p : String) : Work Unit :=
  modify fun w => { w with tree := w.tree.makeDir p }

/-- Adds text at the end of a file, creating it if needed; its directory must exist. -/
def appendFile (p : String) (text : String) : Work Unit := do
  if !(← parentExists p) then throw (noSuchFile p)
  modify fun w => { w with tree := w.tree.write p ((w.tree.read? p).getD "" ++ text) }

def removeFile (p : String) : Work Unit :=
  modify fun w => { w with tree := w.tree.remove p }

def pathExists (p : String) : Work Bool := do pure ((← get).tree.exists_ p)

def isFile (p : String) : Work Bool := do pure ((← get).tree.isFile p)

def isDir (p : String) : Work Bool := do pure ((← get).tree.isDir p)

def this : Work Data := do pure (← get).current

def setThis (d : Data) : Work Unit := modify fun w => { w with current := d }

def draw {α : Type} (f : Numeric.Generator → α × Numeric.Generator) : Work α :=
  modifyGet fun w => let (a, g) := f w.chance; (a, { w with chance := g })

def printLine (s : String) : Work Unit :=
  modify fun w => { w with printed := w.printed ++ s ++ "\n" }

end Work

end Conversa.Entry
