import Conversa.Interface.Catalogue

/-!
# Loading a module or a script

A module is loaded by its dotted name after the packages above it, outermost first: the first of
them that stops, or that does not exist, decides the outcome, and a name below a plain module
names no module.  A script is loaded by its path alone.
-/

namespace Conversa.Interface

def noModule (name : String) : Failure := ⟨"ModuleNotFoundError", s!"No module named {Text.quote name}"⟩

def notPackage (name parent : String) : Failure :=
  ⟨"ModuleNotFoundError", s!"No module named {Text.quote name}; {Text.quote parent} is not a package"⟩

/-- The dotted names above and of a module, outermost first: `a`, `a.b`, `a.b.c`. -/
def enclosing (name : String) : List String :=
  let parts := name.splitOn "."
  (List.range parts.length).map fun i => ".".intercalate (parts.take (i + 1))

def isPackage (name : String) : Bool := modules.any fun (m, _) => m.startsWith (name ++ ".")

/-- Loads the modules of a chain of names in turn, the last one's outcome being the answer. -/
def loadChain (target : String) : Option String → List String → Loading
  | _, [] => .error (noModule target)
  | parent, p :: rest =>
    match modules.lookup p, parent with
    | none, some q => if isPackage q then .error (noModule p) else .error (notPackage p q)
    | none, none => .error (noModule p)
    | some loaded, _ =>
      match rest, loaded with
      | [], _ => loaded
      | _, .error f => .error f
      | _, .ok _ => loadChain target (some p) rest

def loadModule (name : String) : Loading :=
  if name.isEmpty then .error (.value "Empty module name") else loadChain name none (enclosing name)

/-- The module that defines a class which a module holds under the class's name, with the
class: the module itself when it defines it, else the first catalogued module below it that
does. -/
def definingModule? (target name : String) : Option (String × ClassInfo) :=
  modules.findSome? fun (m, loading) =>
    if m == target || m.startsWith (target ++ ".") then
      match loading with
      | .ok defs => (defs.classes.lookup name).map (m, ·)
      | .error _ => none
    else none

def loadScript (path : String) : Loading :=
  match scripts.lookup path with
  | some loaded => loaded
  | none => .error ⟨"FileNotFoundError", s!"[Errno 2] No such file or directory: {Text.quote path}"⟩

end Conversa.Interface
