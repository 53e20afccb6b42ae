import Conversa.Failure
import Conversa.Data.Value

/-!
# The interface of a module

`Module` records what a module of the toolkit defines: functions with their parameters, classes
with bases, methods and attributes, and constants; a module that fails while loaded has its
failure instead (`Loading`).  `Module.describe` writes an interface as data: a parameter as
`[name, kind]` or `[name, kind, default]`, a method as `[kind, signature]`, the exported names
sorted.
-/

namespace Conversa.Interface

/-- A value a module holds: a constant, a default of a parameter or a class attribute. -/
inductive Value where
  | null
  | bool (b : Bool)
  | int (n : Int)
  /-- A double, possibly infinite or not a number. -/
  | float (x : Float)
  | str (s : String)
  /-- A short sequence or set, items in order. -/
  | seq (items : List Value)
  /-- A short mapping with simple keys, entries in order. -/
  | map (entries : List (String × Value))
  /-- A member of an enumeration, as `Class.NAME`. -/
  | member (name : String)
  /-- An object of a package that is not installed. -/
  | absent
  | typed (name : String)
  /-- A container too large or too deep to write, by its type and size. -/
  | sized (name : String) (size : Nat)
  | classRef (name : String)
  /-- An instance of a record class, by the class's qualified name, with the value of each
  field. -/
  | record (cls : String) (fields : List (String × Value))
deriving Inhabited

/-- How an argument reaches a parameter. -/
inductive Passing where
  | positionalOnly
  | positionalOrKeyword
  | variadic
  | keywordOnly
  | variadicKeywords
deriving DecidableEq, Inhabited

/-- A parameter of a function: its name, how it is passed, and its default if it has one. -/
structure Parameter where
  name : String
  passing : Passing := .positionalOrKeyword
  /-- The value it takes when no argument is given. -/
  default : Option Value := none
deriving Inhabited

abbrev Signature := List Parameter

/-- A method of a class, by the way it is bound. -/
inductive Method where
  | function (sig : Signature)
  | static (sig : Signature)
  | classMethod (sig : Signature)
  | property
deriving Inhabited

/-- A class: its bases, its methods and its class attributes, in the order they are defined;
the members of an enumeration, and the fields of a record class with the defaults made afresh
for each instance. -/
structure ClassInfo where
  bases : List String
  methods : List (String × Method) := []
  attrs : List (String × Value) := []
  /-- The members of an enumeration with their values. -/
  members : Option (List (String × Value)) := none
  fields : Option (List String) := none
  /-- The fields of a record class whose default is made afresh for each instance, with the
  value made. -/
  factories : List (String × Value) := []
  /-- Whether the class descends from the toolkit's serializable base. -/
  serializable : Bool := false
deriving Inhabited

/-- The definitions of a module, in the order they are made. -/
structure Module where
  functions : List (String × Signature) := []
  classes : List (String × ClassInfo) := []
  constants : List (String × Value) := []
  /-- The names the module exports, if it lists them. -/
  exported : Option (List String) := none
deriving Inhabited

/-- A module as loading it ends: its definitions, or the failure that stopped it. -/
abbrev Loading := Result Module

def Passing.word : Passing → String
  | .positionalOnly => "POSITIONAL_ONLY"
  | .positionalOrKeyword => "POSITIONAL_OR_KEYWORD"
  | .variadic => "VAR_POSITIONAL"
  | .keywordOnly => "KEYWORD_ONLY"
  | .variadicKeywords => "VAR_KEYWORD"

mutual

def Value.describe : Value → Data
  | .null => .null
  | .bool b => .bool b
  | .int n => .int n
  | .float x => .float x
  | .str s => .str s
  | .seq items => .list (Value.describeItems items)
  | .map entries => .dict (Value.describeEntries entries)
  | .member name => .dict [("enum", .str name)]
  | .absent => .dict [("type", .str "<absent>")]
  | .typed name => .dict [("type", .str name)]
  | .sized name size => .dict [("type", .str name), ("len", .int size)]
  | .classRef name => .dict [("class", .str name)]
  | .record cls _ => .dict [("type", .str ((cls.splitOn ".").getLast?.getD cls))]

def Value.describeItems : List Value → List Data
  | [] => []
  | v :: vs => v.describe :: Value.describeItems vs

def Value.describeEntries : List (String × Value) → Entries
  | [] => []
  | (k, v) :: rest => (k, v.describe) :: Value.describeEntries rest

end

def describeEntries (entries : List (String × Value)) : Data := .dict (Value.describeEntries entries)

/-- A parameter written as `[name, kind]` or `[name, kind, default]`. -/
def Parameter.describe (p : Parameter) : Data :=
  .list ([.str p.name, .str p.passing.word] ++ (p.default.map Value.describe).toList)

def describeSignature (sig : Signature) : Data := .list (sig.map Parameter.describe)

/-- A method written as `[kind, signature]`. -/
def Method.describe : Method → Data
  | .function sig => .list [.str "function", describeSignature sig]
  | .static sig => .list [.str "staticmethod", describeSignature sig]
  | .classMethod sig => .list [.str "classmethod", describeSignature sig]
  | .property => .list [.str "property", .null]

/-- A class written as its bases, methods and attributes, and its members and fields when it
has them. -/
def ClassInfo.describe (c : ClassInfo) : Data :=
  .dict ([("bases", .list (c.bases.map Data.str)),
      ("methods", .dict (c.methods.map fun (k, m) => (k, m.describe))),
      ("attrs", describeEntries c.attrs)] ++
    (c.members.map fun ms => ("members", .list (ms.map fun (k, v) => .list [.str k, v.describe]))).toList ++
    (c.fields.map fun fs => ("fields", .list (fs.map Data.str))).toList)

/-- A module's definitions written as functions, classes, constants and exported names. -/
def Module.describe (m : Module) : Data :=
  .dict [("functions", .dict (m.functions.map fun (k, s) => (k, describeSignature s))),
    ("classes", .dict (m.classes.map fun (k, c) => (k, c.describe))),
    ("constants", describeEntries m.constants),
    ("all", match m.exported with
      | some names => .list ((names.mergeSort fun a b => !(b < a)).map Data.str)
      | none => .null)]

end Conversa.Interface
