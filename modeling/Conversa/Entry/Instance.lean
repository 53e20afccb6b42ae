import Conversa.Data.Json
import Conversa.Entry.Arrays
import Conversa.Interface.Records
import Conversa.Language.Tokenizer

/-!
# Objects handed to a call

A call may be handed objects, each a mapping with one dollar key: `$bare` (an instance made
without its constructor), `$ns`, `$rec` (a recorder answering in turn and keeping arguments),
`$new` (a constructor's value) and `$cwd` (a path); a seeded generator is kept under `$rng`.
`intake` turns these into the library's forms and `shown` writes any value back; a method runs
in `Method`, with the object it acts on.
-/

namespace Conversa.Entry

def workingDirectory : String := "$WORK/w"

def recorderKey : String := "$rec"

def recorder (returns calls : List Data) : Data :=
  .dict [(recorderKey, .dict [("returns", .list returns), ("calls", .list calls)])]

def recorder? (d : Data) : Option (List Data × List Data) :=
  match tagged? d recorderKey with
  | some r => some ((r.getD "returns").items, (r.getD "calls").items)
  | none => none

/-- The text a key of a mapping is written with: a text itself, a number in digits, and a tuple
as its parts joined by a bar. -/
def keyText : Data → String
  | .str s => s
  | .list xs => "|".intercalate (xs.map Data.text)
  | d =>
    match tagged? d "$tuple" with
    | some (.list xs) => "|".intercalate (xs.map Data.text)
    | _ => d.text

def shortName (ref : String) : String :=
  let afterColon := ((ref.splitOn ":").getLast?).getD ref
  ((afterColon.splitOn ".").getLast?).getD afterColon

/-- Key and value pairs as the entries of a mapping, a later key replacing an earlier one. -/
def pairEntries (pairs : List Data) : Entries :=
  pairs.foldl (fun acc p =>
    let parts := match tagged? p "$tuple" with
      | some (.list xs) => xs
      | _ => p.items
    match parts with
    | [k, v] => ((Data.dict acc).set (keyText k) v).entries
    | _ => acc) []

mutual

/-- A structured configuration made from a value: an object becomes the mapping of its
attributes, at any depth. -/
def configOf : Data → Data
  | .dict [("attrs", .dict attrs), ("object", .str _)] => .dict (configEntries attrs)
  | .dict kvs => .dict (configEntries kvs)
  | .list xs => .list (configItems xs)
  | d => d

def configItems : List Data → List Data
  | [] => []
  | x :: xs => configOf x :: configItems xs

def configEntries : Entries → Entries
  | [] => []
  | (k, v) :: kvs => (k, configOf v) :: configEntries kvs

end

/-- A generator as data: its family, its twister's words and position, and its kept deviate. -/
def generatorData (g : Numeric.Generator) : Data :=
  .dict [("$rng", .dict [("array", .bool (g.family == .array)),
    ("words", .list (g.twister.words.toList.map fun w => .int w.toNat)), ("index", .int g.twister.index),
    ("spare", (g.spare.map Data.float).getD .null)])]

def generator? (d : Data) : Option Numeric.Generator := do
  let s ← tagged? d "$rng"
  let words := (s.getD "words").items.map fun w => (w.int?.getD 0).toNat.toUInt32
  pure ⟨if (s.getD "array").truthy then .array else .standard, ⟨words.toArray, ((s.getD "index").int?.getD 0).toNat⟩,
    match s.getD "spare" with
    | .float x => some x
    | _ => none⟩

/-- How a generator shows: a standard one as its object with no kept deviate, an array one by its
representation. -/
def generatorShown (s : Data) : Data :=
  if (s.getD "array").truthy then .dict [("repr", .str "RandomState(MT19937) at 0x0")]
  else objectData "Random" [("gauss_next", s.getD "spare")]

/-- A byte-level tokenizer as an object: its special tokens and the size of its vocabulary. -/
def byteLevelTokenizer : Data :=
  objectData "ByteLevelTokenizer"
    [("special_tokens", Data.nats Language.ByteLevel.specialIds), ("vocab_size", Data.int Language.ByteLevel.vocabSize)]

/-- The value a constructor named `module:Name` makes from arguments: a mapping from pairs or
names, a configuration from a record or a mapping, or an instance of a record class.  A
constructor of any other kind is kept as it was written. -/
def constructed (ref : String) (args : List Data) (kwargs : Entries) : Data :=
  let written := Data.dict ([("$new", .str ref)] ++
    (if args.isEmpty then [] else [("args", .list args)]) ++
    (if kwargs.isEmpty then [] else [("kwargs", .dict kwargs)]))
  match ref, args with
  | "builtins:dict", [] => .dict kwargs
  | "builtins:dict", [.list pairs] => .dict ((pairEntries pairs).foldl (fun acc (k, v) => (Data.dict acc |>.set k v).entries) [] ++ kwargs)
  | "nemo.collections.common.tokenizers.bytelevel_tokenizers:ByteLevelTokenizer", [] => byteLevelTokenizer
  | "omegaconf:OmegaConf.structured", [x] => .dict [("$cfg", configOf x)]
  | "omegaconf:OmegaConf.create", [x] => .dict [("$cfg", configOf x)]
  | "random:Random", [.int n] => generatorData (Numeric.Generator.standard n)
  | "numpy.random:RandomState", [.int n] =>
    if 0 ≤ n ∧ n < 4294967296 then generatorData (Numeric.Generator.array n.toNat) else written
  | _, _ =>
    match ref.splitOn ":" with
    | [target, name] =>
      match Interface.findRecordSeen target name with
      | some c =>
        match c.construct name ⟨args, kwargs⟩ with
        | .ok d => d
        | .error _ => written
      | none => written
    | _ => written

mutual

/-- A value handed to a call, in the forms the library works on. -/
def intake : Data → Data
  | .list xs => .list (intakeItems xs)
  | .dict [("$ns", .dict attrs)] => objectData "SimpleNamespace" (intakeEntries attrs)
  | .dict [("$rec", .dict [("returns", .list returns)])] => recorder (intakeItems returns) []
  | .dict [("$bare", .str cls), ("attrs", .dict attrs)] => objectData (shortName cls) (intakeEntries attrs)
  | .dict [("$bare", .str cls)] => objectData (shortName cls) []
  | .dict [("$new", .str ref)] => constructed ref [] []
  | .dict [("$new", .str ref), ("args", .list xs)] => constructed ref (intakeItems xs) []
  | .dict [("$new", .str ref), ("kwargs", .dict kws)] => constructed ref [] (intakeEntries kws)
  | .dict [("$new", .str ref), ("args", .list xs), ("kwargs", .dict kws)] =>
    constructed ref (intakeItems xs) (intakeEntries kws)
  | .dict [("$new", .str ref), ("kwargs", .dict kws), ("args", .list xs)] =>
    constructed ref (intakeItems xs) (intakeEntries kws)
  | .dict [("$cwd", .str p)] => .str (if p.isEmpty then workingDirectory else workingDirectory ++ "/" ++ p)
  | .dict [("$ref", .str r)] => (Interface.wholeMember? r).getD (.dict [("$ref", .str r)])
  | .dict kvs => .dict (intakeEntries kvs)
  | d => d

def intakeItems : List Data → List Data
  | [] => []
  | x :: xs => intake x :: intakeItems xs

def intakeEntries : Entries → Entries
  | [] => []
  | (k, v) :: kvs => (k, intake v) :: intakeEntries kvs

end

def Arguments.intake (a : Arguments) : Arguments := ⟨intakeItems a.positional, intakeEntries a.named⟩

def builtinClasses : List String :=
  ["int", "float", "str", "bool", "bytes", "list", "tuple", "dict", "set", "frozenset", "object",
    "type", "range", "complex", "bytearray"]

/-- How a reference to a named object is shown: a class as `<class 'module.Name'>`, an
enumeration member as itself, a function by its name (at a blank address unless built in).
Classes and enumerations are told by capitalised names, a class named after its module. -/
def referenceShown (ref : String) : Data :=
  match ref.splitOn ":" with
  | [mod, attrPath] =>
    let isClassName (n : String) : Bool := n.front.isUpper
    match attrPath.splitOn "." with
    | [cls, _] =>
      if isClassName cls then .dict [("enum", .str attrPath)]
      else .dict [("repr", .str s!"<function {attrPath} at 0x0>")]
    | _ =>
      if mod == "builtins" then
        if isClassName attrPath || builtinClasses.contains attrPath then
          .dict [("repr", .str s!"<class {Text.quote attrPath}>")]
        else .dict [("repr", .str s!"<built-in function {attrPath}>")]
      else if isClassName attrPath then
        let home := ((Interface.definingModule? mod attrPath).map (·.1)).getD mod
        let qualified := home ++ "." ++ attrPath
        .dict [("repr", .str s!"<class {Text.quote qualified}>")]
      else .dict [("repr", .str s!"<function {attrPath} at 0x0>")]
  | _ => .dict [("repr", .str s!"<module {Text.quote ref}>")]

mutual

def shown : Data → Data
  | .list xs => .list (shownItems xs)
  | .dict [("$rec", .dict [("returns", _), ("calls", .list calls)])] => .dict [("calls", .list (shownItems calls))]
  | .dict [("$tuple", .list xs)] => .list (shownItems xs)
  | .dict [("$set", .list xs)] =>
    .list ((shownItems xs).mergeSort fun a b => decide (Json.render a ≤ Json.render b))
  | .dict [("$path", .str p)] => .dict [("path", .str p)]
  | .dict [("$cfg", v)] => shown v
  | .dict [("$ref", .str r)] => referenceShown r
  | .dict [("$rng", s)] => generatorShown s
  | .dict [("$np", v)] => arrayShown (.dict [("$np", v)])
  | .dict [("$np", v), ("dtype", t)] => arrayShown (.dict [("$np", v), ("dtype", t)])
  | .dict [("dtype", t), ("$np", v)] => arrayShown (.dict [("$np", v), ("dtype", t)])
  | .dict [("$float", .str "nan")] => .float (0.0 / 0.0)
  | .dict [("$float", .str "inf")] => .float (1.0 / 0.0)
  | .dict [("$float", .str "-inf")] => .float (-1.0 / 0.0)
  | .dict [("$float", v)] => v
  | .dict kvs => .dict (shownEntries kvs)
  | d => d

def shownItems : List Data → List Data
  | [] => []
  | x :: xs => shown x :: shownItems xs

def shownEntries : Entries → Entries
  | [] => []
  | (k, v) :: kvs => (k, shown v) :: shownEntries kvs

end

def notCallable (d : Data) : Failure :=
  .type s!"{Text.quote ((className? d).getD d.kindName)} object is not callable"

/-- Calls a callable value: a recorder answers with its next answer and keeps the call, and a
reference to the printer prints its arguments on one line.  Gives the answer and the callable
after the call. -/
def callValue (f : Data) (args : List Data) (kwargs : Entries) : Work (Data × Data) :=
  match recorder? f with
  | some (returns, calls) =>
    let answer := (returns[calls.length]?).getD (returns.getLast?.getD .null)
    pure (answer, recorder returns (calls ++ [.list [.list args, .dict kwargs]]))
  | none =>
    match tagged? f "$ref" with
    | some (.str "builtins:print") => do
      Work.printLine (" ".intercalate (args.map Data.text))
      pure (.null, f)
    | _ => throw (notCallable f)

/-- Calls the callable found along a path of attributes of an object.  Gives the answer and the
object after the call. -/
def invokeIn (obj : Data) : List String → List Data → Entries → Work (Data × Data)
  | [], args, kwargs => callValue obj args kwargs
  | name :: rest, args, kwargs => do
    let child ← attr obj name
    let (answer, child') ← invokeIn child rest args kwargs
    pure (answer, setAttr obj name child')

/-- What a method works on: its object, and the arguments after the object as the method leaves
them (a method may change an argument in place). -/
structure Frame where
  this : Data
  args : List Data := []
deriving Inhabited

/-- The work of a method: the work of a call together with the object the method acts on. -/
abbrev Method := StateT Frame Work

namespace Method

def work {α : Type} (w : Work α) : Method α := StateT.lift w

def lift {α : Type} (e : Result α) : Method α := work (Work.lift e)

def fail {α : Type} (f : Failure) : Method α := work (Work.fail f)

def this : Method Data := do pure (← get).this

def setThis (d : Data) : Method Unit := modify fun f => { f with this := d }

def className : Method String := do
  let d ← this
  pure ((className? d).getD d.kindName)

def attr (name : String) : Method Data := do lift (Entry.attr (← this) name)

/-- An attribute of the object, if it has one. -/
def attr? (name : String) : Method (Option Data) := do
  pure (((attrsOf (← this)).find? (·.1 == name)).map (·.2))

def setAttr (name : String) (v : Data) : Method Unit := do setThis (Entry.setAttr (← this) name v)

def invoke (path : List String) (args : List Data) (kwargs : Entries := []) :
    Method Data := do
  let (answer, obj) ← work (invokeIn (← this) path args kwargs)
  setThis obj
  pure answer

/-- Calls a method of the object: the callable the object holds under that name when it holds
one, else the class's own method `own`. -/
def callOwn (name : String) (args : List Data) (kwargs : Entries)
    (own : Method Data) : Method Data := do
  if (← attr? name).isSome then invoke [name] args kwargs else own

/-- Replaces a positional argument after the object, counted from zero. -/
def setArgument (i : Nat) (v : Data) : Method Unit :=
  modify fun f => { f with args := f.args.set i v }

end Method

/-- Calls a callable held in a value along a path of attributes, the value after the call
dropped: for callables on objects that the answer does not show. -/
def invokeOn (obj : Data) (path : List String) (args : List Data)
    (kwargs : Entries := []) : Work Data := do
  pure (← invokeIn obj path args kwargs).1

/-- A callee that works on an object handed to it first, as the parameter `selfName`: the body
sees the values of the parameters after the object and works on the object, and the answer
shows the positional arguments after the call, the object as the body left it. -/
def methodOn (selfName : String) (name : String) (params : List Param) (body : List Data → Method Data) :
    Callee :=
  fun r => do
    let r := { r with args := r.args.intake }
    let vals ← r.args.bind name (Entry.req selfName :: params)
    let (v, frame) ← (body vals.tail).run { this := vals.headD .null, args := r.args.positional.drop 1 }
    let shownArgs := match r.args.positional with
      | [] => []
      | _ :: _ => shownItems (frame.this :: frame.args)
    pure { value := shown v, shownArgs := some shownArgs }

/-- A callee of a function that takes its arguments in the forms the library works on, its
value shown as an answer shows it. -/
def functionOf (name : String) (params : List Param) (body : List Data → Work Data) : Callee :=
  fun r => do
    let vals ← Arguments.bind r.args.intake name params
    pure (.plain (shown (← body vals)))

/-- The items of an iterable handed to a call, and whether it is an iterator, which reading
uses up: an iterator over given items is written `{"$new": "builtins:iter", "args": [items]}`. -/
def iterableItems? (d : Data) : Option (List Data × Bool) :=
  match d with
  | .dict [("$new", .str "builtins:iter"), ("args", .list [xs])] => some (xs.items, true)
  | .list xs => some (xs, false)
  | _ => none

/-- The two parts of a pair handed to a call, or the failure of unpacking it. -/
def pairOf (d : Data) : Result (Data × Data) :=
  match d with
  | .list [a, b] => .ok (a, b)
  | .str s => match s.toList with
    | [a, b] => .ok (.str (String.singleton a), .str (String.singleton b))
    | cs => .error (.unpack 2 cs.length)
  | .list xs => .error (.unpack 2 xs.length)
  | other => .error (.type s!"cannot unpack non-iterable {other.kindName} object")

/-- The first `n` items of a stream that gives `items` and then fails with `failure`, if there is
one; otherwise, when `again` holds and the items are not empty, it gives them over again. -/
def takeStream (n : Nat) (items : List Data) (failure : Option Failure) (again : Bool) :
    Result (List Data) :=
  if items.length ≥ n then .ok (items.take n)
  else match failure with
    | some f => .error f
    | none =>
      if again && !items.isEmpty then .ok ((List.replicate (n / items.length + 1) items).flatten.take n)
      else .ok items

def method (name : String) (params : List Param) (body : List Data → Method Data) : Callee :=
  methodOn "self" name params body

end Conversa.Entry
