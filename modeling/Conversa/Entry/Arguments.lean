import Conversa.Data.Access

/-!
# Arguments of a call

A callable binds positional arguments in order and named ones by name, refusing an unknown name,
a parameter filled twice and surplus positional arguments; an unfilled parameter takes its
default or is reported missing, all in one message.  Values that are no plain data are mappings
with one dollar key: `$np` (an array), `$tuple`, `$set`, `$float`, `$path`, `$cfg` and `$tok`.
-/

namespace Conversa.Entry

/-- The arguments of a call: positional ones, and named ones in the order they were written. -/
structure Arguments where
  positional : List Data := []
  named : Entries := []
deriving Inhabited, Repr

/-- A parameter: its name and its default, if it has one. -/
structure Param where
  name : String
  default : Option Data := none
deriving Inhabited, Repr

def req (name : String) : Param := ⟨name, none⟩

def opt (name : String) (d : Data) : Param := ⟨name, some d⟩

/-- Names listed as in a message: `'a'`, `'a' and 'b'`, `'a', 'b', and 'c'`. -/
def listedNames (ns : List String) : String :=
  let qs := ns.map Text.quote
  match qs with
  | [a] => a
  | [a, b] => a ++ " and " ++ b
  | _ => ", ".intercalate qs.dropLast ++ ", and " ++ (qs.getLast?.getD "")

def counted (n : Nat) (noun : String) : String :=
  s!"{n} {noun}" ++ (if n == 1 then "" else "s")

namespace Arguments

/-- The values of the parameters of the callable `f` (its qualified name) for these arguments. -/
def bind (a : Arguments) (f : String) (params : List Param) : Result (List Data) := do
  let slots : List (Option Data) := params.zipIdx.map fun (_, i) => a.positional[i]?
  let slots ← a.named.foldlM (fun (slots : List (Option Data)) (k, v) =>
    match params.findIdx? (·.name == k) with
    | none => throw (.type s!"{f}() got an unexpected keyword argument {Text.quote k}")
    | some i =>
      if (slots[i]?).join.isSome then throw (.type s!"{f}() got multiple values for argument {Text.quote k}")
      else pure (slots.set i (some v))) slots
  if a.positional.length > params.length then
    let least := (params.filter (·.default.isNone)).length
    let takes := if least == params.length then counted params.length "positional argument"
      else s!"from {least} to {params.length} positional arguments"
    let given := a.positional.length
    let verb := if given == 1 then "was" else "were"
    throw (.type s!"{f}() takes {takes} but {given} {verb} given")
  let missing := (params.zip slots).filterMap fun (p, s) =>
    if s.isNone && p.default.isNone then some p.name else none
  if !missing.isEmpty then
    let howMany := counted missing.length "required positional argument"
    throw (.type s!"{f}() missing {howMany}: {listedNames missing}")
  pure ((params.zip slots).map fun (p, s) => s.getD (p.default.getD .null))

/-- The values of the keyword-only parameters of the method `f` (its qualified name) for these
arguments: a keyword must name a parameter, no argument may come by position besides the
object itself, and every parameter without a default must be given. -/
def bindKeywords (a : Arguments) (f : String) (params : List Param) : Result (List Data) := do
  for (k, _) in a.named do
    if !params.any (·.name == k) then throw (.type s!"{f}() got an unexpected keyword argument {Text.quote k}")
  if !a.positional.isEmpty then
    let given := a.positional.length + 1
    throw (.type s!"{f}() takes 1 positional argument but {given} were given")
  let missing := (params.filter fun p => p.default.isNone && !a.named.any (·.1 == p.name)).map (·.name)
  if !missing.isEmpty then
    let howMany := counted missing.length "required keyword-only argument"
    throw (.type s!"{f}() missing {howMany}: {listedNames missing}")
  pure (params.map fun p => ((a.named.lookup p.name).orElse fun _ => p.default).getD .null)

end Arguments

def tagged? (d : Data) (k : String) : Option Data :=
  match d with
  | .dict [(k', v)] => if k' == k then some v else none
  | _ => none

/-- The elements and type of an array argument: `{"$np": elements, "dtype": type}`. -/
def arrayArg? (d : Data) : Option (Data × Option String) :=
  match d with
  | .dict kvs =>
    match kvs.find? (·.1 == "$np") with
    | some (_, v) =>
      if kvs.all fun (k, _) => k == "$np" || k == "dtype" then
        some (v, (kvs.find? (·.1 == "dtype")).bind fun (_, t) => t.str?)
      else none
    | none => none
  | _ => none

/-- An argument with the forms that stand for sequences and numbers made plain: an array is its
elements, a tuple or a set its items, a float given as text a float, a path its text, and a
configuration its data. -/
def plain (d : Data) : Data :=
  match arrayArg? d with
  | some (v, _) => v
  | none =>
    match tagged? d "$tuple", tagged? d "$set", tagged? d "$path", tagged? d "$cfg", tagged? d "$float" with
    | some v, _, _, _, _ => v
    | _, some v, _, _, _ => v
    | _, _, some v, _, _ => v
    | _, _, _, some v, _ => v
    | _, _, _, _, some (.str "nan") => .float (0.0 / 0.0)
    | _, _, _, _, some (.str "inf") => .float (1.0 / 0.0)
    | _, _, _, _, some (.str "-inf") => .float (-1.0 / 0.0)
    | _, _, _, _, some v => v
    | _, _, _, _, _ => d

/-- The positional argument `i` of a call, made plain. -/
def plainArg (vals : List Data) (i : Nat) : Data := plain (arg vals i)

end Conversa.Entry
