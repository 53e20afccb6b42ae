import Conversa.Data.Show
import Conversa.Signature

/-!
# Configuration records

A record is a named list of typed fields with defaults, an optimizer's or a schedule's settings.
`Record.instantiate` fills fields from keywords (an unknown one is a `TypeError`);
`Record.checkOverride` merges as a typed configuration does (`ConfigKeyError`, `ValidationError`,
`'???'` and interpolations accepted), naming the field and record.
-/

namespace Conversa.Config

open Keywords

/-- The declared type of a field. -/
inductive FieldType where
  | int
  | float
  | bool
  | str
  | any
  /-- A sequence whose elements have one type. -/
  | seq (elem : FieldType)
deriving Repr, DecidableEq, Inhabited

/-- A field of a record. -/
structure Field where
  name : String
  type : FieldType
  optional : Bool
  default : Option Data
deriving Inhabited

def Field.of (name : String) (type : FieldType) (default : Data) (optional : Bool) : Field :=
  ⟨name, type, optional, some default⟩

/-- A configuration record. -/
structure Record where
  /-- The record's class name, as failures and targets show it. -/
  className : String
  /-- The dotted module path the class is found under. -/
  modulePath : String
  fields : List Field
deriving Inhabited

def missingValue : Data := .str "???"

namespace Record

def targetPath (r : Record) : String := r.modulePath ++ "." ++ r.className

def signature (r : Record) : Signature :=
  ⟨r.className ++ ".__init__",
    r.fields.map fun f => if f.default.isSome then Param.opt f.name else Param.req f.name, false⟩

def instantiate (r : Record) (kws : Entries) : Result (Entries) := do
  let b ← r.signature.bind 0 kws
  pure (r.fields.map fun f => (f.name, b.getD f.name (f.default.getD .null)))

def field? (r : Record) (name : String) : Option Field := r.fields.find? (·.name == name)

end Record

/-- Whether a text reads as a whole number: an optional sign and digits, with single
underscores between digits and surrounding blanks allowed. -/
def readsAsInt (s : String) : Bool :=
  let cs := s.trimAscii.toString.toList
  let body := match cs with
    | '+' :: r | '-' :: r => r
    | r => r
  let groups := (String.ofList body).splitOn "_"
  !body.isEmpty && groups.all fun g => !g.isEmpty && g.all Char.isDigit

/-- Whether a text reads as a double: a whole number, a decimal with an optional exponent, or
an infinity or NaN word, with an optional sign and surrounding blanks. -/
def readsAsFloat (s : String) : Bool :=
  let t := s.trimAscii.toString
  let body := match t.toList with
    | '+' :: r | '-' :: r => String.ofList r
    | r => String.ofList r
  let lower := body.toLower
  if lower == "inf" || lower == "infinity" || lower == "nan" then true
  else
    let digitsOk (g : String) : Bool :=
      (g.splitOn "_").all fun p => !p.isEmpty && p.all Char.isDigit
    let (mant, expo) := match lower.splitOn "e" with
      | [m] => (m, none)
      | [m, e] => (m, some e)
      | _ => ("", none)
    let mantOk := match mant.splitOn "." with
      | [i] => digitsOk i
      | [i, f] => (i.isEmpty || digitsOk i) && (f.isEmpty || digitsOk f) && !(i.isEmpty && f.isEmpty)
      | _ => false
    let expOk := match expo with
      | none => true
      | some e =>
        let e := match e.toList with
          | '+' :: r | '-' :: r => String.ofList r
          | r => String.ofList r
        digitsOk e
    mantOk && expOk

/-- Whether a text is a value still to be given or an interpolation, which every field
accepts. -/
def isDeferred (s : String) : Bool := s == "???" || (s.splitOn "$\x7b").length > 1

/-- The validation message for a value a field's type cannot take, if any. -/
def typeProblem (ty : FieldType) (v : Data) : Option String :=
  match ty, v with
  | _, .str s => if isDeferred s then none else
      match ty with
      | .int => if readsAsInt s then none else some s!"Value '{s}' could not be converted to Integer"
      | .float => if readsAsFloat s then none else some s!"Value '{s}' could not be converted to Float"
      | .bool =>
        if readsAsInt s || ["yes", "y", "on", "true", "no", "n", "off", "false"].contains s.toLower then none
        else some s!"Value '{s}' is not a valid bool (type str)"
      | .seq _ => some "Invalid value assigned: str is not a ListConfig, list or tuple."
      | _ => none
  | .int, .int _ => none
  | .int, _ => some s!"Value '{v.text}' could not be converted to Integer"
  | .float, .int _ | .float, .float _ => none
  | .float, _ => some s!"Value '{v.text}' could not be converted to Float"
  | .bool, .bool _ | .bool, .int _ => none
  | .bool, _ =>
    let kind := match v with
      | .float _ => "float"
      | .list _ => "list"
      | .dict _ => "dict"
      | _ => "NoneType"
    some s!"Value '{v.text}' is not a valid bool (type {kind})"
  | .str, .list _ => some s!"Cannot convert 'list' to string: '{v.text}'"
  | .str, .dict _ => some s!"Cannot convert 'dict' to string: '{v.text}'"
  | .str, _ => none
  | .any, _ => none
  | .seq _, .list _ => none
  | .seq _, _ =>
    let kind := match v with
      | .int _ => "int"
      | .float _ => "float"
      | .bool _ => "bool"
      | _ => "dict"
    some s!"Invalid value assigned: {kind} is not a ListConfig, list or tuple."

/-- The problem with one element of a sequence field, with its position. -/
def elementProblem (ty : FieldType) : Nat → List Data → Option (Nat × String)
  | _, [] => none
  | i, x :: xs =>
    match typeProblem ty x with
    | some p => some (i, p)
    | none => elementProblem ty (i + 1) xs

def located (kind msg key className : String) : Failure :=
  ⟨kind, s!"{msg}\n    full_key: {key}\n    object_type={className}"⟩

namespace Record

def checkOverride (r : Record) (kws : Entries) : Result Unit :=
  kws.forM fun (k, v) =>
    match r.field? k with
    | none => .error (located "ConfigKeyError" s!"Key '{k}' not in '{r.className}'" k r.className)
    | some f =>
      match v with
      | .null =>
        if f.optional then .ok ()
        else .error (located "ValidationError" "Non optional field cannot be assigned None" k r.className)
      | _ =>
        match typeProblem f.type v with
        | some p => .error (located "ValidationError" p k r.className)
        | none =>
          match f.type, v with
          | .seq elem, .list xs =>
            match elementProblem elem 0 xs with
            | some (i, p) => .error (located "ValidationError" p s!"{k}[{i}]" r.className)
            | none => .ok ()
          | _, _ => .ok ()

end Record

end Conversa.Config
