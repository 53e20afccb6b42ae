import Conversa.Data.Show
import Conversa.Numeric.Reading
import Conversa.Text.Wrap
import Conversa.Entry.Work

/-!
# Command lines

A script states its arguments: flags and positional ones, each with a type, a count, a default,
whether required, choices and a help text.  `CommandLine.parse` reads a command line: an option
takes the next word or the text after `=`, a long flag may be an unambiguous prefix, `--` ends
the options; a missing or wrong argument ends with status 2, `-h` prints the help and ends.
-/

namespace Conversa.Entry

/-- The type of an argument's values. -/
inductive ValueType where
  | text
  | int
  | float
deriving DecidableEq, Inhabited, Repr

/-- What an argument does when given. -/
inductive ArgAction where
  | store
  | storeTrue
  | storeFalse
  | help
deriving DecidableEq, Inhabited, Repr

/-- How many values an argument takes. -/
inductive Arity where
  | one
  | optional
  | many
  | some
deriving DecidableEq, Inhabited, Repr

/-- An argument of a command line. -/
structure Argument where
  /-- The flags of an option; none for a positional argument. -/
  flags : List String := []
  dest : String
  action : ArgAction := .store
  type : ValueType := .text
  arity : Arity := .one
  default : Data := .null
  required : Bool := false
  /-- The values it may take; none means any. -/
  choices : List Data := []
  help : Option String := none
  metavar : Option String := none
deriving Inhabited, Repr

/-- A command line: the script's name, its description and its arguments. -/
structure CommandLine where
  prog : String
  description : Option String := none
  /-- The arguments, without the help option. -/
  arguments : List Argument
  showDefaults : Bool := false
  /-- Groups of options of which at most one may be given, by destination, each with whether
  one of them must be. -/
  exclusive : List (List String × Bool) := []
deriving Inhabited, Repr

def option (flag : String) (type : ValueType) (default : Data) (required : Bool) (help : Option String) : Argument :=
  { flags := [flag], dest := (String.ofList (flag.toList.dropWhile (· == '-'))).map fun c => if c == '-' then '_' else c,
    type, default, required, help }

def switch (flag : String) (help : Option String) : Argument :=
  { flags := [flag], dest := (String.ofList (flag.toList.dropWhile (· == '-'))).map fun c => if c == '-' then '_' else c,
    action := .storeTrue, default := .bool false, help }

def scriptExit (code : Nat) : Failure := ⟨"SystemExit", toString code⟩

/-- A text read as a whole number, as the integer reader takes it: blanks around, a sign,
digits with single underscores between them. -/
def readWhole? (s : String) : Option Int :=
  let t := Text.strip s
  let cs := t.toList
  let body := match cs with
    | '+' :: r | '-' :: r => r
    | r => r
  if body.isEmpty || body.head? == some '_' || body.getLast? == some '_' || (t.splitOn "__").length > 1 then none
  else Numeric.readInt? (String.ofList (cs.filter (· != '_')))

/-- A text read as a double, as the float reader takes it. -/
def readDouble? (s : String) : Option Float :=
  let t := Text.strip s
  if (t.splitOn "__").length > 1 || t.startsWith "_" || t.endsWith "_" then none
  else Numeric.readFloat? (String.ofList (t.toList.filter (· != '_')))

/-- A value converted to an argument's type, and checked against its choices. -/
def convertValue (a : Argument) (s : String) : Result Data := do
  let v ← match a.type with
    | .text => pure (Data.str s)
    | .int => match readWhole? s with
      | some n => pure (.int n)
      | none => throw (scriptExit 2)
    | .float => match readDouble? s with
      | some x => pure (.float x)
      | none => throw (scriptExit 2)
  if !a.choices.isEmpty && !a.choices.any (· == v) then throw (scriptExit 2)
  pure v

/-- Whether a word reads as a negative number. -/
def isNegativeNumber (w : String) : Bool :=
  match w.toList with
  | '-' :: rest => !rest.isEmpty && (readDouble? (String.ofList rest)).isSome && rest.all fun c => c.isDigit || c == '.'
  | _ => false

def isFlagWord (w : String) : Bool := w.startsWith "-" && w != "-" && !isNegativeNumber w

namespace CommandLine

def allArguments (c : CommandLine) : List Argument :=
  { flags := ["-h", "--help"], dest := "help", action := .help, help := some "show this help message and exit" } ::
    c.arguments

def options (c : CommandLine) : List Argument := c.allArguments.filter (!·.flags.isEmpty)

def positionals (c : CommandLine) : List Argument := c.arguments.filter (·.flags.isEmpty)

def optionFor (c : CommandLine) (flag : String) : Option Argument :=
  match c.options.find? (·.flags.contains flag) with
  | some a => some a
  | none =>
    if flag.startsWith "--" then
      match c.options.filter (·.flags.any (·.startsWith flag)) with
      | [a] => some a
      | _ => none
    else none

def metavarOf (a : Argument) : String :=
  match a.metavar with
  | some m => m
  | none =>
    if !a.choices.isEmpty then "\x7b" ++ ",".intercalate (a.choices.map Data.text) ++ "\x7d"
    else if a.flags.isEmpty then a.dest else a.dest.toUpper

def valuesText (a : Argument) : String :=
  let m := metavarOf a
  match a.arity with
  | .one => m
  | .optional => s!"[{m}]"
  | .many => s!"[{m} ...]"
  | .some => s!"{m} [{m} ...]"

def takesValues (a : Argument) : Bool := a.action == .store

def usagePart (a : Argument) : String :=
  if a.flags.isEmpty then valuesText a
  else
    let flag := a.flags.headD ""
    let body := if takesValues a then flag ++ " " ++ valuesText a else flag
    if a.required then body else "[" ++ body ++ "]"

/-- The parts of the usage: bracketed groups stay whole, other words split at blanks. -/
def usageWords (part : String) : List String :=
  if part.startsWith "[" then [part] else (part.splitOn " ").filter (!·.isEmpty)

/-- Lines of usage parts no wider than the text width, each after an indentation. -/
def usageLines (width : Nat) (indent : Nat) (startLen : Nat) (parts : List String) : List (List String) :=
  let (lines, line, _) := parts.foldl (fun (acc : List (List String) × List String × Nat) p =>
    let (lines, line, len) := acc
    if len + 1 + p.length > width && !line.isEmpty then (lines ++ [line], [p], indent - 1 + p.length + 1)
    else (lines, line ++ [p], len + p.length + 1)) ([], [], startLen)
  if line.isEmpty then lines else lines ++ [line]

def usage (c : CommandLine) : String :=
  let optParts := c.options.map usagePart
  let posParts := c.positionals.map usagePart
  let whole := " ".intercalate ([c.prog] ++ optParts ++ posParts)
  let width := 78
  if ("usage: ".length + whole.length) ≤ width then "usage: " ++ whole
  else
    let indent := "usage: ".length + c.prog.length + 1
    let pad := String.ofList (List.replicate indent ' ')
    let optWords := optParts.flatMap usageWords
    let posWords := posParts.flatMap usageWords
    let first := usageLines width indent ("usage: ".length - 1) (c.prog :: optWords)
    let rest := if optWords.isEmpty then [] else usageLines width indent (indent - 1) posWords
    let first := if optWords.isEmpty then usageLines width indent ("usage: ".length - 1) (c.prog :: posWords) else first
    let lines := (first.map (" ".intercalate ·)).zipIdx.map (fun (l, i) => if i == 0 then l else pad ++ l) ++
      rest.map fun ws => pad ++ " ".intercalate ws
    "usage: " ++ "\n".intercalate lines

def invocation (a : Argument) : String :=
  if a.flags.isEmpty then metavarOf a
  else ", ".intercalate (a.flags.map fun f => if takesValues a then f ++ " " ++ valuesText a else f)

def helpText (c : CommandLine) (a : Argument) : Option String :=
  match a.help with
  | some h =>
    let h := (h.splitOn "%(default)s").foldl (fun acc piece => if acc.isEmpty then piece else acc ++ a.default.text ++ piece) ""
    let h := if c.showDefaults && a.action != .help && !(a.help.getD "").contains '%' then h ++ s!" (default: {a.default.text})" else h
    some h
  | none => if c.showDefaults && a.action != .help then some s!" (default: {a.default.text})" else none

def argumentLines (c : CommandLine) (helpPos : Nat) (a : Argument) : List String :=
  let head := "  " ++ invocation a
  match helpText c a with
  | none => [head]
  | some h =>
    let width := if 78 - helpPos < 11 then 11 else 78 - helpPos
    let lines := Text.wrap width h
    let pad := String.ofList (List.replicate helpPos ' ')
    if head.length + 2 ≤ helpPos then
      match lines with
      | l :: more => (head ++ String.ofList (List.replicate (helpPos - head.length) ' ') ++ l) :: more.map (pad ++ ·)
      | [] => [head]
    else head :: lines.map (pad ++ ·)

def helpMessage (c : CommandLine) : String :=
  let all := c.positionals ++ c.options
  let longest := all.foldl (fun m a => max m ((invocation a).length + 2)) 0
  let helpPos := min (longest + 2) 24
  let part (title : String) (as : List Argument) : List String :=
    if as.isEmpty then [] else ["", title] ++ as.flatMap (argumentLines c helpPos)
  let desc := match c.description with
    | some d => ["", "\n".intercalate (Text.wrap 78 d)]
    | none => []
  "\n".intercalate ([usage c] ++ desc ++ part "positional arguments:" c.positionals ++
    part "options:" c.options) ++ "\n"

/-- The values of the words after an option: as many as its arity takes. -/
def takeValues (a : Argument) (words : List String) : Result (List String × List String) :=
  let free := words.takeWhile (!isFlagWord ·)
  match a.arity with
  | .one => match free with
    | v :: _ => .ok ([v], words.drop 1)
    | [] => .error (scriptExit 2)
  | .optional => match free with
    | v :: _ => .ok ([v], words.drop 1)
    | [] => .ok ([], words)
  | .many => .ok (free, words.drop free.length)
  | .some => if free.isEmpty then .error (scriptExit 2) else .ok (free, words.drop free.length)

def storedValue (a : Argument) (vs : List String) : Result Data := do
  let converted ← vs.mapM (convertValue a)
  match a.arity with
  | .one => pure (converted.headD .null)
  | .optional => pure (converted.headD .null)
  | _ => pure (.list converted)

def readWords (c : CommandLine) (fuel : Nat) (given : Entries) (free : List String) :
    List String → Result (Entries × List String)
  | [] => .ok (given, free)
  | w :: rest =>
    match fuel with
    | 0 => .ok (given, free ++ w :: rest)
    | fuel + 1 =>
      if w == "--" then .ok (given, free ++ rest)
      else if isFlagWord w then do
        let (flag, inline) := match w.splitOn "=" with
          | f :: v :: vs => if f.startsWith "--" then (f, some ("=".intercalate (v :: vs))) else (w, none)
          | _ => (w, none)
        let some a := c.optionFor flag | throw (scriptExit 2)
        match a.action with
        | .help => throw (scriptExit 0)
        | .storeTrue => readWords c fuel (given ++ [(a.dest, .bool true)]) free rest
        | .storeFalse => readWords c fuel (given ++ [(a.dest, .bool false)]) free rest
        | .store =>
          match inline with
          | some v => readWords c fuel (given ++ [(a.dest, ← storedValue a [v])]) free rest
          | none =>
            let (vs, more) ← takeValues a rest
            readWords c fuel (given ++ [(a.dest, ← storedValue a vs)]) free more
      else readWords c fuel given (free ++ [w]) rest

def assignPositionals (c : CommandLine) (free : List String) : Result (Entries) := do
  let (out, left) ← c.positionals.foldlM (fun (acc : Entries × List String) a => do
    let (out, words) := acc
    match a.arity with
    | .one => match words with
      | w :: more => pure (out ++ [(a.dest, ← convertValue a w)], more)
      | [] => throw (scriptExit 2)
    | .optional => match words with
      | w :: more => pure (out ++ [(a.dest, ← convertValue a w)], more)
      | [] => pure (out ++ [(a.dest, a.default)], [])
    | .many => pure (out ++ [(a.dest, .list (← words.mapM (convertValue a)))], [])
    | .some =>
      if words.isEmpty then throw (scriptExit 2)
      pure (out ++ [(a.dest, .list (← words.mapM (convertValue a)))], [])) ([], free)
  if !left.isEmpty then throw (scriptExit 2)
  pure out

def parse (c : CommandLine) (argv : List String) : Result (Entries) := do
  let (given, free) ← c.readWords (argv.length + 1) [] [] argv
  for (dests, needed) in c.exclusive do
    let seen := dests.filter fun d => given.any (·.1 == d)
    if seen.length > 1 || (needed && seen.isEmpty) then throw (scriptExit 2)
  let positional ← c.assignPositionals free
  c.arguments.mapM fun a => do
    if a.flags.isEmpty then
      pure (a.dest, ((positional.find? (·.1 == a.dest)).map (·.2)).getD a.default)
    else match (given.reverse.find? (·.1 == a.dest)) with
      | some (_, v) => pure (a.dest, v)
      | none =>
        if a.required then throw (scriptExit 2)
        match a.default with
        | .str s => if a.type == .text then pure (a.dest, .str s) else pure (a.dest, ← convertValue { a with choices := [] } s)
        | d => pure (a.dest, d)

def run (c : CommandLine) (argv : List String) : Work (Entries) := do
  match c.parse argv with
  | .ok vals => pure vals
  | .error f =>
    if f == scriptExit 0 then Work.printLine (String.ofList (c.helpMessage.toList.dropLast))
    throw f

end CommandLine

end Conversa.Entry
