import Conversa.Service.Fault
import Conversa.Normalization.Spelling
import Conversa.Normalization.Screen
import Conversa.Normalization.Punctuation
import Conversa.Text.Delimited

/-!
# Normalization requests

Tokens arrive as the text a tagger writes, corpus tokens as triples `[category, written,
spoken]`, and corpus files as their lines.  Spellings are listed up to a `limit` and counted up
to a `cap`.
-/

namespace Conversa.Service

open Normalization

def readFailure {α : Type} : Except ReadError α → Result α
  | .ok v => .ok v
  | .error e => .error e.toFailure

def tnParse (req : Data) : Result Data := do
  let ts ← readFailure (Token.read (← textField req "text"))
  pure (.dict [("tokens", .list (ts.map Token.toData))])

def countField (req : Data) (name : String) (default : Nat) : Result Nat :=
  match req.getD name with
  | .null => .ok default
  | .int n => .ok n.toNat
  | _ => .error (badField name)

/-- The first spellings of a tagged text and how many there are, up to a cap. -/
def tnPermute (req : Data) : Result Data := do
  let ts ← readFailure (Token.read (← textField req "text"))
  let s ← readFailure (Token.spellings ts)
  let count := min s.count (← countField req "cap" 5000)
  let shown := s.firsts (min count (← countField req "limit" 50))
  pure (.dict [("count", .int count), ("perms", .list (shown.map Data.str))])

def instanceData (i : Instance) : Data := .list [.str i.category, .str i.written, .str i.spoken]

def textItems (req : Data) (name : String) : Result (List String) :=
  match req.getD name with
  | .list xs => xs.mapM fun x => match x with
    | .str s => .ok s
    | _ => .error (badField name)
  | _ => .error (badField name)

def instancesField (req : Data) : Result (List Instance) :=
  match req.getD "instances" with
  | .list xs => xs.mapM fun x => match x with
    | .list [.str c, .str w, .str s] => .ok ⟨c, w, s⟩
    | _ => .error (badField "instances")
  | _ => .error (badField "instances")

def tnLoad (req : Data) : Result Data := do
  let lines ← textItems req "lines"
  let corpus ← Instance.readCorpus (String.join (lines.map (· ++ "\n")))
  pure (.dict [("instances", .list (corpus.map instanceData))])

def tnSentences (req : Data) : Result Data := do
  let ss := sentences (← instancesField req)
  pure (.dict [("un_normalized", .list (ss.map (.str ·.written))),
    ("normalized", .list (ss.map (.str ·.spoken))),
    ("categories", .list (ss.map fun s => .list (s.categories.map .str)))])

def tnTokens (req : Data) : Result Data := do
  let only ← match req.getD "category" with
    | .null => pure none
    | .str c => pure (some c)
    | _ => throw (badField "category")
  let groups := byCategory (← instancesField req) only
  pure (.dict [("by_type", .list (groups.map fun g =>
    .list [.str g.category, .list (g.written.map .str), .list (g.spoken.map .str)]))])

def inputAt (xs : List Data) (i : Nat) : Result Data :=
  match xs[i]? with
  | some x => .ok x
  | none => .error .listIndex

/-- The accuracy of predictions against labels, with the report of mismatches. -/
def tnEvaluate (req : Data) : Result Data := do
  let input ← match req.getD "input" with
    | .null => pure none
    | .list [] => pure none
    | .list xs => pure (some (inputAt xs))
    | _ => throw (badField "input")
  let s ← score Json.dump (← textItems req "preds") (← textItems req "labels") input
  pure (.dict [("accuracy", s.accuracy.toData), ("stdout", .str s.report)])

/-- A text spaced out, closed up, or trimmed and lower-cased. -/
def tnText (req : Data) : Result Data := do
  let text ← textField req "text"
  let out ← match req.getD "func" with
    | .str "post_process_punctuation" => pure (closeUp text)
    | .str "pre_process" => pure (spaceOut text)
    | .str "clean_generic" => pure (cleanGeneric text)
    | _ => throw (badField "func")
  pure (.dict [("text", .str out)])

def tnFilter (req : Data) : Result Data := do
  let verbose := (req.getD "verbose").truthy
  let (kept, shown) := screen (← instancesField req) verbose
  pure (.dict [("instances", .list (kept.map instanceData)), ("stdout", .str shown)])

def tnLoadLabels (req : Data) : Result Data := do
  let rows ← Text.readRecords '\t' (some '"') (← textField req "text")
  pure (.dict [("rows", .list (rows.map fun r => .list (r.map .str)))])

end Conversa.Service
