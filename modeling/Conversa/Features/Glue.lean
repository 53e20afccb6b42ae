import Conversa.Features.Pair

/-!
# The GLUE benchmark tasks

Each task reads a tab-separated file of its own layout: the columns of the two texts and label,
whether a header comes first, and how an example is named (row number or first column).  MNLI's
development set comes matched and mismatched, both named `dev_matched`.  Rows are read without
quoting, after a byte-order mark; a short row is refused, except in QQP, which skips it.
-/

namespace Conversa.Features

/-- A task of the benchmark. -/
inductive GlueTask where
  | cola | mnli | mnliMismatched | mrpc | sst2 | stsb | qqp | qnli | rte | wnli
deriving DecidableEq, Repr, Inhabited

/-- An example: its name, its texts and its label. -/
structure GlueExample where
  guid : String
  textA : String
  textB : Option String
  label : String
deriving Inhabited

namespace GlueTask

def all : List GlueTask := [.cola, .mnli, .mnliMismatched, .mrpc, .sst2, .stsb, .qqp, .qnli, .rte, .wnli]

def name : GlueTask → String
  | .cola => "cola"
  | .mnli => "mnli"
  | .mnliMismatched => "mnli-mm"
  | .mrpc => "mrpc"
  | .sst2 => "sst-2"
  | .stsb => "sts-b"
  | .qqp => "qqp"
  | .qnli => "qnli"
  | .rte => "rte"
  | .wnli => "wnli"

def ofName? (s : String) : Option GlueTask := all.find? (·.name == s)

def unknown (s : String) : Failure :=
  .value s!"{s} not supported. Choose from {Text.keysView (all.map name)}"

/-- The labels of a task; STS-B is a regression and has the single label `None`. -/
def labels : GlueTask → List (Option String)
  | .mnli | .mnliMismatched => [some "contradiction", some "entailment", some "neutral"]
  | .qnli | .rte => [some "entailment", some "not_entailment"]
  | .stsb => [none]
  | _ => [some "0", some "1"]

def mode : GlueTask → OutputMode
  | .stsb => .regression
  | _ => .classification

def trainFile (_ : GlueTask) : String := "train.tsv"

def devFile : GlueTask → String
  | .mnli => "dev_matched.tsv"
  | .mnliMismatched => "dev_mismatched.tsv"
  | _ => "dev.tsv"

def devSet : GlueTask → String
  | .mnli | .mnliMismatched => "dev_matched"
  | _ => "dev"

def missingColumn : Failure := .index "list index out of range"

/-- A column of a row, counted from the end when negative. -/
def column (row : List String) (i : Int) : Result String :=
  let j := if i < 0 then row.length + i else i
  if j < 0 then .error missingColumn
  else match row[j.toNat]? with
    | some s => .ok s
    | none => .error missingColumn

/-- The example of one row, named from the set and the row number; QQP gives none for a short
row. -/
def example? (task : GlueTask) (set : String) (i : Nat) (row : List String) :
    Result (Option GlueExample) := do
  let byNumber := s!"{set}-{i}"
  let byFirst : Result String := do pure s!"{set}-{← column row 0}"
  match task with
  | .mrpc => pure (some ⟨byNumber, ← column row 3, some (← column row 4), ← column row 0⟩)
  | .mnli | .mnliMismatched =>
    pure (some ⟨← byFirst, ← column row 8, some (← column row 9), ← column row (-1)⟩)
  | .cola => pure (some ⟨byNumber, ← column row 3, none, ← column row 1⟩)
  | .sst2 => pure (some ⟨byNumber, ← column row 0, none, ← column row 1⟩)
  | .stsb => pure (some ⟨← byFirst, ← column row 7, some (← column row 8), ← column row (-1)⟩)
  | .qqp =>
    let guid ← byFirst
    match column row 3, column row 4, column row 5 with
    | .ok a, .ok b, .ok l => pure (some ⟨guid, a, some b, l⟩)
    | _, _, _ => pure none
  | .qnli | .rte | .wnli =>
    pure (some ⟨← byFirst, ← column row 1, some (← column row 2), ← column row (-1)⟩)

def hasHeader : GlueTask → Bool
  | .cola => false
  | _ => true

def examples (task : GlueTask) (set : String) (rows : List (List String)) : Result (List GlueExample) := do
  let numbered := rows.zipIdx
  let numbered := if task.hasHeader then numbered.drop 1 else numbered
  numbered.filterMapM fun (row, i) => task.example? set i row

/-- The rows of a tab-separated file: a byte-order mark dropped, no quoting. -/
def rowsOf (text : String) : Result (List (List String)) :=
  let text := if text.startsWith "\uFEFF" then (text.drop 1).toString else text
  Text.readRecords '\t' none text

end GlueTask

end Conversa.Features
