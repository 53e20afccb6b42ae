import Conversa.Failure

/-!
# Delimited text

A delimited file holds one record a line, its fields separated by a delimiter.  A quoted field
may hold the delimiter and line ends, a doubled quote standing for one; a quote inside an
unquoted field is plain, and text after a closing quote joins the field.  A carriage return ends
a line like a line feed.  `readRecords` reads one character at a time through the states of
`Scan`; a field may not grow beyond `fieldLimit` characters.
-/

namespace Conversa.Text

/-- Where the reader stands within a record. -/
inductive Scan where
  | startRecord
  | startField
  | inField
  | inQuoted
  /-- On a quote inside a quoted field: the end of the quotes, or the first of a doubled
  quote. -/
  | quoteInQuoted
  | afterLineEnd
deriving DecidableEq, Repr, Inhabited

/-- The reader's state: where it stands, the fields of the record so far (last first), and the
field being read (reversed). -/
structure RecordReader where
  scan : Scan
  /-- The finished fields of the record, last first. -/
  fields : List String
  field : List Char
deriving Inhabited

def fieldLimit : Nat := 131072

namespace RecordReader

def fresh : RecordReader := ⟨.startRecord, [], []⟩

def save (r : RecordReader) : RecordReader := { r with fields := String.ofList r.field.reverse :: r.fields, field := [] }

def add (r : RecordReader) (c : Char) : Result RecordReader :=
  if r.field.length ≥ fieldLimit then .error ⟨"Error", s!"field larger than field limit ({fieldLimit})"⟩
  else .ok { r with field := c :: r.field }

/-- The field finished at a line end: the record is complete at the end of the line, or after
a line-end character. -/
def endLine (r : RecordReader) (c : Option Char) : RecordReader :=
  { r.save with scan := if c.isNone then .startRecord else .afterLineEnd }

/-- Reads one character, or the end of a line when `c` is none. -/
def step (delim : Char) (quote : Option Char) (r : RecordReader) (c : Option Char) : Result RecordReader :=
  let lineEnd := c.isNone || c == some '\n' || c == some '\r'
  let startField (r : RecordReader) : Result RecordReader :=
    if lineEnd then .ok (r.endLine c)
    else if quote.isSome && c == quote then .ok { r with scan := .inQuoted }
    else if c == some delim then .ok { r.save with scan := .startField }
    else match c with
      | some ch => do pure { (← r.add ch) with scan := .inField }
      | none => .ok r
  match r.scan with
  | .startRecord =>
    if c.isNone then .ok r
    else if lineEnd then .ok { r with scan := .afterLineEnd }
    else startField r
  | .startField => startField r
  | .inField =>
    if lineEnd then .ok (r.endLine c)
    else if c == some delim then .ok { r.save with scan := .startField }
    else match c with
      | some ch => r.add ch
      | none => .ok r
  | .inQuoted =>
    match c with
    | none => .ok r
    | some ch => if some ch == quote then .ok { r with scan := .quoteInQuoted } else r.add ch
  | .quoteInQuoted =>
    if let some q := quote.filter (some · == c) then do pure { (← r.add q) with scan := .inQuoted }
    else if c == some delim then .ok { r.save with scan := .startField }
    else if lineEnd then .ok (r.endLine c)
    else match c with
      | some ch => do pure { (← r.add ch) with scan := .inField }
      | none => .ok r
  | .afterLineEnd =>
    if c.isNone then .ok { r with scan := .startRecord }
    else if lineEnd then .ok r
    else .error ⟨"Error", "new-line character seen in unquoted field - do you need to open the file with newline=''?"⟩

end RecordReader

/-- The lines of a text read as a file, each with its line feed; a carriage return, alone or
before a line feed, counts as a line feed. -/
def fileLines (s : String) : List (List Char) :=
  let rec go : List Char → List Char → List (List Char)
    | [], acc => if acc.isEmpty then [] else [acc.reverse]
    | '\r' :: '\n' :: r, acc => ('\n' :: acc).reverse :: go r []
    | '\r' :: r, acc => ('\n' :: acc).reverse :: go r []
    | '\n' :: r, acc => ('\n' :: acc).reverse :: go r []
    | c :: r, acc => go r (c :: acc)
  go s.toList []

/-- Whether a character ends a line when a text is split into lines: line feed, carriage return,
the vertical tab and form feed, the file, group and record separators, the next-line control and
the Unicode line and paragraph separators. -/
def isLineBoundary (c : Char) : Bool :=
  c == '\n' || c == '\r' || c.toNat == 0x0B || c.toNat == 0x0C || c.toNat == 0x1C || c.toNat == 0x1D ||
    c.toNat == 0x1E || c.toNat == 0x85 || c.toNat == 0x2028 || c.toNat == 0x2029

/-- The lines of a text without their breaks; a carriage return before a line feed is one break,
and a break at the very end starts no further line. -/
def splitLines (s : String) : List String :=
  let rec go : List Char → List Char → List String
    | [], acc => if acc.isEmpty then [] else [String.ofList acc.reverse]
    | '\r' :: '\n' :: r, acc => String.ofList acc.reverse :: go r []
    | c :: r, acc => if isLineBoundary c then String.ofList acc.reverse :: go r [] else go r (c :: acc)
  go s.toList []

def readRecords (delim : Char) (quote : Option Char) (s : String) : Result (List (List String)) := do
  let (r, rows) ← (fileLines s).foldlM (fun (acc : RecordReader × List (List String)) line => do
    let (r, rows) := acc
    let r ← line.foldlM (fun r c => r.step delim quote (some c)) r
    let r ← r.step delim quote none
    if r.scan == .startRecord then pure (RecordReader.fresh, r.fields.reverse :: rows)
    else pure (r, rows)) (RecordReader.fresh, [])
  let rows :=
    if r.scan != .startRecord && (!r.field.isEmpty || r.scan == .inQuoted) then
      r.save.fields.reverse :: rows
    else rows
  pure rows.reverse

end Conversa.Text
