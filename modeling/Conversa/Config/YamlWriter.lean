import Conversa.Data.Value
import Conversa.Numeric.Notation
import Conversa.Text.Space

/-!
# Writing configuration documents

A configuration is written in block YAML, two blanks a level, empty collections `{}` or `[]`.  A
text is plain when it reads back as itself (not a truth value, number, absent value, date, `<<`
or `=`, no leading indicator, `: ` or ` #`, no final colon or blank), else quoted.  A double is
its shortest decimal (`.0` before a bare exponent), or `.inf`, `-.inf`, `.nan`.
-/

namespace Conversa.Config

def truthWords : List String :=
  ["y", "Y", "yes", "Yes", "YES", "n", "N", "no", "No", "NO", "true", "True", "TRUE", "false", "False", "FALSE",
   "on", "On", "ON", "off", "Off", "OFF"]

def absentWords : List String := ["", "~", "null", "Null", "NULL"]

/-- Whether characters are digits with single underscores between them. -/
def groupedDigits (cs : List Char) : Bool :=
  match cs with
  | [] => false
  | c :: _ =>
    c.isDigit && cs.getLast?.any Char.isDigit && cs.all (fun c => c.isDigit || c == '_') &&
      !(cs.zip cs.tail).any (fun (a, b) => a == '_' && b == '_')

/-- Characters without a leading sign. -/
def unsigned (cs : List Char) : List Char :=
  match cs with
  | '+' :: rest | '-' :: rest => rest
  | _ => cs

/-- Whether a text reads as a whole number: blanks around, a sign, grouped digits. -/
def readsAsWhole (s : String) : Bool := groupedDigits (unsigned (Text.strip s).toList)

/-- Whether a text reads as a double: blanks around, a sign, then an infinity, a NaN, or digits
with a point or an exponent or both. -/
def readsAsDouble (s : String) : Bool :=
  let cs := unsigned (Text.strip s).toList
  let word := (String.ofList cs).toLower
  if word == "inf" || word == "infinity" || word == "nan" then true
  else
    let mantissa := cs.takeWhile fun c => c != 'e' && c != 'E'
    let exponent := cs.drop mantissa.length
    let whole := mantissa.takeWhile (· != '.')
    let fraction := mantissa.drop whole.length
    let mantissaOk := match fraction with
      | [] => groupedDigits whole
      | _ :: frac => (whole.isEmpty || groupedDigits whole) && (frac.isEmpty || groupedDigits frac) &&
          !(whole.isEmpty && frac.isEmpty)
    let exponentOk := match exponent with
      | [] => true
      | _ :: rest => groupedDigits (unsigned rest)
    mantissaOk && exponentOk

/-- Whether a text has the form of a date, `YYYY-M-D` with one or two digits for month and day,
possibly followed by a time. -/
def readsAsDate (s : String) : Bool :=
  match s.splitOn "-" with
  | y :: m :: d :: _ =>
    let day := d.toList.takeWhile Char.isDigit
    y.length == 4 && y.all Char.isDigit && (m.length == 1 || m.length == 2) && m.all Char.isDigit &&
      (day.length == 1 || day.length == 2) &&
      (d.length == day.length || (d.toList.drop day.length).head?.any (fun c => c == 'T' || c == 't' || c == ' '))
  | _ => false

/-- Whether a text written plain would be read as a number written in another base or notation:
binary, hexadecimal, base sixty, or an infinity or NaN after a point. -/
def readsAsNotation (s : String) : Bool :=
  let cs := unsigned s.toList
  match cs with
  | '0' :: 'b' :: ds => !ds.isEmpty && ds.all fun c => c == '0' || c == '1' || c == '_'
  | '0' :: 'x' :: ds => !ds.isEmpty && ds.all fun c => c.isDigit || ('a' ≤ c && c ≤ 'f') || ('A' ≤ c && c ≤ 'F') || c == '_'
  | _ =>
    let word := String.ofList cs
    [".inf", ".Inf", ".INF"].contains word || [".nan", ".NaN", ".NAN"].contains s ||
      (cs.head?.any Char.isDigit && cs.contains ':' &&
        (String.ofList cs |>.splitOn ":").all fun part => !part.isEmpty && part.all fun c => c.isDigit || c == '_' || c == '.')

def readsAsOther (s : String) : Bool :=
  truthWords.contains s || absentWords.contains s || readsAsWhole s || readsAsDouble s || readsAsDate s ||
    readsAsNotation s || s == "<<" || s == "="

def isBreakOrBlank (c : Char) : Bool := c == ' ' || c == '\t' || c == '\n' || c == '\r'

/-- Whether a character can be written as it is: printable, or a line end. -/
def isWritable (c : Char) : Bool :=
  c == '\n' || (' ' ≤ c && c ≤ '~') ||
    ((c.toNat == 0x85 || (0xA0 ≤ c.toNat && c.toNat ≤ 0xD7FF) || (0xE000 ≤ c.toNat && c.toNat ≤ 0xFFFD) ||
      0x10000 ≤ c.toNat) && c.toNat != 0xFEFF)

/-- Whether a text may be written plain in a block: no indicator at its start, no `: ` or ` #`
inside, no colon at its end, no blank or line end at either end, and only writable characters. -/
def plainAllowed (s : String) : Bool :=
  let cs := s.toList
  let followedByBlank (rest : List Char) : Bool := rest.head?.all isBreakOrBlank
  let startOk := match cs with
    | c :: rest =>
      !("#,[]{}&*!|>'\"%@".toList.contains c || c == '\x60') &&
        !((c == '?' || c == ':' || c == '-') && followedByBlank rest)
    | [] => false
  let rec inner (prevBlank : Bool) : List Char → Bool
    | [] => true
    | c :: rest =>
      if c == ':' && followedByBlank rest then false
      else if c == '#' && prevBlank then false
      else inner (isBreakOrBlank c) rest
  let ends := match cs.head?, cs.getLast? with
    | some a, some b => !isBreakOrBlank a && !isBreakOrBlank b
    | _, _ => false
  startOk && (match cs with
    | _ :: rest => inner false rest
    | [] => true) && ends && !cs.contains '\n' && cs.all isWritable &&
    !(s.startsWith "---" || s.startsWith "...")

def singleQuoted (s : String) : String :=
  "'" ++ String.join (s.toList.map fun c => if c == '\'' then "''" else String.singleton c) ++ "'"

def hexByte (n : Nat) : String :=
  let digit (d : Nat) : Char := if d < 10 then Char.ofNat (48 + d) else Char.ofNat (55 + d)
  String.ofList [digit (n / 16 % 16), digit (n % 16)]

/-- A text in double quotes, with escapes for the quote, the backslash and what cannot be
written as it is. -/
def doubleQuoted (s : String) : String :=
  let escape (c : Char) : String :=
    match c with
    | '"' => "\\\""
    | '\\' => "\\\\"
    | '\n' => "\\n"
    | '\t' => "\\t"
    | '\r' => "\\r"
    | c =>
      if isWritable c then String.singleton c
      else if c.toNat < 0x100 then "\\x" ++ hexByte c.toNat
      else "\\u" ++ hexByte (c.toNat / 256) ++ hexByte (c.toNat % 256)
  "\"" ++ String.join (s.toList.map escape) ++ "\""

/-- A text as a scalar: plain when it reads back as itself, else quoted. -/
def textScalar (s : String) : String :=
  if !readsAsOther s && plainAllowed s then s
  else if s.toList.all (fun c => isWritable c && c != '\n') then singleQuoted s
  else doubleQuoted s

/-- A double as a scalar: its shortest decimal in lower case with `.0` before an exponent that
has no point, or `.inf`, `-.inf`, `.nan`. -/
def doubleScalar (x : Float) : String :=
  if x.isNaN then ".nan"
  else if x.isInf then (if x > 0 then ".inf" else "-.inf")
  else
    let t := (Numeric.floatText x).toLower
    if !t.contains '.' && t.contains 'e' then t.replace "e" ".0e" else t

def scalarText : Data → String
  | .null => "null"
  | .bool b => if b then "true" else "false"
  | .int n => toString n
  | .float x => doubleScalar x
  | .str s => textScalar s
  | .list _ => "[]"
  | .dict _ => "{}"

def pad (n : Nat) : String := String.ofList (List.replicate n ' ')

/-- Lines with the first one's indentation of `width` replaced by a prefix. -/
def withLead (lead : String) (width : Nat) : List String → List String
  | [] => [lead]
  | first :: rest => (lead ++ String.ofList (first.toList.drop width)) :: rest

mutual

def mappingLines (ind : Nat) : Entries → List String
  | [] => []
  | (k, v) :: rest =>
    let key := pad ind ++ textScalar k ++ ":"
    let here := match v with
      | .dict [] => [key ++ " {}"]
      | .dict kvs => key :: mappingLines (ind + 2) kvs
      | .list [] => [key ++ " []"]
      | .list xs => key :: sequenceLines ind xs
      | s => [key ++ " " ++ scalarText s]
    here ++ mappingLines ind rest

def sequenceLines (ind : Nat) : List Data → List String
  | [] => []
  | x :: rest =>
    let here := match x with
      | .dict [] => [pad ind ++ "- {}"]
      | .dict kvs => withLead (pad ind ++ "- ") (ind + 2) (mappingLines (ind + 2) kvs)
      | .list [] => [pad ind ++ "- []"]
      | .list xs => withLead (pad ind ++ "- ") (ind + 2) (sequenceLines (ind + 2) xs)
      | s => [pad ind ++ "- " ++ scalarText s]
    here ++ sequenceLines ind rest

end

/-- A configuration as a block document, each line ended. -/
def writeYaml (d : Data) : String :=
  let lines := match d with
    | .dict [] => ["{}"]
    | .dict kvs => mappingLines 0 kvs
    | .list [] => ["[]"]
    | .list xs => sequenceLines 0 xs
    | s => [scalarText s, "..."]
  String.join (lines.map (· ++ "\n"))

end Conversa.Config
