import Conversa.Data.Show
import Conversa.Numeric.Printf
import Conversa.Text.Bytes
import Conversa.Data.Number

/-!
# Percent templates

A percent template holds specifications: `%`, an optional name in parentheses, flags, a width, a
precision, an ignored length letter and the conversion (`s r a`, `d i u`, `x X o`, `f e g`, `c`,
`%%`).  It is filled from values in order or by name; too few or many values, a wrong kind or an
unknown conversion fail with the formatter's texts.  Values are written as source code would.
-/

namespace Conversa.Text

/-- A byte string in source form: printable ASCII as it is, the quote and backslash escaped, and
any other byte as `\t`, `\n`, `\r` or `\xNN`.  Single quotes, unless the bytes hold a single
quote and no double one. -/
def bytesSource (bs : List UInt8) : String :=
  let q : Char := if bs.contains 39 && !bs.contains 34 then '"' else '\''
  let hex (n : Nat) : String :=
    let d (k : Nat) : Char := if k < 10 then Char.ofNat (48 + k) else Char.ofNat (87 + k)
    String.ofList [d (n / 16), d (n % 16)]
  let one (b : UInt8) : String :=
    let n := b.toNat
    if n == q.toNat || n == 92 then String.ofList ['\\', Char.ofNat n]
    else if n == 9 then "\\t" else if n == 10 then "\\n" else if n == 13 then "\\r"
    else if 32 ≤ n && n < 127 then String.singleton (Char.ofNat n)
    else "\\x" ++ hex n
  "b" ++ String.singleton q ++ String.join (bs.map one) ++ String.singleton q

/-- The bytes a value holds, when it is a byte string `{"$bytes": hex}`. -/
def bytesOf? (d : Data) : Option (List UInt8) :=
  match d with
  | .dict [("$bytes", .str h)] => hexBytes? h.toList
  | _ => none

mutual

def sourceText : Data → String
  | .dict [("$tuple", .list xs)] => "(" ++ ", ".intercalate (sourceItems xs) ++ (if xs.length == 1 then ",)" else ")")
  | .dict [("$set", .list xs)] => if xs.isEmpty then "set()" else "\x7b" ++ ", ".intercalate (sourceItems xs) ++ "\x7d"
  | .dict [("$bytes", .str h)] => bytesSource ((hexBytes? h.toList).getD [])
  | .dict [("attrs", .dict _), ("object", .str cls)] => "<" ++ cls ++ " object>"
  | .dict kvs => "\x7b" ++ ", ".intercalate (sourceEntries kvs) ++ "\x7d"
  | .list xs => "[" ++ ", ".intercalate (sourceItems xs) ++ "]"
  | d => d.show

def sourceItems : List Data → List String
  | [] => []
  | x :: xs => sourceText x :: sourceItems xs

def sourceEntries : Entries → List String
  | [] => []
  | (k, v) :: kvs => (quote k ++ ": " ++ sourceText v) :: sourceEntries kvs

end

/-- A value as text: a text itself, anything else as source code writes it. -/
def plainText : Data → String
  | .str s => s
  | d => sourceText d

/-- A conversion specification of a template. -/
structure Conversion where
  key : Option String
  flags : List Char
  /-- The width, or `*` for a width taken from the values. -/
  width : Option (Option Nat)
  /-- The precision, or `*` for a precision taken from the values. -/
  precision : Option (Option Nat)
  kind : Char

/-- A piece of a template: text, or a conversion. -/
inductive TemplatePiece where
  | text (s : String)
  | conversion (c : Conversion)

def incompleteFormat : Failure := .value "incomplete format"

/-- Digits at the start of characters, as a number, and the characters after them. -/
def leadingNumber (cs : List Char) : Option Nat × List Char :=
  let ds := cs.takeWhile Char.isDigit
  if ds.isEmpty then (none, cs) else (some (ds.foldl (fun n c => 10 * n + (c.toNat - 48)) 0), cs.drop ds.length)

/-- A name in parentheses, the parentheses inside it balanced, and the characters after it. -/
def parenthesized (depth : Nat) (acc : List Char) : List Char → Option (String × List Char)
  | [] => none
  | ')' :: rest => if depth == 0 then some (String.ofList acc.reverse, rest) else parenthesized (depth - 1) (')' :: acc) rest
  | '(' :: rest => parenthesized (depth + 1) ('(' :: acc) rest
  | c :: rest => parenthesized depth (c :: acc) rest

/-- A width or precision: digits, `*`, or nothing. -/
def sizeField (cs : List Char) : Option (Option Nat) × List Char :=
  match cs with
  | '*' :: rest => (some none, rest)
  | _ => match leadingNumber cs with
    | (some n, rest) => (some (some n), rest)
    | (none, rest) => (none, rest)

/-- The conversion after a `%`, and the characters after it; `total` is the template's length,
which places an unknown conversion character. -/
def readConversion (total : Nat) (cs : List Char) : Result (TemplatePiece × List Char) := do
  let (key, cs) ← match cs with
    | '(' :: rest => match parenthesized 0 [] rest with
      | some (k, more) => pure (some k, more)
      | none => throw (.value "incomplete format key")
    | _ => pure (none, cs)
  let flags := cs.takeWhile fun c => c == '-' || c == '+' || c == ' ' || c == '#' || c == '0'
  let cs := cs.drop flags.length
  let (width, cs) := sizeField cs
  let (precision, cs) := match cs with
    | '.' :: rest => match sizeField rest with
      | (some p, more) => (some p, more)
      | (none, more) => (some (some 0), more)
    | _ => (none, cs)
  let cs := match cs with
    | c :: rest => if c == 'h' || c == 'l' || c == 'L' then rest else cs
    | [] => cs
  match cs with
  | [] => throw incompleteFormat
  | c :: rest =>
    if c == '%' && key.isNone then pure (.text "%", rest)
    else if "diouxXeEfFgGcrsa%".toList.contains c then pure (.conversion ⟨key, flags, width, precision, c⟩, rest)
    else
      let index := total - rest.length - 1
      let code := String.ofList (Nat.toDigits 16 c.toNat)
      throw (.value s!"unsupported format character {quote (String.singleton c)} (0x{code}) at index {index}")

def templatePieces (total : Nat) : Nat → List Char → Result (List TemplatePiece)
  | 0, _ => pure []
  | fuel + 1, cs =>
    match cs with
    | [] => pure []
    | '%' :: rest => do
      let (piece, more) ← readConversion total rest
      pure (piece :: (← templatePieces total fuel more))
    | _ =>
      let text := cs.takeWhile (· != '%')
      do pure (.text (String.ofList text) :: (← templatePieces total fuel (cs.drop text.length)))

/-- Text padded to a width: on the right when left-justified, else on the left. -/
def padTo (width : Nat) (left : Bool) (s : String) : String :=
  let fill := String.ofList (List.replicate (width - s.length) ' ')
  if left then s ++ fill else fill ++ s

/-- A number's digits with its sign, padded to a width with blanks or, after the sign, zeros. -/
def signedField (c : Conversion) (width : Nat) (neg : Bool) (prefixText digits : String) : String :=
  let sign := if neg then "-" else if c.flags.contains '+' then "+" else if c.flags.contains ' ' then " " else ""
  let left := c.flags.contains '-'
  if c.flags.contains '0' && !left then
    let body := prefixText ++ digits
    let zeros := String.ofList (List.replicate (width - sign.length - body.length) '0')
    sign ++ prefixText ++ zeros ++ digits
  else padTo width left (sign ++ prefixText ++ digits)

/-- A double in the general form: the shorter of fixed and scientific for the precision, without
trailing zeros unless the alternate form is asked for. -/
def generalText (x : Float) (p : Nat) (alternate : Bool) : String :=
  let p := if p == 0 then 1 else p
  let sci := Numeric.scientificText x (p - 1)
  let exponent : Int := match sci.splitOn "e" with
    | [_, e] => (e.toInt?).getD ((String.ofList (e.toList.drop 1)).toInt?.getD 0)
    | _ => 0
  let trim (s : String) : String :=
    if alternate || !s.contains '.' then s
    else
      let t := String.ofList (s.toList.reverse.dropWhile (· == '0')).reverse
      if t.endsWith "." then String.ofList t.toList.dropLast else t
  if -4 ≤ exponent && exponent < p then trim (Numeric.fixedText x (p - 1 - exponent).toNat)
  else
    match sci.splitOn "e" with
    | [m, e] => trim m ++ "e" ++ e
    | _ => sci

/-- The whole number a numeric conversion writes, or its failure. -/
def wholeOf (kind : Char) (d : Data) : Result Int :=
  match d with
  | .int n => .ok n
  | .bool b => .ok (if b then 1 else 0)
  | .float x =>
    if "xXo".toList.contains kind then .error (.type s!"%{String.singleton kind} format: an integer is required, not float")
    else if x.isNaN then .error (.value "cannot convert float NaN to integer")
    else if x.isInf then .error ⟨"OverflowError", "cannot convert float infinity to integer"⟩
    else .ok (Numeric.truncToInt x)
  | other =>
    let what := if "xXo".toList.contains kind then "an integer" else "a real number"
    .error (.type s!"%{String.singleton kind} format: {what} is required, not {other.kindName}")

def convertOne (c : Conversion) (width : Nat) (precision : Option Nat) (d : Data) : Result String := do
  let left := c.flags.contains '-'
  match c.kind with
  | 's' | 'r' | 'a' =>
    let t := if c.kind == 's' then plainText d else sourceText d
    let t := match precision with
      | some p => String.ofList (t.toList.take p)
      | none => t
    pure (padTo width left t)
  | 'c' =>
    let ch ← match d with
      | .int n => pure (String.singleton (Char.ofNat n.toNat))
      | .str s => if s.length == 1 then pure s else throw (.type "%c requires int or char")
      | _ => throw (.type "%c requires int or char")
    pure (padTo width left ch)
  | 'd' | 'i' | 'u' =>
    let n ← wholeOf c.kind d
    pure (signedField c width (n < 0) "" (toString n.natAbs))
  | 'x' | 'X' | 'o' =>
    let n ← wholeOf c.kind d
    let base := if c.kind == 'o' then 8 else 16
    let digits := String.ofList (Nat.toDigits base n.natAbs)
    let digits := if c.kind == 'X' then digits.toUpper else digits
    let prefixText := if c.flags.contains '#' then (if c.kind == 'o' then "0o" else if c.kind == 'X' then "0X" else "0x") else ""
    pure (signedField c width (n < 0) prefixText digits)
  | kind =>
    let x ← match d with
      | .int n => pure (Float.ofInt n)
      | .bool b => pure (if b then 1.0 else 0.0)
      | .float x => pure x
      | other => throw (.type s!"must be real number, not {other.kindName}")
    let p := precision.getD 6
    let body := match kind with
      | 'e' | 'E' => Numeric.scientificText (Float.abs x) p
      | 'g' | 'G' => generalText (Float.abs x) p (c.flags.contains '#')
      | _ => Numeric.fixedText (Float.abs x) p
    let body := if kind == 'E' || kind == 'G' || kind == 'F' then body.toUpper else body
    let neg := Numeric.signBit x && !x.isNaN
    if x.isNaN || x.isInf then pure (padTo width left ((if neg then "-" else if c.flags.contains '+' then "+" else "") ++ body))
    else pure (signedField c width neg "" body)

/-- The values a template is filled from. -/
inductive FillValues where
  | positional (xs : List Data)
  /-- A mapping, its entries by name; as a positional value it is itself. -/
  | mapping (whole : Data) (entries : Entries)

/-- The values of the right operand of a template: a tuple's items, a mapping, or one value. -/
def FillValues.ofData (d : Data) : FillValues :=
  match d with
  | .dict [("$tuple", .list xs)] => .positional xs
  | .dict [("attrs", .dict _), ("object", .str _)] => .positional [d]
  | .dict [("$set", _)] | .dict [("$bytes", _)] => .positional [d]
  | .dict kvs => .mapping d kvs
  | other => .positional [other]

/-- A template filled, piece by piece; values left over are a failure unless they come from a
mapping. -/
def fillTemplate (template : String) (values : FillValues) : Result String := do
  let pieces ← templatePieces template.length (template.length + 1) template.toList
  let (out, rest) ← pieces.foldlM (fun (acc : String × List Data) piece => do
    let (out, rest) := acc
    match piece with
    | .text s => pure (out ++ s, rest)
    | .conversion c =>
      let next (rest : List Data) : Result (Data × List Data) :=
        match rest with
        | x :: more => .ok (x, more)
        | [] => .error (.type "not enough arguments for format string")
      let (width, rest) ← match c.width with
        | some none => do
          let (w, more) ← next rest
          match w with
          | .int n => pure (n.natAbs, more)
          | _ => throw (.type "* wants int")
        | some (some w) => pure (w, rest)
        | none => pure (0, rest)
      let (precision, rest) ← match c.precision with
        | some none => do
          let (p, more) ← next rest
          match p with
          | .int n => pure (some n.toNat, more)
          | _ => throw (.type "* wants int")
        | some (some p) => pure (some p, rest)
        | none => pure (none, rest)
      let (value, rest) ← match c.key, values with
        | some k, .mapping _ entries =>
          match entries.lookup k with
          | some v => pure (v, rest)
          | none => throw (.key (quote k))
        | some _, .positional _ => throw (.type "format requires a mapping")
        | none, _ => next rest
      pure (out ++ (← convertOne c width precision value), rest)) ("", match values with
        | .positional xs => xs
        | .mapping whole _ => [whole])
  match values with
  | .positional _ => if !rest.isEmpty then throw (.type "not all arguments converted during string formatting")
  | .mapping _ _ => pure ()
  pure out

end Conversa.Text
