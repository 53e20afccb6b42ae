import Conversa.Data.Value
import Conversa.Numeric.Notation
import Conversa.Text.Unicode
import Conversa.Text.Bytes

/-!
# JSON text

Reading and writing `Data` as JSON text, in two structurally recursive passes (characters to
tokens, tokens to values on a stack of open containers).  A number with a fraction or exponent is
a double, correctly rounded; any other is a whole number.  Writing uses the shortest text for a
double and marks a whole double with `.0`; NaN and the infinities are written `{"float": "nan"}`
and so on.  `dump` writes ASCII text and NaN as `NaN`, `Infinity`, `-Infinity`.
-/

namespace Conversa.Json

/-- A lexical unit of JSON text. -/
inductive Token where
  | openObj
  | closeObj
  | openArr
  | closeArr
  | colon
  | comma
  | str (s : String)
  | num (cs : List Char)
  /-- `true`, `false` or `null`, or a stray word. -/
  | word (cs : List Char)
deriving Repr, Inhabited

def hex4 (cs : List Char) : Option Nat :=
  cs.foldl (fun acc c => do let a ← acc; let v ← Text.hexValue c; pure (16 * a + v)) (some 0)

/-- Where the lexer stands inside a string literal. -/
inductive Escape where
  | plain
  | backslash
  /-- Reading the hexadecimal digits of a `\u` escape, with a high surrogate before it if any. -/
  | unicode (digits : List Char) (high : Option Nat)
  /-- A high surrogate was read; a `\u` escape with its low half may follow. -/
  | afterHigh (high : Nat)
  /-- After the backslash that may start the low half of a surrogate pair. -/
  | afterHighBackslash (high : Nat)
deriving Repr

/-- What the lexer is in the middle of. -/
inductive Mode where
  | idle
  /-- Inside a string literal, with its characters so far, reversed. -/
  | str (acc : List Char) (esc : Escape)
  /-- Inside a number or a word, with its characters so far, reversed. -/
  | atom (acc : List Char)
deriving Repr

def isAtomChar (c : Char) : Bool := c.isAlphanum || c == '-' || c == '+' || c == '.'

def atomToken (acc : List Char) : Token :=
  let cs := acc.reverse
  match cs with
  | c :: _ => if c.isDigit || c == '-' then .num cs else .word cs
  | [] => .word []

def codeChar (n : Nat) : Char :=
  if 0xD800 ≤ n ∧ n < 0xE000 then Char.ofNat 0xFFFD else Char.ofNat n

/-- The character a one-letter escape stands for. -/
def escapeChar : Char → Option Char
  | '"' => some '"'
  | '\\' => some '\\'
  | '/' => some '/'
  | 'b' => some (Char.ofNat 8)
  | 'f' => some (Char.ofNat 12)
  | 'n' => some '\n'
  | 'r' => some '\r'
  | 't' => some '\t'
  | _ => none

/-- Splits JSON text into tokens, one character per step. The tokens come out reversed.  A
`strict` reading refuses control characters inside string literals. -/
def lex (strict : Bool) : Mode → List Token → List Char → Option (List Token)
  | .idle, out, [] => some out
  | .atom acc, out, [] => some (atomToken acc :: out)
  | .str _ _, _, [] => none
  | .idle, out, c :: cs =>
    if c == '{' then lex strict .idle (.openObj :: out) cs
    else if c == '}' then lex strict .idle (.closeObj :: out) cs
    else if c == '[' then lex strict .idle (.openArr :: out) cs
    else if c == ']' then lex strict .idle (.closeArr :: out) cs
    else if c == ':' then lex strict .idle (.colon :: out) cs
    else if c == ',' then lex strict .idle (.comma :: out) cs
    else if c == '"' then lex strict (.str [] .plain) out cs
    else if c == ' ' || c == '\n' || c == '\t' || c == '\r' then lex strict .idle out cs
    else if isAtomChar c then lex strict (.atom [c]) out cs
    else none
  | .atom acc, out, c :: cs =>
    if isAtomChar c then lex strict (.atom (c :: acc)) out cs
    else lex strict .idle (atomToken acc :: out) (c :: cs)
  | .str acc .plain, out, c :: cs =>
    if strict && c.toNat < 0x20 then none
    else if c == '"' then lex strict .idle (.str (String.ofList acc.reverse) :: out) cs
    else if c == '\\' then lex strict (.str acc .backslash) out cs
    else lex strict (.str (c :: acc) .plain) out cs
  | .str acc .backslash, out, c :: cs =>
    if c == 'u' then lex strict (.str acc (.unicode [] none)) out cs
    else match escapeChar c with
      | some e => lex strict (.str (e :: acc) .plain) out cs
      | none => none
  | .str acc (.unicode ds high), out, c :: cs =>
    let ds := c :: ds
    if ds.length < 4 then lex strict (.str acc (.unicode ds high)) out cs
    else match hex4 ds.reverse with
      | none => none
      | some n =>
        match high with
        | some h =>
          if 0xDC00 ≤ n ∧ n < 0xE000 then
            lex strict (.str (Char.ofNat (0x10000 + (h - 0xD800) * 0x400 + (n - 0xDC00)) :: acc) .plain) out cs
          else if 0xD800 ≤ n ∧ n < 0xDC00 then lex strict (.str (codeChar h :: acc) (.afterHigh n)) out cs
          else lex strict (.str (codeChar n :: codeChar h :: acc) .plain) out cs
        | none =>
          if 0xD800 ≤ n ∧ n < 0xDC00 then lex strict (.str acc (.afterHigh n)) out cs
          else lex strict (.str (codeChar n :: acc) .plain) out cs
  | .str acc (.afterHigh h), out, c :: cs =>
    if c == '\\' then lex strict (.str acc (.afterHighBackslash h)) out cs
    else lex strict (.str (codeChar h :: acc) .plain) out (c :: cs)
  | .str acc (.afterHighBackslash h), out, c :: cs =>
    if c == 'u' then lex strict (.str acc (.unicode [] (some h))) out cs
    else match escapeChar c with
      | some e => lex strict (.str (e :: codeChar h :: acc) .plain) out cs
      | none => none
termination_by m _ cs => (cs.length, match m with | .atom _ => 1 | .str _ (.afterHigh _) => 1 | _ => 0)

def digitsValue (cs : List Char) : Nat := cs.foldl (fun n c => 10 * n + (c.toNat - '0'.toNat)) 0

/-- The value of a number literal: `-?digits(.digits)?([eE][+-]?digits)?`. A literal with a
fraction or an exponent is a double.  A `strict` reading refuses a whole part with a leading
zero. -/
def numberValue (strict : Bool) (cs : List Char) : Option Data :=
  let (neg, cs) := match cs with
    | '-' :: r => (true, r)
    | r => (false, r)
  let intPart := cs.takeWhile Char.isDigit
  let rest := cs.dropWhile Char.isDigit
  let (frac, rest, hasFrac) := match rest with
    | '.' :: r => (r.takeWhile Char.isDigit, r.dropWhile Char.isDigit, true)
    | r => ([], r, false)
  let expPart : Option (Option Int) := match rest with
    | [] => some none
    | c :: r =>
      if c == 'e' || c == 'E' then
        let (eneg, r) := match r with
          | '-' :: r' => (true, r')
          | '+' :: r' => (false, r')
          | r' => (false, r')
        if r.isEmpty || !r.all Char.isDigit then none
        else
          let v : Int := digitsValue r
          some (some (if eneg then -v else v))
      else none
  match expPart with
  | none => none
  | some ex =>
    if intPart.isEmpty || (hasFrac && frac.isEmpty) then none
    else if strict && intPart.length > 1 && intPart.head? == some '0' then none
    else if !hasFrac && ex.isNone then
      let v : Int := digitsValue intPart
      some (.int (if neg then -v else v))
    else
      let m := digitsValue (intPart ++ frac)
      let e := ex.getD 0 - frac.length
      some (.float (Numeric.ofScientific neg m e))

/-- A container under construction. -/
inductive Frame where
  | arr (items : List Data)
  /-- A mapping, entries so far reversed, and the key waiting for its value. -/
  | obj (items : Entries) (key : Option String)

/-- What the assembler expects next. -/
inductive Expect where
  | value
  /-- A value or the end of an empty sequence. -/
  | valueOrClose
  | keyOrClose
  | key
  | colon
  | commaOrClose

/-- Adds a finished value to the innermost container, or finishes the document. -/
def place (v : Data) : List Frame → Option (List Frame × Option Data)
  | [] => some ([], some v)
  | .arr items :: st => some (.arr (v :: items) :: st, none)
  | .obj items (some k) :: st => some (.obj ((k, v) :: items) none :: st, none)
  | .obj _ none :: _ => none

/-- The entries of a mapping with one entry per key: a repeated key keeps its first place and
takes its last value. -/
def lastValues (kvs : Entries) : Entries :=
  kvs.foldl (fun acc (k, v) =>
    if acc.any (·.1 == k) then acc.map fun (k', w) => if k' == k then (k', v) else (k', w)
    else acc ++ [(k, v)]) []

/-- Assembles tokens into one value, one token per step.  A `strict` reading also takes `NaN`,
`Infinity` and `-Infinity` as doubles and keeps the last value of a repeated key. -/
def assemble (strict : Bool) : Expect → List Frame → Option Data → List Token → Option Data
  | _, [], some v, [] => some v
  | _, _, _, [] => none
  | _, _, some _, _ :: _ => none
  | ex, st, none, t :: ts =>
    let placed (v : Data) : Option Data :=
      match place v st with
      | some (st', done) => assemble strict .commaOrClose st' done ts
      | none => none
    match ex, t with
    | .value, .openArr | .valueOrClose, .openArr => assemble strict .valueOrClose (.arr [] :: st) none ts
    | .value, .openObj | .valueOrClose, .openObj => assemble strict .keyOrClose (.obj [] none :: st) none ts
    | .value, .str s | .valueOrClose, .str s => placed (.str s)
    | .value, .num cs | .valueOrClose, .num cs =>
      if strict && cs == "-Infinity".toList then placed (.float (-(1.0 / 0.0)))
      else match numberValue strict cs with
      | some v => placed v
      | none => none
    | .value, .word w | .valueOrClose, .word w =>
      if w == "true".toList then placed (.bool true)
      else if w == "false".toList then placed (.bool false)
      else if w == "null".toList then placed .null
      else if strict && w == "NaN".toList then placed (.float (0.0 / 0.0))
      else if strict && w == "Infinity".toList then placed (.float (1.0 / 0.0))
      else none
    | .valueOrClose, .closeArr | .commaOrClose, .closeArr =>
      match st with
      | .arr items :: st' =>
        match place (.list items.reverse) st' with
        | some (st'', done) => assemble strict .commaOrClose st'' done ts
        | none => none
      | _ => none
    | .keyOrClose, .closeObj | .commaOrClose, .closeObj =>
      match st with
      | .obj items none :: st' =>
        match place (.dict (if strict then lastValues items.reverse else items.reverse)) st' with
        | some (st'', done) => assemble strict .commaOrClose st'' done ts
        | none => none
      | _ => none
    | .keyOrClose, .str k | .key, .str k =>
      match st with
      | .obj items none :: st' => assemble strict .colon (.obj items (some k) :: st') none ts
      | _ => none
    | .colon, .colon => assemble strict .value st none ts
    | .commaOrClose, .comma =>
      match st with
      | .arr _ :: _ => assemble strict .value st none ts
      | .obj _ _ :: _ => assemble strict .key st none ts
      | [] => none
    | _, _ => none

def parse? (s : String) : Option Data := do
  let toks ← lex false .idle [] s.toList
  assemble false .value [] none toks.reverse

/-- Reads one JSON document as a data loader of the toolkit does: control characters are refused
inside strings, a number may not have a leading zero, `NaN`, `Infinity` and `-Infinity` are
doubles, and of a repeated key the last value counts. -/
def loads? (s : String) : Option Data := do
  let toks ← lex true .idle [] s.toList
  assemble true .value [] none toks.reverse

def hexUnit (n : Nat) : String :=
  let ds := Nat.toDigits 16 n
  String.ofList (List.replicate (4 - ds.length) '0' ++ ds)

/-- A character inside a JSON string literal: quote, backslash and control characters escaped. -/
def escapeOne (c : Char) : String :=
  if c == '"' then "\\\""
  else if c == '\\' then "\\\\"
  else if c == '\n' then "\\n"
  else if c == '\r' then "\\r"
  else if c == '\t' then "\\t"
  else if c.toNat < 0x20 then "\\u" ++ hexUnit c.toNat
  else String.singleton c

def quote (s : String) : String := "\"" ++ String.join (s.toList.map escapeOne) ++ "\""

/-- The JSON text of a double: shortest digits, `.0` on a whole number, and the one-entry
objects for NaN and the infinities. -/
def floatJson (x : Float) : String :=
  if x.isNaN then "\x7b\"float\": \"nan\"\x7d"
  else if x.isInf then (if x < 0 then "\x7b\"float\": \"-inf\"\x7d" else "\x7b\"float\": \"inf\"\x7d")
  else Numeric.floatText x

mutual

def render : Data → String
  | .null => "null"
  | .bool b => if b then "true" else "false"
  | .int n => toString n
  | .float x => floatJson x
  | .str s => quote s
  | .list xs => "[" ++ renderItems xs ++ "]"
  | .dict kvs => "\x7b" ++ renderEntries kvs ++ "\x7d"

/-- The elements of a sequence, separated by commas. -/
def renderItems : List Data → String
  | [] => ""
  | [x] => render x
  | x :: xs => render x ++ ", " ++ renderItems xs

/-- The entries of a mapping, separated by commas. -/
def renderEntries : Entries → String
  | [] => ""
  | [(k, v)] => quote k ++ ": " ++ render v
  | (k, v) :: kvs => quote k ++ ": " ++ render v ++ ", " ++ renderEntries kvs

end

/-- The text of a double in a data dump: the shortest digits, and the words `NaN`, `Infinity`
and `-Infinity`. -/
def dumpFloat (x : Float) : String :=
  if x.isNaN then "NaN"
  else if x.isInf then (if x < 0 then "-Infinity" else "Infinity")
  else Numeric.floatText x

mutual

/-- A value as a data dump writes it for other programs: JSON with texts in ASCII only. -/
def dump : Data → String
  | .null => "null"
  | .bool b => if b then "true" else "false"
  | .int n => toString n
  | .float x => dumpFloat x
  | .str s => Text.jsonQuote s
  | .list xs => "[" ++ dumpItems xs ++ "]"
  | .dict kvs => "\x7b" ++ dumpEntries kvs ++ "\x7d"

/-- Dumped elements, separated by commas. -/
def dumpItems : List Data → String
  | [] => ""
  | [x] => dump x
  | x :: xs => dump x ++ ", " ++ dumpItems xs

/-- Dumped entries, separated by commas. -/
def dumpEntries : Entries → String
  | [] => ""
  | [(k, v)] => Text.jsonQuote k ++ ": " ++ dump v
  | (k, v) :: kvs => Text.jsonQuote k ++ ": " ++ dump v ++ ", " ++ dumpEntries kvs

end

def indentation (width level : Nat) : String := "\n" ++ String.ofList (List.replicate (width * level) ' ')

mutual

/-- A value dumped over several lines: every element and entry of a non-empty container on a line
of its own, indented by `width` spaces a level; empty containers and single values as in `dump`. -/
def dumpIndented (width level : Nat) : Data → String
  | .list [] => "[]"
  | .dict [] => "\x7b\x7d"
  | .list xs => "[" ++ dumpIndentedItems width (level + 1) xs ++ indentation width level ++ "]"
  | .dict kvs => "\x7b" ++ dumpIndentedEntries width (level + 1) kvs ++ indentation width level ++ "\x7d"
  | d => dump d

/-- Indented elements, separated by commas. -/
def dumpIndentedItems (width level : Nat) : List Data → String
  | [] => ""
  | [x] => indentation width level ++ dumpIndented width level x
  | x :: xs => indentation width level ++ dumpIndented width level x ++ "," ++ dumpIndentedItems width level xs

/-- Indented entries, separated by commas. -/
def dumpIndentedEntries (width level : Nat) : Entries → String
  | [] => ""
  | [(k, v)] => indentation width level ++ Text.jsonQuote k ++ ": " ++ dumpIndented width level v
  | (k, v) :: kvs =>
    indentation width level ++ Text.jsonQuote k ++ ": " ++ dumpIndented width level v ++ "," ++
      dumpIndentedEntries width level kvs

end

end Conversa.Json
