import Conversa.Data.Value
import Conversa.Failure
import Conversa.Numeric.Reading

/-!
# Reading configuration documents

Configurations are block YAML: `key: value` and `- item` lines nested by indentation, flow
collections, quotes, comments, anchors and aliases.  A plain value is absent (`~`, `null`,
nothing), a truth value (`true`, `yes`, `on`, opposites, three cases), a whole number (octal,
`0b`, `0x`, underscores), a double (`.inf`, `.nan`) or text.  Each node takes at least its line,
which bounds the recursion.
-/

namespace Conversa.Config

/-- A line of a document: its indentation and its content, without the comment. -/
structure YamlLine where
  indent : Nat
  text : String
deriving Inhabited, Repr

def yamlError (what : String) : Failure := ⟨"ScannerError", what⟩

/-- A line without its comment: a `#` at the start or after a blank, outside quotes. -/
def dropComment (cs : List Char) : List Char :=
  let rec go (quote : Option Char) (prevBlank : Bool) : List Char → List Char
    | [] => []
    | c :: rest =>
      match quote with
      | some q => c :: go (if c == q then none else quote) false rest
      | none =>
        if c == '#' && prevBlank then []
        else if (c == '\'' || c == '"') && prevBlank then c :: go (some c) false rest
        else c :: go none (c == ' ' || c == '\t') rest
  go none true cs

def yamlLines (doc : String) : List YamlLine :=
  (doc.splitOn "\n").filterMap fun raw =>
    let cs := (raw.toList.filter (· != '\r'))
    let indent := (cs.takeWhile (· == ' ')).length
    let body := Text.stripEnd (String.ofList (dropComment (cs.drop indent)))
    if body.isEmpty || body == "---" || body == "..." then none else some ⟨indent, body⟩

/-- Whether every character is a digit of the given ones or an underscore, with one digit at
least. -/
def digitsIn (allowed : Char → Bool) (cs : List Char) : Bool :=
  !cs.isEmpty && cs.all (fun c => allowed c || c == '_') && cs.any allowed

/-- The value of digits in a base, underscores skipped. -/
def baseValue (base : Nat) (cs : List Char) : Nat :=
  (cs.filter (· != '_')).foldl (fun n c =>
    let d := if c.isDigit then c.toNat - '0'.toNat
      else if 'a' ≤ c && c ≤ 'f' then c.toNat - 'a'.toNat + 10
      else c.toNat - 'A'.toNat + 10
    base * n + d) 0

def yamlInt? (s : String) : Option Int :=
  let (neg, body) := Numeric.splitSign s.toList
  let sign (n : Nat) : Int := if neg then -(n : Int) else n
  match body with
  | ['0'] => some 0
  | '0' :: 'b' :: ds => if digitsIn (fun c => c == '0' || c == '1') ds then some (sign (baseValue 2 ds)) else none
  | '0' :: 'x' :: ds =>
    if digitsIn (fun c => c.isDigit || ('a' ≤ c && c ≤ 'f') || ('A' ≤ c && c ≤ 'F')) ds then some (sign (baseValue 16 ds))
    else none
  | '0' :: ds => if digitsIn (fun c => '0' ≤ c && c ≤ '7') ds then some (sign (baseValue 8 ds)) else none
  | d :: ds => if d.isDigit && (ds.all fun c => c.isDigit || c == '_') then some (sign (baseValue 10 (d :: ds))) else none
  | [] => none

/-- Whether a plain value reads as a double: digits with a point and an optional exponent,
digits with an exponent, a point and digits, or an infinity or NaN word. -/
def yamlFloatForm (s : String) : Bool :=
  let (_, body) := Numeric.splitSign s.toList
  let digitish (c : Char) : Bool := c.isDigit || c == '_'
  let exponentOk (cs : List Char) (signNeeded : Bool) : Bool :=
    match cs with
    | [] => true
    | e :: rest =>
      (e == 'e' || e == 'E') &&
        (match rest with
          | s :: ds => if s == '+' || s == '-' then !ds.isEmpty && ds.all Char.isDigit
            else !signNeeded && !rest.isEmpty && rest.all Char.isDigit
          | [] => false)
  if ["inf", "Inf", "INF"].any (fun w => body == ('.' :: w.toList)) then true
  else if ["nan", "NaN", "NAN"].any (fun w => s.toList == ('.' :: w.toList)) then true
  else
    match body with
    | '.' :: rest =>
      let ds := rest.takeWhile digitish
      !ds.isEmpty && (ds.head?.any Char.isDigit) && exponentOk (rest.drop ds.length) true &&
        s.toList.head? == some '.'
    | d :: _ =>
      d.isDigit &&
        (let whole := body.takeWhile digitish
         match body.drop whole.length with
         | '.' :: rest =>
           let frac := rest.takeWhile digitish
           exponentOk (rest.drop frac.length) false
         | rest => !rest.isEmpty && exponentOk rest false)
    | [] => false

def yamlFloat (s : String) : Float :=
  let cs := (s.toList.filter (· != '_')).map Char.toLower
  let (neg, body) := Numeric.splitSign cs
  if body == ".inf".toList then (if neg then -(1.0 / 0.0) else 1.0 / 0.0)
  else if body == ".nan".toList then 0.0 / 0.0
  else (Numeric.readFloat? (String.ofList cs)).getD 0.0

def plainValue (s : String) : Data :=
  if ["", "~", "null", "Null", "NULL"].contains s then .null
  else if ["true", "True", "TRUE", "yes", "Yes", "YES", "on", "On", "ON"].contains s then .bool true
  else if ["false", "False", "FALSE", "no", "No", "NO", "off", "Off", "OFF"].contains s then .bool false
  else match yamlInt? s with
    | some n => .int n
    | none => if yamlFloatForm s then .float (yamlFloat s) else .str s

def escapeValue (c : Char) : List Char :=
  match c with
  | 'n' => ['\n'] | 't' => ['\t'] | 'r' => ['\r'] | '0' => [Char.ofNat 0]
  | '"' => ['"'] | '\\' => ['\\'] | '/' => ['/'] | ' ' => [' ']
  | other => ['\\', other]

/-- A quoted text at the start of characters: its value and what follows it. -/
def quotedText (q : Char) : List Char → List Char → Option (String × List Char)
  | acc, [] => if acc.isEmpty then none else none
  | acc, c :: rest =>
    if q == '\'' && c == '\'' then
      match rest with
      | '\'' :: more => quotedText q ('\'' :: acc) more
      | _ => some (String.ofList acc.reverse, rest)
    else if q == '"' && c == '"' then some (String.ofList acc.reverse, rest)
    else if q == '"' && c == '\\' then
      match rest with
      | e :: more => quotedText q ((escapeValue e).reverse ++ acc) more
      | [] => none
    else quotedText q (c :: acc) rest

def skipBlanks (cs : List Char) : List Char := cs.dropWhile (fun c => c == ' ' || c == '\t')

mutual

/-- A flow node at the start of characters, and what follows it.  `fuel` bounds the nesting. -/
def flowNode (fuel : Nat) (cs : List Char) : Result (Data × List Char) :=
  match fuel with
  | 0 => .error (yamlError "too deeply nested")
  | fuel + 1 =>
    match skipBlanks cs with
    | '[' :: rest => flowItems fuel [] rest
    | '{' :: rest => flowEntries fuel [] rest
    | q :: rest =>
      if q == '\'' || q == '"' then
        match quotedText q [] rest with
        | some (s, more) => .ok (.str s, more)
        | none => .error (yamlError "found unexpected end of stream")
      else
        let body := (q :: rest).takeWhile fun c => c != ',' && c != ']' && c != '}'
        .ok (plainValue (Text.strip (String.ofList body)), (q :: rest).drop body.length)
    | [] => .ok (.null, [])

def flowItems (fuel : Nat) (acc : List Data) (cs : List Char) : Result (Data × List Char) :=
  match fuel with
  | 0 => .error (yamlError "too deeply nested")
  | fuel + 1 =>
    match skipBlanks cs with
    | ']' :: rest => .ok (.list acc.reverse, rest)
    | [] => .error (yamlError "while parsing a flow sequence")
    | cs => do
      let (v, rest) ← flowNode fuel cs
      match skipBlanks rest with
      | ',' :: more => flowItems fuel (v :: acc) more
      | ']' :: more => .ok (.list (v :: acc).reverse, more)
      | _ => .error (yamlError "while parsing a flow sequence")

def flowEntries (fuel : Nat) (acc : Entries) (cs : List Char) : Result (Data × List Char) :=
  match fuel with
  | 0 => .error (yamlError "too deeply nested")
  | fuel + 1 =>
    match skipBlanks cs with
    | '}' :: rest => .ok (.dict acc.reverse, rest)
    | [] => .error (yamlError "while parsing a flow mapping")
    | cs =>
      let keyChars := cs.takeWhile fun c => c != ':' && c != ',' && c != '}'
      let key := Text.strip (String.ofList keyChars)
      let key := match key.toList with
        | q :: rest => if (q == '\'' || q == '"') then ((quotedText q [] rest).map (·.1)).getD key else key
        | [] => key
      match cs.drop keyChars.length with
      | ':' :: rest => do
        let (v, rest) ← flowNode fuel rest
        match skipBlanks rest with
        | ',' :: more => flowEntries fuel ((key, v) :: acc) more
        | '}' :: more => .ok (.dict ((key, v) :: acc).reverse, more)
        | _ => .error (yamlError "while parsing a flow mapping")
      | ',' :: more => flowEntries fuel ((key, .null) :: acc) more
      | '}' :: more => .ok (.dict ((key, .null) :: acc).reverse, more)
      | _ => .error (yamlError "while parsing a flow mapping")

end

/-- The value of a text written after a key or a dash: a flow node or a plain value. -/
def inlineValue (s : String) : Result Data := do
  match s.toList with
  | c :: _ =>
    if c == '[' || c == '{' || c == '\'' || c == '"' then
      let (v, rest) ← flowNode (s.length + 2) s.toList
      if (skipBlanks rest).isEmpty then pure v
      else throw (yamlError "expected <block end>, but found '<scalar>'")
    else pure (plainValue s)
  | [] => pure .null

/-- The key and the rest of a mapping line, if it is one: the key ends at the first colon that
ends the line or precedes a blank. -/
def mappingEntry? (s : String) : Option (String × String) :=
  let cs := s.toList
  let (keyPart, rest) : Option String × List Char := match cs with
    | q :: more =>
      if q == '\'' || q == '"' then
        match quotedText q [] more with
        | some (k, after) => (some k, after)
        | none => (none, cs)
      else (none, cs)
    | [] => (none, cs)
  let rec findColon (acc : List Char) : List Char → Option (List Char × List Char)
    | ':' :: [] => some (acc.reverse, [])
    | ':' :: c :: more => if c == ' ' || c == '\t' then some (acc.reverse, more) else findColon (':' :: acc) (c :: more)
    | c :: more => findColon (c :: acc) more
    | [] => none
  match keyPart with
  | some k =>
    match skipBlanks rest with
    | ':' :: more => some (k, Text.strip (String.ofList more))
    | _ => none
  | none =>
    match cs with
    | '-' :: ' ' :: _ | ['-'] | '[' :: _ | '{' :: _ => none
    | _ => (findColon [] cs).map fun (k, v) => (Text.stripEnd (String.ofList k), Text.strip (String.ofList v))

def isItem (l : YamlLine) : Bool := l.text == "-" || l.text.startsWith "- "

/-- What follows the dash of a sequence item, and its column. -/
def itemContent (l : YamlLine) : YamlLine :=
  let after := l.text.toList.drop 1
  let blanks := (after.takeWhile (· == ' ')).length
  ⟨l.indent + 1 + blanks, String.ofList (after.drop blanks)⟩

mutual

/-- The node that starts at the first line, if that line is indented at least `least`, and the
lines after it.  `fuel` bounds the recursion. -/
def blockNode (fuel : Nat) (least : Nat) (lines : List YamlLine) : Result (Data × List YamlLine) :=
  match fuel with
  | 0 => .error (yamlError "too deeply nested")
  | fuel + 1 =>
    match lines with
    | [] => .ok (.null, [])
    | l :: rest =>
      if l.indent < least then .ok (.null, lines)
      else if isItem l then blockItems fuel l.indent [] lines
      else match mappingEntry? l.text with
        | some _ => blockEntries fuel l.indent [] lines
        | none => do pure (← inlineValue l.text, rest)

def blockItems (fuel : Nat) (indent : Nat) (acc : List Data) (lines : List YamlLine) :
    Result (Data × List YamlLine) :=
  match fuel with
  | 0 => .error (yamlError "too deeply nested")
  | fuel + 1 =>
    match lines with
    | l :: rest =>
      if l.indent == indent && isItem l then do
        let c := itemContent l
        let (v, more) ← if c.text.isEmpty then blockNode fuel (indent + 1) rest
          else blockNode fuel c.indent (c :: rest)
        blockItems fuel indent (v :: acc) more
      else .ok (.list acc.reverse, lines)
    | [] => .ok (.list acc.reverse, [])

def blockEntries (fuel : Nat) (indent : Nat) (acc : Entries) (lines : List YamlLine) :
    Result (Data × List YamlLine) :=
  match fuel with
  | 0 => .error (yamlError "too deeply nested")
  | fuel + 1 =>
    match lines with
    | l :: rest =>
      if l.indent == indent then
        match mappingEntry? l.text with
        | some (k, v) => do
          let sameIndentItems := match rest with
            | n :: _ => n.indent == indent && isItem n
            | [] => false
          let (value, more) ← if !v.isEmpty then do pure (← inlineValue v, rest)
            else if sameIndentItems then blockItems fuel indent [] rest
            else blockNode fuel (indent + 1) rest
          blockEntries fuel indent ((acc.filter (·.1 != k)) ++ [(k, value)]) more
        | none => .ok (.dict acc, lines)
      else if l.indent > indent then .error (yamlError "mapping values are not allowed here")
      else .ok (.dict acc, lines)
    | [] => .ok (.dict acc, [])

end

/-- How many flow brackets a line leaves open: openers less closers, outside quoted texts.  A
quote opens a quoted text only at the start or after a blank, a bracket, a comma or a colon. -/
def openBrackets (cs : List Char) : Int :=
  let rec go (quote : Option Char) (boundary : Bool) : List Char → Int
    | [] => 0
    | c :: rest =>
      match quote with
      | some q => go (if c == q then none else quote) false rest
      | none =>
        if (c == '\'' || c == '"') && boundary then go (some c) false rest
        else if c == '[' || c == '{' then go none true rest + 1
        else if c == ']' || c == '}' then go none false rest - 1
        else go none (c == ' ' || c == ',' || c == ':') rest
  go none true cs

/-- Lines with each flow collection that spans lines joined, with blanks, onto the line where it
opens. -/
def joinFlowLines (pending : Option (YamlLine × Int)) : List YamlLine → List YamlLine
  | [] => match pending with
    | some (p, _) => [p]
    | none => []
  | l :: rest =>
    match pending with
    | some (p, depth) =>
      let joined : YamlLine := ⟨p.indent, p.text ++ " " ++ l.text⟩
      let depth := depth + openBrackets l.text.toList
      if depth > 0 then joinFlowLines (some (joined, depth)) rest else joined :: joinFlowLines none rest
    | none =>
      let depth := openBrackets l.text.toList
      if depth > 0 then joinFlowLines (some (l, depth)) rest else l :: joinFlowLines none rest

/-- A line split before its value: the dashes of its items and its key, then the value written
after them. -/
def splitValue : Nat → List Char → List Char × List Char
  | fuel + 1, '-' :: ' ' :: rest =>
    let blanks := rest.takeWhile (· == ' ')
    let (p, v) := splitValue fuel (rest.drop blanks.length)
    ('-' :: ' ' :: blanks ++ p, v)
  | _, cs =>
    match mappingEntry? (String.ofList cs) with
    | some (_, v) => (cs.take (cs.length - v.length), v.toList)
    | none => ([], cs)

/-- A value text that starts with an anchor: the anchor's name and the value after it. -/
def anchorOf? (v : String) : Option (String × String) :=
  match v.toList with
  | '&' :: rest =>
    let name := rest.takeWhile fun c => c != ' ' && c != '\t'
    some (String.ofList name, Text.strip (String.ofList (rest.drop name.length)))
  | _ => none

def aliasOf? (v : String) : Option String :=
  match v.toList with
  | '*' :: rest =>
    if !rest.isEmpty && rest.all (fun c => c.isAlphanum || c == '_' || c == '-') then some (String.ofList rest)
    else none
  | _ => none

/-- Lines with anchored values recorded and stripped of their anchors, and each alias replaced by
the value its anchor recorded last.  Anchors and aliases stand for values written on one line. -/
def resolveAnchors (anchors : List (String × String)) : List YamlLine → List YamlLine
  | [] => []
  | l :: rest =>
    let (p, v) := splitValue l.text.length l.text.toList
    let v := String.ofList v
    match anchorOf? v with
    | some (name, value) => ⟨l.indent, String.ofList p ++ value⟩ :: resolveAnchors ((name, value) :: anchors) rest
    | none =>
      match aliasOf? v with
      | some name => ⟨l.indent, String.ofList p ++ (anchors.lookup name).getD v⟩ :: resolveAnchors anchors rest
      | none => l :: resolveAnchors anchors rest

/-- The value of a document; an empty document is the absent value. -/
def readYaml (doc : String) : Result Data := do
  let lines := resolveAnchors [] (joinFlowLines none (yamlLines doc))
  let (v, rest) ← blockNode (2 * lines.length + 2) 0 lines
  if rest.isEmpty then pure v
  else throw (yamlError "expected '<document start>', but found '<block mapping start>'")

/-- A place in a document: its line and column, counted from nought. -/
structure Mark where
  line : Nat
  column : Nat

/-- A place as a failure names it in a named stream, counted from one. -/
def Mark.text (name : String) (m : Mark) : String :=
  let line := m.line + 1
  let column := m.column + 1
  s!"  in \"{name}\", line {line}, column {column}"

def endsAtIndicator : Option Char → Bool
  | none => true
  | some c => c == ' ' || c == '\t' || c == '\n' || ",[]\x7b\x7d".contains c

/-- The flow collections open at the end of a document, innermost first, each with whether it is
a sequence and where it starts, and whether a node ended last in the innermost; nothing inside a
quoted text.  Outside collections a bracket opens one only where a node may start. -/
def openFlows (doc : String) : Option (List (Bool × Mark) × Bool) :=
  go doc.toList ⟨0, 0⟩ [] false none false true true
where
  /-- The scan from a place: the open collections, whether a node ended last, the open quote,
  whether in a comment, whether a blank came before and whether a node may start. -/
  go : List Char → Mark → List (Bool × Mark) → Bool → Option Char → Bool → Bool → Bool →
      Option (List (Bool × Mark) × Bool)
    | [], _, stack, node, quote, _, _, _ => if quote.isSome then none else some (stack, node)
    | c :: rest, m, stack, node, quote, comment, blank, start =>
      let next : Mark := if c == '\n' then ⟨m.line + 1, 0⟩ else ⟨m.line, m.column + 1⟩
      let flow := !stack.isEmpty
      if c == '\n' && quote.isNone then go rest next stack node none false true !flow
      else if comment then go rest next stack node quote true blank start
      else match quote with
        | some q =>
          if c == '\\' && q == '"' then go (rest.drop 1) ⟨next.line, next.column + 1⟩ stack node quote false false start
          else if c == q && rest.head? == some '\'' && q == '\'' then
            go (rest.drop 1) ⟨next.line, next.column + 1⟩ stack node quote false false start
          else if c == q then go rest next stack true none false false false
          else go rest next stack node quote false false start
        | none =>
          if c == ' ' || c == '\t' then go rest next stack node none false true start
          else if c == '#' && blank then go rest next stack node none true blank start
          else if (c == '[' || c == '\x7b') && (flow || start) then
            go rest next ((c == '[', m) :: stack) false none false false false
          else if flow && (c == ']' || c == '\x7d') then go rest next stack.tail true none false false false
          else if flow && (c == ',' || (c == ':' && endsAtIndicator rest.head?)) then
            go rest next stack false none false false false
          else if (c == '"' || c == '\'') && (if flow then !node else start) then
            go rest next stack node (some c) false false false
          else if !flow && (c == '-' || c == ':') && endsAtIndicator rest.head? then
            go rest next stack node none false false true
          else go rest next stack flow none false false false
  termination_by cs => cs.length
  decreasing_by all_goals simp only [List.length_cons, List.length_drop]; omega

/-- The failure of a document that ends inside a flow collection, read from a stream of a name:
after an opening bracket or a separator a node is wanted, after a node a separator or the
closing bracket. -/
def unclosedFlow (name doc : String) : Option Failure := do
  let (stack, node) ← openFlows doc
  let (seq, start) ← stack.head?
  let lines := doc.splitOn "\n"
  let finish := Mark.text name ⟨lines.length - 1, (lines.getLast?.getD "").length⟩
  if node then
    let what := if seq then "sequence" else "mapping"
    let close := if seq then "']'" else "'\x7d'"
    let opened := Mark.text name start
    some ⟨"ParserError", s!"while parsing a flow {what}\n{opened}\nexpected ',' or {close}, but got '<stream end>'\n{finish}"⟩
  else
    some ⟨"ParserError", s!"while parsing a flow node\n{finish}\nexpected the node content, but found '<stream end>'\n{finish}"⟩

/-- The value of a document read from the file of a name: one that ends inside a flow collection
fails with the places of the collection and of the end. -/
def readYamlFile (name doc : String) : Result Data :=
  match readYaml doc with
  | .error f =>
    if f.message.startsWith "while parsing a flow" then .error ((unclosedFlow name doc).getD f) else .error f
  | ok => ok

end Conversa.Config
