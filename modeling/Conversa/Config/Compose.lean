import Conversa.Config.Yaml
import Conversa.Data.Show
import Conversa.Data.Number

/-!
# Composing a job's configuration

A job applies its command line's overrides in order.  `key=value` with a dotted path changes a
value (merging collections), `+key` adds one, `++key` adds or changes, `~key` deletes (with
`=value`, only that value).  A value is `null`, a truth value, a number, a quoted text, a flow
collection or the text as written; an override that fails is a `ConfigCompositionException`.
-/

namespace Conversa.Config

def compositionError (msg : String) : Failure := ⟨"ConfigCompositionException", msg⟩

/-- How an override changes the configuration. -/
inductive OverrideMode where
  | change
  | add
  | force
  | delete
deriving DecidableEq

/-- An override of the command line. -/
structure Override where
  mode : OverrideMode
  path : List String
  /-- Its value; none for a deletion of whatever is there. -/
  value : Option Data

def digitGroups (cs : List Char) : Bool :=
  match cs, cs.getLast? with
  | c :: _, some l => c.isDigit && l.isDigit && cs.all (fun c => c.isDigit || c == '_') &&
      !(cs.zip cs.tail).any (fun (a, b) => a == '_' && b == '_')
  | _, _ => false

/-- A whole number as an override writes it: a sign, then `0` or digits not starting with `0`. -/
def overrideWhole? (s : String) : Option Int :=
  let (neg, body) := Numeric.splitSign s.toList
  if body == ['0'] || (digitGroups body && body.head? != some '0') then
    let n : Int := ((body.filter (· != '_')).foldl (fun n c => 10 * n + (c.toNat - 48)) 0 : Nat)
    some (if neg then -n else n)
  else none

/-- Whether a text is a double as an override writes it: digits with a point or an exponent or
both, or an infinity or NaN in any case. -/
def overrideDoubleForm (s : String) : Bool :=
  let (_, body) := Numeric.splitSign s.toList
  let word := (String.ofList body).toLower
  if word == "inf" || word == "nan" then true
  else
    let mantissa := body.takeWhile fun c => c != 'e' && c != 'E'
    let exponent := body.drop mantissa.length
    let whole := mantissa.takeWhile (· != '.')
    let fraction := mantissa.drop whole.length
    let mantissaOk := match fraction with
      | [] => digitGroups whole && !exponent.isEmpty
      | _ :: frac => (digitGroups whole && (frac.isEmpty || digitGroups frac)) || (whole.isEmpty && digitGroups frac)
    let exponentOk := match exponent with
      | [] => true
      | _ :: rest => digitGroups (Numeric.splitSign rest).2
    mantissaOk && exponentOk

/-- A primitive value of an override, from its text without the blanks around it. -/
def overridePrimitive (s : String) : Data :=
  let lower := s.toLower
  if lower == "null" then .null
  else if lower == "true" then .bool true
  else if lower == "false" then .bool false
  else match overrideWhole? s with
    | some n => .int n
    | none =>
      if overrideDoubleForm s then
        let (neg, body) := Numeric.splitSign s.toList
        let word := (String.ofList body).toLower
        if word == "inf" then .float (if neg then -(1.0 / 0.0) else 1.0 / 0.0)
        else if word == "nan" then .float (0.0 / 0.0)
        else .float ((Numeric.readFloat? (String.ofList (s.toList.filter (· != '_')))).getD 0.0)
      else .str s

/-- A quoted text of an override after its opening quote, with `\` escaping the quote and
itself, and the characters after it. -/
def overrideQuoted (q : Char) (acc : List Char) : List Char → Option (String × List Char)
  | [] => none
  | '\\' :: c :: rest => if c == q || c == '\\' then overrideQuoted q (c :: acc) rest else overrideQuoted q (c :: '\\' :: acc) rest
  | c :: rest => if c == q then some (String.ofList acc.reverse, rest) else overrideQuoted q (c :: acc) rest

def dropBlanks (cs : List Char) : List Char := cs.dropWhile fun c => c == ' ' || c == '\t'

mutual

/-- A value inside a flow collection of an override, and the characters after it. -/
def overrideElement (fuel : Nat) (cs : List Char) : Result (Data × List Char) :=
  match fuel with
  | 0 => .error (compositionError "too deeply nested")
  | fuel + 1 =>
    match dropBlanks cs with
    | '[' :: rest => overrideItems fuel [] rest
    | '{' :: rest => overrideEntries fuel [] rest
    | q :: rest =>
      if q == '\'' || q == '"' then
        match overrideQuoted q [] rest with
        | some (s, more) => .ok (.str s, more)
        | none => .error (compositionError "unterminated quoted text")
      else
        let body := (q :: rest).takeWhile fun c => c != ',' && c != ']' && c != '}'
        .ok (overridePrimitive (Text.strip (String.ofList body)), (q :: rest).drop body.length)
    | [] => .ok (.str "", [])

def overrideItems (fuel : Nat) (acc : List Data) (cs : List Char) : Result (Data × List Char) :=
  match fuel with
  | 0 => .error (compositionError "too deeply nested")
  | fuel + 1 =>
    match dropBlanks cs with
    | ']' :: rest => .ok (.list acc.reverse, rest)
    | [] => .error (compositionError "unclosed list")
    | cs => do
      let (v, rest) ← overrideElement fuel cs
      match dropBlanks rest with
      | ',' :: more => overrideItems fuel (v :: acc) more
      | ']' :: more => .ok (.list (v :: acc).reverse, more)
      | _ => .error (compositionError "malformed list")

def overrideEntries (fuel : Nat) (acc : Entries) (cs : List Char) :
    Result (Data × List Char) :=
  match fuel with
  | 0 => .error (compositionError "too deeply nested")
  | fuel + 1 =>
    match dropBlanks cs with
    | '}' :: rest => .ok (.dict acc, rest)
    | [] => .error (compositionError "unclosed mapping")
    | cs =>
      let keyChars := cs.takeWhile fun c => c != ':' && c != ',' && c != '}'
      match cs.drop keyChars.length with
      | ':' :: rest => do
        let key := Text.strip (String.ofList keyChars)
        let (v, rest) ← overrideElement fuel rest
        let acc := (acc.filter (·.1 != key)) ++ [(key, v)]
        match dropBlanks rest with
        | ',' :: more => overrideEntries fuel acc more
        | '}' :: more => .ok (.dict acc, more)
        | _ => .error (compositionError "malformed mapping")
      | _ => .error (compositionError "malformed mapping")

end

/-- The value of an override from the text after `=`. -/
def overrideValue (s : String) : Result Data := do
  let t := Text.strip s
  match t.toList with
  | c :: _ =>
    if c == '[' || c == '{' || c == '\'' || c == '"' then
      let (v, rest) ← overrideElement (t.length + 2) t.toList
      if (dropBlanks rest).isEmpty then pure v else throw (compositionError s!"cannot read value {t}")
    else pure (overridePrimitive t)
  | [] => pure (.str "")

def Override.read (line : String) : Result Override := do
  let (mode, rest) := match line.toList with
    | '+' :: '+' :: r => (OverrideMode.force, r)
    | '+' :: r => (.add, r)
    | '~' :: r => (.delete, r)
    | r => (.change, r)
  let keyChars := rest.takeWhile (· != '=')
  let key := Text.strip (String.ofList keyChars)
  if key.isEmpty then throw (compositionError s!"Error parsing override {line}")
  let value ← match rest.drop keyChars.length with
    | '=' :: v => some <$> overrideValue (String.ofList v)
    | _ => if mode == .delete then pure none else throw (compositionError s!"Error parsing override {line}")
  pure ⟨mode, key.splitOn ".", value⟩

/-- The part of a value at a path, if there is one. -/
def selectAt (d : Data) : List String → Option Data
  | [] => some d
  | k :: rest =>
    match d with
    | .dict kvs => (kvs.lookup k).bind fun child => selectAt child rest
    | .list xs => k.toNat?.bind (fun i => xs[i]?) |>.bind fun child => selectAt child rest
    | _ => none

mutual

/-- A value merged into what was there: a mapping into a mapping key by key, anything else
replacing what was there. -/
def mergeInto (old : Data) : Data → Data
  | .dict news =>
    match old with
    | .dict kvs => .dict (mergeEntries kvs news)
    | _ => .dict news
  | v => v

/-- Entries merged into a mapping's entries in order, a new key added at the end. -/
def mergeEntries (kvs : Entries) : Entries → Entries
  | [] => kvs
  | (k, v) :: rest =>
    let merged := match kvs.lookup k with
      | some o => kvs.map fun (k', x) => if k' == k then (k', mergeInto o v) else (k', x)
      | none => kvs ++ [(k, v)]
    mergeEntries merged rest

end

/-- A value with the part at a path set, merging a collection into a collection; the mappings on
the path are made where they are missing only when `force` is set. -/
def updateAt (force : Bool) (d : Data) (path : List String) (v : Data) : Result Data :=
  match path with
  | [] => pure v
  | [k] =>
    match d with
    | .dict kvs =>
      match kvs.lookup k with
      | some old =>
        let isCollection (x : Data) : Bool := x matches .dict _ || x matches .list _
        pure (d.set k (if isCollection v && isCollection old then mergeInto old v else v))
      | none => if force then pure (.dict (kvs ++ [(k, v)])) else throw (compositionError s!"Key {k} is not in struct")
    | .list xs =>
      match k.toNat? with
      | some i => if i < xs.length then pure (.list (xs.set i v)) else throw (compositionError "list index out of range")
      | none => throw (compositionError s!"Key {k} is not an index")
    | _ => throw (compositionError s!"Key {k} is not in a collection")
  | k :: rest => do
    match d with
    | .dict kvs =>
      match kvs.lookup k with
      | some child =>
        let child := if child matches .dict _ || child matches .list _ then child else .dict []
        pure (d.set k (← updateAt force child rest v))
      | none =>
        if force then pure (.dict (kvs ++ [(k, ← updateAt force (.dict []) rest v)]))
        else throw (compositionError s!"Key {k} is not in struct")
    | .list xs =>
      match k.toNat?.bind fun i => xs[i]? with
      | some child =>
        let i := k.toNat?.getD 0
        pure (.list (xs.set i (← updateAt force child rest v)))
      | none => throw (compositionError "list index out of range")
    | _ => throw (compositionError s!"Key {k} is not in a collection")

def deleteAt (d : Data) : List String → Data
  | [] => d
  | [k] =>
    match d with
    | .dict kvs => .dict (kvs.filter (·.1 != k))
    | .list xs => match k.toNat? with
      | some i => .list (xs.eraseIdx i)
      | none => d
    | _ => d
  | k :: rest =>
    match d with
    | .dict kvs => .dict (kvs.map fun (k', v) => if k' == k then (k', deleteAt v rest) else (k', v))
    | _ => d

def Override.apply (cfg : Data) (o : Override) : Result Data := do
  let key := ".".intercalate o.path
  let present := selectAt cfg o.path
  let given := o.value.getD .null
  match o.mode with
  | .change => updateAt false cfg o.path given
  | .force => updateAt true cfg o.path given
  | .add =>
    match present, given with
    | none, _ | some .null, _ | _, .dict _ | _, .list _ => updateAt true cfg o.path given
    | _, _ => throw (compositionError s!"Could not append to config. An item is already at {Text.quote key}.")
  | .delete =>
    let some current := present
      | throw (compositionError s!"Could not delete from config. {Text.quote key} does not exist.")
    if current matches .null then
      throw (compositionError s!"Could not delete from config. {Text.quote key} does not exist.")
    if let some v := o.value then
      if !v.same current then
        let shownValue := v.show
        throw (compositionError s!"Could not delete from config. The value of {Text.quote key} is not {shownValue}.")
    pure (deleteAt cfg o.path)

def compose (cfg : Data) (overrides : List String) : Result Data :=
  overrides.foldlM (fun cfg line => do (← Override.read line).apply cfg) cfg

end Conversa.Config
