import Conversa.Failure
import Conversa.Data.Value

/-!
# Serialized tokens

A tagger writes each classified stretch as a *token*: a key of ASCII letters and underscores and
a quoted value or a group in braces, `tokens { money { integer_part: "20" } }`.  A quoted value
ends at the first quote a space follows; `preserve_order: true` keeps a group's order; a repeated
key keeps its first place and last value.  `Token.read` refuses with a `ReadError`.
-/

namespace Conversa.Normalization

/-- The value of a token. -/
inductive Field where
  | text (s : String)
  /-- A quoted value with nothing between the quotes. -/
  | empty
  | mark
  /-- A group of tokens, one entry per key, in the order the keys first appeared. -/
  | group (entries : List (String × Field))
deriving Inhabited, Repr

abbrev Token := String × Field

def orderKey : String := "preserve_order"

/-- Why a text is not a sequence of tokens. -/
inductive ReadError where
  /-- A key or a value runs to the end of the text, or a value starts with neither a colon nor
  a brace. -/
  | malformed
  /-- A character other than the one the grammar requires. -/
  | unexpected
  /-- A quote is the last character of the text. -/
  | pastEnd
deriving DecidableEq, Repr, Inhabited

def ReadError.toFailure : ReadError → Failure
  | .malformed => ⟨"ValueError", ""⟩
  | .unexpected => ⟨"AssertionError", ""⟩
  | .pastEnd => ⟨"IndexError", "string index out of range"⟩

/-- Where the reader stands: the character under it (none past the end) and those after it. -/
structure Cursor where
  cur : Option Char
  rest : List Char
deriving Inhabited

namespace Cursor

/-- The cursor one character on; past the last character it stands at the end. -/
def next : Cursor → Cursor
  | ⟨_, c :: r⟩ => ⟨some c, r⟩
  | ⟨_, []⟩ => ⟨none, []⟩

def expect (x : Char) (c : Cursor) : Except ReadError Cursor :=
  if c.cur == some x then .ok c.next else .error .unexpected

def expectWord : List Char → Cursor → Except ReadError Cursor
  | [], c => .ok c
  | x :: xs, c => do expectWord xs (← c.expect x)

end Cursor

/-- Skips spaces (blanks only, not other white space); says whether a character is left. -/
def skipSpaces : Option Char → List Char → Cursor × Bool
  | some ' ', c :: r => skipSpaces (some c) r
  | some ' ', [] => (⟨none, []⟩, false)
  | none, r => (⟨none, r⟩, false)
  | some ch, r => (⟨some ch, r⟩, true)

def isBlank (c : Char) : Bool :=
  c == ' ' || c == '\t' || c == '\n' || c == '\r' || c == '\x0b' || c == '\x0c'

def isKeyChar (c : Char) : Bool :=
  (c.toNat < 128 && c.isAlpha) || c == '_'

/-- The character a key or a value starts on: present and not white space. -/
def startChar (c : Cursor) : Except ReadError Char :=
  match c.cur with
  | some ch => if isBlank ch then .error .unexpected else .ok ch
  | none => .error .unexpected

/-- Reads the key characters from `ch` on, with those read so far reversed in `acc`. -/
def readKeyFrom (ch : Char) (rest : List Char) (acc : List Char) :
    Except ReadError (List Char × Cursor) :=
  if isKeyChar ch then
    match rest with
    | c :: r => readKeyFrom c r (ch :: acc)
    | [] => .error .malformed
  else .ok (acc.reverse, ⟨some ch, rest⟩)

/-- Reads a quoted value from `ch` on, up to the quote that a space follows. -/
def readValueFrom : Char → List Char → List Char → Except ReadError (List Char × Cursor)
  | '"', ' ' :: r, acc => .ok (acc.reverse, ⟨some '"', ' ' :: r⟩)
  | '"', [], _ => .error .pastEnd
  | ch, c :: r, acc => readValueFrom c r (ch :: acc)
  | _, [], _ => .error .malformed

/-- Sets an entry of a group: a new key goes last, a known key keeps its place. -/
def putEntry (es : List Token) (k : String) (v : Field) : List Token :=
  if es.any (·.1 == k) then es.map fun (k', w) => if k' == k then (k', v) else (k', w)
  else es ++ [(k, v)]

mutual

/-- Reads tokens until the text ends or a character that cannot start a key; `acc` holds those
read so far, reversed.  Each step spends one unit of `fuel`. -/
def readTokens : Nat → Cursor → List Token → Except ReadError (List Token × Cursor)
  | 0, c, acc => .ok (acc.reverse, c)
  | n + 1, c, acc =>
    let (c, more) := skipSpaces c.cur c.rest
    if !more then .ok (acc.reverse, c)
    else do
      match ← readToken n c with
      | (none, c) => .ok (acc.reverse, c)
      | (some t, c) => readTokens n c (t :: acc)

/-- Reads one token, or none when the character under the cursor cannot start a key. -/
def readToken : Nat → Cursor → Except ReadError (Option Token × Cursor)
  | 0, _ => .error .malformed
  | n + 1, c => do
    let (key, c) ← readKeyFrom (← startChar c) c.rest []
    if key.isEmpty then return (none, c)
    let key := String.ofList key
    let (c, _) := skipSpaces c.cur c.rest
    if key == orderKey then
      let c ← c.expect ':'
      let (c, _) := skipSpaces c.cur c.rest
      return (some (key, .mark), ← Cursor.expectWord "true".toList c)
    match c.cur with
    | some ':' =>
      let (c, _) := skipSpaces c.next.cur c.next.rest
      let c ← c.expect '"'
      let (cs, c) ← readValueFrom (← startChar c) c.rest []
      let c ← c.expect '"'
      return (some (key, if cs.isEmpty then .empty else .text (String.ofList cs)), c)
    | some '{' =>
      let (ts, c) ← readTokens n c.next []
      let c ← c.expect '}'
      return (some (key, .group (ts.foldl (fun es (k, v) => putEntry es k v) [])), c)
    | _ => .error .malformed

end

namespace Token

/-- The top-level tokens of a text.  The empty text has no first character to read. -/
def read (s : String) : Except ReadError (List Token) :=
  match s.toList with
  | [] => .error .pastEnd
  | c :: r => do
    let (ts, _) ← readTokens (2 * s.length + 2) ⟨some c, r⟩ []
    pure ts

end Token

mutual

/-- A value as data: a quoted value is a text, an empty one absent, the order mark true, and a
group a mapping. -/
def Field.toData : Field → Data
  | .text s => .str s
  | .empty => .null
  | .mark => .bool true
  | .group es => .dict (Field.entriesData es)

def Field.entriesData : List Token → Entries
  | [] => []
  | (k, v) :: es => (k, v.toData) :: Field.entriesData es

end

def Token.toData (t : Token) : Data := .dict [(t.1, t.2.toData)]

end Conversa.Normalization
