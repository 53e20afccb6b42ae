import Conversa.Failure

/-!
# Symbols in transcripts

`replaceSymbols` replaces each symbol spoken as a word (`%`, `&`, `+`) by its word with a space
on either side, a backslash starting an escape in the word (`\g<0>` is the symbol).  A
`TranslationTable` then maps or deletes characters: built from two texts paired by position and
a text of characters to delete, which wins; a later pair wins over an earlier one.
-/

namespace Conversa.Transcript

/-- The control character a one-letter escape stands for. -/
def escapeText : Char → Option String
  | 'n' => some "\n"
  | 't' => some "\t"
  | 'r' => some "\r"
  | 'f' => some "\x0c"
  | 'v' => some "\x0b"
  | 'a' => some "\x07"
  | 'b' => some "\x08"
  | _ => none

/-- The text a replacement word stands for, its escapes read. -/
def replacementText (symbol : Char) : List Char → Result String
  | [] => .ok ""
  | '\\' :: '\\' :: r => do pure ("\\" ++ (← replacementText symbol r))
  | '\\' :: 'g' :: '<' :: '0' :: '>' :: r => do pure (String.singleton symbol ++ (← replacementText symbol r))
  | ['\\'] => .error ⟨"error", "bad escape (end of pattern) at position 0"⟩
  | '\\' :: c :: r =>
    match escapeText c with
    | some e => do pure (e ++ (← replacementText symbol r))
    | none => .error ⟨"BadRequest", "unsupported escape in a replacement"⟩
  | c :: r => do pure (String.singleton c ++ (← replacementText symbol r))

/-- A text with each symbol replaced by its word, with a space on either side, in order. -/
def replaceSymbols (pairs : List (String × String)) (s : String) : Result String :=
  pairs.foldlM (fun s (symbol, word) => do
    match symbol.toList with
    | [c] =>
      if c.toNat < 128 && c.isAlphanum then throw ⟨"BadRequest", "a symbol must not be a letter or digit"⟩
      else pure (s.replace symbol (" " ++ (← replacementText c word.toList) ++ " "))
    | _ => throw ⟨"BadRequest", "a symbol must be one character"⟩) s

/-- A character translation: each character maps to a text of at most one character. -/
structure TranslationTable where
  /-- The characters that change, with what they become (none to delete them). -/
  entries : List (Char × Option Char)

namespace TranslationTable

/-- The table pairing `source` with `target` position by position and deleting `dropped`. -/
def make (source target dropped : String) : Result TranslationTable :=
  if source.length != target.length then
    .error (.value "the first two maketrans arguments must have equal length")
  else
    let put (es : List (Char × Option Char)) (c : Char) (v : Option Char) :=
      es.filter (·.1 != c) ++ [(c, v)]
    let paired := (source.toList.zip target.toList).foldl (fun es (a, b) => put es a (some b)) []
    .ok ⟨dropped.toList.foldl (fun es c => put es c none) paired⟩

def apply (t : TranslationTable) (s : String) : String :=
  String.ofList (s.toList.filterMap fun c =>
    match t.entries.find? (·.1 == c) with
    | some (_, v) => v
    | none => some c)

end TranslationTable

end Conversa.Transcript
