import Conversa.Text.Space

/-!
# Spacing around punctuation

Text goes into a normalizer with brackets and operators set apart by spaces, so that each is a
token of its own (`spaceOut`), and comes out with the spaces inside brackets and before
sentence punctuation closed up and typographic quotes made plain (`closeUp`).
-/

namespace Conversa.Normalization

/-- A text with every run of spaces made one space. -/
def squeezeSpaces (s : String) : String :=
  let rec go : Bool → List Char → List Char
    | _, [] => []
    | true, ' ' :: r => go true r
    | _, ' ' :: r => ' ' :: go true r
    | _, c :: r => c :: go false r
  String.ofList (go false s.toList)

/-- A text with a space on both sides of each bracket, operator and double dash, and runs of
spaces made one. -/
def spaceOut (s : String) : String :=
  let s := "*<=>^[]\x7b\x7d".toList.foldl (fun s p => s.replace (String.singleton p) (" " ++ String.singleton p ++ " ")) s
  squeezeSpaces (s.replace "--" " -- ")

/-- The replacements that close up a text, in the order they are made. -/
def closingReplacements : List (String × String) :=
  [("( ", "("), (" )", ")"), ("\x7b ", "\x7b"), (" \x7d", "\x7d"), ("[ ", "["), (" ]", "]"),
   ("  ", " "), ("”", "\""), ("’", "'"), ("»", "\""), ("«", "\""), ("\\", ""), ("„", "\""),
   ("´", "'"), ("’", "'"), ("“", "\""), ("‘", "'"), ("\x60", "'"), ("- -", "--")] ++
  "!,.:;?".toList.map fun p => (" " ++ String.singleton p, String.singleton p)

/-- A text with spaces inside brackets and before sentence punctuation removed, a double space
made single, typographic quotes made plain, backslashes dropped and white space trimmed. -/
def closeUp (s : String) : String :=
  Text.strip (closingReplacements.foldl (fun s (a, b) => s.replace a b) s)

end Conversa.Normalization
