/-!
# White space and case

Labels are compared after trimming white space (the ASCII blanks, `\x1c`–`\x1f`, next line,
no-break space and the Unicode separators) and folding ASCII case.  Text put back together from
tokens has stray spaces: `joinQuotes` closes them up inside double quotes, `closeUpSpaces`
inside brackets, around some marks and inside numbers.
-/

namespace Conversa.Text

def isSpace (c : Char) : Bool :=
  let n := c.toNat
  (0x09 ≤ n && n ≤ 0x0D) || (0x1C ≤ n && n ≤ 0x20) || n == 0x85 || n == 0xA0 || n == 0x1680
    || (0x2000 ≤ n && n ≤ 0x200A) || n == 0x2028 || n == 0x2029 || n == 0x202F || n == 0x205F
    || n == 0x3000

def strip (s : String) : String :=
  String.ofList ((s.toList.dropWhile isSpace).reverse.dropWhile isSpace).reverse

def stripStart (s : String) : String := String.ofList (s.toList.dropWhile isSpace)

def stripEnd (s : String) : String := String.ofList (s.toList.reverse.dropWhile isSpace).reverse

/-- The words of a text: the maximal runs without white space. -/
def words (s : String) : List String :=
  (s.toList.splitBy fun a b => isSpace a == isSpace b).filterMap fun run =>
    match run.head? with
    | some c => if isSpace c then none else some (String.ofList run)
    | none => none

def lowerAscii (s : String) : String := s.map Char.toLower

/-- Text with the spaces inside each pair of double quotes closed up: an opening quote takes
the place of the character after it, and a closing quote that of the character before it. -/
def joinQuotes (s : String) : String :=
  String.ofList (go s.toList false []).reverse
where
  /-- Walks the characters, `closing` once a quote is open, the output kept reversed. -/
  go : List Char → Bool → List Char → List Char
    | [], _, out => out
    | '"' :: rest, true, out => go rest false ('"' :: out.drop 1)
    | '"' :: rest, false, out => go (rest.drop 1) true ('"' :: out)
    | c :: rest, closing, out => go rest closing (c :: out)
  termination_by cs => cs.length
  decreasing_by all_goals simp only [List.length_drop, List.length_cons]; omega

/-- Characters with every match of a pattern rewritten, matches found from the left without
overlap: where the pattern matches it gives the characters written for the match and how many
characters past the first the match takes. -/
def rewriteMatches (pat : List Char → Option (List Char × Nat)) : List Char → List Char
  | [] => []
  | c :: cs =>
    match pat (c :: cs) with
    | some (out, more) => out ++ rewriteMatches pat (cs.drop more)
    | none => c :: rewriteMatches pat cs
termination_by cs => cs.length
decreasing_by all_goals simp only [List.length_drop, List.length_cons]; omega

/-- Text with the spaces that detokenized text should not have closed up. -/
def closeUpSpaces (s : String) : String :=
  let s := [("( ", "("), (" )", ")"), ("[ ", "["), (" ]", "]"), (" / ", "/"), ("„ ", "„"), (" - ", "-"),
    (" ' ", "'")].foldl (fun s (a, b) => s.replace a b) s
  let mark (c : Char) : Bool := c == '.' || c == ','
  let cs := rewriteMatches (fun
    | d :: ' ' :: m :: _ => if d.isDigit && mark m then some ([d, m], 2) else none
    | _ => none) s.toList
  let cs := rewriteMatches (fun
    | m :: ' ' :: d :: _ => if mark m && d.isDigit then some ([m, d], 2) else none
    | _ => none) cs
  let cs := rewriteMatches (fun
    | d :: ':' :: ' ' :: e :: _ => if d.isDigit && e.isDigit then some ([d, ':', e], 3) else none
    | _ => none) cs
  let s := ((String.ofList cs).replace " %" "%").replace "$ " "$"
  String.ofList (rewriteMatches (fun
    | x :: ',' :: d :: _ => if !x.isDigit && d.isDigit then some ([x, ',', ' ', d], 2) else none
    | _ => none) s.toList)

end Conversa.Text
