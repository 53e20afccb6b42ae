import Conversa.Numeric.Binary
import Conversa.Text.Space
import Conversa.Text.Unicode

/-!
# Reading numbers from text

Numbers typed as text are read by the rules of numeric literals, white space around allowed:
`readInt?` an optional sign and decimal digits, single underscores between them; `readFloat?`
also `inf`, `infinity`, `nan` in any case, or digits with an optional point and exponent, read as
the nearest double.  Decimal digits of every script count, by their value.
-/

namespace Conversa.Numeric

/-- The digits of a digit part: decimal digits with single underscores between them, or none
if the text is not one. -/
def digitPart (cs : List Char) : Option (List Nat) :=
  let rec go : Bool → List Char → Option (List Nat)
    | _, [] => some []
    | afterUnderscore, '_' :: r => if afterUnderscore then none else
        match r with
        | [] => none
        | _ => go true r
    | _, c :: r => do
      let d ← Text.decimalValue c
      pure (d :: (← go false r))
  match cs with
  | [] => none
  | '_' :: _ => none
  | _ => go false cs

def digitsValue (ds : List Nat) : Nat := ds.foldl (fun n d => 10 * n + d) 0

def splitSign (cs : List Char) : Bool × List Char :=
  match cs with
  | '-' :: r => (true, r)
  | '+' :: r => (false, r)
  | r => (false, r)

def readInt? (s : String) : Option Int := do
  let (neg, body) := splitSign (Text.strip s).toList
  let ds ← digitPart body
  let v : Int := digitsValue ds
  pure (if neg then -v else v)

/-- The digits and exponent of a decimal number: digits with at most one point, and an optional
exponent.  The value is `digits · 10^exponent`. -/
def decimalParts (cs : List Char) : Option (List Nat × Int) := do
  let mantissa := cs.takeWhile (fun c => c != 'e' && c != 'E')
  let rest := cs.dropWhile (fun c => c != 'e' && c != 'E')
  let (whole, frac) := match mantissa.splitOn '.' with
    | [w] => (w, none)
    | [w, f] => (w, some f)
    | _ => ([], some [])
  let wholeDigits ← if whole.isEmpty then pure [] else digitPart whole
  let fracDigits ← match frac with
    | none => pure []
    | some [] => pure []
    | some f => digitPart f
  if wholeDigits.isEmpty && fracDigits.isEmpty then none
  if (mantissa.splitOn '.').length > 2 then none
  let e ← match rest with
    | [] => pure (0 : Int)
    | _ :: r =>
      let (eneg, r) := splitSign r
      let ds ← digitPart r
      let v : Int := digitsValue ds
      pure (if eneg then -v else v)
  pure (wholeDigits ++ fracDigits, e - fracDigits.length)

/-- A double written in decimal, or as an infinity or NaN word. -/
def readFloat? (s : String) : Option Float := do
  let (neg, body) := splitSign (Text.strip s).toList
  match (String.ofList body).toLower with
  | "inf" | "infinity" => pure (ofRatio neg 1 0)
  | "nan" => pure (0.0 / 0.0)
  | _ =>
    let (ds, e) ← decimalParts body
    pure (ofScientific neg (digitsValue ds) e)

end Conversa.Numeric
