import Conversa.Text.Space
import Conversa.Text.Unicode

/-!
# Decimal numbers

A decimal number is kept exactly as written (sign, coefficient, power of ten: `1.50` keeps its
zero, `-0` its sign), besides signed infinities and NaNs.  `DecimalNumber.read?` drops
surrounding white space and underscores and reads digits with a point and an exponent, `Inf`,
`Infinity`, `NaN` or `sNaN` and digits.  `DecimalNumber.text` writes scientific notation when the
exponent is positive or the number is below `1e-6`, positional notation otherwise.
-/

namespace Conversa.Numeric

/-- A decimal number. -/
inductive DecimalNumber where
  | finite (neg : Bool) (coeff : Nat) (exp : Int)
  | infinite (neg : Bool)
  /-- A NaN: quiet or signalling, with its diagnostic number (zero for none). -/
  | nan (neg : Bool) (signaling : Bool) (payload : Nat)
deriving Repr, Inhabited, DecidableEq

namespace DecimalNumber

/-- The ASCII digits of a text, or none if it has another character. -/
def asciiDigits (cs : List Char) : Option (List Nat) :=
  cs.mapM fun c => if '0' ≤ c && c ≤ '9' then some (c.toNat - '0'.toNat) else none

def value (ds : List Nat) : Nat := ds.foldl (fun n d => 10 * n + d) 0

def read? (s : String) : Option DecimalNumber := do
  -- digits of any script count by their value, and underscores are ignored
  let cs ← (Text.strip s).toList.filterMapM fun c =>
    if c == '_' then some none
    else if c.toNat < 128 then some (some c)
    else (Text.decimalValue c).map fun d => some (Char.ofNat ('0'.toNat + d))
  let (neg, body) := match cs with
    | '-' :: r => (true, r)
    | '+' :: r => (false, r)
    | r => (false, r)
  let lower := String.ofList (body.map Char.toLower)
  if lower == "inf" || lower == "infinity" then return .infinite neg
  if lower.startsWith "snan" then
    return .nan neg true (value (← asciiDigits (body.drop 4)))
  if lower.startsWith "nan" then
    return .nan neg false (value (← asciiDigits (body.drop 3)))
  let mantissa := body.takeWhile (fun c => c != 'e' && c != 'E')
  let rest := body.dropWhile (fun c => c != 'e' && c != 'E')
  let (whole, frac) ← match mantissa.splitOn '.' with
    | [w] => some (w, [])
    | [w, f] => some (w, f)
    | _ => none
  let wd ← asciiDigits whole
  let fd ← asciiDigits frac
  if wd.isEmpty && fd.isEmpty then none
  let e ← match rest with
    | [] => some (0 : Int)
    | _ :: r =>
      let (eneg, r) := match r with
        | '-' :: r' => (true, r')
        | '+' :: r' => (false, r')
        | r' => (false, r')
      let ds ← asciiDigits r
      if ds.isEmpty then none
      let v : Int := value ds
      some (if eneg then -v else v)
  pure (.finite neg (value (wd ++ fd)) (e - fd.length))

def digitsOf (n : Nat) : String := toString n

def text : DecimalNumber → String
  | .infinite neg => (if neg then "-" else "") ++ "Infinity"
  | .nan neg sig payload =>
    (if neg then "-" else "") ++ (if sig then "sNaN" else "NaN") ++ (if payload == 0 then "" else digitsOf payload)
  | .finite neg coeff exp =>
    let sign := if neg then "-" else ""
    let ds := digitsOf coeff
    let n := ds.length
    let adjusted : Int := exp + n - 1
    if exp ≤ 0 && adjusted ≥ -6 then
      if exp == 0 then sign ++ ds
      else
        let point := (n : Int) + exp
        if point > 0 then
          sign ++ String.ofList (ds.toList.take point.toNat) ++ "." ++ String.ofList (ds.toList.drop point.toNat)
        else sign ++ "0." ++ String.ofList (List.replicate (-point).toNat '0') ++ ds
    else
      let lead := String.ofList (ds.toList.take 1)
      let tail := String.ofList (ds.toList.drop 1)
      let expText := if adjusted ≥ 0 then "+" ++ toString adjusted else toString adjusted
      sign ++ lead ++ (if tail.isEmpty then "" else "." ++ tail) ++ "E" ++ expText

end DecimalNumber

end Conversa.Numeric
