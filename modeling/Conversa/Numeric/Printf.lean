import Conversa.Numeric.Binary

/-!
# Formatting doubles with a fixed number of digits

`scientificText x p` and `fixedText x p` write a double as `%.<p>e` and `%.<p>f` do, rounding the
exact binary value, ties to even (`0.1` is `1.000000000000000056e-01`).  `roundEven x n` rounds
to `n` places as array libraries do: scaled by `10^n`, rounded to even, scaled back, in doubles.
-/

/-!
## Rounding to decimal places

`roundPlaces x n` is the double nearest to `x` rounded to `n` decimal places.  The rounding is
done on the exact binary value of `x`, a tie going to the even last digit, and the decimal
result is then read back as the nearest double.  Because the value is exact, `2.675` (stored
just below) rounds to `2.67`.
-/

namespace Conversa.Numeric

/-- The nearest whole number to `a / b`, a tie going to the even one; `b` is positive. -/
def roundHalfEven (a b : Nat) : Nat :=
  let q := a / b
  let r := a % b
  if 2 * r > b ∨ (2 * r = b ∧ q % 2 = 1) then q + 1 else q

/-- A double rounded to `n` decimal places; NaN, the infinities and whole numbers stay as they
are. -/
def roundPlaces (x : Float) (n : Nat) : Float :=
  if isNonFinite x then x
  else
    let b := Binary.ofBits x.toBits
    if b.q ≥ 0 then x
    else ofScientific b.neg (roundHalfEven (b.m * Nat.pow 10 n) (Nat.pow 2 (-b.q).toNat)) (-(n : Int))

end Conversa.Numeric

namespace Conversa.Numeric

def exactFraction (x : Float) : Bool × Nat × Nat :=
  let b := Binary.ofBits x.toBits
  if b.q ≥ 0 then (b.neg, b.m * Nat.pow 2 b.q.toNat, 1) else (b.neg, b.m, Nat.pow 2 (-b.q).toNat)

def signBit (x : Float) : Bool := (x.toBits >>> 63) == 1

/-- The decimal exponent of a positive fraction: the `e` with `10^e ≤ num / den < 10^(e+1)`. -/
def decimalExponent (num den : Nat) : Int :=
  let guess : Int := ((toString num).length : Int) - ((toString den).length : Int)
  let ge (e : Int) : Bool :=
    if e ≥ 0 then num ≥ Nat.pow 10 e.toNat * den else num * Nat.pow 10 (-e).toNat ≥ den
  if ge guess then (if ge (guess + 1) then guess + 1 else guess) else guess - 1

def padDigits (n width : Nat) : String :=
  let s := toString n
  String.ofList (List.replicate (width - s.length) '0') ++ s

def nonFiniteText (x : Float) : String :=
  if x.isNaN then "nan" else if x < 0 then "-inf" else "inf"

/-- A double as `%.<p>e` writes it. -/
def scientificText (x : Float) (p : Nat) : String :=
  if isNonFinite x then nonFiniteText x
  else
    let sign := if signBit x then "-" else ""
    let (_, num, den) := exactFraction x
    let (digits, e) : Nat × Int :=
      if num == 0 then (0, 0)
      else
        let e := decimalExponent num den
        let shift : Int := (p : Int) - e
        let d := if shift ≥ 0 then roundHalfEven (num * Nat.pow 10 shift.toNat) den
          else roundHalfEven num (den * Nat.pow 10 (-shift).toNat)
        if d ≥ Nat.pow 10 (p + 1) then (d / 10, e + 1) else (d, e)
    let ds := padDigits digits (p + 1)
    let mantissa := if p == 0 then ds else String.ofList (ds.toList.take 1) ++ "." ++ String.ofList (ds.toList.drop 1)
    let esign := if e < 0 then "-" else "+"
    sign ++ mantissa ++ "e" ++ esign ++ padDigits e.natAbs 2

/-- A double as `%.<p>f` writes it. -/
def fixedText (x : Float) (p : Nat) : String :=
  if isNonFinite x then nonFiniteText x
  else
    let sign := if signBit x then "-" else ""
    let (_, num, den) := exactFraction x
    let d := roundHalfEven (num * Nat.pow 10 p) den
    let ds := padDigits d (p + 1)
    let whole := String.ofList (ds.toList.take (ds.length - p))
    let frac := String.ofList (ds.toList.drop (ds.length - p))
    sign ++ whole ++ (if p == 0 then "" else "." ++ frac)

/-- A double rounded to a whole number, a tie going to the even one. -/
def roundToEven (x : Float) : Float :=
  if isNonFinite x then x
  else
    let f := x.floor
    let d := x - f
    if d > 0.5 then f + 1.0
    else if d < 0.5 then f
    else if (truncToInt f) % 2 == 0 then f else f + 1.0

/-- A double rounded to `n` places as array libraries round: scaled, rounded and scaled back. -/
def roundEven (x : Float) (n : Nat) : Float :=
  let scale := ofInt (Int.pow 10 n)
  roundToEven (x * scale) / scale

end Conversa.Numeric
