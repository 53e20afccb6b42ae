import Conversa.Numeric.Binary

/-!
# Writing a double

A double's text is its shortest decimal: positional while the leading digit's place `p` has
`-5 < p ≤ 15`, scientific otherwise; a whole number keeps a `.0`; an exponent carries its sign and
two digits at least (`1e-05`, `1e+16`).  Zero keeps its sign; NaN and the infinities are `nan`,
`inf`, `-inf`.  It is the text messages and rendered values use.
-/

/-!
## The shortest decimal that reads back

A decimal *reads back* when it lies in the interval of reals that round to the double.
`shortest` returns the one with the fewest significant digits, the nearer of two, then the one
with an even last digit.  On the grid of `n` digits only the two points around the value can lie
in the interval, so each length costs two exact comparisons, in naturals; seventeen digits
suffice.
-/

namespace Conversa.Numeric

/-- A decimal `digits · 10^exp`. -/
structure Decimal where
  digits : Nat
  exp : Int
deriving Repr, DecidableEq

def cmpDecBin (c : Nat) (t : Int) (w : Nat) (s : Int) : Ordering :=
  compare (c * Nat.pow 10 t.toNat * Nat.pow 2 (-s).toNat) (w * Nat.pow 2 s.toNat * Nat.pow 10 (-t).toNat)

/-- Whether `c · 10^t` lies among the reals that round to the positive double `x`. -/
def Binary.readsBack (x : Binary) (c : Nat) (t : Int) : Bool :=
  let lo := if x.narrowBelow then 4 * x.m - 1 else 4 * x.m - 2
  let hi := 4 * x.m + 2
  let incl := x.m % 2 == 0
  let cl := cmpDecBin c t lo (x.q - 2)
  let ch := cmpDecBin c t hi (x.q - 2)
  (cl == .gt || (incl && cl == .eq)) && (ch == .lt || (incl && ch == .eq))

def decimalLength (n : Nat) : Nat := (Nat.toDigits 10 n).length

/-- The `k` with `10^(k-1) ≤ m · 2^q < 10^k`, for a positive value.  For `q < 0` the value
times `10^(-q)` is the integer `m · 5^(-q)`, whose length is `k - q`. -/
def Binary.decimalExponent (x : Binary) : Int :=
  if x.q ≥ 0 then decimalLength (x.m * Nat.pow 2 x.q.toNat)
  else (decimalLength (x.m * Nat.pow 5 (-x.q).toNat) : Int) + x.q

/-- The value divided by `10^t`, as a numerator and denominator of naturals. -/
def Binary.overPow10 (x : Binary) (t : Int) : Nat × Nat :=
  (x.m * Nat.pow 2 x.q.toNat * Nat.pow 10 (-t).toNat, Nat.pow 2 (-x.q).toNat * Nat.pow 10 t.toNat)

/-- The decimal on the grid `10^t` that reads back, if one of the two grid points around the
value does; of two, the nearer, and on a tie the even one. -/
def Binary.onGrid (x : Binary) (t : Int) : Option Decimal :=
  let (num, den) := x.overPow10 t
  let c := num / den
  let lowOk := x.readsBack c t
  let highOk := x.readsBack (c + 1) t
  if lowOk && highOk then
    -- compare the distances: twice the value against the midpoint of the two points
    match compare (2 * num) ((2 * c + 1) * den) with
    | .lt => some ⟨c, t⟩
    | .gt => some ⟨c + 1, t⟩
    | .eq => some (if c % 2 == 0 then ⟨c, t⟩ else ⟨c + 1, t⟩)
  else if lowOk then some ⟨c, t⟩
  else if highOk then some ⟨c + 1, t⟩
  else none

/-- Removes trailing zero digits into the exponent. -/
def Decimal.normalize (d : Decimal) : Decimal :=
  go d.digits d.exp 20
where
  /-- At most `fuel` zeros come off; a double's shortest form has at most seventeen digits. -/
  go (c : Nat) (t : Int) : Nat → Decimal
    | 0 => ⟨c, t⟩
    | fuel + 1 => if c ≠ 0 ∧ c % 10 = 0 then go (c / 10) (t + 1) fuel else ⟨c, t⟩

/-- The nearest decimal of seventeen digits: the fall-back, which a double never needs. -/
def Binary.seventeen (x : Binary) (k : Int) : Decimal :=
  let t := k - 17
  let (num, den) := x.overPow10 t
  let c := num / den
  if 2 * (num % den) ≥ den then ⟨c + 1, t⟩ else ⟨c, t⟩

def Binary.shortest (x : Binary) : Decimal :=
  let k := x.decimalExponent
  let found := (List.range 17).findSome? fun i => x.onGrid (k - (i + 1 : Nat))
  (found.getD (x.seventeen k)).normalize

end Conversa.Numeric

namespace Conversa.Numeric

/-- The digits of a decimal as a string, and the position of the decimal point counted from the
left end of the digits (so the value is `0.digits × 10^point`). -/
def Decimal.layout (d : Decimal) : String × Int :=
  let s := toString d.digits
  (s, (s.length : Int) + d.exp)

/-- Positional text of `0.ds × 10^point`; a whole number ends in `.0` when `dotZero` is set. -/
def positional (ds : String) (point : Int) (dotZero : Bool) : String :=
  if point ≤ 0 then "0." ++ String.ofList (List.replicate (-point).toNat '0') ++ ds
  else if point < ds.length then
    String.ofList (ds.toList.take point.toNat) ++ "." ++ String.ofList (ds.toList.drop point.toNat)
  else ds ++ String.ofList (List.replicate (point.toNat - ds.length) '0') ++ (if dotZero then ".0" else "")

/-- Scientific text of `0.ds × 10^point`: one digit before the point, a signed exponent of at
least two digits. -/
def scientific (ds : String) (point : Int) : String :=
  let mant := match ds.toList with
    | [] => "0"
    | [c] => String.singleton c
    | c :: rest => String.singleton c ++ "." ++ String.ofList rest
  let e := point - 1
  let mag := toString e.natAbs
  let mag := if mag.length < 2 then "0" ++ mag else mag
  mant ++ "e" ++ (if e < 0 then "-" else "+") ++ mag

/-- The shortest text of a double, a whole number marked with `.0` when `dotZero` is set. -/
def doubleText (x : Float) (dotZero : Bool) : String :=
  if x.isNaN then "nan"
  else if x.isInf then (if x < 0 then "-inf" else "inf")
  else
    let b := Binary.ofBits x.toBits
    let sign := if b.neg then "-" else ""
    if b.m = 0 then sign ++ (if dotZero then "0.0" else "0")
    else
      let (ds, point) := b.shortest.layout
      sign ++ (if point ≤ -4 ∨ point > 16 then scientific ds point else positional ds point dotZero)

/-- The text of a double: the shortest decimal that reads back, positional for leading places
from `10^-4` to `10^15` and scientific beyond, a whole number marked with `.0`. -/
def floatText (x : Float) : String := doubleText x true

/-- The text of a complex number: the imaginary part alone when the real part is a positive
zero, otherwise both parts in parentheses with the imaginary part's sign always written.  The
parts are written without the `.0` mark, since the `j` already says what they are. -/
def complexText (re im : Float) : String :=
  let positiveZero := re == 0 && !(Binary.ofBits re.toBits).neg
  let imText := doubleText im false
  if positiveZero then imText ++ "j"
  else
    let signed := if (Binary.ofBits im.toBits).neg && !im.isNaN then imText else "+" ++ imText
    "(" ++ doubleText re false ++ signed ++ "j)"

end Conversa.Numeric
