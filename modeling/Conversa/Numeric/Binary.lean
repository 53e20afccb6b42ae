/-!
# Binary64 values as exact numbers

A double is `(-1)^neg · m · 2^q`.  `Binary.ofBits` reads that triple off the bits;
`Binary.narrowBelow` says when the neighbour below is half as far as the one above; `ofRatio`
rounds an exact quotient of naturals to the nearest double, ties to even, which gives integer
true division and the conversion of large integers.
-/

namespace Conversa.Numeric

/-- A finite double as `(-1)^neg · m · 2^q`. -/
structure Binary where
  neg : Bool
  /-- The significand, with the hidden bit of a normal value made explicit. -/
  m : Nat
  /-- The exponent of the last place of the significand. -/
  q : Int
  /-- The gap to the value below is half the gap to the value above. -/
  narrowBelow : Bool
deriving Repr, DecidableEq

def exponentField (x : Float) : Nat := ((x.toBits >>> 52) &&& 0x7FF).toNat

def isNonFinite (x : Float) : Bool := exponentField x == 2047

/-- Sign, significand and exponent of a finite double. NaN and the infinities are no such value:
test them with `isNonFinite` first. -/
def Binary.ofBits (b : UInt64) : Binary :=
  let neg := (b >>> 63) == 1
  let e := ((b >>> 52) &&& 0x7FF).toNat
  let f := (b &&& 0xFFFFFFFFFFFFF).toNat
  if e == 0 then ⟨neg, f, -1074, false⟩ else ⟨neg, Nat.pow 2 52 + f, (e : Int) - 1075, f == 0 && e > 1⟩

/-- The double with the given sign, exponent field and fraction bits; an exponent field of 2047
or more gives the infinity of that sign. -/
private def assemble (neg : Bool) (field : Nat) (fraction : Nat) : Float :=
  let signBit : UInt64 := if neg then 0x8000000000000000 else 0
  if field ≥ 2047 then Float.ofBits (signBit ||| 0x7FF0000000000000)
  else Float.ofBits (signBit ||| (field.toUInt64 <<< 52) ||| (fraction % Nat.pow 2 52).toUInt64)

def atLeastScaled (a b : Nat) (k : Int) : Bool :=
  if k ≥ 0 then a ≥ b * Nat.pow 2 k.toNat else a * Nat.pow 2 (-k).toNat ≥ b

/-- The exponent `e` with `2^52 ≤ a / (b · 2^e) < 2^53`, for positive `a` and `b`. From the bit
lengths, `⌊log₂ (a / b)⌋` is `L` or `L - 1` with `L = ⌊log₂ a⌋ - ⌊log₂ b⌋`; one exact comparison
tells which. -/
def scaleExponent (a b : Nat) : Int :=
  let l : Int := (Nat.log2 a : Int) - (Nat.log2 b : Int)
  if atLeastScaled a b l then l - 52 else l - 53

/-- The double nearest to `a / b` (with sign `neg`), ties to the even significand. A zero
quotient gives a signed zero, a quotient beyond the largest double an infinity, and `b = 0` with
`a ≠ 0` an infinity too. -/
def ofRatio (neg : Bool) (a b : Nat) : Float :=
  if a = 0 then assemble neg 0 0
  else if b = 0 then assemble neg 2047 0
  else
    -- below the least normal exponent the last place stays at `2^-1074`
    let e := max (scaleExponent a b) (-1074)
    let num := a * Nat.pow 2 (-e).toNat
    let den := b * Nat.pow 2 e.toNat
    let r := num % den
    let q0 := num / den
    let q := if 2 * r > den ∨ (2 * r = den ∧ q0 % 2 = 1) then q0 + 1 else q0
    if q < Nat.pow 2 52 then assemble neg 0 q
    else if q = Nat.pow 2 53 then assemble neg (e + 1076).toNat 0
    else assemble neg (e + 1075).toNat q

/-- The double nearest to `m · 10^e`, with sign.  Exponents far outside the range of doubles go
straight to zero or infinity. -/
def ofScientific (neg : Bool) (m : Nat) (e : Int) : Float :=
  if m = 0 then ofRatio neg 0 1
  else if e > 400 then ofRatio neg 1 0
  else if e < -(400 + (Nat.toDigits 10 m).length : Int) then ofRatio neg 0 1
  else if e ≥ 0 then ofRatio neg (m * Nat.pow 10 e.toNat) 1
  else ofRatio neg m (Nat.pow 10 (-e).toNat)

def exactScaled (x : Float) : Int × Int :=
  let b := Binary.ofBits x.toBits
  (if b.neg then -(b.m : Int) else b.m, b.q)

/-- `a · b + c` rounded once, as a fused multiply-add gives it.  A non-finite operand gives the
separately rounded value, which is the same in every such case; an exact zero sum is a positive
zero. -/
def fusedMulAdd (a b c : Float) : Float :=
  if isNonFinite a || isNonFinite b || isNonFinite c then a * b + c
  else
    let (ma, qa) := exactScaled a
    let (mb, qb) := exactScaled b
    let (mc, qc) := exactScaled c
    let qp := qa + qb
    let q := min qp qc
    let total := ma * mb * Int.pow 2 (qp - q).toNat + mc * Int.pow 2 (qc - q).toNat
    if q ≥ 0 then ofRatio (total < 0) (total.natAbs * Nat.pow 2 q.toNat) 1
    else ofRatio (total < 0) total.natAbs (Nat.pow 2 (-q).toNat)

def ofInt (n : Int) : Float := ofRatio (n < 0) n.natAbs 1

/-- The double nearest to the quotient of two integers; the divisor is not zero. -/
def divInt (a b : Int) : Float := ofRatio ((a < 0) != (b < 0)) a.natAbs b.natAbs

/-- The integer part of a finite double, rounded toward zero. -/
def truncToInt (x : Float) : Int :=
  let b := Binary.ofBits x.toBits
  let mag : Nat := if b.q ≥ 0 then b.m * Nat.pow 2 b.q.toNat else b.m / Nat.pow 2 (-b.q).toNat
  if b.neg then -(mag : Int) else mag

def floorToInt (x : Float) : Int :=
  let t := truncToInt x
  if ofInt t == x then t else if x < 0 then t - 1 else t

def ceilToInt (x : Float) : Int :=
  let t := truncToInt x
  if ofInt t == x then t else if x < 0 then t else t + 1

def isIntegral (x : Float) : Bool := ofInt (truncToInt x) == x

end Conversa.Numeric
