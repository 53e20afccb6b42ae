import Conversa.Numeric.Binary
import Conversa.Failure

/-!
# Configuration numbers

`Scalar` is a number of a training configuration (whole, double or complex), a truth value or
the absent value, with the arithmetic configurations are evaluated with: whole numbers stay exact
under `+`, `-`, `*` and non-negative powers; a double on either side gives a double; true
division rounds the exact quotient once (`divInt`); a whole number and a double compare by exact
value; a truth value counts as 0 or 1.  A failing operation returns an `ArithError`.
-/

namespace Conversa.Numeric

/-- A number of a configuration, or a truth value, or the absent value. -/
inductive Scalar where
  | none
  /-- A truth value, which counts as 0 or 1 in arithmetic. -/
  | bool (b : Bool)
  | int (n : Int)
  | float (x : Float)
  | complex (re im : Float)
deriving Inhabited, Repr

/-- Why an arithmetic operation failed. -/
inductive ArithError where
  /-- A quotient of whole numbers with divisor zero. -/
  | divisionByZero
  /-- A quotient of doubles with divisor zero. -/
  | floatDivisionByZero
  /-- A quotient of complex numbers with divisor zero. -/
  | complexDivisionByZero
  /-- Complex zero raised to a negative or complex power. -/
  | complexZeroPower
  /-- A floor quotient or remainder with divisor zero. -/
  | modByZero
  | zeroToNegativePower
  /-- An operation between kinds that have it not. -/
  | unsupported (op left right : String)
  /-- An order comparison between kinds that have no order. -/
  | unorderable (op left right : String)
  /-- An argument outside a mathematical function's domain. -/
  | mathDomain
  /-- A result outside the range of doubles, from a mathematical function. -/
  | mathRange
  /-- A power of doubles outside the range of doubles. -/
  | powerRange
  /-- A complex power outside the range of doubles. -/
  | complexPowerRange
  /-- An infinity where a whole number is needed. -/
  | infinityToInt
  | nanToInt
  /-- A whole number beyond the range of doubles. -/
  | intTooLarge
  /-- A non-number where a real number is needed. -/
  | notReal (kind : String)
  | notIntegral (kind : String)
deriving Repr, Inhabited

def ArithError.kind : ArithError → String
  | .divisionByZero | .floatDivisionByZero | .complexDivisionByZero | .complexZeroPower | .modByZero
  | .zeroToNegativePower => "ZeroDivisionError"
  | .unsupported .. | .unorderable .. | .notReal _ | .notIntegral _ => "TypeError"
  | .mathDomain | .nanToInt => "ValueError"
  | .mathRange | .powerRange | .complexPowerRange | .infinityToInt | .intTooLarge => "OverflowError"

def ArithError.message : ArithError → String
  | .divisionByZero => "division by zero"
  | .floatDivisionByZero => "float division by zero"
  | .complexDivisionByZero => "complex division by zero"
  | .complexZeroPower => "0.0 to a negative or complex power"
  | .modByZero => "integer division or modulo by zero"
  | .zeroToNegativePower => "0.0 cannot be raised to a negative power"
  | .unsupported op l r => s!"unsupported operand type(s) for {op}: '{l}' and '{r}'"
  | .unorderable op l r => s!"'{op}' not supported between instances of '{l}' and '{r}'"
  | .mathDomain => "math domain error"
  | .mathRange => "math range error"
  | .powerRange => "(34, 'Numerical result out of range')"
  | .complexPowerRange => "complex exponentiation"
  | .infinityToInt => "cannot convert float infinity to integer"
  | .nanToInt => "cannot convert float NaN to integer"
  | .intTooLarge => "int too large to convert to float"
  | .notReal k => s!"must be real number, not {k}"
  | .notIntegral k => s!"int() argument must be a string, a bytes-like object or a real number, not '{k}'"

def ArithError.toFailure (e : ArithError) : Failure := ⟨e.kind, e.message⟩

namespace Scalar

/-- The name of a value's kind, as failures report it. -/
def kindName : Scalar → String
  | .none => "NoneType"
  | .bool _ => "bool"
  | .int _ => "int"
  | .float _ => "float"
  | .complex .. => "complex"

/-- Whether a value counts as true: a non-zero number or a true truth value. -/
def truthy : Scalar → Bool
  | .none => false
  | .bool b => b
  | .int n => n != 0
  | .float x => x != 0
  | .complex re im => re != 0 || im != 0

/-- Whether the value is present, that is, not the absent value. -/
def isGiven : Scalar → Bool
  | .none => false
  | _ => true

/-- The whole number of a whole number or truth value. -/
def asInt? : Scalar → Option Int
  | .bool b => some (if b then 1 else 0)
  | .int n => some n
  | _ => Option.none

/-- A whole number as a double, or the failure for one beyond the range of doubles. -/
def intToFloat (n : Int) : Except ArithError Float :=
  let x := ofInt n
  if x.isInf then .error .intTooLarge else .ok x

/-- A real value as a double: whole numbers are rounded to the nearest double. -/
def toFloat? : Scalar → Option (Except ArithError Float)
  | .float x => some (.ok x)
  | s => (s.asInt?).map intToFloat

/-- The double of a real value, for an operation named `op` with the other operand `other`. -/
private def realOperand (op : String) (l r : Scalar) (s : Scalar) : Except ArithError Float :=
  match s.toFloat? with
  | some v => v
  | Option.none => .error (.unsupported op l.kindName r.kindName)

/-- Both operands as complex numbers, when one of them is complex. -/
private def complexParts (op : String) (l r : Scalar) : Except ArithError ((Float × Float) × (Float × Float)) :=
  let part (s : Scalar) : Except ArithError (Float × Float) :=
    match s with
    | .complex re im => .ok (re, im)
    | _ => do let x ← realOperand op l r s; pure (x, 0)
  do pure ((← part l), (← part r))

private def anyComplex : Scalar → Scalar → Bool
  | .complex .., _ | _, .complex .. => true
  | _, _ => false

/-- Whether either operand is absent, which no arithmetic accepts. -/
private def anyNone : Scalar → Scalar → Bool
  | .none, _ | _, .none => true
  | _, _ => false

/-- A binary operation with exact whole-number, double and complex cases. -/
private def arith (op : String) (onInt : Int → Int → Scalar) (onFloat : Float → Float → Scalar)
    (onComplex : Float × Float → Float × Float → Scalar) (l r : Scalar) : Except ArithError Scalar :=
  if anyNone l r then .error (.unsupported op l.kindName r.kindName)
  else if anyComplex l r then do
    let (a, b) ← complexParts op l r
    pure (onComplex a b)
  else match l.asInt?, r.asInt? with
    | some a, some b => .ok (onInt a b)
    | _, _ => do
      let a ← realOperand op l r l
      let b ← realOperand op l r r
      pure (onFloat a b)

def add (l r : Scalar) : Except ArithError Scalar :=
  arith "+" (fun a b => .int (a + b)) (fun a b => .float (a + b))
    (fun (a, b) (c, d) => .complex (a + c) (b + d)) l r

def sub (l r : Scalar) : Except ArithError Scalar :=
  arith "-" (fun a b => .int (a - b)) (fun a b => .float (a - b))
    (fun (a, b) (c, d) => .complex (a - c) (b - d)) l r

def mul (l r : Scalar) : Except ArithError Scalar :=
  arith "*" (fun a b => .int (a * b)) (fun a b => .float (a * b))
    (fun (a, b) (c, d) => .complex (a * c - b * d) (a * d + b * c)) l r

/-- Quotient of two complex numbers, scaled by the larger part of the divisor so that the
intermediate products neither overflow nor vanish early. -/
def complexQuot (a b c d : Float) : Except ArithError Scalar :=
  let absC := if c < 0 then -c else c
  let absD := if d < 0 then -d else d
  if absC >= absD then
    if absC == 0 then .error .complexDivisionByZero
    else
      let ratio := d / c
      let denom := c + d * ratio
      .ok (.complex ((a + b * ratio) / denom) ((b - a * ratio) / denom))
  else
    let ratio := c / d
    let denom := c * ratio + d
    .ok (.complex ((a * ratio + b) / denom) ((b * ratio - a) / denom))

/-- True quotient: always a double (or complex), the exact quotient rounded once. -/
def truediv (l r : Scalar) : Except ArithError Scalar :=
  if anyNone l r then .error (.unsupported "/" l.kindName r.kindName)
  else if anyComplex l r then do
    let ((a, b), (c, d)) ← complexParts "/" l r
    complexQuot a b c d
  else match l.asInt?, r.asInt? with
    | some a, some b =>
      if b = 0 then .error .divisionByZero
      else
        let q := divInt a b
        if q.isInf then .error .intTooLarge else .ok (.float q)
    | _, _ => do
      let a ← realOperand "/" l r l
      let b ← realOperand "/" l r r
      if b == 0 then .error .floatDivisionByZero else pure (.float (a / b))

def isOddIntegral (x : Float) : Bool :=
  isIntegral x && (truncToInt x) % 2 != 0

/-- The modulus of `a + bi`; exact when one part is zero. -/
def hypot (a b : Float) : Float :=
  if b == 0 then Float.abs a
  else if a == 0 then Float.abs b
  else Float.sqrt (a * a + b * b)

def complexProd (a b c d : Float) : Float × Float := (a * c - b * d, a * d + b * c)

/-- `x^n` for a natural `n` by repeated squaring over the bits of `n`, lowest first. -/
def complexPowNat (x : Float × Float) (n : Nat) : Float × Float :=
  go x (1, 0) n 64
where
  /-- `fuel` bounds the number of bits; a power's exponent here is at most 100. -/
  go (p r : Float × Float) (n : Nat) : Nat → Float × Float
    | 0 => r
    | fuel + 1 =>
      if n = 0 then r
      else
        let r := if n % 2 = 1 then complexProd r.1 r.2 p.1 p.2 else r
        go (complexProd p.1 p.2 p.1 p.2) r (n / 2) fuel

/-- A complex power.  A whole exponent of magnitude at most 100 is computed by repeated
multiplication; any other by the polar form, the modulus raised to the exponent and the argument
multiplied by it.  Zero to a negative or complex power is a failure, as is an infinite part. -/
def complexPow (a b c d : Float) : Except ArithError Scalar :=
  let result : Except ArithError (Float × Float) :=
    if d == 0 && c == Float.floor c && Float.abs c ≤ 100 then
      let n := truncToInt c
      if n ≥ 0 then .ok (complexPowNat (a, b) n.toNat)
      else
        let (pr, pi) := complexPowNat (a, b) n.natAbs
        match complexQuot 1 0 pr pi with
        | .ok (.complex re im) => .ok (re, im)
        | _ => .error .complexZeroPower
    else if c == 0 && d == 0 then .ok (1, 0)
    else if a == 0 && b == 0 then
      if d != 0 || c < 0 then .error .complexZeroPower else .ok (0, 0)
    else
      let vabs := hypot a b
      let angle := Float.atan2 b a
      let len := Float.pow vabs c
      let phase := angle * c
      let (len, phase) :=
        if d != 0 then (len / Float.exp (angle * d), phase + d * Float.log vabs) else (len, phase)
      .ok (len * Float.cos phase, len * Float.sin phase)
  match result with
  | .error e => .error e
  | .ok (re, im) =>
    if re.isInf || im.isInf then .error .complexPowerRange else .ok (.complex re im)

/-- A power of doubles: the special cases of zero, one, NaN and the infinities first, a complex
result for a negative base under a fractional exponent, and the library power otherwise. -/
def floatPow (iv iw : Float) : Except ArithError Scalar :=
  if iw == 0 then .ok (.float 1.0)
  else if iv.isNaN then .ok (.float iv)
  else if iw.isNaN then .ok (.float (if iv == 1.0 then 1.0 else iw))
  else if iw.isInf then
    let av := if iv < 0 then -iv else iv
    if av == 1.0 then .ok (.float 1.0)
    else if (av > 1.0) == (iw > 0) then .ok (.float (1.0 / 0.0)) else .ok (.float 0.0)
  else if iv.isInf then
    let odd := isOddIntegral iw
    if iw > 0 then .ok (.float (if odd then iv else (if iv < 0 then -iv else iv)))
    else .ok (.float (if odd then (if iv < 0 then -0.0 else 0.0) else 0.0))
  else if iv == 0 then
    if iw < 0 then .error .zeroToNegativePower
    else .ok (.float (if isOddIntegral iw then iv else 0.0))
  else if iv < 0 && !isIntegral iw then complexPow iv 0 iw 0
  else
    let negate := iv < 0 && isOddIntegral iw
    let av := if iv < 0 then -iv else iv
    if av == 1.0 then .ok (.float (if negate then -1.0 else 1.0))
    else
      let ix := Float.pow av iw
      if ix.isInf then .error .powerRange
      else .ok (.float (if negate then -ix else ix))

/-- Power. Whole numbers with a non-negative exponent stay exact; a negative exponent, or a
double on either side, gives the power of doubles. -/
def pow (l r : Scalar) : Except ArithError Scalar :=
  if anyNone l r then .error (.unsupported "** or pow()" l.kindName r.kindName)
  else if anyComplex l r then do
    let ((a, b), (c, d)) ← complexParts "** or pow()" l r
    complexPow a b c d
  else match l.asInt?, r.asInt? with
    | some a, some b =>
      if b ≥ 0 then .ok (.int (Int.pow a b.toNat))
      else do
        let x ← intToFloat a
        let y ← intToFloat b
        floatPow x y
    | _, _ => do
      let a ← realOperand "** or pow()" l r l
      let b ← realOperand "** or pow()" l r r
      floatPow a b

/-- The order of a whole number and a double, by exact values; none when the double is NaN. -/
def cmpIntFloat (n : Int) (x : Float) : Option Ordering :=
  if x.isNaN then Option.none
  else if x.isInf then some (if x > 0 then .lt else .gt)
  else
    let b := Binary.ofBits x.toBits
    let xnum : Int := if b.neg then -(b.m : Int) else b.m
    if b.q ≥ 0 then some (compare n (xnum * Int.pow 2 b.q.toNat))
    else some (compare (n * Int.pow 2 (-b.q).toNat) xnum)

/-- The order of two doubles; none when either is NaN. -/
def cmpFloat (x y : Float) : Option Ordering :=
  if x < y then some .lt else if y < x then some .gt else if x == y then some .eq else Option.none

/-- The order of two real values, or the failure for kinds without an order. `none` inside the
result means the values are unordered (a NaN is involved). -/
def compareWith (op : String) (l r : Scalar) : Except ArithError (Option Ordering) :=
  match l, r with
  | .float x, .float y => .ok (cmpFloat x y)
  | .float x, _ =>
    match r.asInt? with
    | some n => .ok ((cmpIntFloat n x).map Ordering.swap)
    | Option.none => .error (.unorderable op l.kindName r.kindName)
  | _, .float y =>
    match l.asInt? with
    | some n => .ok (cmpIntFloat n y)
    | Option.none => .error (.unorderable op l.kindName r.kindName)
  | _, _ =>
    match l.asInt?, r.asInt? with
    | some a, some b => .ok (some (compare a b))
    | _, _ => .error (.unorderable op l.kindName r.kindName)

/-- `l < r`. -/
def lt (l r : Scalar) : Except ArithError Bool := do
  pure ((← compareWith "<" l r) == some .lt)

/-- `l ≤ r`. -/
def le (l r : Scalar) : Except ArithError Bool := do
  let c ← compareWith "<=" l r
  pure (c == some .lt || c == some .eq)

/-- `l > r`. -/
def gt (l r : Scalar) : Except ArithError Bool := do
  pure ((← compareWith ">" l r) == some .gt)

/-- `l ≥ r`. -/
def ge (l r : Scalar) : Except ArithError Bool := do
  let c ← compareWith ">=" l r
  pure (c == some .gt || c == some .eq)

/-- Equality of values: numbers by exact value across kinds, the absent value only with
itself. -/
def eq (l r : Scalar) : Bool :=
  match l, r with
  | .none, .none => true
  | .none, _ | _, .none => false
  | .complex a b, .complex c d => a == c && b == d
  | .complex a b, x | x, .complex a b =>
    b == 0 && (match compareWith "==" x (.float a) with
      | .ok c => c == some .eq
      | .error _ => false)
  | _, _ =>
    match compareWith "==" l r with
    | .ok c => c == some .eq
    | .error _ => false

/-- The larger of two values, the first on a tie: the second is taken only when it is
greater. -/
def max (a b : Scalar) : Except ArithError Scalar := do
  if ← gt b a then pure b else pure a

def min (a b : Scalar) : Except ArithError Scalar := do
  if ← lt b a then pure b else pure a

/-- The whole number of a value, as the conversion to a whole number gives it: a double is
rounded toward zero. -/
def intOf : Scalar → Except ArithError Scalar
  | .float x =>
    if x.isNaN then .error .nanToInt
    else if x.isInf then .error .infinityToInt
    else .ok (.int (truncToInt x))
  | s => match s.asInt? with
    | some n => .ok (.int n)
    | Option.none => .error (.notIntegral s.kindName)

def ceil : Scalar → Except ArithError Scalar
  | .float x =>
    if x.isNaN then .error .nanToInt
    else if x.isInf then .error .infinityToInt
    else .ok (.int (ceilToInt x))
  | s => match s.asInt? with
    | some n => .ok (.int n)
    | Option.none => .error (.notReal s.kindName)

def floor : Scalar → Except ArithError Scalar
  | .float x =>
    if x.isNaN then .error .nanToInt
    else if x.isInf then .error .infinityToInt
    else .ok (.int (floorToInt x))
  | s => match s.asInt? with
    | some n => .ok (.int n)
    | Option.none => .error (.notReal s.kindName)

def toDouble (s : Scalar) : Except ArithError Float :=
  match s.toFloat? with
  | some v => v
  | Option.none => .error (.notReal s.kindName)

def cos (s : Scalar) : Except ArithError Scalar := do
  let x ← s.toDouble
  if x.isInf then throw .mathDomain else pure (.float (Float.cos x))

/-- The power of two real values as doubles, where a NaN result or zero to a negative power is
a domain failure and an overflow a range failure. -/
def mathPow (l r : Scalar) : Except ArithError Scalar := do
  let x ← l.toDouble
  let y ← r.toDouble
  if isNonFinite x || isNonFinite y then
    if x.isNaN then pure (.float (if y == 0 then 1.0 else x))
    else if y.isNaN then pure (.float (if x == 1.0 then 1.0 else y))
    else if x.isInf then
      let odd := !isNonFinite y && isOddIntegral y
      if y > 0 then pure (.float (if odd then x else (if x < 0 then -x else x)))
      else if y == 0 then pure (.float 1.0)
      else pure (.float (if odd then (if x < 0 then -0.0 else 0.0) else 0.0))
    else
      let ax := if x < 0 then -x else x
      if ax == 1.0 then pure (.float 1.0)
      else if y > 0 && ax > 1.0 then pure (.float y)
      else if y < 0 && ax < 1.0 then pure (.float (-y))
      else pure (.float 0.0)
  else
    let r := Float.pow x y
    if r.isNaN then throw .mathDomain
    else if r.isInf then (if x == 0 then throw .mathDomain else throw .mathRange)
    else pure (.float r)

end Scalar

end Conversa.Numeric
