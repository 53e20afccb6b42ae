import Conversa.Data.Number

/-!
# Arithmetic on numbers in data

Numbers that arrive as data are added, subtracted, multiplied and compared as the toolkit's
scalars are: whole numbers stay whole, a double on either side gives a double, and an operand
that is no number is a `TypeError` naming the operator and both kinds.
-/

namespace Conversa

open Numeric

namespace Data

/-- The scalars of two operands, or the failure of an operator on a non-number. -/
def operands (op : String) (a b : Data) : Result (Scalar × Scalar) :=
  match a.scalar?, b.scalar? with
  | some x, some y => .ok (x, y)
  | _, _ => .error (.type s!"unsupported operand type(s) for {op}: '{a.kindName}' and '{b.kindName}'")

/-- The result of an arithmetic operation, its failure converted. -/
def arith (r : Except ArithError Scalar) : Result Data :=
  match r with
  | .ok s => .ok s.toData
  | .error e => .error e.toFailure

def plus (a b : Data) : Result Data := do
  let (x, y) ← operands "+" a b
  arith (Scalar.add x y)

def minus (a b : Data) : Result Data := do
  let (x, y) ← operands "-" a b
  arith (Scalar.sub x y)

def times (a b : Data) : Result Data := do
  let (x, y) ← operands "*" a b
  arith (Scalar.mul x y)

def divide (a b : Data) : Result Data := do
  let (x, y) ← operands "/" a b
  arith (Scalar.truediv x y)

def unordered (op : String) (a b : Data) : Failure :=
  .type s!"'{op}' not supported between instances of '{a.kindName}' and '{b.kindName}'"

def lessThan (a b : Data) : Result Bool := do
  let some x := a.scalar? | throw (unordered "<" a b)
  let some y := b.scalar? | throw (unordered "<" a b)
  match Scalar.lt x y with
  | .ok r => pure r
  | .error e => throw e.toFailure

def greaterThan (a b : Data) : Result Bool := do
  let some x := a.scalar? | throw (unordered ">" a b)
  let some y := b.scalar? | throw (unordered ">" a b)
  match Scalar.gt x y with
  | .ok r => pure r
  | .error e => throw e.toFailure

end Data

end Conversa
