

/-!
# Sums and means of doubles in blocks

Array libraries add doubles in blocks, not left to right: fewer than eight values one by one, up
to 128 in eight interleaved lanes combined pairwise, a longer run cut in two at a multiple of
eight.  The last bit of such a sum can differ from the plain sum, so a mean reported to the last
digit is taken this way.  A product is taken left to right from one.
-/

namespace Conversa.Numeric

def lane (xs : List Float) (j : Nat) : List Float :=
  (xs.zipIdx.filter fun (_, i) => i % 8 == j).map (·.1)

/-- A lane added left to right from its first value. -/
def laneSum (xs : List Float) : Float :=
  match xs with
  | [] => 0.0
  | x :: rest => rest.foldl (· + ·) x

def blockSum (xs : List Float) : Float :=
  if h : xs.length < 8 then xs.foldl (· + ·) (-0.0)
  else if xs.length ≤ 128 then
    let whole := xs.length - xs.length % 8
    let body := xs.take whole
    let l (j : Nat) := laneSum (lane body j)
    let res := ((l 0 + l 1) + (l 2 + l 3)) + ((l 4 + l 5) + (l 6 + l 7))
    (xs.drop whole).foldl (· + ·) res
  else
    let half := xs.length / 2
    let cut := half - half % 8
    blockSum (xs.take cut) + blockSum (xs.drop cut)
termination_by xs.length
decreasing_by
  all_goals simp only [List.length_take, List.length_drop]
  all_goals omega

def arraySum (xs : List Float) : Float := 0.0 + blockSum xs

def arrayMean (xs : List Float) : Float := arraySum xs / Float.ofNat xs.length

def arrayProduct (xs : List Float) : Float := xs.foldl (· * ·) 1.0

end Conversa.Numeric

/-!
## Evenly spaced numbers

`evenlySpaced start stop n` gives `n` numbers from `start` to `stop`, both included: the `i`-th
is `i * step + start` with `step = (stop - start) / (n - 1)`, and the last is `stop` itself, so
that rounding in the steps never moves the end.  One number is `start` alone; none is empty.
-/

namespace Conversa.Numeric

/-- `n` evenly spaced numbers from `start` to `stop`, both included. -/
def evenlySpaced (start stop : Float) (n : Nat) : List Float :=
  match n with
  | 0 => []
  | 1 => [start]
  | k + 2 =>
    let step := (stop - start) / (k + 1).toFloat
    (List.range (k + 1)).map (fun i => i.toFloat * step + start) ++ [stop]

end Conversa.Numeric

/-!
## Softmax

The softmax of scores: each score's exponential, taken after subtracting the highest score so
that none overflows, divided by the sum of all of them (summed from the left).
-/

namespace Conversa.Numeric

/-- The highest of some scores, the first of equal ones. -/
def highest (xs : List Float) : Option Float :=
  xs.foldl (fun best x => match best with
    | some b => if x > b then some x else best
    | none => some x) none

/-- The softmax of scores; no scores give none. -/
def softmax (xs : List Float) : List Float :=
  match highest xs with
  | none => []
  | some top =>
    let exps := xs.map fun x => Float.exp (x - top)
    let total := exps.foldl (· + ·) 0.0
    exps.map (· / total)

end Conversa.Numeric
