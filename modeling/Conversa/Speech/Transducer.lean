import Conversa.Failure

/-!
# The transducer loss on one lattice

A lattice has `T` frames by `U` output positions, each cell log-probabilities over the symbols.
`α t u` is the log-probability of reaching cell `(t, u)`, `β t u` of finishing from it; the loss
is `-α (T-1) (U-1) - lp (T-1) (U-1) blank`.  Tables hold single-precision values (`Precision`);
a gradient is `-exp (α + β' + lp - β 0 0)`, label emissions scaled by `1 + λ` under FastEmit.  A
negative index counts from the end, one outside the axis is an `IndexError`.
-/

namespace Conversa.Speech

/-- The precision log-probabilities are held and combined in. -/
inductive Precision where
  | single
  | double
deriving DecidableEq, Repr

/-- A double rounded to the nearest single-precision value. -/
def toSingle (x : Float) : Float := x.toFloat32.toFloat

namespace Precision

/-- The precision of an element type: single for `float32`, double otherwise. -/
def ofType (dtype : String) : Precision := if dtype == "float32" then .single else .double

/-- A result rounded to the precision.  A sum of two single-precision values taken at double
precision and then rounded is their single-precision sum, so one rounding models both. -/
def round : Precision → Float → Float
  | .single, x => toSingle x
  | .double, x => x

end Precision

/-- `log (1 + z)`, corrected by the rounding error of `1 + z` so that it stays accurate when `z` is
small against one. -/
def logOnePlus (z : Float) : Float :=
  let u := 1 + z
  if u == 1 then z else Float.log u - ((u - 1) - z) / u

/-- `log 2`. -/
def logTwo : Float := 0.6931471805599453

/-- `log (exp a + exp b)`, taken from the larger term so that it cannot overflow, each step rounded
to the precision; equal terms give `a + log 2`, and a difference that is not a number is the
result. -/
def logAddExp (p : Precision) (a b : Float) : Float :=
  if a == b then p.round (a + p.round logTwo)
  else
    let d := p.round (a - b)
    if d > 0 then p.round (a + p.round (logOnePlus (p.round (Float.exp (-d)))))
    else if d ≤ 0 then p.round (b + p.round (logOnePlus (p.round (Float.exp d))))
    else d

def negInfinity : Float := -(1.0 / 0.0)

def outOfBounds (i : Int) (axis size : Nat) : Failure :=
  .index s!"index {i} is out of bounds for axis {axis} with size {size}"

/-- The position an index picks along an axis, counted from the end when negative. -/
def axisIndex (axis size : Nat) (i : Int) : Result Nat :=
  if 0 ≤ i ∧ i < size then .ok i.toNat
  else if i < 0 ∧ 0 ≤ size + i then .ok (size + i).toNat
  else .error (outOfBounds i axis size)

abbrev Grid := Array (Array Float)

namespace Grid

def zeros (rows cols : Nat) : Grid := Array.replicate rows (Array.replicate cols 0)

/-- The value at a frame and position, zero outside the table. -/
def cell (g : Grid) (t u : Nat) : Float := (g.getD t #[]).getD u 0

def put (g : Grid) (t u : Nat) (x : Float) : Grid := g.modify t fun row => row.set! u x

end Grid

abbrev Cube := Array (Array (Array Float))

/-- The value of a cube at a frame, position and symbol, zero outside it. -/
def Cube.cell (c : Cube) (t u v : Nat) : Float := ((c.getD t #[]).getD u #[]).getD v 0

/-- The log-probabilities of one lattice, with its labels and blank symbol. -/
structure Lattice where
  /-- `logProbs[t][u][v]`: the log-probability of symbol `v` at frame `t` and position `u`. -/
  logProbs : Cube
  positions : Nat
  symbols : Nat
  /-- The symbol emitted on leaving each position. -/
  labels : Array Int
  /-- Whether the labels are an array, whose index failures name the axis, or a plain list. -/
  labelsArray : Bool
  /-- The symbol of staying at a position for one more frame. -/
  blank : Int
  precision : Precision

namespace Lattice

def frames (m : Lattice) : Nat := m.logProbs.size

/-- The log-probability of a symbol, given by index, at a frame and position. -/
def logProb (m : Lattice) (t u : Nat) (k : Int) : Result Float := do
  let v ← axisIndex 2 m.symbols k
  pure (Cube.cell m.logProbs t u v)

def label (m : Lattice) (u : Nat) : Result Int :=
  match m.labels[u]? with
  | some l => .ok l
  | none =>
    if m.labelsArray then .error (outOfBounds u 0 m.labels.size)
    else .error .listIndex

/-- The failure of reading the last cell of an empty table of forward variables. -/
def emptyFailure (m : Lattice) : Failure :=
  if m.frames = 0 then outOfBounds (-1) 0 0
  else outOfBounds (if m.frames ≥ 2 then 0 else -1) 1 0

/-- The forward variables and the log-likelihood of the lattice: the first column and row follow
the blank and the labels, every other cell adds the two ways into it, and the likelihood leaves
the last cell by a blank. -/
def forward (m : Lattice) : Result (Grid × Float) := do
  if m.frames = 0 ∨ m.positions = 0 then throw m.emptyFailure
  let p := m.precision
  let mut a := Grid.zeros m.frames m.positions
  for t in [1:m.frames] do
    a := Grid.put a t 0 (toSingle (Grid.cell a (t - 1) 0 + (← m.logProb (t - 1) 0 m.blank)))
  for u in [1:m.positions] do
    let l ← m.label (u - 1)
    a := Grid.put a 0 u (toSingle (Grid.cell a 0 (u - 1) + (← m.logProb 0 (u - 1) l)))
  for t in [1:m.frames] do
    for u in [1:m.positions] do
      let noEmit := p.round (Grid.cell a (t - 1) u + (← m.logProb (t - 1) u m.blank))
      let l ← m.label (u - 1)
      let emit := p.round (Grid.cell a t (u - 1) + (← m.logProb t (u - 1) l))
      a := Grid.put a t u (toSingle (logAddExp p emit noEmit))
  let last := m.logProb (m.frames - 1) (m.positions - 1) m.blank
  pure (a, p.round (Grid.cell a (m.frames - 1) (m.positions - 1) + (← last)))

/-- The backward variables and their value at the first cell, which is the log-likelihood: the
last cell leaves by a blank, the last column and row follow the blank and the labels, and every
other cell adds the two ways out of it. -/
def backward (m : Lattice) : Result (Grid × Float) := do
  let p := m.precision
  let lastT := m.frames - 1
  let lastU := m.positions - 1
  let first ← m.logProb lastT lastU m.blank
  if m.frames = 0 ∨ m.positions = 0 then throw m.emptyFailure
  let mut b := Grid.put (Grid.zeros m.frames m.positions) lastT lastU (toSingle first)
  for i in [0:lastT] do
    let t := lastT - 1 - i
    b := Grid.put b t lastU (toSingle (Grid.cell b (t + 1) lastU + (← m.logProb t lastU m.blank)))
  for j in [0:lastU] do
    let u := lastU - 1 - j
    let l ← m.label u
    b := Grid.put b lastT u (toSingle (Grid.cell b lastT (u + 1) + (← m.logProb lastT u l)))
  for i in [0:lastT] do
    let t := lastT - 1 - i
    for j in [0:lastU] do
      let u := lastU - 1 - j
      let noEmit := p.round (Grid.cell b (t + 1) u + (← m.logProb t u m.blank))
      let l ← m.label u
      let emit := p.round (Grid.cell b t (u + 1) + (← m.logProb t u l))
      b := Grid.put b t u (toSingle (logAddExp p emit noEmit))
  pure (b, Grid.cell b 0 0)

/-- The position and symbol of each label emission; a label at the last position or beyond has
no backward variable to lead to. -/
def emissions (m : Lattice) : Result (List (Nat × Nat)) :=
  (List.range m.labels.size).mapM fun u => do
    if u + 1 ≥ m.positions then throw (outOfBounds (u + 1) 1 m.positions)
    let v ← axisIndex 2 m.symbols (m.labels.getD u 0)
    pure (u, v)

/-- The gradients of the loss with respect to the log-probabilities, from forward and backward
variables whose sums are taken at precision `q`.  A cell that is neither a label emission, nor a
blank with a later frame, nor the final blank, has log-weight minus infinity and gradient `-0`. -/
def gradient (m : Lattice) (q : Precision) (a b : Grid) (fastEmit : Float) : Result Cube := do
  let blank ← axisIndex 2 m.symbols m.blank
  let emitted ← m.emissions
  let ll := Grid.cell b 0 0
  let weight (t u v : Nat) : Float :=
    if emitted.contains (u, v) then q.round (Grid.cell a t u + Grid.cell b t (u + 1))
    else if v == blank then
      if t + 1 < m.frames then q.round (Grid.cell a t u + Grid.cell b (t + 1) u)
      else if u + 1 == m.positions then Grid.cell a t u
      else negInfinity
    else negInfinity
  let cell (t u v : Nat) : Float :=
    let g := -Float.exp (weight t u v + Cube.cell m.logProbs t u v - ll)
    if fastEmit > 0 ∧ emitted.contains (u, v) then (1.0 + fastEmit) * g else g
  pure (Array.ofFn fun (t : Fin m.frames) => Array.ofFn fun (u : Fin m.positions) =>
    Array.ofFn fun (v : Fin m.symbols) => cell t u v)

/-- The FastEmit term of the loss: minus the weight times the log-likelihood of the forward
variables. -/
def fastEmitTerm (m : Lattice) (a : Grid) (fastEmit : Float) : Result Float := do
  let p := m.precision
  let last ← m.logProb (m.frames - 1) (m.positions - 1) m.blank
  pure (-p.round (fastEmit * p.round (Grid.cell a (m.frames - 1) (m.positions - 1) + last)))

end Lattice

/-- The loss of one lattice with its gradients and both tables of variables. -/
structure Transduction where
  loss : Float
  /-- The gradients with respect to the log-probabilities. -/
  gradients : Cube
  forwardVars : Grid
  backwardVars : Grid

/-- The loss, gradients and variables of one lattice. -/
def transduce (m : Lattice) (fastEmit : Float) : Result Transduction := do
  let (a, ll) ← m.forward
  let (b, _) ← m.backward
  let g ← m.gradient .single a b fastEmit
  pure ⟨-ll, g, a, b⟩

def sliceLength (n : Nat) (k : Int) : Nat :=
  if k ≥ 0 then min k.toNat n else (n - (-k).toNat)

/-- The element at a position of a sequence of numbers, as an array index reads it. -/
def entryAt (xs : Array Int) (i : Nat) : Result Int :=
  match xs[i]? with
  | some x => .ok x
  | none => .error (outOfBounds i 0 xs.size)

/-- A batch of lattices: log-probabilities by item, frame, position and symbol, with each item's
labels, frame count and label count. -/
structure Batch where
  logProbs : Array Cube
  positions : Nat
  symbols : Nat
  labels : Array (Array Int)
  frameCounts : Array Int
  labelCounts : Array Int
  blank : Int
  precision : Precision

/-- The losses of the items of a batch, each with its FastEmit term, and the gradients of all of
them in one array of the batch's shape and precision, zero outside each item's lattice. -/
def transduceBatch (bt : Batch) (fastEmit : Float) : Result (List Float × Array Cube) := do
  let zero : Cube := Array.replicate (bt.logProbs.getD 0 #[]).size
    (Array.replicate bt.positions (Array.replicate bt.symbols 0))
  let mut costs : List Float := []
  let mut grads : Array Cube := Array.replicate bt.logProbs.size zero
  for i in [0:bt.logProbs.size] do
    let item := bt.logProbs.getD i #[]
    let t := sliceLength item.size (← entryAt bt.frameCounts i)
    let stop := (← entryAt bt.labelCounts i) + 1
    let u := sliceLength bt.positions stop
    let row ← match bt.labels[i]? with
      | some r => pure r
      | none => throw (outOfBounds i 0 bt.labels.size)
    let m : Lattice :=
      { logProbs := (item.extract 0 t).map (·.extract 0 u), positions := u, symbols := bt.symbols,
        labels := row.extract 0 (sliceLength row.size (stop - 1)), labelsArray := true,
        blank := bt.blank, precision := bt.precision }
    let r ← transduce m fastEmit
    grads := grads.modify i fun whole => Id.run do
      let mut w := whole
      for s in [0:t] do
        for p in [0:u] do
          w := w.modify s fun rows => rows.set! p ((r.gradients.getD s #[]).getD p #[] |>.map bt.precision.round)
      pure w
    let reg ← m.fastEmitTerm r.forwardVars fastEmit
    costs := costs ++ [bt.precision.round (r.loss + reg)]
  pure (costs, grads)

end Conversa.Speech
