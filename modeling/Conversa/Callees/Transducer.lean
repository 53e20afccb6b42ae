import Conversa.Entry.Arrays
import Conversa.Entry.Call
import Conversa.Speech.Transducer

/-!
# The transducer loss by name

The reference computation of the transducer loss on arrays: the forward and backward passes,
the gradient and FastEmit terms from given tables, `transduce` for one sequence and
`transduce_batch` for a batch.  Log-probabilities of the wrong rank fail where their shape is
unpacked.
-/

namespace Conversa.Callees

open Entry Speech

/-- The number of dimensions of nested lists, read along their first elements. -/
def rankOf : Data → Nat
  | .list (x :: _) => rankOf x + 1
  | .list [] => 1
  | _ => 0

/-- Nested lists of numbers as an array of doubles, one level per dimension. -/
def floatRows (d : Data) : Array Float := (d.items.map number).toArray

/-- A three-dimensional array of numbers, each rounded to a precision as the array holds it. -/
def cubeOf (p : Precision) (d : Data) : Cube :=
  (d.items.map fun r => (r.items.map fun x => (floatRows x).map p.round).toArray).toArray

def gridOf (d : Data) : Grid := (d.items.map floatRows).toArray

def innerSize (d : Data) : Nat := (d.items.headD .null).items.length

/-- A whole number of an argument, zero when it is not one. -/
def wholeOf (d : Data) : Int := (plain d).int?.getD 0

def labelsOf (d : Data) : Array Int × Bool :=
  ((plain d).items.map wholeOf |>.toArray, (arrayArg? d).isSome)

/-- The lattice of a log-probability argument, its labels and blank. -/
def latticeOf (lp labels blank : Data) : Result Lattice := do
  let (elems, dtype) := arrayOf lp
  let rank := rankOf elems
  if rank ≠ 3 then throw (.unpack 3 rank)
  let (ls, isArray) := labelsOf labels
  let p := Precision.ofType dtype
  pure { logProbs := cubeOf p elems, positions := innerSize elems,
         symbols := innerSize (elems.items.headD .null), labels := ls, labelsArray := isArray,
         blank := wholeOf blank, precision := p }

def gridData (g : Grid) : Data := .dict [("dtype", .str "float32"),
  ("ndarray", .list (g.toList.map fun r => .floats r.toList))]

def cubeData (dtype : String) (c : Cube) : Data := .dict [("dtype", .str dtype),
  ("ndarray", .list (c.toList.map fun t => .list (t.toList.map fun u => .floats u.toList)))]

def gridPrecision (d : Data) : Precision := Precision.ofType (arrayOf d).2

def forwardPassCallee : Callee :=
  function "forward_pass" [req "log_probs", req "labels", req "blank"] fun vals => do
    let m ← latticeOf (arg vals 0) (arg vals 1) (arg vals 2)
    let (a, ll) ← m.forward
    pure (.list [gridData a, .float ll])

def backwardPassCallee : Callee :=
  function "backward_pass" [req "log_probs", req "labels", req "blank"] fun vals => do
    let m ← latticeOf (arg vals 0) (arg vals 1) (arg vals 2)
    let (b, ll) ← m.backward
    pure (.list [gridData b, .float ll])

def gradientCallee : Callee :=
  function "compute_gradient" [req "log_probs", req "alphas", req "betas", req "labels",
      req "blank", req "fastemit_lambda"] fun vals => do
    let m ← latticeOf (arg vals 0) (arg vals 3) (arg vals 4)
    let a := arg vals 1
    let b := arg vals 2
    let q := if gridPrecision a = .double ∨ gridPrecision b = .double then .double else .single
    let g ← (m.gradient q (gridOf (plain a)) (gridOf (plain b))
      (number (plainArg vals 5)))
    pure (cubeData "float64" g)

def fastEmitCallee : Callee :=
  function "fastemit_regularization" [req "log_probs", req "labels", req "alphas", req "betas",
      req "blank", req "fastemit_lambda"] fun vals => do
    let m ← latticeOf (arg vals 0) (arg vals 1) (arg vals 4)
    let reg ← (m.fastEmitTerm (gridOf (plainArg vals 2))
      (number (plainArg vals 5)))
    pure (.float reg)

def transduceCallee : Callee :=
  function "transduce" [req "log_probs", req "labels", opt "blank" (.int 0),
      opt "fastemit_lambda" (.float 0)] fun vals => do
    let m ← latticeOf (arg vals 0) (arg vals 1) (arg vals 2)
    let r ← transduce m (number (plainArg vals 3))
    pure (.list [.float r.loss, cubeData "float64" r.gradients, gridData r.forwardVars,
      gridData r.backwardVars])

def transduceBatchCallee : Callee :=
  function "transduce_batch" [req "log_probs", req "labels", req "flen", req "glen",
      opt "blank" (.int 0), opt "fastemit_lambda" (.float 0)] fun vals => do
    let (elems, dtype) := arrayOf (arg vals 0)
    let item := elems.items.headD .null
    let wholes (d : Data) : Array Int := ((plain d).items.map wholeOf).toArray
    let bt : Batch :=
      { logProbs := (elems.items.map (cubeOf (Precision.ofType dtype))).toArray, positions := innerSize item,
        symbols := innerSize (item.items.headD .null),
        labels := ((plainArg vals 1).items.map wholes).toArray,
        frameCounts := wholes (arg vals 2), labelCounts := wholes (arg vals 3),
        blank := wholeOf (arg vals 4), precision := Precision.ofType dtype }
    let (costs, grads) ← transduceBatch bt (number (plainArg vals 5))
    pure (.list [.floats costs, .list (grads.toList.map fun c => (cubeData dtype c).getD "ndarray")
      |> fun rows => .dict [("dtype", .str dtype), ("ndarray", rows)]])

def transducerCallees : List (String × Callee) :=
  let target := "nemo.collections.asr.parts.numba.rnnt_loss.rnnt_numpy:"
  [(target ++ "forward_pass", forwardPassCallee), (target ++ "backward_pass", backwardPassCallee),
   (target ++ "compute_gradient", gradientCallee),
   (target ++ "fastemit_regularization", fastEmitCallee),
   (target ++ "transduce", transduceCallee), (target ++ "transduce_batch", transduceBatchCallee)]

end Conversa.Callees
