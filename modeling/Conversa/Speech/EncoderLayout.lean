import Conversa.Failure

/-!
# Layouts of convolutional speech encoders

An encoder is a stack of blocks, each with filters, repeats, a kernel with stride and dilation, a
dropout and residual, dense-residual and separable flags; the named layouts are fixed stacks.  A
block's padding keeps its input's length: half the dilated kernel's reach each side, or for a
look-ahead block that many frames right and the rest left.
-/

namespace Conversa.Speech

/-- One block of a convolutional encoder. -/
structure BlockLayout where
  filters : Nat
  repeats : Nat := 1
  kernel : Nat
  stride : Nat := 1
  dilation : Nat := 1
  dropout : Float := 0.0
  /-- Whether the block has a residual connection. -/
  residual : Bool := false
  /-- Whether the residual connection comes from every earlier block. -/
  residualDense : Bool := false
  separable : Bool := false

namespace BlockLayout

/-- The blocks of the keyword classifier, which the activity detector shares. -/
def classifier : List BlockLayout :=
  [{ filters := 128, kernel := 11, separable := true },
   { filters := 64, kernel := 13, residual := true, separable := true },
   { filters := 64, kernel := 15, residual := true, separable := true },
   { filters := 64, kernel := 17, residual := true, separable := true },
   { filters := 128, kernel := 29, dilation := 2, separable := true },
   { filters := 128, kernel := 1 }]

def separableGroup (filters kernel : Nat) : List BlockLayout :=
  List.replicate 3 { filters, kernel, repeats := 5, residual := true, separable := true }

def recogniser15x5 : List BlockLayout :=
  [{ filters := 256, kernel := 33, stride := 2, separable := true }] ++
  separableGroup 256 33 ++ separableGroup 256 39 ++ separableGroup 512 51 ++
  separableGroup 512 63 ++ separableGroup 512 75 ++
  [{ filters := 512, kernel := 87, dilation := 2, separable := true },
   { filters := 1024, kernel := 1 }]

def densePair (filters kernel : Nat) (dropout : Float) : List BlockLayout :=
  List.replicate 2 { filters, kernel, dropout, repeats := 5, residual := true, residualDense := true }

def recogniser10x5 : List BlockLayout :=
  [{ filters := 256, kernel := 11, stride := 2, dropout := 0.2 }] ++
  densePair 256 11 0.2 ++ densePair 384 13 0.2 ++ densePair 512 17 0.2 ++
  densePair 640 21 0.3 ++ densePair 768 25 0.3 ++
  [{ filters := 896, kernel := 29, dilation := 2, dropout := 0.4 },
   { filters := 1024, kernel := 1, dropout := 0.4 }]

end BlockLayout

namespace Convolution

def strideAndDilation : Failure := .value "Only stride OR dilation may be greater than 1"

/-- A scaled kernel width made odd: at least one, and one wider when even. -/
def oddWidth (width : Int) : Int :=
  let w := max width 1
  if w % 2 == 0 then w + 1 else w

def samePadding (kernel stride dilation : Int) : Result Int :=
  if stride > 1 && dilation > 1 then .error strideAndDilation
  else .ok (Int.fdiv (dilation * (kernel - 1)) 2)

/-- The padding of a convolution that looks `future` frames ahead: symmetric when the kernel
sees no further than that, else that many frames (dilated) on the right and the rest of the
kernel's reach on the left. -/
def lookaheadPadding (kernel stride dilation future : Int) : Result (Sum Int (Int × Int)) := do
  let symmetric ← samePadding kernel stride dilation
  if kernel ≤ future then return .inl symmetric
  if dilation > 1 then return .inr (dilation * kernel - 1 - dilation * future, dilation * future)
  pure (.inr (kernel - 1 - future, future))

end Convolution

end Conversa.Speech
