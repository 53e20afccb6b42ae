import Conversa.Failure
import Conversa.Numeric.Printf
import Conversa.Numeric.Reading

/-!
# Voice activity: smoothing frame predictions

Smoothing gives each frame of a finer sequence the mean or median of the window scores covering
it (a `shift_len` step being `⌊shift_len / 0.01⌋` frames, a window `⌊seg_len / 0.01 + 1⌋`), an
uncovered frame the last value, rounded to four places.  A manifest's snippets are marked
`single`, or `start`, `next` … `end` along one recording.
-/

namespace Conversa.Speech

/-- How the scores covering a frame are combined. -/
inductive Smoothing where
  | mean
  | median
deriving DecidableEq, Inhabited, Repr

def jumpFailure (jump : Int) : Failure :=
  .value ("Note we jump over frame sequence to generate overlapping input segments. \n" ++
    "             Your input makes jump_on_fram=" ++ toString jump ++
    " < 1 which is invalid because it cannot jump and will stuck.\n" ++
    "             Please try different seg_len, shift_len and overlap choices. \n" ++
    "             jump_on_target = int(seg * (1 - overlap)) \n" ++
    "             jump_on_frame  = int(jump_on_frame/shift) ")

/-- The integer part of a double, toward zero. -/
def wholePart (x : Float) : Int := Numeric.truncToInt x

/-- The shift and window in target frames and the step between windows in scores. -/
def windowPlan (overlap segLen shiftLen : Float) : Result (Nat × Nat × Nat) := do
  let shift := wholePart (shiftLen / 0.01)
  let seg := wholePart (segLen / 0.01 + 1.0)
  let jumpTarget := wholePart (Numeric.ofInt seg * (1.0 - overlap))
  if shift == 0 then throw ⟨"ZeroDivisionError", "division by zero"⟩
  let jump := wholePart (Numeric.divInt jumpTarget shift)
  if jump < 1 then throw (jumpFailure jump)
  pure (shift.toNat, seg.toNat, jump.toNat)

/-- The target frames each score's window covers: from `i · shift`, `seg` frames, within the
target length. -/
def coveredFrames (shift seg jump targetLen : Nat) (frames : List Float) : List (List Float) :=
  let starts := frames.zipIdx.filterMap fun (x, i) => if i % jump == 0 then some (x, i * shift) else none
  (List.range targetLen).map fun j =>
    starts.filterMap fun (x, start) => if start ≤ j && j < start + seg then some x else none

/-- The median of values: the middle one, or the mean of the two middle ones. -/
def medianOf (xs : List Float) : Option Float :=
  let s := xs.mergeSort fun a b => a ≤ b
  let n := s.length
  if n == 0 then none
  else if n % 2 == 1 then s[n / 2]?
  else match s[n / 2 - 1]?, s[n / 2]? with
    | some a, some b => some ((a + b) / 2.0)
    | _, _ => none

def meanOf (xs : List Float) : Option Float :=
  if xs.isEmpty then none else some (xs.foldl (· + ·) 0.0 / Numeric.ofInt xs.length)

/-- Gaps filled with the last value present. -/
def fillGaps (vals : List (Option Float)) : Result (List Float) := do
  let some last := (vals.filterMap id).getLast?
    | throw (.index "index -1 is out of bounds for axis 0 with size 0")
  pure (vals.map fun v => v.getD last)

/-- The smoothed target sequence of scores, rounded to four places. -/
def smoothScores (how : Smoothing) (overlap segLen shiftLen : Float) (frames : List Float) :
    Result (List Float) := do
  let (shift, seg, jump) ← windowPlan overlap segLen shiftLen
  let covered := coveredFrames shift seg jump (frames.length * shift) frames
  let vals := covered.map fun xs => match how with
    | .mean => meanOf xs
    | .median => medianOf xs
  pure ((← fillGaps vals).map fun x => Numeric.roundEven x 4)

def scoresText (xs : List Float) : String := String.join (xs.map fun x => Numeric.scientificText x 18 ++ "\n")

/-- The scores of a text of one number a line; blank lines and comments after `#` are skipped. -/
def readScores (text : String) : Result (List Float) :=
  (text.splitOn "\n").filterMap (fun l =>
      let l := Text.strip (((l.splitOn "#").head?).getD "")
      if l.isEmpty then none else some l) |>.mapM fun l =>
    match Numeric.readFloat? l with
    | some x => .ok x
    | none => .error (.value s!"could not convert string to float: {l}")

/-- The status of each snippet in a run of snippets of one file. -/
def streamStatus {α : Type} [BEq α] (data : List α) : List String :=
  match data with
  | [_] => ["single"]
  | _ =>
    data.zipIdx.map fun (x, i) =>
      let prev := if i == 0 then none else data[i - 1]?
      let next := data[i + 1]?
      let samePrev := prev == some x
      let sameNext := next == some x
      if i == 0 then (if sameNext then "start" else "single")
      else if i + 1 == data.length then (if samePrev then "end" else "single")
      else if !samePrev && sameNext then "start"
      else if samePrev && sameNext then "next"
      else if samePrev && !sameNext then "end"
      else "single"

end Conversa.Speech
