import Conversa.Entry.Instance
import Conversa.Numeric.Printf
import Conversa.Text.Slice

/-!
# Stretches of audio

A segment holds single-precision samples and their rate.  `rmsLevel` is ten times the decimal
logarithm of the mean square, each step in single precision, the squares summed in eight lanes
(`laneSum`).  `amplified` scales by `10^(gain/20)`; `cutBounds` keeps the samples between two
times, a negative time counting from the end, and refuses times out of bounds.
-/

namespace Conversa.Callees

open Entry

def singleSamples (d : Data) : List Float32 :=
  (arrayOf d).1.items.map fun x => (number x).toFloat32

def samplesData (xs : List Float32) : Data :=
  .dict [("$np", .list (xs.map fun x => .float x.toFloat)), ("dtype", .str "float32")]

def runningSum (xs : List Float32) : Float32 := xs.foldl (· + ·) 0

def addLanes (a b : List Float32) : List Float32 := List.zipWith (· + ·) a b

/-- The sum of single-precision values as array libraries take it: under eight added in turn; up
to 128 in eight lanes meeting pairwise, then the values past the last full eight; longer lists
split at a multiple of eight near their middle and the halves summed apart. -/
def laneSum (xs : List Float32) : Float32 :=
  let n := xs.length
  if n < 8 then runningSum xs
  else if n ≤ 128 then
    let full := n - n % 8
    let blocks := (List.range (full / 8)).map fun i => (xs.drop (8 * i)).take 8
    let lanes := (blocks.drop 1).foldl addLanes (blocks.headD [])
    let r (i : Nat) : Float32 := lanes.getD i 0
    let paired := ((r 0 + r 1) + (r 2 + r 3)) + ((r 4 + r 5) + (r 6 + r 7))
    (xs.drop full).foldl (· + ·) paired
  else
    let half := n / 2 - (n / 2) % 8
    laneSum (xs.take half) + laneSum (xs.drop half)
termination_by xs.length
decreasing_by
  all_goals simp only [List.length_take, List.length_drop]
  all_goals omega

/-- The decimal logarithm in single precision: the binary logarithm scaled by `log10 2`. -/
def singleLog10 (x : Float32) : Float32 :=
  (Float.log2 x.toFloat * (Float.log10 2.0).toFloat32.toFloat).toFloat32

/-- The level of samples in decibels: ten times the decimal logarithm of their mean square. -/
def rmsLevel (xs : List Float32) : Float32 :=
  let squares := xs.map fun x => x * x
  let mean := (laneSum squares).toFloat / xs.length.toFloat
  10 * singleLog10 mean.toFloat32

def amplified (gain : Float) (xs : List Float32) : List Float32 :=
  let factor := (Float.pow 10.0 (gain / 20.0)).toFloat32
  xs.map (· * factor)

/-- The sample positions of a cut between two times, each defaulting to an end of the segment
and counted back from the end when negative, or the failure naming the bound out of range. -/
def cutBounds (duration rate : Float) (start stop : Option Float) : Result (Int × Int) := do
  let start := start.getD 0.0
  let stop := stop.getD duration
  let start := if start < 0.0 then duration + start else start
  let stop := if stop < 0.0 then duration + stop else stop
  let at6 (x : Float) : String := Numeric.fixedText x 6
  if start < 0.0 then throw (.value s!"The slice start position ({at6 start} s) is out of bounds.")
  if stop < 0.0 then throw (.value s!"The slice end position ({at6 stop} s) is out of bounds.")
  if start > stop then
    throw (.value s!"The slice start position ({at6 start} s) is later than the end position ({at6 stop} s).")
  if stop > duration then
    throw (.value s!"The slice end position ({at6 stop} s) is out of bounds (> {at6 duration} s)")
  pure (Numeric.truncToInt (Numeric.roundToEven (start * rate)),
    Numeric.truncToInt (Numeric.roundToEven (stop * rate)))

/-- The failure of converting samples: the converter looks up integer and float types in a table
that the array library no longer has, after asking the samples for a copy of another type. -/
def conversionFailure (samples : Data) : Failure :=
  match arrayArg? samples with
  | some _ => ⟨"AttributeError",
      "\x60np.sctypes\x60 was removed in the NumPy 2.0 release. Access dtypes explicitly instead."⟩
  | none => noAttribute (plain samples).kindName "astype"

def segmentClass : String := "nemo.collections.asr.parts.preprocessing.segment.AudioSegment"

def ownSamples : Method (List Float32) := do pure (singleSamples (← Method.attr "_samples"))

def ownRate : Method Float := do
  let rate ← Method.attr "_sample_rate"
  pure (number (plain rate))

/-- The duration of the segment a method acts on, in seconds. -/
def ownDuration : Method Float := do
  let n := (← ownSamples).length
  let rate ← ownRate
  if rate == 0.0 then Method.fail ⟨"ZeroDivisionError", "float division by zero"⟩
  pure (n.toFloat / rate)

/-- A time argument: nothing, or a number of seconds. -/
def timeArg (d : Data) : Option Float :=
  match plain d with
  | .null => none
  | other => some (number other)

/-- Whether two segments are equal: the other is a segment of the same rate whose samples agree
one by one. -/
def sameSegment (other : Data) : Method Bool := do
  if className? (plain other) != some "AudioSegment" then return false
  let rate ← Method.attr "_sample_rate"
  let otherRate ← Entry.attr other "_sample_rate"
  if !(plain rate).same (plain otherRate) then return false
  let mine ← ownSamples
  let theirs := singleSamples (← Entry.attr other "_samples")
  pure (mine.length == theirs.length && (List.zipWith (fun a b => a == b) mine theirs).all id)

def audioSegmentCallees : List (String × Callee) :=
  let m := "nemo.collections.asr.parts.preprocessing.segment:AudioSegment"
  [(m, functionOf "AudioSegment"
      [req "samples", req "sample_rate", opt "target_sr" .null, opt "trim" (.bool false),
       opt "trim_db" (.int 60), opt "orig_sr" .null] fun vals =>
      Work.fail (conversionFailure (arg vals 0))),
   (m ++ "._convert_samples_to_float32", functionOf "_convert_samples_to_float32" [req "samples"] fun vals =>
      Work.fail (conversionFailure (arg vals 0))),
   (m ++ ".subsegment", method "subsegment" [opt "start_time" .null, opt "end_time" .null] fun vals => do
      let xs ← ownSamples
      let (lo, hi) ← (cutBounds (← ownDuration) (← ownRate)
        (timeArg (arg vals 0)) (timeArg (arg vals 1)))
      Method.setAttr "_samples" (samplesData (Text.span xs lo hi))
      pure .null),
   (m ++ ".gain_db", method "gain_db" [req "gain"] fun vals => do
      let xs ← ownSamples
      Method.setAttr "_samples" (samplesData (amplified (number (plainArg vals 0)) xs))
      pure .null),
   (m ++ ".__eq__", method "__eq__" [req "other"] fun vals => do
      pure (.bool (← sameSegment (arg vals 0)))),
   (m ++ ".__ne__", method "__ne__" [req "other"] fun vals => do
      pure (.bool !(← sameSegment (arg vals 0)))),
   (m ++ ".__str__", method "__str__" [] fun _ => do
      let xs ← ownSamples
      let rate ← Method.attr "_sample_rate"
      let duration := Numeric.fixedText (← ownDuration) 2
      let level := Numeric.fixedText (rmsLevel xs).toFloat 2
      let count := xs.length
      let rateText := toString (Numeric.truncToInt (number (plain rate)))
      pure (.str s!"<class {Text.quote segmentClass}>: num_samples={count}, sample_rate={rateText}, duration={duration}sec, rms={level}dB")),
   (m ++ ".samples.fget", method "samples" [] fun _ => do
      pure (arrayShown (samplesData (← ownSamples)))),
   (m ++ ".sample_rate.fget", method "sample_rate" [] fun _ => Method.attr "_sample_rate"),
   (m ++ ".orig_sr.fget", method "orig_sr" [] fun _ => Method.attr "_orig_sr"),
   (m ++ ".num_samples.fget", method "num_samples" [] fun _ => do
      pure (.int (← ownSamples).length)),
   (m ++ ".duration.fget", method "duration" [] fun _ => do pure (.float (← ownDuration))),
   (m ++ ".rms_db.fget", method "rms_db" [] fun _ => do
      pure (.float (rmsLevel (← ownSamples)).toFloat))]

end Conversa.Callees
