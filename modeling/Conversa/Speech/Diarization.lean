import Conversa.Failure
import Conversa.Data.Json
import Conversa.Numeric.Printf
import Conversa.Numeric.Reading
import Conversa.Numeric.Summation

/-!
# Speaker diarization: time stamps of speakers

A diarization is a list of stamps `start end speaker`, one a line, in seconds.  Recordings are
named by their file name without its last extension.  Overlapping stamps are cut at the middle of
the overlap; touching stamps of one speaker are merged; a stamp is written as a reference line,
times to three places; regions of speech become manifest entries; and windows of a fixed length
every shift cover each segment, the last cut at its end.
-/

namespace Conversa.Speech

def readNumber (s : String) : Result Float :=
  match Numeric.readFloat? s with
  | some x => .ok x
  | none => .error (.value s!"could not convert string to float: {Text.quote s}")

def unpackMismatch (want got : Nat) : Failure :=
  if got < want then .value s!"not enough values to unpack (expected {want}, got {got})"
  else .value s!"too many values to unpack (expected {want})"

/-- The start, end and speaker of a stamp. -/
def stampFields (line : String) : Result (String × String × String) :=
  match Text.words line with
  | [a, b, c] => .ok (a, b, c)
  | ws => .error (unpackMismatch 3 ws.length)

def stampText (start stop speaker : String) : String := start ++ " " ++ stop ++ " " ++ speaker

/-- Stamps where each stamp that runs into the next is cut, with the next, at the middle of the
overlap; the last stamp of none is out of range. -/
def contiguousStamps (stamps : List String) : Result (List String) :=
  match stamps with
  | [] => .error .listIndex
  | first :: rest => do go (← stampFields first) rest []
where
  /-- The stamps from the current one (its fields, as cut so far) and the rest, after `acc`.  A
  cut stamp is joined with spaces and split again, which gives its fields back: the text of a
  double has no blank. -/
  go (current : String × String × String) (rest : List String) (acc : List String) :
      Result (List String) := do
    let (s, e, sp) := current
    match rest with
    | [] => pure (acc ++ [stampText s e sp])
    | next :: later =>
      let (ns, ne, nsp) ← stampFields next
      let stop ← readNumber e
      let nextStart ← readNumber ns
      if stop > nextStart then
        let middle := Numeric.floatText ((nextStart + stop) / 2.0)
        go (middle, ne, nsp) later (acc ++ [stampText s middle sp])
      else go (ns, ne, nsp) later (acc ++ [stampText s e sp])

/-- Stamps where each stamp that ends exactly where the next one of the same speaker starts is
joined with it; the last stamp of none is out of range. -/
def mergedStamps (stamps : List String) : Result (List String) :=
  match stamps with
  | [] => .error .listIndex
  | first :: rest => go first rest []
where
  /-- The stamps from the current one (as joined so far) and the rest, after `acc`. -/
  go (current : String) (rest : List String) (acc : List String) : Result (List String) := do
    match rest with
    | [] =>
      let (s, e, sp) ← stampFields current
      pure (acc ++ [stampText s e sp])
    | next :: later =>
      let (s, e, sp) ← stampFields current
      let (ns, ne, nsp) ← stampFields next
      if (← readNumber e) == (← readNumber ns) && sp == nsp then
        go (" ".intercalate [s, ne, nsp]) later acc
      else go next later (acc ++ [stampText s e sp])

def referenceLine (recording : String) (stamp : String) : Result String := do
  let (s, e, sp) ← stampFields (Text.strip stamp)
  let duration := (← readNumber e) - (← readNumber s)
  let start ← readNumber s
  pure s!"SPEAKER {recording} 1   {Numeric.fixedText start 3}   {Numeric.fixedText duration 3} <NA> <NA> {sp} <NA> <NA>\n"

/-- The name of a recording: its file name without the last extension. -/
def recordingName (path : String) : String :=
  let file := ((path.splitOn "/").getLast?).getD ""
  match (file.splitOn ".").dropLast with
  | [] => file
  | init => ".".intercalate init

/-- A mapping entry set: a key already present keeps its place and takes the new value. -/
def putEntry {α : Type} (m : List (String × α)) (k : String) (v : α) : List (String × α) :=
  if m.any (·.1 == k) then m.map fun e => if e.1 == k then (k, v) else e else m ++ [(k, v)]

/-- Recordings paired with their reference files by name, in the order of first appearance; no
references pair every recording with `-`.  Lists of different lengths, a recording without a
reference, or a reference without a recording are refused. -/
def pairRecordings (audio : List String) (references : Option (List String)) :
    Result (List (String × String × String)) := do
  let refs := references.getD (audio.map fun _ => "-")
  if audio.length != refs.length then throw (.assertion "")
  let (audioMap, refMap) := (audio.zip refs).foldl (fun (acc : List (String × String) × List (String × String)) (a, r) =>
    let name := recordingName a
    let refName := if references.isSome then recordingName r else name
    (putEntry acc.1 name a, putEntry acc.2 refName r)) ([], [])
  let pairs ← audioMap.mapM fun (k, a) => do
    match refMap.find? (·.1 == k) with
    | some (_, r) => pure (k, a, r)
    | none => throw (.key (Text.quote k))
  if refMap.length != audioMap.length then throw (.assertion "")
  pure pairs

def threePlaces (x : Float) : Result Float := readNumber (Numeric.fixedText x 3)

/-- The start and duration of a region line: fields 4 and 5 of a reference line, or the first
two of an activity line. -/
def regionOf (line : String) : Result (Float × Float) := do
  let fields := Text.words line
  let field (i : Nat) : Result String :=
    match fields[i]? with
    | some f => .ok f
    | none => .error .listIndex
  if fields.length > 3 then
    let start ← readNumber (← field 3)
    let dur ← readNumber (← field 4)
    let _ ← field 7
    pure (start, dur)
  else
    let start ← readNumber (← field 0)
    let dur ← readNumber (← field 1)
    let _ ← field 2
    pure (start, dur)

/-- A joined region so far: none before the first line. -/
abbrev Region := Option (Float × Float)

def regionEntry (audioPath : String) (r : Region) : Result Data := do
  match r with
  | none => pure (.dict [("audio_filepath", .str audioPath), ("offset", .int (-1)),
      ("duration", .float (← threePlaces 0.0)), ("label", .str "UNK")])
  | some (a, b) => pure (.dict [("audio_filepath", .str audioPath), ("offset", .float a),
      ("duration", .float (← threePlaces (b - a))), ("label", .str "UNK")])

/-- The manifest entries of the regions of a file's lines, and the failure that stopped it, if
one did: a region starting after the current one ends closes it. -/
def regionEntries (audioPath : String) (lines : List String) : List Data × Option Failure :=
  let step (acc : List Data × Region) (line : String) : Except (List Data × Failure) (List Data × Region) :=
    let (done, current) := acc
    match (do
      let (s, d) ← regionOf (Text.strip line)
      let start ← threePlaces s
      let dur ← threePlaces d
      match current with
      | some (a, b) =>
        if a ≥ 0 && start > b then
          let entry ← regionEntry audioPath current
          pure (done ++ [entry], some (start, start + dur))
        else if a == -1 then pure (done, some (start, start + dur))
        else pure (done, some (if start < a then start else a, if start + dur > b then start + dur else b))
      | none => pure (done, some (start, start + dur)) : Result (List Data × Region)) with
    | .ok r => .ok r
    | .error e => .error (done, e)
  match lines.foldlM step ([], none) with
  | .ok (done, current) =>
    match regionEntry audioPath current with
    | .ok e => (done ++ [e], none)
    | .error f => (done, some f)
  | .error (done, f) => (done, some f)

/-- The windows over one manifest segment, as stamps `start end ` to three places: from the
offset every shift, the number of windows that cover the segment, the last cut at its end.  A
shift of zero divides by zero. -/
def segmentWindows (offset duration window shift : Float) : Result (List String) := do
  if shift == 0 then throw ⟨"ZeroDivisionError", "float division by zero"⟩
  let sliceEnd := offset + duration
  let base := Numeric.ceilToInt ((duration - window) / shift)
  let slices : Nat := if base < 0 then 1 else (base + 1).toNat
  pure ((List.range slices).map fun i =>
    let start := if i == 0 then offset else offset + (i : Nat).toFloat * shift
    let stop := if start + window > sliceEnd then sliceEnd else start + window
    s!"{Numeric.fixedText start 3} {Numeric.fixedText stop 3} ")

end Conversa.Speech

/-!
## Affinity graphs between speech segments

From a square matrix of affinities between segments: `neighbourGraph` links each segment to its
`p` closest (of equal values the later counts as larger), `symmetricGraph` averages a graph with
its transpose, `laplacian` is the degree matrix less the matrix with its diagonal cleared, and
`eigengaps` are the differences of consecutive eigenvalues.
-/

namespace Conversa.Speech

/-- The positions of a row from its largest value to its smallest; of equal values the later
position comes first. -/
def descendingOrder (row : List Float) : List Nat :=
  ((row.zipIdx.mergeSort fun a b => decide (a.1 ≤ b.1)).map (·.2)).reverse

/-- The first `count` positions of a list as a slice to `count` takes them: a negative count
leaves out that many at the end. -/
def sliceTo {α : Type} (xs : List α) (count : Int) : List α :=
  if count ≥ 0 then xs.take count.toNat else xs.take (xs.length - count.natAbs)

/-- The graph of the `p` closest neighbours of each row: entry `(r, c)` is one when position `r`
is among the `p` largest of row `c`.  The matrix must be square for the marks to fit. -/
def neighbourGraph (rows : List (List Float)) (p : Int) : Result (List (List Nat)) := do
  let n := rows.length
  let chosen := rows.map fun row => sliceTo (descendingOrder row) p
  for (picks, c) in chosen.zipIdx do
    for r in picks do
      if r ≥ n then throw (.index s!"index {r} is out of bounds for axis 0 with size {n}")
    if !picks.isEmpty then
      let width := (rows.headD []).length
      if c ≥ width then throw (.index s!"index {c} is out of bounds for axis 1 with size {width}")
  let width := (rows.headD []).length
  pure ((List.range n).map fun r => (List.range width).map fun c =>
    if (chosen.getD c []).contains r then 1 else 0)

def symmetricGraph (graph : List (List Nat)) : List (List Float) :=
  let at_ (r c : Nat) : Float := ((graph.getD r []).getD c 0).toFloat
  (List.range graph.length).map fun r => (List.range graph.length).map fun c => 0.5 * (at_ r c + at_ c r)

/-- The Laplacian of a square matrix: the diagonal cleared, each row's degree on the diagonal and
the other values negated. -/
def laplacian (rows : List (List Float)) : List (List Float) :=
  let cleared := rows.zipIdx.map fun (row, i) => row.zipIdx.map fun (x, j) => if i == j then 0.0 else x
  cleared.zipIdx.map fun (row, i) =>
    let degree := Numeric.arraySum (row.map Float.abs)
    row.zipIdx.map fun (x, j) => (if i == j then degree else 0.0) - x

def eigengaps (lambdas : List Float) : List Float :=
  (lambdas.zip lambdas.tail).map fun (a, b) => b - a

end Conversa.Speech
