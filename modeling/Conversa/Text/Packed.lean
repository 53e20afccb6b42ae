/-!
# Packed texts

Long texts of data are kept packed a bit at a time, most significant first.  Each bit is predicted
from ten hashed contexts and from the longest earlier match of five bytes; the predictions are
mixed by three sets of learnt weights and refined by the byte before.  A binary range coder writes
the bits as a number in base 86, one printable character a digit, line ends skipped.
-/

namespace Conversa.Text

/-- The digit a character of a packed text stands for: the printable characters, from the blank,
are `0` to `85` in order, leaving out the quotes, the backslash, the braces, `#`, `-` and `/`. -/
def codeDigit (c : Char) : Nat :=
  c.toNat - 32 - ([34, 35, 39, 45, 47, 92, 96, 123, 125].filter (· < c.toNat)).length

/-- The logistic function at 33 points, out of 4096. -/
def squashPoints : Array Nat := #[1, 2, 3, 6, 10, 16, 27, 45, 73, 120, 194, 310, 488, 747, 1101,
  1546, 2047, 2549, 2994, 3348, 3607, 3785, 3901, 3975, 4024, 4050, 4068, 4079, 4085, 4089, 4092,
  4093, 4094]

/-- The logistic function of `d / 256`, out of 4096, interpolated between its points. -/
def squash (d : Int) : Nat :=
  let e := (max (-2047) (min 2047 d) + 2048).toNat
  (squashPoints.getD (e / 128) 0 * (128 - e % 128) + squashPoints.getD (e / 128 + 1) 0 * (e % 128)
    + 64) / 128

/-- The inverse of `squash`: for each probability the least point that `squash` takes to it. -/
def stretchTable : Array Int :=
  let t := (List.range 4094).foldl (fun (t : Array Int) i =>
    t ++ .replicate (squash (i - 2047 : Int) + 1 - t.size) (i - 2047 : Int)) #[]
  t ++ .replicate (4096 - t.size) 2047

def stretch (p : Nat) : Int := stretchTable.getD p 0

def hashStep (h b : UInt32) : UInt32 := (h + b + 1) * 0x9E3779B1

/-- Where decoding a packed text stands: the digits left, the code and the width of the range
read so far, the model, and the bytes out with what the model keeps of them. -/
structure Unpacking where
  digits : List Nat
  code : Nat
  range : Nat
  /-- Per hashed context and bit: the probability of a `1` out of 65536, times 16, plus the
  number of times seen (at most 6). -/
  counts : Array Nat
  /-- The three sets of mixing weights, in 65536ths, 11 a row. -/
  weights : Array Int
  /-- The refinement of a mixed probability by the byte before: 33 points a context. -/
  refined : Array Nat
  /-- How often a match of each length (up to 15) predicts its next bit right, out of 65536. -/
  hits : Array Nat
  /-- Per hash of five bytes, the position after they were last seen, plus one. -/
  seen : Array Nat
  out : ByteArray
  word : UInt32
  lineStart : Nat
  lineFirst : UInt32
  /-- The position whose byte the current match predicts next, and the match's length. -/
  matchEnd : Nat
  matchLength : Nat

/-- Widens the range by a digit while it is below `86 ^ 4`; a decision narrows it by at most
4096, which two digits make up. -/
def Unpacking.normalize (s : Unpacking) : Nat → Unpacking
  | 0 => s
  | n + 1 =>
    if s.range < 54700816 then
      match s.digits with
      | d :: ds => { s with digits := ds, code := s.code * 86 + d, range := s.range * 86 }.normalize n
      | [] => { s with code := s.code * 86, range := s.range * 86 }.normalize n
    else s

/-- The byte `j` places back from the end of the output, or `0` before its start. -/
def Unpacking.back (s : Unpacking) (j : Nat) : UInt32 :=
  if j ≤ s.out.size then (s.out.get! (s.out.size - j)).toUInt32 else 0

/-- The contexts of the next byte, hashed: the last 0, 1, 2, 3, 4 and 6 bytes; the word it goes
on with the byte before; the first byte of its line and its column; the two bytes before the
last; the byte the match predicts and the match's length. -/
def Unpacking.contexts (s : Unpacking) : Array UInt32 :=
  let last (seed n : Nat) := (List.range n).foldl (fun h j => hashStep h (s.back (j + 1)))
    seed.toUInt32
  #[last 1 0, last 2 1, last 3 2, last 4 3, last 5 4, last 6 6,
    hashStep (hashStep 9 s.word) (s.back 1),
    hashStep (hashStep 11 s.lineFirst) (min 20 (s.out.size - s.lineStart)).toUInt32,
    hashStep (hashStep 12 (s.back 2)) (s.back 3),
    hashStep (hashStep 13 (if s.matchLength > 0 then (s.out.get! s.matchEnd).toUInt32 else 0))
      (min 15 s.matchLength).toUInt32]

/-- A probability out of 65536 moved toward the bit by `f / 16384` of the way. -/
def learnPoint (bit p f : Nat) : Nat :=
  if bit = 1 then p + (65536 - p) * f / 16384 else p - p * f / 16384

/-- A counter moved toward the bit by `2 / (2n + 3)` of the way, `n` the times it was seen. -/
def learnCount (bit e : Nat) : Nat :=
  let n := e % 16
  let p := e / 16
  let p := if bit = 1 then p + (65536 - p) * 2 / (2 * n + 3) else p - p * 2 / (2 * n + 3)
  p * 16 + min 6 (n + 1)

/-- The weighted sum of the inputs by the row `row` of weights, in 256ths. -/
def mixRow (w inputs : Array Int) (row : Nat) : Int := Id.run do
  let mut acc : Int := 0
  for k in [0:11] do
    acc := acc + w.getD (row * 11 + k) 0 * inputs.getD k 0
  return acc / 65536

/-- The row `row` of weights moved against the error `err` of its mix. -/
def trainRow (w inputs : Array Int) (row : Nat) (err : Int) : Array Int := Id.run do
  let mut w := w
  for k in [0:11] do
    w := w.modify (row * 11 + k) (· + inputs.getD k 0 * err / 16384)
  return w

/-- Decodes bit `b` of the byte (counted from the least significant) given its bits so far,
`node` (after a leading `1`): predicts it, reads it and learns from it. -/
def Unpacking.decodeBit (s : Unpacking) (ctx : Array UInt32) (node b : Nat) : Unpacking × Nat :=
  let slots := ctx.map fun h => ((h + node.toUInt32) * 0x9E3779B1).toNat / 256
  let predicted := (s.out.get! s.matchEnd).toNat
  -- the match speaks only while its byte agrees with the bits read so far
  let agrees := s.matchLength > 0 && (predicted ||| 256) >>> (b + 1) == node
  let hit := min 15 s.matchLength * 2 + predicted >>> b % 2
  let inputs := (slots.map fun i => stretch (s.counts.getD i 0 / 256)).push
    (if agrees then stretch (s.hits.getD hit 0 / 16) else 0)
  let level := if !agrees then 0 else if s.matchLength > 8 then 3 else if s.matchLength > 3 then 2 else 1
  let c1 := (s.back 1).toNat
  let row0 := level * 256 + node
  let row1 := 1024 + c1 * 256 + node
  let row2 := 66560 + s.lineFirst.toNat * 256 + node
  let mix0 := mixRow s.weights inputs row0
  let mix1 := mixRow s.weights inputs row1
  let mix2 := mixRow s.weights inputs row2
  let p := squash ((mix0 + mix1 + mix2) / 3)
  let e := (stretch p + 2048).toNat
  let cell := (c1 * 256 + node) * 33 + e / 128
  let r := (s.refined.getD cell 0 * (128 - e % 128) + s.refined.getD (cell + 1) 0 * (e % 128)) / 2048
  let bound := s.range / 4096 * (4096 - min 4095 (max 1 ((p + r + 1) / 2)))
  let bit := if s.code < bound then 0 else 1
  let err (mix : Int) : Int := ((bit * 4096 : Nat) - squash mix : Int) * 14
  let s := { s with
    code := if bit = 0 then s.code else s.code - bound
    range := if bit = 0 then bound else s.range - bound
    weights := trainRow (trainRow (trainRow s.weights inputs row0 (err mix0)) inputs row1 (err mix1))
      inputs row2 (err mix2)
    refined := (s.refined.modify cell (learnPoint bit · (128 - e % 128))).modify (cell + 1)
      (learnPoint bit · (e % 128))
    counts := slots.foldl (fun c i => c.modify i (learnCount bit)) s.counts
    hits := if agrees then s.hits.modify hit fun q => learnPoint bit q 1024 else s.hits }
  (s.normalize 2, bit)

/-- Appends a decoded byte and follows the word, the line and the match it ends. -/
def Unpacking.push (s : Unpacking) (c : UInt8) : Unpacking :=
  let pos := s.out.size
  let out := s.out.push c
  let lineStart := if c == 10 then pos + 1 else s.lineStart
  let (matchEnd, matchLength) :=
    if s.matchLength > 0 && out.get! s.matchEnd == c then (s.matchEnd + 1, s.matchLength + 1)
    else (s.matchEnd, 0)
  let key := ((List.range 5).foldl (fun h j => hashStep h (out.get! (pos - j)).toUInt32) 0).toNat
    / 1024
  let cand := s.seen.getD key 0
  -- a new match starts where the last five bytes were last seen, if they really were
  let found := pos ≥ 4 && matchLength == 0 && cand > 0 &&
    (List.range 5).all fun j => out.get! (cand - 1 - j) == out.get! (pos - j)
  { s with
    out
    word := if (Char.ofNat c.toNat).isAlphanum || c == 95 then hashStep s.word c.toUInt32 else 0
    lineStart
    lineFirst := if pos = lineStart then c.toUInt32 else s.lineFirst
    matchEnd := if found then cand else matchEnd
    matchLength := if found then 1 else matchLength
    seen := if pos ≥ 4 then s.seen.set! key (pos + 1) else s.seen }

def Unpacking.decodeByte (s : Unpacking) : Unpacking :=
  let ctx := s.contexts
  let (s, node) := (List.range 8).foldl (fun (s, node) i =>
    let (s, bit) := s.decodeBit ctx node (7 - i)
    (s, node * 2 + bit)) (s, 1)
  s.push (node - 256).toUInt8

/-- The text of `size` bytes that a packed text stands for. -/
def unpack (size : Nat) (packed : String) : String :=
  let digits := (packed.toList.filter (· ≠ '\n')).map codeDigit
  let start : Unpacking :=
    ⟨digits.drop 5, (List.range 5).foldl (fun c i => c * 86 + digits.getD i 0) 0, 4704270176,
      .replicate (1 <<< 24) 524288, .replicate (132096 * 11) 11915,
      (Array.range (65536 * 33)).map fun i => squashPoints.getD (i % 33) 0 * 16, .replicate 32 32768,
      .replicate (1 <<< 22) 0, .empty, 0, 0, 0, 0, 0⟩
  (String.fromUTF8? ((List.range size).foldl (fun s _ => s.decodeByte) start).out).getD ""

end Conversa.Text
