import Conversa.Failure

/-!
# The Mersenne twister and the generators built on it

A twister holds 624 words and its next position, regenerating all at once (`twist`) and
tempering each draw; it is seeded by a word (`ofSeed`) or a key (`ofKey`).  A `Generator` adds a
kept normal deviate; draws are `random`, `below` (`range`, `choose`, `shuffle`), `masked`,
`gauss`.  Rejection loops run on 64 rounds of fuel, each failing with chance under one half.
-/

namespace Conversa.Numeric

/-- The state of a Mersenne twister: its words and the position of the next draw. -/
structure Twister where
  words : Array UInt32
  /-- The position of the next draw; at 624 or beyond the words are regenerated first. -/
  index : Nat
deriving Inhabited, BEq

namespace Twister

def size : Nat := 624

/-- The words that the seeding recurrence makes from a first word. -/
def seedWords (s : UInt32) : Array UInt32 :=
  (List.range (size - 1)).foldl (fun acc i =>
    let p := acc.back?.getD 0
    acc.push ((1812433253 : UInt32) * (p ^^^ (p >>> 30)) + (i + 1).toUInt32)) #[s]

def ofSeed (s : UInt32) : Twister := ⟨seedWords s, size⟩

/-- One step of mixing a key in: the word at `i` takes the word before it through `mult`, plus
`add`; past the end the position wraps to one and the last word is copied to the first. -/
def mixStep (mult add : UInt32) (ws : Array UInt32) (i : Nat) : Array UInt32 × Nat :=
  let p := ws.getD (i - 1) 0
  let ws := ws.setIfInBounds i ((ws.getD i 0 ^^^ ((p ^^^ (p >>> 30)) * mult)) + add)
  if i + 1 ≥ size then (ws.setIfInBounds 0 (ws.getD (size - 1) 0), 1) else (ws, i + 1)

def ofKey (key : List UInt32) : Twister :=
  let key := if key.isEmpty then [0] else key
  let (ws, i) := (List.range (max size key.length)).foldl (fun (ws, i) k =>
    let j := k % key.length
    mixStep 1664525 (key.getD j 0 + j.toUInt32) ws i) (seedWords 19650218, 1)
  let (ws, _) := (List.range (size - 1)).foldl (fun (ws, i) _ =>
    mixStep 1566083941 (0 - i.toUInt32) ws i) (ws, i)
  ⟨ws.setIfInBounds 0 0x80000000, size⟩

/-- The words of a natural number, lowest first; nought is one word. -/
def keyOf (n : Nat) : List UInt32 :=
  if n < 4294967296 then [n.toUInt32] else n.toUInt32 :: keyOf (n / 4294967296)
termination_by n
decreasing_by omega

/-- The words regenerated in order: each becomes the word 397 places on, mixed with its own top
bit and the low bits of the word after it; later words see those already replaced. -/
def twist (ws : Array UInt32) : Array UInt32 :=
  (List.range size).foldl (fun ws k =>
    let y := (ws.getD k 0 &&& 0x80000000) ||| (ws.getD ((k + 1) % size) 0 &&& 0x7fffffff)
    let mag : UInt32 := if y &&& 1 == 1 then 0x9908b0df else 0
    ws.setIfInBounds k (ws.getD ((k + 397) % size) 0 ^^^ (y >>> 1) ^^^ mag)) ws

def temper (y : UInt32) : UInt32 :=
  let y := y ^^^ (y >>> 11)
  let y := y ^^^ ((y <<< 7) &&& 0x9d2c5680)
  let y := y ^^^ ((y <<< 15) &&& 0xefc60000)
  y ^^^ (y >>> 18)

def next (t : Twister) : UInt32 × Twister :=
  let t := if t.index ≥ size then ⟨twist t.words, 0⟩ else t
  (temper (t.words.getD t.index 0), ⟨t.words, t.index + 1⟩)

end Twister

/-- The two families of generators: the standard one and the array library's. -/
inductive Family where
  | standard
  | array
deriving Inhabited, BEq, DecidableEq

/-- A generator: its family, its twister, and the normal deviate it keeps for its next draw. -/
structure Generator where
  family : Family
  twister : Twister
  spare : Option Float := none
deriving Inhabited

namespace Generator

/-- A standard generator seeded from an integer, by the words of its magnitude. -/
def standard (seed : Int) : Generator := ⟨.standard, Twister.ofKey (Twister.keyOf seed.natAbs), none⟩

def array (seed : Nat) : Generator := ⟨.array, Twister.ofSeed seed.toUInt32, none⟩

def word (g : Generator) : UInt32 × Generator :=
  let (w, t) := g.twister.next
  (w, { g with twister := t })

/-- A double in `[0, 1)`. -/
def random (g : Generator) : Float × Generator :=
  let (a, g) := g.word
  let (b, g) := g.word
  (((a >>> 5).toNat.toFloat * 67108864.0 + (b >>> 6).toNat.toFloat) / 9007199254740992.0, g)

def uniform (a b : Float) (g : Generator) : Float × Generator :=
  let (r, g) := g.random
  (a + (b - a) * r, g)

/-- `k` random bits: the top bits of one word for at most 32, else whole words lowest first, the
last cut to the bits still wanted. -/
def bits (k : Nat) (g : Generator) : Nat × Generator :=
  go k 0 0 (k / 32 + 1) g
where
  /-- Draws words while bits are wanted, each placed `shift` bits up. -/
  go (k shift acc : Nat) : Nat → Generator → Nat × Generator
    | 0, g => (acc, g)
    | fuel + 1, g =>
      if k == 0 then (acc, g)
      else
        let (w, g) := g.word
        let w := if k < 32 then w.toNat >>> (32 - k) else w.toNat
        go (k - min k 32) (shift + 32) (acc + (w <<< shift)) fuel g

/-- A number below `n`, for `n` above nought. -/
def below (n : Nat) (g : Generator) : Nat × Generator :=
  go 64 g
where
  go : Nat → Generator → Nat × Generator
    | 0, g => (0, g)
    | fuel + 1, g =>
      let (r, g) := g.bits (n.log2 + 1)
      if r < n then (r, g) else go fuel g

/-- A number from `start` up to but not including `stop`; an empty range is refused. -/
def range (start stop : Int) (g : Generator) : Result (Int × Generator) :=
  if stop - start > 0 then
    let (r, g) := g.below (stop - start).toNat
    .ok (start + r, g)
  else .error (.value s!"empty range for randrange() ({start}, {stop}, {stop - start})")

/-- An item of a list; an empty list is refused. -/
def choose {α : Type} (xs : List α) (g : Generator) : Result (α × Generator) :=
  match xs with
  | [] => .error (.index "Cannot choose from an empty sequence")
  | x :: _ =>
    let (i, g) := g.below xs.length
    .ok (xs.getD i x, g)

/-- A list shuffled in place from the back: each position in turn, from the last down to the
second, swaps with a position drawn below it or at it. -/
def shuffle {α : Type} (xs : List α) (g : Generator) : List α × Generator :=
  let arr := xs.toArray
  let (arr, g) := ((List.range arr.size).drop 1).reverse.foldl (fun (arr, g) i =>
    let (j, g) := g.below (i + 1)
    (arr.swapIfInBounds i j, g)) (arr, g)
  (arr.toList, g)

/-- A number from nought to `rng`, from words masked to the least power of two above it. -/
def masked (rng : UInt32) (g : Generator) : UInt32 × Generator :=
  if rng == 0 then (0, g)
  else if rng == 0xFFFFFFFF then g.word
  else go (Nat.pow 2 (rng.toNat.log2 + 1) - 1).toUInt32 64 g
where
  /-- Draws until a masked word is at most `rng`. -/
  go (mask : UInt32) : Nat → Generator → UInt32 × Generator
    | 0, g => (0, g)
    | fuel + 1, g =>
      let (w, g) := g.word
      if w &&& mask ≤ rng then (w &&& mask, g) else go mask fuel g

/-- A normal deviate: the kept one if there is one, else the second of a pair drawn by the
polar method, the first kept. -/
def gauss (g : Generator) : Float × Generator :=
  match g.spare with
  | some x => (x, { g with spare := none })
  | none => go 64 g
where
  /-- Draws points of the square until one falls inside the unit circle, off its centre. -/
  go : Nat → Generator → Float × Generator
    | 0, g => (0.0, g)
    | fuel + 1, g =>
      let (a, g) := g.random
      let (b, g) := g.random
      let x1 := 2.0 * a - 1.0
      let x2 := 2.0 * b - 1.0
      let r2 := x1 * x1 + x2 * x2
      if r2 ≥ 1.0 || r2 == 0.0 then go fuel g
      else
        let f := Float.sqrt (-2.0 * Float.log r2 / r2)
        (f * x2, { g with spare := some (f * x1) })

end Generator

end Conversa.Numeric
