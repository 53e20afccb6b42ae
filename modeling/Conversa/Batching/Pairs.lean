import Conversa.Failure

/-!
# Batches of sentence pairs

A corpus trains in batches of about `tokensInBatch` tokens, padding included.  Pairs are bucketed
by source length, ordered by target length; the packer takes the front pair of the current or
next bucket, whichever pads less, and a batch past the budget keeps the largest multiple of eight
leaving one over.  Cleaning drops pairs too long, short, uneven, or with equal sides.
-/

namespace Conversa.Batching

/-- The packer's state: the buckets by source length, each a queue of (target length, position);
the current bucket; the batches so far, the last one open; its size; and the padded lengths. -/
structure Packer where
  /-- The buckets, by increasing source length. -/
  buckets : List (Nat × List (Nat × Nat))
  pos : Nat
  /-- The batches so far; the last one is being filled. -/
  batches : List (List Nat)
  size : Nat
  /-- The padded source length of the open batch. -/
  srcLen : Nat
  /-- The padded target length of the open batch. -/
  tgtLen : Nat
deriving Inhabited

/-- The buckets of pairs given by their source and target lengths. -/
def buckets (lens : List (Nat × Nat)) : List (Nat × List (Nat × Nat)) :=
  let grouped := lens.zipIdx.foldl (fun (acc : List (Nat × List (Nat × Nat))) ((s, t), i) =>
    if acc.any (·.1 == s) then acc.map fun (k, q) => if k == s then (k, q ++ [(t, i)]) else (k, q)
    else acc ++ [(s, [(t, i)])]) []
  let ordered := grouped.map fun (k, q) => (k, q.mergeSort fun a b => a.1 < b.1 || (a.1 == b.1 && a.2 ≤ b.2))
  ordered.mergeSort fun a b => a.1 ≤ b.1

/-- The front pair of the bucket at `i`, if it has one. -/
def front? (bs : List (Nat × List (Nat × Nat))) (i : Nat) : Option (Nat × Nat × Nat) :=
  match bs[i]? with
  | some (k, (t, idx) :: _) => some (k, t, idx)
  | _ => none

def popAt (bs : List (Nat × List (Nat × Nat))) (i : Nat) : List (Nat × List (Nat × Nat)) :=
  bs.modify i fun (k, q) => (k, q.drop 1)

/-- The batch split when it is over budget: the largest multiple of eight of its pairs that
leaves one over stays, or all of them. -/
def keptOnSplit (n : Nat) : Nat := let e := 8 * ((n - 1) / 8); if e == 0 then n else e

/-- The pair at position `idx`, taken from the front of bucket `from_`, placed in the open batch,
which is then padded to `srcLen` by `tgtLen`: a batch over budget is split. -/
def Packer.place (p : Packer) (tokensInBatch : Int) (lens : List (Nat × Nat))
    (from_ idx srcLen tgtLen : Nat) : Packer :=
  let buckets := popAt p.buckets from_
  let openBatch := p.batches.getLastD [] ++ [idx]
  let closed := p.batches.dropLast
  let size := p.size + 1
  if (size : Int) * (srcLen + tgtLen) > tokensInBatch then
    let n := openBatch.length
    let kept := keptOnSplit n
    let rest := openBatch.drop kept
    let size := n - kept
    let lenOf (f : Nat × Nat → Nat) : Nat := (rest.map fun j => ((lens[j]?).map f).getD 0).foldl max 0
    ⟨buckets, p.pos, closed ++ [openBatch.take kept, rest], size,
      if size > 0 then lenOf (·.1) else 0, if size > 0 then lenOf (·.2) else 0⟩
  else ⟨buckets, p.pos, closed ++ [openBatch], size, srcLen, tgtLen⟩

/-- One step of the packer: the current bucket is empty and the next is taken, or one pair is
placed. -/
def Packer.step (p : Packer) (tokensInBatch : Int) (lens : List (Nat × Nat)) : Packer :=
  match front? p.buckets p.pos with
  | none => { p with pos := p.pos + 1 }
  | some (k, t, _) =>
    let iSrc := max p.srcLen k
    let iTgt := max p.tgtLen t
    let (nSrc, nTgt) := match front? p.buckets (p.pos + 1) with
      | some (k', t', _) => (max p.srcLen k', max p.tgtLen t')
      | none => (iSrc + 1, iTgt + 1)
    let (from_, srcLen, tgtLen) := if iSrc + iTgt ≤ nSrc + nTgt then (p.pos, iSrc, iTgt) else (p.pos + 1, nSrc, nTgt)
    p.place tokensInBatch lens from_ (((front? p.buckets from_).map (·.2.2)).getD 0) srcLen tgtLen

/-- The packer run for at most `fuel` steps, or until it has passed the last bucket. -/
def Packer.run (tokensInBatch : Int) (lens : List (Nat × Nat)) : Nat → Packer → Packer
  | 0, p => p
  | fuel + 1, p => if p.pos < p.buckets.length then Packer.run tokensInBatch lens fuel (p.step tokensInBatch lens) else p

/-- The batches of pairs given by their source and target lengths, as positions.  Every step
places a pair or passes a bucket, so the number of pairs plus the number of buckets bounds the
steps. -/
def packPairs (tokensInBatch : Int) (lens : List (Nat × Nat)) : List (List Nat) :=
  let bs := buckets lens
  let p := Packer.run tokensInBatch lens (lens.length + bs.length + 1) ⟨bs, 0, [[]], 0, 0, 0⟩
  match p.batches.getLast? with
  | some [] => p.batches.dropLast
  | _ => p.batches

/-- Limits for cleaning a corpus of pairs; an absent limit does not apply. -/
structure PairLimits where
  maxTokens : Option Float := none
  minTokens : Option Float := none
  maxDiff : Option Float := none
  /-- The largest ratio of lengths, two tokens less on each side. -/
  maxRatio : Option Float := none
  dropEqual : Bool := false
deriving Inhabited

/-- Whether a pair of sides of the given lengths and equality passes the limits. -/
def PairLimits.keeps (l : PairLimits) (s t : Nat) (equal : Bool) : Bool :=
  let sf := Float.ofNat s
  let tf := Float.ofNat t
  let tooLong := l.maxTokens.any fun m => sf > m || tf > m
  let tooShort := l.minTokens.any fun m => sf < m || tf < m
  let tooApart := l.maxDiff.any fun m => Float.ofInt ((s : Int) - t).natAbs > m
  if tooLong || tooShort || (l.dropEqual && equal) || tooApart then false
  else match l.maxRatio with
    | some r =>
      let ratio := Float.ofNat (max (s - 2) 1 : Nat) / Float.ofNat (max (t - 2) 1 : Nat)
      !(ratio > r || ratio < 1.0 / r)
    | none => true

/-- A corpus of pairs cleaned by the limits; both sides must have as many sentences. -/
def cleanPairs {α : Type} [BEq α] (l : PairLimits) (src tgt : List (List α)) :
    Result (List (List α) × List (List α)) :=
  if src.length != tgt.length then .error (.value "Source and target corpora have different lengths!")
  else
    let kept := (src.zip tgt).filter fun (a, b) => l.keeps a.length b.length (a == b)
    .ok (kept.map (·.1), kept.map (·.2))

end Conversa.Batching
