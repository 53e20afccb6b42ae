import Conversa.Failure
import Conversa.Text.Slice

/-!
# Batches of sentences and windows of a text

Sentences are packed in order of length, a batch closed as soon as the next sentence would bring
its padded size over `tokensInBatch` (recording that sentence's length); a sentence that does
not fit alone is refused.  A window corpus cuts its tokens into windows of `width` tokens,
`step` apart, labelled by the tokens shifted by one; its size is negative when no window fits.
-/

namespace Conversa.Batching

/-- The positions of sentences of the given lengths, grouped by length, in order of length. -/
def sentenceBuckets (lens : List Nat) : List (Nat × List Nat) :=
  let grouped := lens.zipIdx.foldl (fun (acc : List (Nat × List Nat)) (n, i) =>
    if acc.any (·.1 == n) then acc.map fun (k, q) => if k == n then (k, q ++ [i]) else (k, q)
    else acc ++ [(n, [i])]) []
  grouped.mergeSort fun a b => a.1 ≤ b.1

def budgetTooSmall (tokensInBatch : Int) (len : Nat) : Failure :=
  .value s!"The limitation on number of tokens in batch {tokensInBatch} is too strong.Several sentences contain {len} tokens."

/-- The packer's state over sentences: the closed batches with their lengths, the open batch, and
the length of the last bucket seen. -/
structure SentencePacking where
  batches : List (List Nat) := []
  lengths : List Nat := []
  current : List Nat := []
  longest : Nat := 0
deriving Inhabited

/-- One sentence of length `len` placed: the open batch is closed first when it would grow over
the budget. -/
def SentencePacking.place (tokensInBatch : Int) (len : Nat) (p : SentencePacking) (i : Nat) :
    Result SentencePacking :=
  if (len : Int) * (p.current.length + 1) > tokensInBatch then
    if p.current.isEmpty then .error (budgetTooSmall tokensInBatch len)
    else .ok { p with batches := p.batches ++ [p.current], lengths := p.lengths ++ [len], current := [i] }
  else .ok { p with current := p.current ++ [i] }

/-- The batches of sentences of the given lengths, as positions, with the length recorded for each
batch. -/
def packSentences (tokensInBatch : Int) (lens : List Nat) : Result (List (List Nat) × List Nat) := do
  let p ← (sentenceBuckets lens).foldlM (fun (p : SentencePacking) (len, bucket) => do
    let p ← bucket.foldlM (SentencePacking.place tokensInBatch len) p
    pure { p with longest := len }) {}
  if p.current.isEmpty then pure (p.batches, p.lengths)
  else pure (p.batches ++ [p.current], p.lengths ++ [p.longest])

/-- Limits on the length of a sentence; an absent limit does not apply. -/
structure SentenceLimits where
  maxTokens : Option Float := none
  minTokens : Option Float := none
deriving Inhabited

def SentenceLimits.keeps (l : SentenceLimits) (n : Nat) : Bool :=
  let x := Float.ofNat n
  !(l.maxTokens.any (x > ·) || l.minTokens.any (x < ·))

def cleanSentences {α : Type} (l : SentenceLimits) (sents : List (List α)) : List (List α) :=
  sents.filter fun s => l.keeps s.length

/-- Tokens cut into windows of `width` tokens, `step` apart. -/
structure WindowCorpus where
  tokens : List Nat
  width : Int
  step : Int
deriving Inhabited

def zeroStep : Failure := ⟨"ZeroDivisionError", "integer division or modulo by zero"⟩

/-- The number of steps that fit after the first window, rounded down. -/
def WindowCorpus.size (c : WindowCorpus) : Result Int :=
  if c.step == 0 then .error zeroStep else .ok (Int.fdiv (c.tokens.length - c.width) c.step)

/-- The `i`-th window and its labels, the same tokens one further on. -/
def WindowCorpus.window (c : WindowCorpus) (i : Int) : List Nat × List Nat :=
  let left := i * c.step
  let right := left + c.width
  (Text.span c.tokens left right, Text.span c.tokens (left + 1) (right + 1))

end Conversa.Batching
