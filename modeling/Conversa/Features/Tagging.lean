import Conversa.Language.Tokenizer

/-!
# Word tagging features

A tagger labels every word of a query, encoded as its tokens between the class and separator
tokens with masks: the subtoken mask marks each word's first token, the loss mask the positions
the loss reads, and every label track gives each token its word's label (the padding label
elsewhere).  All queries are brought to one length (the limit, or the longest query), a longer
one keeping its class token and its last tokens.
-/

namespace Conversa.Features

open Conversa.Language

/-- The labels of one track for one query: the padding label and the label of each word, or no
row of labels at all. -/
structure LabelTrack where
  /-- The label of the class and separator tokens and of padding. -/
  pad : Data
  /-- The label of each word, when the query has a row. -/
  words : Option (List Data)
deriving Inhabited

/-- How a tagger encodes its queries. -/
structure TaggingStyle where
  /-- Whether the further tokens of a word are left out of the loss. -/
  ignoreExtra : Bool := false
  /-- Whether the class and separator tokens are left out of the loss. -/
  ignoreStartEnd : Bool := false
  /-- Whether a limit that is not positive means the longest query. -/
  longestWhenUnset : Bool := true
  /-- Whether every token is looked up character by character. -/
  byCharacter : Bool := false
deriving Inhabited

/-- A query cut into tokens with its masks and label tracks, before it is fitted to the common
length. -/
structure TaggedQuery where
  /-- The tokens, class and separator included. -/
  tokens : List String
  lossMask : List Nat
  subtokensMask : List Nat
  labels : List (List Data)
deriving Inhabited

def TaggingStyle.edgeLoss (s : TaggingStyle) : Nat := if s.ignoreStartEnd then 0 else 1

def LabelTrack.wordLabel (tr : LabelTrack) (j : Nat) : Result Data :=
  match tr.words.bind (·[j]?) with
  | some l => .ok l
  | none => .error .listIndex

/-- A query tagged so far with its `j`-th word `w` added: the word's tokens, their marks, and in
each track the word's label for each of them. -/
def tagWord (t : TokenizerOps) (s : TaggingStyle) (tracks : List LabelTrack) (q : TaggedQuery) :
    String × Nat → Result TaggedQuery
  | (w, j) => do
    let toks ← t.textToTokens w
    let extra := toks.length - 1
    let labels ← (tracks.zip q.labels).mapM fun (tr, ls) => do
      let l ← tr.wordLabel j
      pure (ls ++ List.replicate toks.length l)
    pure ⟨q.tokens ++ toks, q.lossMask ++ 1 :: List.replicate extra (if s.ignoreExtra then 0 else 1),
      q.subtokensMask ++ 1 :: List.replicate extra 0, labels⟩

/-- A query cut into tokens, with masks and labels; the tracks are read after the class token. -/
def tagQuery (t : TokenizerOps) (s : TaggingStyle) (query : String) (tracks : Result (List LabelTrack)) :
    Result TaggedQuery := do
  let cls ← t.special .cls
  let tracks ← tracks
  let start : TaggedQuery := ⟨[cls], [s.edgeLoss], [0], tracks.map fun tr => [tr.pad]⟩
  let body ← (Text.words query).zipIdx.foldlM (tagWord t s tracks) start
  let sep ← t.special .sep
  pure ⟨body.tokens ++ [sep], body.lossMask ++ [s.edgeLoss], body.subtokensMask ++ [0],
    (tracks.zip body.labels).map fun (tr, ls) => ls ++ [tr.pad]⟩

/-- The encoded rows of all queries. -/
structure TaggedRows where
  /-- The token numbers of each query: a number, or the numbers of a token's characters. -/
  inputIds : List (List Data)
  segmentIds : List (List Nat)
  inputMask : List (List Nat)
  lossMask : List (List Nat)
  subtokensMask : List (List Nat)
  /-- For each track, the labels of each query. -/
  labels : List (List (List Data))
deriving Inhabited

def tailFrom {α : Type} (n : Int) (xs : List α) : List α :=
  let start := 1 - n
  xs.drop (if start < 0 then (xs.length + start).toNat else min start.toNat xs.length)

/-- A query fitted to `m` positions: cut to its class token and last tokens, or padded. -/
def fitQuery (t : TokenizerOps) (s : TaggingStyle) (pads : List Data) (m : Int) (q : TaggedQuery) :
    Result (List Data × List Nat × List Nat × List Nat × List (List Data)) := do
  let mask := q.tokens.map fun _ => 1
  let (toks, mask, loss, sub, labels) ←
    if (q.tokens.length : Int) > m then do
      let cls ← t.special .cls
      pure (cls :: tailFrom m q.tokens, 1 :: tailFrom m mask, s.edgeLoss :: tailFrom m q.lossMask,
        0 :: tailFrom m q.subtokensMask, (pads.zip q.labels).map fun (p, ls) => p :: tailFrom m ls)
    else pure (q.tokens, mask, q.lossMask, q.subtokensMask, q.labels)
  let ids ← if s.byCharacter then toks.mapM fun tok => do pure (Data.nats (← t.charIds tok))
    else toks.mapM fun tok => do pure (Data.int (← t.tokenToId tok))
  let extra := (m - toks.length).toNat
  pure (ids ++ List.replicate extra (.int 0), mask ++ List.replicate extra 0,
    loss ++ List.replicate extra 0, sub ++ List.replicate extra 0,
    (pads.zip labels).map fun (p, ls) => ls ++ List.replicate extra p)

/-- The features of queries with `tracks` label tracks; `labelsOf i` gives the tracks of the
`i`-th query. -/
def tagQueries (t : TokenizerOps) (s : TaggingStyle) (maxLen : Int) (queries : List String)
    (tracks : Nat) (labelsOf : Nat → Result (List LabelTrack)) : Result TaggedRows := do
  let tagged ← queries.zipIdx.mapM fun (q, i) => tagQuery t s q (if tracks == 0 then pure [] else labelsOf i)
  let longest ← match (tagged.map (·.tokens.length)).max? with
    | some n => pure (n : Int)
    | none => throw (.value "max() arg is an empty sequence")
  let m := if s.longestWhenUnset then (if maxLen > 0 then min maxLen longest else longest) else min maxLen longest
  let pads ← if tracks == 0 then pure [] else (do pure ((← labelsOf 0).map (·.pad)))
  let rows ← tagged.mapM (fitQuery t s pads m)
  pure ⟨rows.map (·.1), rows.map fun _ => List.replicate m.toNat 0, rows.map (·.2.1), rows.map (·.2.2.1),
    rows.map (·.2.2.2.1), (List.range tracks).map fun k => rows.map fun r => (r.2.2.2.2[k]?).getD []⟩

end Conversa.Features
