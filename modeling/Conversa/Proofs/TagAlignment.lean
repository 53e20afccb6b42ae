import Conversa.Features.Tagging
import Conversa.Proofs.Monadic
import Mathlib.Data.List.SplitBy

/-!
# The rows of tagged queries

A tagged query is `queryRows` (`tagWord_wordRows`, `foldlM_tagWord`), rows that line up since
every word is a token at least (`queryRows_aligned`).  Fitting to `m ≥ 2` positions keeps them
aligned (`fitQuery_ok`); a limit of one keeps the whole query, outrunning its one segment
(`fitQuery_one_length`).  `tagQueries_rows_aligned_iff` joins the two over a batch.
-/

namespace Conversa.Features

open Conversa.Language

/-! ## Words and their tokens -/

theorem exists_head_of_mem_words {s w : String} (h : w ∈ Text.words s) :
    ∃ d rest, w.toList = d :: rest ∧ Text.isSpace d = false := by
  unfold Text.words at h
  obtain ⟨run, hrun, hw⟩ := List.mem_filterMap.1 h
  obtain ⟨d, rest, rfl⟩ := List.exists_cons_of_ne_nil (List.ne_nil_of_mem_splitBy hrun)
  simp only [List.head?_cons] at hw
  split at hw
  · cases hw
  · cases hw
    exact ⟨d, rest, String.toList_ofList, by simpa using ‹¬Text.isSpace d = true›⟩

theorem words_ne_nil {s : String} {d : Char} {rest : List Char} (hs : s.toList = d :: rest)
    (hd : Text.isSpace d = false) : Text.words s ≠ [] := by
  unfold Text.words
  rw [hs]
  -- the first run of the text starts with its first character
  have hne : (d :: rest).splitBy (fun a b => Text.isSpace a == Text.isSpace b) ≠ [] :=
    List.splitBy_ne_nil.2 (List.cons_ne_nil d rest)
  obtain ⟨run, runs, hsplit⟩ := List.exists_cons_of_ne_nil hne
  have hflat := List.flatten_splitBy (fun a b => Text.isSpace a == Text.isSpace b) (d :: rest)
  obtain ⟨e, more, rfl⟩ := List.exists_cons_of_ne_nil
    (List.ne_nil_of_mem_splitBy (hsplit ▸ List.mem_cons_self : run ∈ (d :: rest).splitBy _))
  rw [hsplit, List.flatten_cons, List.cons_append, List.cons.injEq] at hflat
  rw [hsplit, List.filterMap_cons, hflat.1]
  simp [hd]

/-- Every word of a text is at least one token of a vocabulary tokenizer. -/
theorem textToTokens_ne_nil {t : Tokenizer} {s w : String} {ts : List String} (hw : w ∈ Text.words s)
    (h : t.textToTokens w = .ok ts) : ts ≠ [] := by
  obtain ⟨d, rest, hs, hd⟩ := exists_head_of_mem_words hw
  rw [← List.length_pos_iff, mapM_ok_length h, List.length_pos_iff]
  unfold Tokenizer.pieces
  cases t.splitting with
  | characters => simp [hs]
  | words => exact words_ne_nil hs hd

/-! ## The rows of a tagged query -/

/-- The label a track gives its `j`-th word, or its padding label when it has none. -/
def LabelTrack.labelOf (tr : LabelTrack) (j : Nat) : Data := (tr.words.bind (·[j]?)).getD tr.pad

/-- The labels a track gives the tokens of words numbered from `k`: each token its word's label. -/
def LabelTrack.wordLabels (tr : LabelTrack) (wts : List (List String)) (k : Nat) : List Data :=
  (wts.zipIdx k).flatMap fun (ts, j) => List.replicate ts.length (tr.labelOf j)

/-- The loss marks of a word of `n` tokens: its first token counts, the others unless left out. -/
def TaggingStyle.wordLoss (s : TaggingStyle) (n : Nat) : List Nat :=
  1 :: List.replicate (n - 1) (if s.ignoreExtra then 0 else 1)

/-- The subtoken marks of a word of `n` tokens: its first token marked. -/
def firstMarks (n : Nat) : List Nat := 1 :: List.replicate (n - 1) 0

/-- The rows of a query from the tokens of its words, the separator not yet added: the class
token and the tokens of each word; the loss and subtoken marks; and in each track the padding
label, then each token with the label of its word. -/
def wordRows (s : TaggingStyle) (cls : String) (trs : List LabelTrack) (wts : List (List String)) :
    TaggedQuery where
  tokens := cls :: wts.flatten
  lossMask := s.edgeLoss :: wts.flatMap fun ts => s.wordLoss ts.length
  subtokensMask := 0 :: wts.flatMap fun ts => firstMarks ts.length
  labels := trs.map fun tr => tr.pad :: tr.wordLabels wts 0

/-- The rows of a query from the tokens of its words: its word rows closed by the separator
token, unmarked, with the padding label in every track. -/
def queryRows (s : TaggingStyle) (cls sep : String) (trs : List LabelTrack) (wts : List (List String)) :
    TaggedQuery where
  tokens := (wordRows s cls trs wts).tokens ++ [sep]
  lossMask := (wordRows s cls trs wts).lossMask ++ [s.edgeLoss]
  subtokensMask := (wordRows s cls trs wts).subtokensMask ++ [0]
  labels := trs.map fun tr => tr.pad :: tr.wordLabels wts 0 ++ [tr.pad]

/-- A step of the map giving each track's labels succeeds exactly when the track labels the word. -/
theorem wordLabel_ok_iff {tr : LabelTrack} {j : Nat} {l : Data} :
    tr.wordLabel j = .ok l ↔ tr.words.bind (·[j]?) = some l := by
  unfold LabelTrack.wordLabel
  cases h : tr.words.bind (·[j]?) <;> simp

/-- **Tagging one more word** appends its tokens, their marks, and in each track its label for
each token, when every track labels it. -/
theorem tagWord_wordRows {t : TokenizerOps} {s : TaggingStyle} {cls : String} {trs : List LabelTrack}
    {wts : List (List String)} {w : String} {q : TaggedQuery}
    (h : tagWord t s trs (wordRows s cls trs wts) (w, wts.length) = .ok q) :
    ∃ ts, t.textToTokens w = .ok ts ∧ (∀ tr ∈ trs, (tr.words.bind (·[wts.length]?)).isSome) ∧
      q = wordRows s cls trs (wts ++ [ts]) := by
  obtain ⟨ts, hts, h⟩ := Except.bind_eq_ok.1 h
  obtain ⟨labels, hlabels, h⟩ := Except.bind_eq_ok.1 h
  simp only [pure, Except.pure, Except.ok.injEq] at h
  subst h
  -- the tracks are paired with their own rows, so each gets the word's label appended
  rw [wordRows, ← List.map_prod_left_eq_zip, List.mapM_map] at hlabels
  have hmap := mapM_ok_eq_map (fun tr => (tr.pad :: tr.wordLabels wts 0) ++
    List.replicate ts.length (tr.labelOf wts.length)) (fun tr y hy => ?_) hlabels
  · obtain ⟨rfl, hall⟩ := hmap
    refine ⟨ts, hts, fun tr htr => ?_, ?_⟩
    · obtain ⟨l, hl, -⟩ := Except.bind_eq_ok.1 (hall tr htr)
      simp [wordLabel_ok_iff.1 hl]
    · simp only [wordRows, TaggedQuery.mk.injEq]
      refine ⟨by simp, by simp [TaggingStyle.wordLoss], by simp [firstMarks], ?_⟩
      simp [LabelTrack.wordLabels, List.zipIdx_append]
  · dsimp only [Function.comp] at hy
    obtain ⟨l, hl, hy⟩ := Except.bind_eq_ok.1 hy
    simp only [pure, Except.pure, Except.ok.injEq] at hy
    rw [← hy, LabelTrack.labelOf, wordLabel_ok_iff.1 hl]
    rfl

/-- **Tagging words one after another** gives the rows of their tokens, when every track labels
every word. -/
theorem foldlM_tagWord {t : TokenizerOps} {s : TaggingStyle} {cls : String} {trs : List LabelTrack} :
    ∀ (ws : List String) (wts : List (List String)) (q : TaggedQuery),
      (ws.zipIdx wts.length).foldlM (tagWord t s trs) (wordRows s cls trs wts) = .ok q →
      ∃ wts', ws.mapM t.textToTokens = .ok wts' ∧
        (∀ j < wts'.length, ∀ tr ∈ trs, (tr.words.bind (·[wts.length + j]?)).isSome) ∧
        q = wordRows s cls trs (wts ++ wts')
  | [], wts, q, h => by
    simp only [List.zipIdx_nil, List.foldlM_nil, pure, Except.pure, Except.ok.injEq] at h
    exact ⟨[], rfl, by simp, by simp [h]⟩
  | w :: ws, wts, q, h => by
    rw [List.zipIdx_cons, List.foldlM_cons, Except.bind_eq_ok] at h
    obtain ⟨q', hq', hrest⟩ := h
    obtain ⟨ts, hts, hlab, rfl⟩ := tagWord_wordRows hq'
    rw [show wts.length + 1 = (wts ++ [ts]).length by simp] at hrest
    obtain ⟨wts', hwts', hlab', rfl⟩ := foldlM_tagWord ws (wts ++ [ts]) q hrest
    refine ⟨ts :: wts', by simp [List.mapM_cons, hts, hwts', pure, Except.pure], fun j hj tr htr => ?_,
      by simp⟩
    cases j with
    | zero => simpa using hlab tr htr
    | succ j =>
      have := hlab' j (by simpa using hj) tr htr
      rwa [List.length_append, List.length_singleton, Nat.add_assoc, Nat.add_comm 1 j] at this

/-- **The rows of a tagged query** are those of the tokens of its words, and every track labels
every word. -/
theorem tagQuery_ok {t : TokenizerOps} {s : TaggingStyle} {query : String} {trs : List LabelTrack}
    {q : TaggedQuery} (h : tagQuery t s query (.ok trs) = .ok q) :
    ∃ cls sep wts, t.special .cls = .ok cls ∧ t.special .sep = .ok sep ∧
      (Text.words query).mapM t.textToTokens = .ok wts ∧
      (∀ j < wts.length, ∀ tr ∈ trs, (tr.words.bind (·[j]?)).isSome) ∧ q = queryRows s cls sep trs wts := by
  obtain ⟨cls, hcls, h⟩ := Except.bind_eq_ok.1 h
  rw [Except.ok_bind] at h
  obtain ⟨body, hbody, h⟩ := Except.bind_eq_ok.1 h
  obtain ⟨sep, hsep, h⟩ := Except.bind_eq_ok.1 h
  simp only [pure, Except.pure, Except.ok.injEq] at h
  subst h
  -- the fold starts from the rows of no words
  obtain ⟨wts, hwts, hlab, rfl⟩ := foldlM_tagWord (Text.words query) [] body hbody
  refine ⟨cls, sep, wts, hcls, hsep, hwts, by simpa using hlab, ?_⟩
  simp [queryRows, wordRows, ← List.map_prod_left_eq_zip]

theorem tagQuery_tracks {t : TokenizerOps} {s : TaggingStyle} {query : String}
    {tracks : Except Failure (List LabelTrack)} {q : TaggedQuery} (h : tagQuery t s query tracks = .ok q) :
    ∃ trs, tracks = .ok trs ∧ tagQuery t s query (.ok trs) = .ok q := by
  cases htr : tracks with
  | error e =>
    rw [htr] at h
    obtain ⟨cls, -, h⟩ := Except.bind_eq_ok.1 h
    cases h
  | ok trs => exact ⟨trs, rfl, htr ▸ h⟩

/-- The rows of a tagged query all have `n` entries. -/
def TaggedQuery.Aligned (q : TaggedQuery) (n : Nat) : Prop :=
  q.tokens.length = n ∧ q.lossMask.length = n ∧ q.subtokensMask.length = n ∧ ∀ ls ∈ q.labels, ls.length = n

theorem length_flatMap_marks {wts : List (List String)} {f : Nat → List Nat}
    (hf : ∀ n, (f n).length = n - 1 + 1) (hne : ∀ ts ∈ wts, ts ≠ []) :
    (wts.flatMap fun ts => f ts.length).length = wts.flatten.length := by
  induction wts with
  | nil => rfl
  | cons ts wts ih =>
    have hpos := List.length_pos_iff.2 (hne ts List.mem_cons_self)
    simp only [List.flatMap_cons, List.flatten_cons, List.length_append, hf,
      ih fun ts' h => hne ts' (List.mem_cons_of_mem _ h)]
    omega

theorem length_wordLabels (tr : LabelTrack) :
    ∀ (wts : List (List String)) (k : Nat), (tr.wordLabels wts k).length = wts.flatten.length
  | [], _ => rfl
  | ts :: wts, k => by
    have ih := length_wordLabels tr wts (k + 1)
    simp only [LabelTrack.wordLabels] at ih ⊢
    simp [List.zipIdx_cons, ih]

/-- **The rows of a tagged query line up**: for words of at least one token each, its marks and
its labels in every track are as many as its tokens, two more than its words' tokens. -/
theorem queryRows_aligned (s : TaggingStyle) (cls sep : String) (trs : List LabelTrack)
    {wts : List (List String)} (hne : ∀ ts ∈ wts, ts ≠ []) :
    (queryRows s cls sep trs wts).Aligned (wts.flatten.length + 2) := by
  refine ⟨by simp [queryRows, wordRows], ?_, ?_, ?_⟩
  · simp only [queryRows, wordRows, List.length_append, List.length_cons, List.length_nil]
    rw [length_flatMap_marks (fun n => by simp only [TaggingStyle.wordLoss, List.length_cons,
      List.length_replicate]) hne]
  · simp only [queryRows, wordRows, List.length_append, List.length_cons, List.length_nil]
    rw [length_flatMap_marks (fun n => by simp only [firstMarks, List.length_cons,
      List.length_replicate]) hne]
  · intro ls hls
    obtain ⟨tr, -, rfl⟩ := List.mem_map.1 hls
    simp [length_wordLabels]

/-! ## Fitting to a common length -/

/-- A row cut to `m` positions as a longer query is: its first entry replaced by `first` before
its last `m - 1` entries.  A row within `m` is kept. -/
def cutRow {α : Type} (m : Nat) (first : α) (xs : List α) : List α :=
  if m < xs.length then first :: xs.drop (xs.length + 1 - m) else xs

/-- A row fitted to `m` positions: cut as a longer query is, or padded with `pad`. -/
def fitRow {α : Type} (m : Nat) (first pad : α) (xs : List α) : List α :=
  cutRow m first xs ++ List.replicate (m - xs.length) pad

theorem length_fitRow {α : Type} {m : Nat} (hm : 1 ≤ m) (first pad : α) (xs : List α) :
    (fitRow m first pad xs).length = m := by
  unfold fitRow cutRow
  split <;> simp <;> omega

theorem fitRow_of_lt {α : Type} {m : Nat} {first pad : α} {xs : List α} (h : m < xs.length) :
    fitRow m first pad xs = first :: xs.drop (xs.length + 1 - m) := by
  simp [fitRow, cutRow, h, Nat.sub_eq_zero_of_le (Nat.le_of_lt h)]

theorem fitRow_of_le {α : Type} {m : Nat} {first pad : α} {xs : List α} (h : xs.length ≤ m) :
    fitRow m first pad xs = xs ++ List.replicate (m - xs.length) pad := by
  simp [fitRow, cutRow, Nat.not_lt.2 h]

/-- Pairing a list with a map over its pairing with another pairs each entry with the map's
value at its pair. -/
theorem zip_map_zip {α β γ : Type} (f : α × β → γ) :
    ∀ (xs : List α) (ys : List β), xs.zip ((xs.zip ys).map f) = (xs.zip ys).map fun p => (p.1, f p)
  | [], _ => rfl
  | _ :: _, [] => rfl
  | x :: xs, y :: ys => by simp [zip_map_zip f xs ys]

/-- The number a tagger gives a token: its number, or the numbers of its characters. -/
def TaggingStyle.tokenData (s : TaggingStyle) (t : TokenizerOps) (tok : String) : Except Failure Data :=
  if s.byCharacter then do pure (Data.nats (← t.charIds tok)) else do pure (Data.int (← t.tokenToId tok))

theorem tokenNumbers_bind {t : TokenizerOps} {s : TaggingStyle} {β : Type} (toks : List String)
    (k : List Data → Except Failure β) :
    (if s.byCharacter then do let ids ← toks.mapM (fun tok => do pure (Data.nats (← t.charIds tok))); k ids
      else do let ids ← toks.mapM (fun tok => do pure (Data.int (← t.tokenToId tok))); k ids) =
    (do let ids ← toks.mapM (s.tokenData t); k ids) := by
  have hdata : s.tokenData t = fun tok => if s.byCharacter then (do pure (Data.nats (← t.charIds tok)))
      else (do pure (Data.int (← t.tokenToId tok))) := rfl
  rw [hdata]
  cases s.byCharacter <;> rfl

theorem tailFrom_of_two_le {α : Type} {m : Nat} (hm : 2 ≤ m) (xs : List α) :
    tailFrom m xs = xs.drop (xs.length + 1 - m) := by
  unfold tailFrom
  dsimp only
  rw [if_pos (by omega)]
  congr 1
  omega

theorem tailFrom_one {α : Type} (xs : List α) : tailFrom 1 xs = xs := by
  simp [tailFrom]

section Fit

variable {t : TokenizerOps} {s : TaggingStyle} {pads : List Data} {q : TaggedQuery} {n : Nat}
  {out : List Data × List Nat × List Nat × List Nat × List (List Data)}

/-- **Fitting a query to `m ≥ 2` positions** cuts or pads every row alike: the class token's
number and those of the last `m - 1` tokens, or all of them padded with zeros; the masks and each
track's labels cut and padded the same way. -/
theorem fitQuery_ok {cls : String} {m : Nat} (hm : 2 ≤ m) (hcls : t.special .cls = .ok cls)
    (hq : q.Aligned n) (h : fitQuery t s pads m q = .ok out) :
    ∃ ids, (cutRow m cls q.tokens).mapM (s.tokenData t) = .ok ids ∧
      out = (ids ++ List.replicate (m - n) (.int 0), fitRow m 1 0 (q.tokens.map fun _ => 1),
        fitRow m s.edgeLoss 0 q.lossMask, fitRow m 0 0 q.subtokensMask,
        (pads.zip q.labels).map fun (p, ls) => fitRow m p p ls) := by
  obtain ⟨htok, hloss, hsub, hlab⟩ := hq
  unfold fitQuery at h
  by_cases hcut : m < n
  · -- a longer query keeps its class token and its last `m - 1` positions, with no padding
    rw [if_pos (by omega), hcls] at h
    simp only [Except.ok_bind, pure_bind, tokenNumbers_bind] at h
    obtain ⟨ids, hids', h⟩ := Except.bind_eq_ok.1 h
    simp only [pure, Except.pure, Except.ok.injEq] at h
    subst h
    have hlen : (cls :: tailFrom m q.tokens).length = m := by
      rw [tailFrom_of_two_le hm, List.length_cons, List.length_drop]
      omega
    have hextra : ((m : Int) - ((cls :: tailFrom m q.tokens).length : Int)).toNat = 0 := by
      rw [hlen]
      simp
    refine ⟨ids, by rwa [cutRow, if_pos (by omega), ← tailFrom_of_two_le hm], ?_⟩
    simp only [hextra, List.replicate_zero, List.append_nil, Nat.sub_eq_zero_of_le (Nat.le_of_lt hcut),
      zip_map_zip, List.map_map, Prod.mk.injEq]
    refine ⟨trivial, ?_, ?_, ?_, ?_⟩
    · rw [fitRow_of_lt (show m < (q.tokens.map fun _ => 1).length by simp; omega), tailFrom_of_two_le hm]
    · rw [fitRow_of_lt (show m < q.lossMask.length by omega), tailFrom_of_two_le hm]
    · rw [fitRow_of_lt (show m < q.subtokensMask.length by omega), tailFrom_of_two_le hm]
    · refine List.map_congr_left fun p hp => ?_
      have := hlab p.2 (List.of_mem_zip hp).2
      simp [fitRow_of_lt (show m < p.2.length by omega), tailFrom_of_two_le hm]
  · -- a query within the limit keeps every position and is padded
    rw [if_neg (by omega)] at h
    simp only [pure_bind, tokenNumbers_bind] at h
    obtain ⟨ids, hids', h⟩ := Except.bind_eq_ok.1 h
    simp only [pure, Except.pure, Except.ok.injEq] at h
    subst h
    have hextra : ((m : Int) - (q.tokens.length : Int)).toNat = m - n := by omega
    refine ⟨ids, by rwa [cutRow, if_neg (by omega)], ?_⟩
    simp only [hextra, Prod.mk.injEq]
    refine ⟨trivial, ?_, ?_, ?_, ?_⟩
    · rw [fitRow_of_le (show (q.tokens.map fun _ => 1).length ≤ m by simp; omega)]
      simp [htok]
    · rw [fitRow_of_le (show q.lossMask.length ≤ m by omega), hloss]
    · rw [fitRow_of_le (show q.subtokensMask.length ≤ m by omega), hsub]
    · refine List.map_congr_left fun p hp => ?_
      have := hlab p.2 (List.of_mem_zip hp).2
      simp [fitRow_of_le (show p.2.length ≤ m by omega), this]

/-- Fitting a query of at least two tokens to one position keeps all its token numbers behind a
second class token: the slice from position `0` is the whole query. -/
theorem fitQuery_one_length (htok : q.tokens.length = n) (hn : 2 ≤ n) (h : fitQuery t s pads 1 q = .ok out) :
    out.1.length = n + 1 := by
  unfold fitQuery at h
  rw [if_pos (by omega)] at h
  obtain ⟨cls, -, h⟩ := Except.bind_eq_ok.1 h
  simp only [pure_bind, tokenNumbers_bind] at h
  obtain ⟨ids, hids, h⟩ := Except.bind_eq_ok.1 h
  simp only [pure, Except.pure, Except.ok.injEq] at h
  subst h
  have hlen := mapM_ok_length hids
  simp only [tailFrom_one, List.length_cons] at hlen
  simp only [List.length_append, List.length_replicate, tailFrom_one, List.length_cons, hlen, htok]
  omega

end Fit

/-! ## Every query -/

/-- The rows the encoding gives its `i`-th query all have `n` entries: token numbers, segments,
masks, and its labels in every track. -/
def TaggedRows.RowsOfLength (r : TaggedRows) (i n : Nat) : Prop :=
  r.inputIds[i]?.map List.length = some n ∧ r.segmentIds[i]?.map List.length = some n ∧
    r.inputMask[i]?.map List.length = some n ∧ r.lossMask[i]?.map List.length = some n ∧
    r.subtokensMask[i]?.map List.length = some n ∧ ∀ ls ∈ r.labels, ls[i]?.map List.length = some n

/-- The `i`-th query's rows are those of the tagged query `q` fitted to `m` positions: the numbers
of its cut tokens padded with zeros, segments all zero, and its masks and its labels in each track
(padded with the labels `pads`) cut and padded alike. -/
structure TaggedRows.Encodes (r : TaggedRows) (t : TokenizerOps) (s : TaggingStyle) (cls : String)
    (pads : List Data) (m i : Nat) (q : TaggedQuery) : Prop where
  ids : ∃ ids, (cutRow m cls q.tokens).mapM (s.tokenData t) = .ok ids ∧
    r.inputIds[i]? = some (ids ++ List.replicate (m - q.tokens.length) (.int 0))
  segments : r.segmentIds[i]? = some (List.replicate m 0)
  inputMask : r.inputMask[i]? = some (fitRow m 1 0 (q.tokens.map fun _ => 1))
  lossMask : r.lossMask[i]? = some (fitRow m s.edgeLoss 0 q.lossMask)
  subtokensMask : r.subtokensMask[i]? = some (fitRow m 0 0 q.subtokensMask)
  labels : r.labels.map (·[i]?) = (pads.zip q.labels).map fun (p, ls) => some (fitRow m p p ls)

theorem TaggedRows.Encodes.rowsOfLength {r : TaggedRows} {t : TokenizerOps} {s : TaggingStyle}
    {cls : String} {pads : List Data} {m i : Nat} {q : TaggedQuery} (hE : r.Encodes t s cls pads m i q)
    (hm : 1 ≤ m) : r.RowsOfLength i m := by
  obtain ⟨ids, hids, hrow⟩ := hE.ids
  refine ⟨?_, by simp [hE.segments], by simp [hE.inputMask, length_fitRow hm],
    by simp [hE.lossMask, length_fitRow hm], by simp [hE.subtokensMask, length_fitRow hm], ?_⟩
  · -- the cut tokens and the padding make up the positions
    rw [hrow, Option.map_some, List.length_append, mapM_ok_length hids, List.length_replicate]
    unfold cutRow
    split <;> simp <;> omega
  · intro ls hls
    have hmem : ls[i]? ∈ r.labels.map (·[i]?) := List.mem_map_of_mem hls
    rw [hE.labels] at hmem
    obtain ⟨⟨p, l⟩, -, heq⟩ := List.mem_map.1 hmem
    rw [← heq, Option.map_some, length_fitRow hm]

/-- The encoded rows of queries from their fitted rows: token numbers, segments of `m` zeros,
masks, and for each of `tracks` tracks the labels of every query. -/
def TaggedRows.ofFitted (m : Int) (tracks : Nat)
    (rows : List (List Data × List Nat × List Nat × List Nat × List (List Data))) : TaggedRows :=
  ⟨rows.map (·.1), rows.map fun _ => List.replicate m.toNat 0, rows.map (·.2.1), rows.map (·.2.2.1),
    rows.map (·.2.2.2.1), (List.range tracks).map fun k => rows.map fun r => (r.2.2.2.2[k]?).getD []⟩

theorem map_range_getElem?_getD {α : Type} (xs : List α) (d : α) :
    (List.range xs.length).map (fun k => some (xs[k]?.getD d)) = xs.map some := by
  apply List.ext_getElem (by simp)
  intro k h1 h2
  simp at h1
  simp [h1]

section Batch

variable {t : TokenizerOps} {s : TaggingStyle} {maxLen : Int} {queries : List String} {tracks : Nat}
  {labelsOf : Nat → Except Failure (List LabelTrack)}

/-- Every query of a tagged batch is the rows of its words' tokens, each word at least one token,
with as many label tracks as the batch has. -/
theorem taggedQueries_rows {tagged : List TaggedQuery}
    (hlab : ∀ i trs, labelsOf i = .ok trs → trs.length = tracks)
    (hwords : ∀ query ∈ queries, ∀ w ∈ Text.words query, ∀ ts, t.textToTokens w = .ok ts → ts ≠ [])
    (h : queries.zipIdx.mapM (fun (q, i) => tagQuery t s q (if tracks == 0 then pure [] else labelsOf i)) =
      .ok tagged) :
    tagged.length = queries.length ∧ ∀ (i : Nat) (query : String), queries[i]? = some query →
      ∃ trs cls sep wts, tagged[i]? = some (queryRows s cls sep trs wts) ∧
        (if tracks = 0 then trs = [] else labelsOf i = .ok trs) ∧ trs.length = tracks ∧
        t.special .cls = .ok cls ∧ t.special .sep = .ok sep ∧
        (Text.words query).mapM t.textToTokens = .ok wts ∧ ∀ ts ∈ wts, ts ≠ [] := by
  obtain ⟨hlen, htag⟩ := mapM_zipIdx_ok_getElem? h
  refine ⟨hlen, fun i query hi => ?_⟩
  obtain ⟨q, hq, htq⟩ := htag i query hi
  obtain ⟨trs, htrs, htq⟩ := tagQuery_tracks htq
  obtain ⟨cls, sep, wts, hcls, hsep, hwts, -, rfl⟩ := tagQuery_ok htq
  -- with no tracks none is read; otherwise the query's own are, as many as the batch has
  have htrs' : (if tracks = 0 then trs = [] else labelsOf i = .ok trs) ∧ trs.length = tracks := by
    by_cases h0 : tracks = 0
    · simp only [h0, BEq.rfl, if_true, pure, Except.pure, Except.ok.injEq] at htrs ⊢
      subst htrs
      exact ⟨rfl, rfl⟩
    · have hl : labelsOf i = .ok trs := by simpa [h0] using htrs
      exact ⟨by rwa [if_neg h0], hlab i trs hl⟩
  refine ⟨trs, cls, sep, wts, hq, htrs'.1, htrs'.2, hcls, hsep, hwts, fun ts hts => ?_⟩
  obtain ⟨w, hw, hwt⟩ := mapM_ok_mem hwts ts hts
  exact hwords query (List.mem_of_getElem? hi) w hw ts hwt

/-- **A tagged batch under a positive limit** is its queries tagged, the padding labels of the
first query's tracks, and every query fitted to the limit or the longest query. -/
theorem tagQueries_ok_fitted {r : TaggedRows} (hlab : ∀ i trs, labelsOf i = .ok trs → trs.length = tracks)
    (hmax : 0 < maxLen) (h : tagQueries t s maxLen queries tracks labelsOf = .ok r) :
    ∃ tagged longest pads rows,
      queries.zipIdx.mapM (fun (q, i) => tagQuery t s q (if tracks == 0 then pure [] else labelsOf i)) =
        .ok tagged ∧ (tagged.map (·.tokens.length)).max? = some longest ∧
      (if tracks = 0 then pads = [] else ∃ trs, labelsOf 0 = .ok trs ∧ pads = trs.map (·.pad)) ∧
      pads.length = tracks ∧ tagged.mapM (fitQuery t s pads (min maxLen longest)) = .ok rows ∧
      r = TaggedRows.ofFitted (min maxLen longest) tracks rows := by
  unfold tagQueries at h
  obtain ⟨tagged, htagged, h⟩ := Except.bind_eq_ok.1 h
  dsimp only at h
  split at h
  · rename_i longest hlongest
    simp only [pure_bind] at h
    -- a positive limit is fitted to whichever way an unset one would be read
    have hm : (if s.longestWhenUnset then (if maxLen > 0 then min maxLen longest else longest)
        else min maxLen longest) = min maxLen longest := by
      simp only [gt_iff_lt, hmax, if_true, ite_self]
    rw [hm] at h
    split at h
    · rename_i h0
      obtain ⟨rows, hrowsOk, h⟩ := Except.bind_eq_ok.1 h
      have h0 : tracks = 0 := by simpa using h0
      exact ⟨tagged, longest, [], rows, htagged, hlongest, by simp [h0], by simp [h0], hrowsOk,
        (Except.ok.inj h).symm⟩
    · rename_i h0
      obtain ⟨pads, hpads, h⟩ := Except.bind_eq_ok.1 h
      obtain ⟨trs, htrs, hpads⟩ := Except.bind_eq_ok.1 hpads
      obtain ⟨rows, hrowsOk, h⟩ := Except.bind_eq_ok.1 h
      have hpads := (Except.ok.inj hpads).symm
      refine ⟨tagged, longest, pads, rows, htagged, hlongest, ?_, ?_, hrowsOk, (Except.ok.inj h).symm⟩
      · rw [if_neg (by simpa using h0)]
        exact ⟨trs, htrs, hpads⟩
      · simpa [hpads] using hlab 0 trs htrs
  · cases h

/-- A query fitted to `m ≥ 2` positions at the `i`-th place of a batch's fitted rows is what the
batch encodes there. -/
theorem ofFitted_encodes {pads : List Data} {q : TaggedQuery} {n m i : Nat} {cls : String}
    {rows : List (List Data × List Nat × List Nat × List Nat × List (List Data))}
    {out : List Data × List Nat × List Nat × List Nat × List (List Data)} (hm : 2 ≤ m)
    (hcls : t.special .cls = .ok cls) (hq : q.Aligned n) (hpads : pads.length = tracks)
    (hlabels : q.labels.length = tracks) (hout : rows[i]? = some out) (hfit : fitQuery t s pads m q = .ok out) :
    (TaggedRows.ofFitted m tracks rows).Encodes t s cls pads m i q := by
  obtain ⟨ids, hids, rfl⟩ := fitQuery_ok hm hcls hq hfit
  refine ⟨⟨ids, hids, ?_⟩, ?_, ?_, ?_, ?_, ?_⟩
  · simp [TaggedRows.ofFitted, hout, hq.1]
  · simp [TaggedRows.ofFitted, (List.getElem?_eq_some_iff.1 hout).1]
  · simp [TaggedRows.ofFitted, hout]
  · simp [TaggedRows.ofFitted, hout]
  · simp [TaggedRows.ofFitted, hout]
  · -- each track's row, read at this query, is the query's fitted labels in that track
    have hl : ((pads.zip q.labels).map fun (p, ls) => fitRow m p p ls).length = tracks := by
      simp [hpads, hlabels]
    have hrow : ∀ k : Nat, (rows.map fun r => (r.2.2.2.2[k]?).getD [])[i]? =
        some ((((pads.zip q.labels).map fun (p, ls) => fitRow m p p ls)[k]?).getD []) := by
      intro k
      simp [hout]
    simp only [TaggedRows.ofFitted, Int.toNat_natCast, List.map_map, Function.comp_def, hrow]
    rw [← hl, map_range_getElem?_getD, List.map_map]
    rfl

end Batch


/-- **The rows of every query line up exactly when the limit is at least two**, for any tokenizer
that cuts every word of a query into at least one token.  Under a limit
`maxLen ≥ 2` every query is `queryRows` of its words' tokens fitted to the limit or the longest
query, whichever is shorter, padded by the first query's labels.  Under a limit of one the
longest query keeps all its token numbers behind a second class token, beyond its one segment. -/
theorem tagQueries_rows_aligned_iff {t : TokenizerOps} {s : TaggingStyle} {maxLen : Int}
    {queries : List String} {tracks : Nat} {labelsOf : Nat → Except Failure (List LabelTrack)}
    {r : TaggedRows} (hlab : ∀ i trs, labelsOf i = .ok trs → trs.length = tracks)
    (hwords : ∀ query ∈ queries, ∀ w ∈ Text.words query, ∀ ts, t.textToTokens w = .ok ts → ts ≠ [])
    (hmax : 1 ≤ maxLen) (h : tagQueries t s maxLen queries tracks labelsOf = .ok r) :
    ((∀ i < queries.length, ∃ n, r.RowsOfLength i n) ↔ 2 ≤ maxLen) ∧
    (2 ≤ maxLen → ∃ cls sep pads longest, t.special .cls = .ok cls ∧ t.special .sep = .ok sep ∧
      (if tracks = 0 then pads = [] else ∃ trs, labelsOf 0 = .ok trs ∧ pads = trs.map (·.pad)) ∧
      (∃ (i : Nat) (query : String) (wts : List (List String)), queries[i]? = some query ∧
        (Text.words query).mapM t.textToTokens = .ok wts ∧ wts.flatten.length + 2 = longest) ∧
      ∀ (i : Nat) (query : String), queries[i]? = some query → ∃ trs wts,
        (if tracks = 0 then trs = [] else labelsOf i = .ok trs) ∧
        (Text.words query).mapM t.textToTokens = .ok wts ∧ wts.flatten.length + 2 ≤ longest ∧
        r.RowsOfLength i (min maxLen.toNat longest) ∧
        r.Encodes t s cls pads (min maxLen.toNat longest) i (queryRows s cls sep trs wts)) := by
  obtain ⟨tagged, longest, pads, rows, htagged, hlongest, hpads, hpadsLen, hrowsOk, rfl⟩ :=
    tagQueries_ok_fitted hlab (by omega) h
  obtain ⟨hlen, hrows⟩ := taggedQueries_rows hlab hwords htagged
  obtain ⟨-, hrowAt⟩ := mapM_ok_getElem? hrowsOk
  -- the longest tagged query gives the common length, and the class and separator tokens
  obtain ⟨hmem, hle⟩ := List.max?_eq_some_iff.1 hlongest
  obtain ⟨q0, hq0, rfl⟩ := List.mem_map.1 hmem
  obtain ⟨i0, hi0⟩ := List.mem_iff_getElem?.1 hq0
  have hi0lt : i0 < queries.length := hlen ▸ (List.getElem?_eq_some_iff.1 hi0).1
  obtain ⟨query0, hquery0⟩ : ∃ query0, queries[i0]? = some query0 :=
    ⟨queries[i0], List.getElem?_eq_getElem hi0lt⟩
  obtain ⟨trs0, cls, sep, wts0, hq0', -, -, hcls, hsep, hwts0, hne0⟩ := hrows i0 query0 hquery0
  obtain rfl : queryRows s cls sep trs0 wts0 = q0 := Option.some.inj (hq0'.symm.trans hi0)
  have hlen0 : (queryRows s cls sep trs0 wts0).tokens.length = wts0.flatten.length + 2 :=
    (queryRows_aligned s cls sep trs0 hne0).1
  generalize hmN : min maxLen.toNat (wts0.flatten.length + 2) = mN
  have hm : min maxLen ((queryRows s cls sep trs0 wts0).tokens.length : Int) = (mN : Int) := by omega
  rw [hm] at hrowAt ⊢
  -- each query is the rows of its words, fitted to the common length
  have hquery : ∀ (i : Nat) (query : String), queries[i]? = some query → ∃ trs wts out,
      (if tracks = 0 then trs = [] else labelsOf i = .ok trs) ∧ trs.length = tracks ∧
      (Text.words query).mapM t.textToTokens = .ok wts ∧ wts.flatten.length + 2 ≤ wts0.flatten.length + 2 ∧
      (queryRows s cls sep trs wts).Aligned (wts.flatten.length + 2) ∧ rows[i]? = some out ∧
      fitQuery t s pads mN (queryRows s cls sep trs wts) = .ok out := by
    intro i query hi
    obtain ⟨trs, cls', sep', wts, hq, htrs, htrsLen, hcls', hsep', hwts, hne⟩ := hrows i query hi
    obtain rfl : cls' = cls := Except.ok.inj (hcls'.symm.trans hcls)
    obtain rfl : sep' = sep := Except.ok.inj (hsep'.symm.trans hsep)
    have haligned := queryRows_aligned s cls' sep' trs hne
    obtain ⟨out, hout, hfit⟩ := hrowAt i _ hq
    have hlong := hle _ (List.mem_map_of_mem (List.mem_of_getElem? hq))
    refine ⟨trs, wts, out, htrs, htrsLen, hwts, ?_, haligned, hout, hfit⟩
    rw [haligned.1, hlen0] at hlong
    omega
  -- with at least two positions every query's rows are fitted alike
  have hEnc : 2 ≤ mN → ∀ (i : Nat) (query : String), queries[i]? = some query → ∃ trs wts,
      (if tracks = 0 then trs = [] else labelsOf i = .ok trs) ∧
      (Text.words query).mapM t.textToTokens = .ok wts ∧ wts.flatten.length + 2 ≤ wts0.flatten.length + 2 ∧
      (TaggedRows.ofFitted mN tracks rows).Encodes t s cls pads mN i (queryRows s cls sep trs wts) := by
    intro h2 i query hi
    obtain ⟨trs, wts, out, htrs, htrsLen, hwts, hlong, haligned, hout, hfit⟩ := hquery i query hi
    exact ⟨trs, wts, htrs, hwts, hlong,
      ofFitted_encodes h2 hcls haligned hpadsLen (by simp [queryRows, htrsLen]) hout hfit⟩
  refine ⟨⟨fun hall => ?_, fun h2 i hi => ?_⟩, fun h2 => ?_⟩
  · -- with one position the longest query's token numbers outrun its segments
    refine Int.not_lt.1 fun h2 => ?_
    have hm1 : mN = 1 := by omega
    obtain ⟨trs, wts, out, -, -, -, -, haligned, hout, hfit⟩ := hquery i0 query0 hquery0
    rw [hm1] at hfit
    have hone := fitQuery_one_length haligned.1 (by omega) hfit
    obtain ⟨n, hids, hsegs, -⟩ := hall i0 hi0lt
    simp [TaggedRows.ofFitted, hout, hone] at hids
    simp [TaggedRows.ofFitted, hm1, (List.getElem?_eq_some_iff.1 hout).1] at hsegs
    omega
  · obtain ⟨trs, wts, -, -, -, hE⟩ := hEnc (by omega) i queries[i] (List.getElem?_eq_getElem hi)
    exact ⟨mN, hE.rowsOfLength (by omega)⟩
  · refine ⟨cls, sep, pads, wts0.flatten.length + 2, hcls, hsep, hpads,
      ⟨i0, query0, wts0, hquery0, hwts0, rfl⟩, fun i query hi => ?_⟩
    obtain ⟨trs, wts, htrs, hwts, hlong, hE⟩ := hEnc (by omega) i query hi
    rw [hmN]
    exact ⟨trs, wts, htrs, hwts, hlong, hE.rowsOfLength (by omega), hE⟩

/-- A two-word query under a limit of one: five token numbers, one segment. -/
theorem tagQueries_rows_aligned_iff_one_position :
    ∃ (t : TokenizerOps) (queries : List String) (labelsOf : Nat → Except Failure (List LabelTrack))
      (r : TaggedRows),
      t = Tokenizer.ops ⟨.words, [("[CLS]", 0), ("[SEP]", 1), ("the", 2), ("dog", 3)],
        [(.cls, "[CLS]"), (.sep, "[SEP]")]⟩ ∧
      queries = ["the dog"] ∧ labelsOf = (fun _ => pure [⟨.int 0, some [.int 1, .int 2]⟩]) ∧
      r = ⟨[[.int 0, .int 0, .int 2, .int 3, .int 1]], [[0]], [[1, 1, 1, 1, 1]], [[1, 1, 1, 1, 1]],
        [[0, 0, 1, 1, 0]], [[[.int 0, .int 0, .int 1, .int 2, .int 0]]]⟩ ∧
      (∀ i trs, labelsOf i = .ok trs → trs.length = 1) ∧
      (∀ query ∈ queries, ∀ w ∈ Text.words query, ∀ ts, t.textToTokens w = .ok ts → ts ≠ []) ∧
      (1 : Int) ≤ 1 ∧
      tagQueries t {} 1 queries 1 labelsOf = .ok r ∧
      ((∀ i < queries.length, ∃ n, r.RowsOfLength i n) ↔ 2 ≤ (1 : Int)) ∧
      (2 ≤ (1 : Int) → ∃ cls sep pads longest, t.special .cls = .ok cls ∧ t.special .sep = .ok sep ∧
        (if 1 = 0 then pads = [] else ∃ trs, labelsOf 0 = .ok trs ∧ pads = trs.map (·.pad)) ∧
        (∃ (i : Nat) (query : String) (wts : List (List String)), queries[i]? = some query ∧
          (Text.words query).mapM t.textToTokens = .ok wts ∧ wts.flatten.length + 2 = longest) ∧
        ∀ (i : Nat) (query : String), queries[i]? = some query → ∃ trs wts,
          (if 1 = 0 then trs = [] else labelsOf i = .ok trs) ∧
          (Text.words query).mapM t.textToTokens = .ok wts ∧ wts.flatten.length + 2 ≤ longest ∧
          r.RowsOfLength i (min (1 : Int).toNat longest) ∧
          r.Encodes t {} cls pads (min (1 : Int).toNat longest) i (queryRows {} cls sep trs wts)) := by
  have hlab : ∀ i trs, (fun _ => pure [⟨.int 0, some [.int 1, .int 2]⟩] :
      Nat → Except Failure (List LabelTrack)) i = .ok trs → trs.length = 1 := by
    intro i trs h
    cases h
    rfl
  have hwords : ∀ query ∈ ["the dog"], ∀ w ∈ Text.words query, ∀ ts,
      (Tokenizer.ops ⟨.words, [("[CLS]", 0), ("[SEP]", 1), ("the", 2), ("dog", 3)],
        [(.cls, "[CLS]"), (.sep, "[SEP]")]⟩).textToTokens w = .ok ts → ts ≠ [] :=
    fun _ _ _ hw _ h => textToTokens_ne_nil hw h
  exact ⟨_, _, _, _, rfl, rfl, rfl, rfl, hlab, hwords, by decide, rfl,
    tagQueries_rows_aligned_iff hlab hwords (by decide) rfl⟩

end Conversa.Features
