import Conversa.Service.Dialogue
import Conversa.Proofs.Monadic

/-!
# Fitting sentence pairs to a fixed length

An example is shortened to leave room for its special tokens, framed, numbered and padded.
Shortening keeps prefixes (`popLonger_ok`, `truncatePair_ok`) and levels the longer text down
(`popLonger_length_fst`, `Service.sgdTruncate_balanced`); `framePair_length` counts the framing
and `padRow_ok_iff` the padding, so features are produced exactly when every example fits
(`keptTokens_fit_iff`, `pairFeatures_ok_iff_fit`).
-/

namespace Conversa.Features

open Conversa.Language

/-! ## Shortening a pair -/

section Truncation

variable {α : Type}

/-- Dropping `k` tokens from a pair that has them gives prefixes of the two lists, `k` tokens
shorter together. -/
theorem popLonger_ok : ∀ (k : Nat) (a b : List α), k ≤ a.length + b.length →
    ∃ a' b', popLonger a b k = .ok (a', b') ∧ a' <+: a ∧ b' <+: b ∧
      a'.length + b'.length + k = a.length + b.length
  | 0, a, b, _ => ⟨a, b, rfl, List.prefix_refl a, List.prefix_refl b, rfl⟩
  | k + 1, a, b, hk => by
    unfold popLonger
    split
    · -- the first list is the longer: its last token goes
      obtain ⟨a', b', h, ha, hb, hlen⟩ := popLonger_ok k a.dropLast b (by simp; omega)
      exact ⟨a', b', h, ha.trans (List.dropLast_prefix a), hb, by simp at hlen; omega⟩
    · -- else the second goes, and it has a token since the pair is not empty
      rename_i hle
      cases b with
      | nil => simp only [List.length_nil] at hk hle; omega
      | cons x xs =>
        simp only [List.length_cons] at hk hle
        obtain ⟨a', b', h, ha, hb, hlen⟩ := popLonger_ok k a (x :: xs).dropLast (by simp; omega)
        simp only [List.length_dropLast, List.length_cons, Nat.add_sub_cancel] at hlen
        exact ⟨a', b', h, ha, hb.trans (List.dropLast_prefix _), by simp; omega⟩

theorem popLonger_error : ∀ (k : Nat) (a b : List α), a.length + b.length < k →
    ∃ e, popLonger a b k = .error e
  | 0, _, _, hk => absurd hk (Nat.not_lt_zero _)
  | k + 1, a, b, hk => by
    unfold popLonger
    split
    · exact popLonger_error k a.dropLast b (by simp; omega)
    · rename_i hle
      cases b with
      | nil => exact ⟨_, rfl⟩
      | cons x xs =>
        simp only [List.length_cons] at hk hle
        exact popLonger_error k a (x :: xs).dropLast (by simp; omega)

/-- After `k` drops the first list keeps `min |a| (max (|a| - k) ⌈(|a| + |b| - k) / 2⌉)` tokens:
the second loses tokens while it is not shorter, and once the two are level they lose tokens in
turn, the first keeping the odd one. -/
theorem popLonger_length_fst : ∀ (k : Nat) (a b : List α) {a' b' : List α},
    popLonger a b k = .ok (a', b') → k ≤ a.length + b.length →
    (a'.length : Int) = min (a.length : Int) (max ((a.length : Int) - k) ((a.length + b.length - k + 1 : Int) / 2))
  | 0, a, b, a', b', h, _ => by
    simp only [popLonger, Except.ok.injEq, Prod.mk.injEq] at h
    obtain ⟨rfl, -⟩ := h
    omega
  | k + 1, a, b, a', b', h, hk => by
    unfold popLonger at h
    split at h
    · -- the first list is the longer: the level it comes down to is still above the rest
      have := popLonger_length_fst k a.dropLast b h (by simp; omega)
      simp only [List.length_dropLast] at this
      omega
    · rename_i hle
      cases b with
      | nil => simp at h
      | cons x xs =>
        simp only [List.length_cons] at hk hle
        have := popLonger_length_fst k a (x :: xs).dropLast h (by simp; omega)
        simp only [List.length_dropLast, List.length_cons, Nat.add_sub_cancel] at this ⊢
        omega

/-- **Shortening a pair to a limit that is not negative** keeps a prefix of each list, within
the limit together. -/
theorem truncatePair_ok (a b : List α) {n : Int} (hn : 0 ≤ n) :
    ∃ a' b', truncatePair a b n = .ok (a', b') ∧ a' <+: a ∧ b' <+: b ∧
      ((a'.length + b'.length : Nat) : Int) ≤ n := by
  obtain ⟨a', b', h, ha, hb, hlen⟩ := popLonger_ok ((a.length + b.length : Int) - n).toNat a b (by omega)
  exact ⟨a', b', h, ha, hb, by omega⟩

theorem truncatePair_error (a b : List α) {n : Int} (hn : n < 0) : ∃ e, truncatePair a b n = .error e :=
  popLonger_error _ a b (by omega)

end Truncation

/-! ## Framing and padding -/

/-- How many special tokens a single text is framed with: its beginning, end and class tokens. -/
def PairLayout.singleSpecials (l : PairLayout) : Int :=
  let n (o : Option String) : Int := if (present o).isSome then 1 else 0
  n l.bos + n l.eos + n l.cls

/-- The special tokens a layout uses. -/
def PairLayout.specialTokens (l : PairLayout) : List String :=
  [l.bos, l.eos, l.sepExtra, l.cls].filterMap present

/-- Framing adds the special tokens of a single text when the second text has no tokens, else
those of a pair; every token gets a segment. -/
theorem framePair_length (l : PairLayout) (a b : List String) :
    ((framePair l a b).1.length : Int) =
      a.length + b.length + (if b = [] then l.singleSpecials else l.specialCount true) ∧
    (framePair l a b).2.length = (framePair l a b).1.length := by
  unfold framePair PairLayout.singleSpecials PairLayout.specialCount
  dsimp only
  generalize present l.bos = bos
  generalize present l.eos = eos
  generalize present l.sepExtra = sx
  generalize present l.cls = cls
  cases bos <;> cases eos <;> cases sx <;> cases cls <;> cases b <;> cases l.clsAtEnd <;> simp <;> omega

/-- A single text is framed with no more special tokens than a pair, and with at most one more
or one fewer than the limit reserves for it. -/
theorem singleSpecials_bounds (l : PairLayout) :
    0 ≤ l.singleSpecials ∧ l.singleSpecials ≤ l.specialCount true ∧
      l.singleSpecials ≤ l.specialCount false + 1 ∧ l.specialCount false ≤ l.singleSpecials + 1 := by
  unfold PairLayout.singleSpecials PairLayout.specialCount
  dsimp only
  cases present l.bos <;> cases present l.eos <;> cases present l.sepExtra <;> cases present l.cls <;>
    simp

/-- Every token of a framed pair is a token of one of the texts or a special token of the layout. -/
theorem mem_framePair {l : PairLayout} {a b : List String} {x : String}
    (hx : x ∈ (framePair l a b).1) : x ∈ a ++ b ++ l.specialTokens := by
  unfold framePair at hx
  dsimp only at hx
  simp only [PairLayout.specialTokens, List.filterMap_cons, List.filterMap_nil]
  cases hbos : present l.bos <;> cases heos : present l.eos <;> cases hsx : present l.sepExtra <;>
    cases hcls : present l.cls <;> cases b <;> cases l.clsAtEnd <;>
    simp only [hbos, heos, hsx, hcls] at hx ⊢ <;> simp at hx ⊢ <;> grind

/-- **Padding a framed example**: with its tokens numbered and a padding number, the rows are
padded to the limit when the tokens fit it, each of length `maxLen`, the token numbers kept
together among the padding; tokens over the limit fail the length check. -/
theorem padRow_ok_iff {t : TokenizerOps} {l : PairLayout} {maxLen : Int} {toks : List String}
    {segs : List Int} {ids : List Nat} {pid : Nat} (hids : t.tokensToIds toks = .ok ids)
    (hpid : padId t l = .ok pid) (hsegs : segs.length = toks.length) :
    ((∃ r, padRow t l maxLen toks segs = .ok r) ↔ (toks.length : Int) ≤ maxLen) ∧
    ∀ r, padRow t l maxLen toks segs = .ok r →
      (r.1.length : Int) = maxLen ∧ (r.2.1.length : Int) = maxLen ∧ (r.2.2.length : Int) = maxLen ∧
      ids <:+: r.1 := by
  have hlen : ids.length = toks.length := mapM_ok_length hids
  simp only [padRow, hids, hpid, Except.ok_bind]
  by_cases hfit : (toks.length : Int) ≤ maxLen
  · -- the padding brings every row to the limit, so no check fails
    have hm : (toks.length : Int) + ((maxLen.toNat - toks.length : Nat) : Int) = maxLen := by omega
    have hm' : ((maxLen.toNat - toks.length : Nat) : Int) + toks.length = maxLen := by omega
    cases l.padOnLeft <;> simp [hlen, hsegs, hm, hm', hfit, pure, Except.pure, List.infix_append_left,
      List.infix_append_right]
  · -- no padding, and the token numbers alone are over the limit
    have hm : ¬ (toks.length : Int) + ((maxLen.toNat - toks.length : Nat) : Int) = maxLen := by omega
    have hm' : ¬ ((maxLen.toNat - toks.length : Nat) : Int) + toks.length = maxLen := by omega
    cases l.padOnLeft <;> simp [hlen, hm, hm', hfit, throw, throwThe, MonadExceptOf.throw]

/-! ## The tokens kept -/

/-- The tokens of an example's texts before shortening; a second text that is absent or empty
gives none. -/
def textTokens (t : TokenizerOps) (a : String) (b : Option String) :
    Except Failure (List String × List String) := do
  let ta ← t.textToTokens a
  match b with
  | some b => if b.isEmpty then pure (ta, []) else do pure (ta, ← t.textToTokens b)
  | none => pure (ta, [])

section Kept

variable {t : TokenizerOps} {l : PairLayout} {maxLen : Int} {a : String} {b : Option String}
  {ta tb : List String}

theorem keptTokens_pair (hb : b.any (!·.isEmpty) = true) (h : textTokens t a b = .ok (ta, tb)) :
    keptTokens t l maxLen a b = truncatePair ta tb (maxLen - l.specialCount true) := by
  obtain ⟨s, rfl⟩ := Option.isSome_iff_exists.1 (Option.isSome_of_any hb)
  have hs : s.isEmpty = false := by simpa using hb
  unfold textTokens at h
  unfold keptTokens
  cases hta : t.textToTokens a with
  | error e => simp [hta] at h
  | ok ta' =>
    cases htb : t.textToTokens s with
    | error e => simp [hta, hs, htb, Functor.map, Except.map] at h
    | ok tb' =>
      simp only [hta, hs, htb, Except.ok_bind, if_false, Bool.false_eq_true] at h
      obtain ⟨rfl, rfl⟩ := h
      simp [hs, htb, hb]

theorem keptTokens_single (l : PairLayout) (maxLen : Int) (hb : b.any (!·.isEmpty) = false) (h : textTokens t a b = .ok (ta, tb)) :
    tb = [] ∧ keptTokens t l maxLen a b = .ok ((if (ta.length : Int) > maxLen - l.specialCount false
      then sliceTo ta (maxLen - l.specialCount false) else ta), []) := by
  -- the second text is absent or empty
  have hb' : ∀ s, b = some s → s.isEmpty = true := by
    rintro s rfl
    simpa using hb
  unfold textTokens at h
  unfold keptTokens
  cases hta : t.textToTokens a with
  | error e => simp [hta] at h
  | ok ta' =>
    cases b with
    | none =>
      simp only [hta, Except.ok_bind, pure, Except.pure, Except.ok.injEq, Prod.mk.injEq] at h
      obtain ⟨rfl, rfl⟩ := h
      simp [hb, pure, Except.pure]
    | some s =>
      have hs := hb' s rfl
      simp only [hta, hs, Except.ok_bind, if_true, pure, Except.pure, Except.ok.injEq,
        Prod.mk.injEq] at h
      obtain ⟨rfl, rfl⟩ := h
      simp [hs, hb, pure, Except.pure]

theorem keptTokens_prefix {ta' tb' : List String} (h : textTokens t a b = .ok (ta, tb))
    (hk : keptTokens t l maxLen a b = .ok (ta', tb')) : ta' <+: ta ∧ tb' <+: tb := by
  cases hb : b.any (!·.isEmpty)
  · obtain ⟨rfl, hk'⟩ := keptTokens_single l maxLen hb h
    rw [hk'] at hk
    simp only [Except.ok.injEq, Prod.mk.injEq] at hk
    obtain ⟨rfl, rfl⟩ := hk
    refine ⟨?_, List.prefix_refl []⟩
    split
    · exact List.take_prefix _ ta
    · exact List.prefix_refl ta
  · rw [keptTokens_pair hb h] at hk
    by_cases hn : 0 ≤ maxLen - l.specialCount true
    · obtain ⟨x, y, hxy, hx, hy, -⟩ := truncatePair_ok ta tb hn
      rw [hxy, Except.ok.injEq, Prod.mk.injEq] at hk
      obtain ⟨rfl, rfl⟩ := hk
      exact ⟨hx, hy⟩
    · obtain ⟨e, he⟩ := truncatePair_error ta tb (Int.lt_of_not_ge hn)
      rw [he] at hk
      cases hk

/-- Whether an example fits the limit with the special tokens it is framed with: a pair whenever
the limit holds the special tokens of a pair; a single text of `n` tokens when it fits whole
beside its special tokens, or when the room reserved for them is at least what they take and
either the reserve is within the limit or the text has at most one token. -/
def PairLayout.Fits (l : PairLayout) (maxLen : Int) (pair : Bool) (n : Nat) : Prop :=
  if pair then l.specialCount true ≤ maxLen
  else n + l.singleSpecials ≤ maxLen ∨
    (l.singleSpecials ≤ l.specialCount false ∧ (l.specialCount false ≤ maxLen ∨ n ≤ 1))

instance (l : PairLayout) (maxLen : Int) (pair : Bool) (n : Nat) : Decidable (l.Fits maxLen pair n) :=
  inferInstanceAs (Decidable (if pair then l.specialCount true ≤ maxLen
    else n + l.singleSpecials ≤ maxLen ∨
      (l.singleSpecials ≤ l.specialCount false ∧ (l.specialCount false ≤ maxLen ∨ n ≤ 1))))

/-- **The tokens kept fit the limit with their special tokens exactly when the example fits**,
for a limit that holds the special tokens the example's texts are framed with. -/
theorem keptTokens_fit_iff (h : textTokens t a b = .ok (ta, tb))
    (hmin : (if tb = [] then l.singleSpecials else l.specialCount true) ≤ maxLen) :
    (∃ ta' tb', keptTokens t l maxLen a b = .ok (ta', tb') ∧
      ((framePair l ta' tb').1.length : Int) ≤ maxLen) ↔ l.Fits maxLen (b.any (!·.isEmpty)) ta.length := by
  obtain ⟨h0, hpair, hlo, hhi⟩ := singleSpecials_bounds l
  cases hb : b.any (!·.isEmpty)
  · -- a single text: cut by the reserve, framed with its own special tokens
    obtain ⟨rfl, hk⟩ := keptTokens_single l maxLen hb h
    simp only [hk, Except.ok.injEq, Prod.mk.injEq, PairLayout.Fits, Bool.false_eq_true, if_false]
    simp only [if_pos] at hmin
    constructor
    · rintro ⟨ta', tb', ⟨rfl, rfl⟩, hfit⟩
      rw [(framePair_length l _ []).1] at hfit
      simp only [List.length_nil, if_true] at hfit
      split at hfit
      · simp only [sliceTo, List.length_take] at hfit
        split at hfit <;> omega
      · omega
    · intro hfits
      refine ⟨_, _, ⟨rfl, rfl⟩, ?_⟩
      rw [(framePair_length l _ []).1]
      simp only [List.length_nil, if_true]
      split
      · simp only [sliceTo, List.length_take]
        split <;> omega
      · omega
  · -- a pair: shortened together, framed with the special tokens of a pair
    rw [keptTokens_pair hb h]
    simp only [PairLayout.Fits, if_true]
    constructor
    · rintro ⟨ta', tb', hk, -⟩
      refine Int.not_lt.1 fun hn => ?_
      obtain ⟨e, he⟩ := truncatePair_error ta tb (show maxLen - l.specialCount true < 0 by omega)
      rw [he] at hk
      cases hk
    · intro hn
      obtain ⟨ta', tb', hk, -, -, hlen⟩ := truncatePair_ok ta tb (show 0 ≤ maxLen - l.specialCount true by omega)
      refine ⟨ta', tb', hk, ?_⟩
      rw [(framePair_length l ta' tb').1]
      split <;> omega

end Kept

/-! ## One example -/

/-- What an example needs besides room to be encoded: the tokenizer cuts its texts and numbers
every token of them and of the layout, the layout has a numbered padding token, and its label
has a value that shows as a whole number. -/
structure Encodable (t : TokenizerOps) (l : PairLayout) (mode : OutputMode)
    (labels : List (Option String)) (e : String × Option String × Option String)
    (ta tb : List String) : Prop where
  texts : textTokens t e.1 e.2.1 = .ok (ta, tb)
  numbered : ∀ x ∈ ta ++ tb ++ l.specialTokens, (t.tokenToId x).toOption.isSome
  pad : ∃ p, padId t l = .ok p
  label : ∃ v, labelValue mode labels e.2.2 = .ok v ∧ checkWhole v = .ok ()

section Example

variable {t : TokenizerOps} {l : PairLayout} {maxLen : Int} {mode : OutputMode}
  {labels : List (Option String)} {e : String × Option String × Option String} {ta tb : List String}

/-- The framed tokens an encodable example keeps are all numbered: they are kept prefixes of its
texts' tokens and special tokens of the layout. -/
theorem Encodable.framed_numbered {ta' tb' : List String} (henc : Encodable t l mode labels e ta tb)
    (hk : keptTokens t l maxLen e.1 e.2.1 = .ok (ta', tb')) :
    ∃ ids, t.tokensToIds (framePair l ta' tb').1 = .ok ids := by
  obtain ⟨hpa, hpb⟩ := keptTokens_prefix henc.texts hk
  refine exists_mapM_ok_iff.2 fun x hx => ?_
  -- a framed token is a token of a text or of the layout, so it has a number
  have hmem : x ∈ ta ++ tb ++ l.specialTokens := by
    have := mem_framePair hx
    simp only [List.mem_append] at this ⊢
    rcases this with (hx | hx) | hx
    · exact .inl (.inl (hpa.subset hx))
    · exact .inl (.inr (hpb.subset hx))
    · exact .inr hx
  have hnum := henc.numbered x hmem
  cases h : t.tokenToId x with
  | ok n => exact ⟨n, rfl⟩
  | error e => simp [h, Except.toOption] at hnum

/-- **An encodable example is encoded exactly when its kept tokens fit the limit framed**, and
its rows then have the limit's length and hold the numbers of the framed tokens. -/
theorem pairFeature_ok_iff (henc : Encodable t l mode labels e ta tb) (i : Nat) :
    ((∃ f, pairFeature t l maxLen mode labels (e, i) = .ok f) ↔
      ∃ ta' tb', keptTokens t l maxLen e.1 e.2.1 = .ok (ta', tb') ∧
        ((framePair l ta' tb').1.length : Int) ≤ maxLen) ∧
    ∀ f, pairFeature t l maxLen mode labels (e, i) = .ok f →
      (f.inputIds.length : Int) = maxLen ∧ (f.inputMask.length : Int) = maxLen ∧
      (f.segmentIds.length : Int) = maxLen ∧ ∃ ta' tb' ids, ta' <+: ta ∧ tb' <+: tb ∧
        t.tokensToIds (framePair l ta' tb').1 = .ok ids ∧ ids <:+: f.inputIds := by
  obtain ⟨a, b, label⟩ := e
  obtain ⟨pid, hpid⟩ := henc.pad
  obtain ⟨v, hv, hwhole⟩ := henc.label
  -- padding the framed kept tokens: it succeeds exactly when they fit, with rows of the limit
  have hpad : ∀ ta' tb', keptTokens t l maxLen a b = .ok (ta', tb') →
      ∃ ids, t.tokensToIds (framePair l ta' tb').1 = .ok ids ∧
        ((∃ r, padRow t l maxLen (framePair l ta' tb').1 (framePair l ta' tb').2 = .ok r) ↔
          ((framePair l ta' tb').1.length : Int) ≤ maxLen) ∧
        ∀ r, padRow t l maxLen (framePair l ta' tb').1 (framePair l ta' tb').2 = .ok r →
          (r.1.length : Int) = maxLen ∧ (r.2.1.length : Int) = maxLen ∧
          (r.2.2.length : Int) = maxLen ∧ ids <:+: r.1 := by
    intro ta' tb' hk
    obtain ⟨ids, hi⟩ := Encodable.framed_numbered henc hk
    exact ⟨ids, hi, padRow_ok_iff hi hpid (framePair_length l ta' tb').2⟩
  simp only [pairFeature]
  refine ⟨⟨?_, ?_⟩, ?_⟩
  · rintro ⟨f, hf⟩
    obtain ⟨⟨ta', tb'⟩, hk, hf⟩ := Except.bind_eq_ok.1 hf
    obtain ⟨r, hr, -⟩ := Except.bind_eq_ok.1 hf
    obtain ⟨-, -, hiff, -⟩ := hpad ta' tb' hk
    exact ⟨ta', tb', hk, hiff.1 ⟨r, hr⟩⟩
  · rintro ⟨ta', tb', hk, hfit⟩
    obtain ⟨ids, -, hiff, -⟩ := hpad ta' tb' hk
    obtain ⟨r, hr⟩ := hiff.2 hfit
    refine ⟨⟨r.1, r.2.1, r.2.2, v⟩, ?_⟩
    simp only [hk, Except.ok_bind, hr, hv]
    split <;> simp [hwhole, pure, Except.pure]
  · intro f hf
    obtain ⟨⟨ta', tb'⟩, hk, hf⟩ := Except.bind_eq_ok.1 hf
    obtain ⟨r, hr, hf⟩ := Except.bind_eq_ok.1 hf
    obtain ⟨ids, hi, -, hrows⟩ := hpad ta' tb' hk
    obtain ⟨hpa, hpb⟩ := keptTokens_prefix henc.texts hk
    -- the label read last leaves the rows as padding made them
    have hf' : f.inputIds = r.1 ∧ f.inputMask = r.2.1 ∧ f.segmentIds = r.2.2 := by
      obtain ⟨v', -, hf⟩ := Except.bind_eq_ok.1 hf
      split at hf
      · obtain ⟨-, -, hf⟩ := Except.bind_eq_ok.1 hf
        cases hf
        exact ⟨rfl, rfl, rfl⟩
      · cases hf
        exact ⟨rfl, rfl, rfl⟩
    obtain ⟨h1, h2, h3, h4⟩ := hrows r hr
    rw [hf'.1, hf'.2.1, hf'.2.2]
    exact ⟨h1, h2, h3, ta', tb', ids, hpa, hpb, hi, h4⟩

end Example

/-! ## Every example -/

/-- **Encoding examples to a fixed length succeeds exactly when every example fits**
(`PairLayout.Fits`), for a tokenizer that cuts and numbers the texts, numbered special and
padding tokens, labels shown as whole numbers and a limit holding each example's special tokens.
A pair always fits; a single text fits whole beside its special tokens, or when the room reserved
for them (no class token, an extra separator) suffices.  Produced features have three rows of
the limit's length, each holding its framed texts' numbers as prefixes of their tokens. -/
theorem pairFeatures_ok_iff_fit {t : TokenizerOps} {l : PairLayout} {maxLen : Int} {mode : OutputMode}
    {labels : List (Option String)} {exs : List (String × Option String × Option String)}
    (henc : ∀ e ∈ exs, ∃ ta tb, Encodable t l mode labels e ta tb ∧
      (if tb = [] then l.singleSpecials else l.specialCount true) ≤ maxLen) :
    ((∃ fs, pairFeatures t l maxLen mode labels exs = .ok fs) ↔
      ∀ e ∈ exs, ∀ ta tb, textTokens t e.1 e.2.1 = .ok (ta, tb) →
        l.Fits maxLen (e.2.1.any (!·.isEmpty)) ta.length) ∧
    ∀ fs, pairFeatures t l maxLen mode labels exs = .ok fs → fs.length = exs.length ∧
      ∀ p ∈ exs.zip fs, (p.2.inputIds.length : Int) = maxLen ∧ (p.2.inputMask.length : Int) = maxLen ∧
        (p.2.segmentIds.length : Int) = maxLen ∧ ∃ ta tb ta' tb' ids,
          textTokens t p.1.1 p.1.2.1 = .ok (ta, tb) ∧ ta' <+: ta ∧ tb' <+: tb ∧
          t.tokensToIds (framePair l ta' tb').1 = .ok ids ∧ ids <:+: p.2.inputIds := by
  -- one example is encoded exactly when it fits
  have hone : ∀ e ∈ exs, ∀ i, (∃ f, pairFeature t l maxLen mode labels (e, i) = .ok f) ↔
      ∀ ta tb, textTokens t e.1 e.2.1 = .ok (ta, tb) → l.Fits maxLen (e.2.1.any (!·.isEmpty)) ta.length := by
    intro e he i
    obtain ⟨ta, tb, henc, hmin⟩ := henc e he
    rw [(pairFeature_ok_iff henc i).1, keptTokens_fit_iff henc.texts hmin]
    constructor
    · intro hfit ta' tb' h'
      rw [henc.texts, Except.ok.injEq, Prod.mk.injEq] at h'
      obtain ⟨rfl, rfl⟩ := h'
      exact hfit
    · exact fun hfit => hfit ta tb henc.texts
  refine ⟨⟨fun ⟨fs, h⟩ e he => ?_, fun hfit => ?_⟩, fun fs h => ?_⟩
  · obtain ⟨i, f, hf⟩ := mapM_zipIdx_ok_mem h e he
    exact (hone e he i).1 ⟨f, hf⟩
  · exact mapM_zipIdx_ok_of_forall fun e he i => (hone e he i).2 (hfit e he)
  · obtain ⟨hlen, hrows⟩ := mapM_zipIdx_ok h
    refine ⟨hlen, fun p hp => ?_⟩
    obtain ⟨i, hf⟩ := hrows p hp
    obtain ⟨ta, tb, henc, -⟩ := henc p.1 (List.of_mem_zip hp).1
    obtain ⟨h1, h2, h3, ta', tb', ids, hpa, hpb, hids, hin⟩ := (pairFeature_ok_iff henc i).2 p.2 hf
    exact ⟨h1, h2, h3, ta, tb, ta', tb', ids, henc.texts, hpa, hpb, hids, hin⟩

/-- Three words as a single text under a limit of three with the default layout (an end token
and a class token): the text does not fit, since the room reserved for it leaves the class
token out. -/
theorem pairFeatures_ok_iff_fit_three_words :
    ∃ (t : TokenizerOps) (l : PairLayout) (exs : List (String × Option String × Option String)),
      t = Tokenizer.ops ⟨.words, [("[CLS]", 0), ("[SEP]", 1), ("[PAD]", 2), ("a", 3), ("big", 4), ("cat", 5)],
        []⟩ ∧
      l = {} ∧ exs = [("a big cat", none, some "0")] ∧ ¬ l.Fits 3 false 3 ∧
      (∀ e ∈ exs, ∃ ta tb, Encodable t l .classification [some "0", some "1"] e ta tb ∧
        (if tb = [] then l.singleSpecials else l.specialCount true) ≤ 3) ∧
      ((∃ fs, pairFeatures t l 3 .classification [some "0", some "1"] exs = .ok fs) ↔
        ∀ e ∈ exs, ∀ ta tb, textTokens t e.1 e.2.1 = .ok (ta, tb) →
          l.Fits 3 (e.2.1.any (!·.isEmpty)) ta.length) ∧
      ∀ fs, pairFeatures t l 3 .classification [some "0", some "1"] exs = .ok fs → fs.length = exs.length ∧
        ∀ p ∈ exs.zip fs, (p.2.inputIds.length : Int) = 3 ∧ (p.2.inputMask.length : Int) = 3 ∧
          (p.2.segmentIds.length : Int) = 3 ∧ ∃ ta tb ta' tb' ids,
            textTokens t p.1.1 p.1.2.1 = .ok (ta, tb) ∧ ta' <+: ta ∧ tb' <+: tb ∧
            t.tokensToIds (framePair l ta' tb').1 = .ok ids ∧ ids <:+: p.2.inputIds := by
  have henc : ∀ e ∈ [("a big cat", (none : Option String), some "0")], ∃ ta tb,
      Encodable (Tokenizer.ops ⟨.words, [("[CLS]", 0), ("[SEP]", 1), ("[PAD]", 2), ("a", 3), ("big", 4),
        ("cat", 5)], []⟩)
        {} .classification [some "0", some "1"] e ta tb ∧
      (if tb = [] then ({} : PairLayout).singleSpecials else ({} : PairLayout).specialCount true) ≤ 3 := by
    intro e he
    simp only [List.mem_singleton] at he
    subst he
    refine ⟨["a", "big", "cat"], [], ⟨rfl, by decide, ⟨2, rfl⟩, ⟨.int 0, rfl, rfl⟩⟩, by decide⟩
  exact ⟨_, _, _, rfl, rfl, rfl, by decide, henc, pairFeatures_ok_iff_fit henc⟩

end Conversa.Features

namespace Conversa.Service

open Features

/-- **Shortening a pair of token lists to a limit.**  For a limit that is not negative, the
answer says whether the lists were too long together and keeps a prefix of each: lists that fit
are kept whole, and lists too long keep `min |a| (max (limit - |b|) ⌈limit / 2⌉)` tokens of the
first and the rest of the limit of the second. -/
theorem sgdTruncate_balanced (a b : List Data) (maxLen : Int) (hM : 0 ≤ maxLen) :
    ∃ a' b', sgdTruncate (.dict [("a", .list a), ("b", .list b), ("max_length", .int maxLen)]) =
        .ok (.dict [("too_long", .bool ((a.length + b.length : Int) > maxLen)), ("a", .list a'), ("b", .list b')]) ∧
      a' <+: a ∧ b' <+: b ∧
      if (a.length + b.length : Int) > maxLen then
        (a'.length : Int) = min (a.length : Int) (max (maxLen - b.length) ((maxLen + 1) / 2)) ∧
          (b'.length : Int) = maxLen - a'.length
      else a' = a ∧ b' = b := by
  obtain ⟨a', b', h, ha, hb, hlen⟩ := popLonger_ok ((a.length + b.length : Int) - maxLen).toNat a b (by omega)
  refine ⟨a', b', ?_, ha, hb, ?_⟩
  · simp [sgdTruncate, intField, Data.getD, Data.get?, Data.items, truncatePair, h, Functor.map, Except.map]
  · have hfst := popLonger_length_fst _ a b h (by omega)
    split
    · omega
    · exact ⟨ha.eq_of_length (by omega), hb.eq_of_length (by omega)⟩

/-- Three tokens and one, cut to two: the first list comes down to the level of the second. -/
theorem sgdTruncate_balanced_three_one :
    (0 : Int) ≤ 2 ∧ ∃ a' b', sgdTruncate (.dict [("a", .list [.int 1, .int 2, .int 3]), ("b", .list [.int 4]),
        ("max_length", .int 2)]) = .ok (.dict [("too_long", .bool true), ("a", .list a'), ("b", .list b')]) ∧
      a'.length = 1 ∧ b'.length = 1 := by
  obtain ⟨a', b', h, -, -, hlen⟩ := sgdTruncate_balanced [.int 1, .int 2, .int 3] [.int 4] 2 (by decide)
  simp only [List.length_cons, List.length_nil] at h hlen
  refine ⟨by decide, a', b', h, ?_⟩
  simp at hlen
  omega

end Conversa.Service
