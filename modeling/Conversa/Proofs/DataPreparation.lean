import Mathlib
import Conversa.Callees.TranslationCorpus

/-!
# Preparing training data: corpus fragments and label numbering

**Fragments.**  A corpus is cut into fragments of `per` lines, each a first line and a bound;
the last gets the bound `-1` and so takes no line (`fragments_take_lines_before_last`, from the
closed forms `steppedRange_natCast`, `fragmentBounds_natCast` and `countP_windows`).

**Label numbering.**  Labels are numbered with the pad label first, in a set seeded with the pad
label's characters (`labelNumbering_seeds_pad_characters`, `numberSorted_spec`, `foldl_keepNew`).
-/

namespace Conversa.Callees

/-- From zero below a positive `n`, the starts `p` apart are the first `(n - 1) / p + 1` multiples
of `p`. -/
lemma steppedRange_natCast {n p : Nat} (hn : 0 < n) (hp : 0 < p) :
    steppedRange n p = (List.range ((n - 1) / p + 1)).map fun i : Nat => (i : Int) * p := by
  have hcount : (((n : Int) + p - 1) / p).toNat = (n - 1) / p + 1 := by
    have : ((n : Int) + p - 1) = ((n - 1 + p : Nat) : Int) := by omega
    rw [this, ← Int.natCast_ediv, Int.toNat_natCast, Nat.add_div_right _ hp]
  simp only [steppedRange, show (p : Int) > 0 by omega, show (n : Int) > 0 by omega, decide_true,
    Bool.and_self, ite_true, hcount]

/-- The fragments of `n > 0` lines, `p > 0` each: a whole fragment from each multiple of `p`
below the last, and the last one from `(n - 1) / p * p` to `-1`. -/
lemma fragmentBounds_natCast {n p : Nat} (hn : 0 < n) (hp : 0 < p) :
    fragmentBounds n p =
      .ok (((List.range ((n - 1) / p)).map fun i : Nat => ((i : Int) * p, (i : Int) * p + p)) ++
        [(((n - 1) / p : Nat) * (p : Int), -1)]) := by
  have hp0 : ((p : Int) == 0) = false := by simp; omega
  simp only [fragmentBounds, hp0, steppedRange_natCast hn hp, List.range_succ, List.map_append,
    List.map_cons, List.map_nil, List.getLast?_concat, List.dropLast_concat, List.map_map]
  simp
  rfl

/-- Of the windows of `p` lines from each multiple of `p` below `k * p`, line `l` is in one, the
`l / p`-th, when that is below `k`, and in none otherwise. -/
lemma countP_windows (k p l : Nat) (hp : 0 < p) :
    (List.range k).countP (fun i => decide (i * p ≤ l) && decide (l < i * p + p)) =
      if l / p < k then 1 else 0 := by
  have hwin : ∀ i, (decide (i * p ≤ l) && decide (l < i * p + p)) = (i == l / p) := by
    intro i
    have hle := @Nat.le_div_iff_mul_le p i l hp
    have hlt := @Nat.div_lt_iff_lt_mul p l (i + 1) hp
    rw [Nat.add_mul, Nat.one_mul] at hlt
    -- `i` is the one multiple of `p` whose window holds `l`
    have hiff : i * p ≤ l ∧ l < i * p + p ↔ i = l / p := by
      rw [← hle, ← hlt]
      generalize l / p = q
      omega
    rw [Bool.eq_iff_iff, Bool.and_eq_true, decide_eq_true_eq, decide_eq_true_eq, beq_iff_eq]
    exact hiff
  rw [show (fun i => decide (i * p ≤ l) && decide (l < i * p + p)) = (· == l / p) from funext hwin]
  change (List.range k).count (l / p) = _
  simp only [List.nodup_range.count, List.mem_range]

/-- **The last fragment takes no line.**  For a corpus of `lines > 0` lines cut into fragments of
`per > 0` lines, a line below the start of the last fragment passes the test of exactly one
fragment; the lines of the last fragment, which ends at `-1`, pass the test of none. -/
theorem fragments_take_lines_before_last (lines per : Nat) (hl : 0 < lines) (hp : 0 < per) :
    ∃ bs, fragmentBounds lines per = .ok bs ∧ ∀ l < lines,
      bs.countP (fun b => inFragment (.int b.1) (.int b.2) l) =
        if l < (lines - 1) / per * per then 1 else 0 := by
  refine ⟨_, fragmentBounds_natCast hl hp, fun l _ => ?_⟩
  have hlast : inFragment (.int (((lines - 1) / per : Nat) * (per : Int))) (.int (-1)) l = false := by
    simp [inFragment]
  rw [List.countP_append, List.countP_map, List.countP_singleton, hlast]
  have hstep : ((fun b : Int × Int => inFragment (.int b.1) (.int b.2) l) ∘
      fun i : Nat => ((i : Int) * per, (i : Int) * per + per)) =
      fun i => decide (i * per ≤ l) && decide (l < i * per + per) := by
    funext i
    simp only [Function.comp_apply, inFragment]
    norm_cast
  rw [hstep, countP_windows _ _ _ hp]
  simp [Nat.div_lt_iff_lt_mul hp]

/-- Three lines in fragments of two: the last fragment starts at line 2. -/
theorem fragments_take_lines_before_last_three_by_two :
    0 < 3 ∧ 0 < 2 ∧ ∃ bs, fragmentBounds 3 2 = .ok bs ∧ ∀ l < 3,
      bs.countP (fun b => inFragment (.int b.1) (.int b.2) l) = if l < (3 - 1) / 2 * 2 then 1 else 0 :=
  ⟨by decide, by decide, fragments_take_lines_before_last 3 2 (by decide) (by decide)⟩

end Conversa.Callees

namespace Conversa.Labels

/-- Keeping the first copy of each element, in order: the result has no repeats and holds the
elements already kept and those folded in. -/
lemma foldl_keepNew {α : Type} [BEq α] [LawfulBEq α] :
    ∀ (xs acc : List α), acc.Nodup →
      (xs.foldl (fun acc l => if acc.contains l then acc else acc ++ [l]) acc).Nodup ∧
      ∀ x, x ∈ xs.foldl (fun acc l => if acc.contains l then acc else acc ++ [l]) acc ↔ x ∈ acc ∨ x ∈ xs
  | [], acc, h => ⟨h, by simp⟩
  | y :: ys, acc, h => by
    by_cases hy : y ∈ acc
    · obtain ⟨hnd, hmem⟩ := foldl_keepNew ys acc h
      rw [List.foldl_cons, if_pos (List.contains_iff_mem.2 hy)]
      exact ⟨hnd, fun x => by rw [hmem]; by_cases hx : x = y <;> simp [hx, hy]⟩
    · have hnd' : (acc ++ [y]).Nodup :=
        List.nodup_append.2 ⟨h, by simp, by simpa using fun x hx => ne_of_mem_of_not_mem hx hy⟩
      obtain ⟨hnd, hmem⟩ := foldl_keepNew ys (acc ++ [y]) hnd'
      rw [List.foldl_cons, if_neg (mt List.contains_iff_mem.1 hy)]
      exact ⟨hnd, fun x => by rw [hmem]; simp [or_assoc]⟩

/-- The numbering of a label set: the padding label at `0`, then the other labels seen, each once
and in strictly increasing order, at `1`, `2`, …. -/
lemma numberSorted_spec (pad : String) (seen : List String) :
    ∃ L : List String, L.Pairwise (· < ·) ∧ (∀ x, x ∈ L ↔ x ∈ seen ∧ x ≠ pad) ∧
      numberSorted pad seen = (pad, 0) :: L.zipIdx.map fun (l, i) => (l, i + 1) := by
  obtain ⟨hnd, hmem⟩ := foldl_keepNew (seen.filter (· != pad)) [] List.nodup_nil
  set kept := (seen.filter (· != pad)).foldl (fun acc l => if acc.contains l then acc else acc ++ [l]) []
  have hsorted := @List.pairwise_mergeSort _ (fun a b : String => decide (a ≤ b))
    (fun a b c hab hbc => by simpa using le_trans (by simpa using hab) (by simpa using hbc))
    (fun a b => by simpa using le_total a b) kept
  have hperm := List.mergeSort_perm kept fun a b : String => decide (a ≤ b)
  refine ⟨kept.mergeSort fun a b => decide (a ≤ b), ?_, fun x => ?_, rfl⟩
  · -- sorted without repeats is strictly increasing
    exact (hsorted.and (hperm.nodup_iff.2 hnd)).imp fun h => lt_of_le_of_ne (by simpa using h.1) h.2
  · rw [hperm.mem_iff, hmem]
    simp

end Conversa.Labels

namespace Conversa.Service

/-- Without a given numbering, the labels seen and the characters of the pad label are numbered
after the pad label, each once and in strictly increasing order. -/
lemma labelNumbering_null (file pad : String) (seen : List String) :
    ∃ L : List String, L.Pairwise (· < ·) ∧
      (∀ x, x ∈ L ↔ (x ∈ seen ∨ x ∈ pad.toList.map String.singleton) ∧ x ≠ pad) ∧
      labelNumbering file pad seen .null =
        .ok ((pad, .int 0) :: L.zipIdx.map fun (l, i) => (l, .int (i + 1))) := by
  obtain ⟨L, hsorted, hmem, hnum⟩ :=
    Labels.numberSorted_spec pad (pad.toList.map String.singleton ++ seen)
  refine ⟨L, hsorted, by simpa only [List.mem_append, or_comm] using hmem, ?_⟩
  simp [labelNumbering, Labels.numberLabels, hnum, Function.comp_def]

/-- A given numbering is refused exactly when it has entries and misses a label seen or a
character of the pad label. -/
lemma labelNumbering_given_refused_iff (file pad : String) (seen : List String) (kvs : List (String × Data)) :
    (∃ msg, labelNumbering file pad seen (.dict kvs) = .error (Failure.value msg)) ↔
      kvs ≠ [] ∧ ∃ l ∈ pad.toList.map String.singleton ++ seen, l ∉ kvs.map Prod.fst := by
  cases kvs with
  | nil => simp [labelNumbering]
  | cons kv rest =>
    have hkey : ∀ l, (kv :: rest).any (fun e => e.1 == l) = true ↔ l ∈ (kv :: rest).map Prod.fst := by
      simp only [List.any_eq_true, beq_iff_eq, List.mem_map, implies_true]
    simp only [labelNumbering]
    split
    · rename_i l hl
      have hany : (kv :: rest).any (fun e => e.1 == l) = false := by
        simpa only [Bool.not_eq_true'] using List.find?_some hl
      have hmiss : l ∉ (kv :: rest).map Prod.fst := fun h => by simp [(hkey l).2 h] at hany
      exact iff_of_true ⟨_, rfl⟩ ⟨List.cons_ne_nil _ _, l, List.mem_of_find?_eq_some hl, hmiss⟩
    · rename_i hnone
      refine iff_of_false (by simp) ?_
      rintro ⟨-, l, hl, hmiss⟩
      refine hmiss ((hkey l).1 ?_)
      simpa only [Bool.not_eq_true, Bool.not_eq_false'] using List.find?_eq_none.1 hnone l hl

/-- **The pad label's characters are labels too.**  Without a given numbering, labels are the pad
label at `0`, then in increasing order every other label seen or pad-label character, once each;
these are the labels seen exactly when each pad-label character is the pad label or seen.  A given
numbering is refused with a `ValueError` exactly when it is non-empty and misses a label seen or
a pad-label character. -/
theorem labelNumbering_seeds_pad_characters (file pad : String) (seen : List String) :
    (∃ L : List String, L.Pairwise (· < ·) ∧
      (∀ x, x ∈ L ↔ (x ∈ seen ∨ x ∈ pad.toList.map String.singleton) ∧ x ≠ pad) ∧
      labelNumbering file pad seen .null =
        .ok ((pad, .int 0) :: L.zipIdx.map fun (l, i) => (l, .int (i + 1))) ∧
      ((∀ x, x ∈ L ↔ x ∈ seen ∧ x ≠ pad) ↔
        ∀ c ∈ pad.toList, String.singleton c = pad ∨ String.singleton c ∈ seen)) ∧
    ∀ kvs : List (String × Data),
      (∃ msg, labelNumbering file pad seen (.dict kvs) = .error (Failure.value msg)) ↔
        kvs ≠ [] ∧ ∃ l ∈ pad.toList.map String.singleton ++ seen, l ∉ kvs.map Prod.fst := by
  obtain ⟨L, hsorted, hmem, hnum⟩ := labelNumbering_null file pad seen
  refine ⟨⟨L, hsorted, hmem, hnum, ?_⟩, labelNumbering_given_refused_iff file pad seen⟩
  -- the two sets differ only by the characters of the pad label that are not labels seen
  constructor
  · intro h c hc
    by_cases hp : String.singleton c = pad
    · exact .inl hp
    · exact .inr ((h _).1 ((hmem _).2 ⟨.inr (List.mem_map_of_mem hc), hp⟩)).1
  · intro h x
    rw [hmem]
    constructor
    · rintro ⟨hx | hx, hne⟩
      · exact ⟨hx, hne⟩
      · obtain ⟨c, hc, rfl⟩ := List.mem_map.1 hx
        exact ⟨(h c hc).resolve_left hne, hne⟩
    · rintro ⟨hx, hne⟩
      exact ⟨.inl hx, hne⟩

end Conversa.Service
