import Conversa.Proofs.Bucketing
import Mathlib.Data.List.Perm.Basic

/-!
# Batches of sentence pairs

`packPairs` takes the front pair of the current or next bucket and splits a batch over budget,
keeping the largest multiple of eight that leaves one over.  `PackerInv` is what a step keeps
(`place_inv`, `step_inv`, `run_inv`), which gives `packPairs_partition_within_budget`: every
position once, no empty batch, and each batch over eight pairs within budget (`sideWidth`).
-/

namespace Conversa.Batching

/-- The widest side of a batch of pairs, the side read by `f`: the length that side is padded to. -/
def sideWidth (lens : List (Nat × Nat)) (f : Nat × Nat → Nat) (b : List Nat) : Nat :=
  (b.map fun j => ((lens[j]?).map f).getD 0).foldl max 0

theorem le_foldl_max : ∀ (l : List Nat) (x : Nat), x ≤ l.foldl max x
  | [], _ => Nat.le_refl _
  | y :: l, x => Nat.le_trans (Nat.le_max_left x y) (le_foldl_max l (max x y))

theorem sideWidth_append_single (lens : List (Nat × Nat)) (f : Nat × Nat → Nat) (b : List Nat) (j : Nat) :
    sideWidth lens f (b ++ [j]) = max (sideWidth lens f b) (((lens[j]?).map f).getD 0) := by
  simp [sideWidth, List.foldl_append]

theorem sideWidth_take_le (lens : List (Nat × Nat)) (f : Nat × Nat → Nat) (b : List Nat) (k : Nat) :
    sideWidth lens f (b.take k) ≤ sideWidth lens f b := by
  have h : sideWidth lens f (b.take k) ≤ sideWidth lens f (b.take k ++ b.drop k) := by
    simp only [sideWidth, List.map_append, List.foldl_append]
    exact le_foldl_max _ _
  rwa [List.take_append_drop] at h

theorem front?_eq_some {bs : List (Nat × List (Nat × Nat))} {i k t idx : Nat} :
    front? bs i = some (k, t, idx) ↔ ∃ q, bs[i]? = some (k, (t, idx) :: q) := by
  unfold front?
  split <;> simp_all

theorem bucketEntries_popAt {bs : List (Nat × List (Nat × Nat))} {i k t idx : Nat}
    (h : front? bs i = some (k, t, idx)) :
    (bucketEntries bs).Perm ((k, t, idx) :: bucketEntries (popAt bs i)) := by
  obtain ⟨q, hq⟩ := front?_eq_some.1 h
  induction bs generalizing i with
  | nil => simp at hq
  | cons kq bs ih =>
    cases i with
    | zero =>
      simp only [List.getElem?_cons_zero, Option.some.injEq] at hq
      subst hq
      simp [popAt]
    | succ i =>
      simp only [List.getElem?_cons_succ] at hq
      have := ih (front?_eq_some.2 ⟨q, hq⟩) hq
      simp only [popAt, List.modify_succ_cons, bucketEntries_cons] at this ⊢
      exact (List.Perm.append_left _ this).trans List.perm_middle

theorem length_popAt (bs : List (Nat × List (Nat × Nat))) (i : Nat) :
    (popAt bs i).length = bs.length := List.length_modify _ _ _

theorem popAt_empty {bs : List (Nat × List (Nat × Nat))} {i j : Nat}
    (h : ∀ kq ∈ bs[j]?, kq.2 = []) : ∀ kq ∈ (popAt bs i)[j]?, kq.2 = [] := by
  intro kq hkq
  rw [popAt, List.getElem?_modify] at hkq
  cases hb : bs[j]? with
  | none => simp [hb] at hkq
  | some kq' =>
    have hkq' := h kq' (by simp [hb])
    by_cases hij : i = j
    · simp only [hij, if_true, hb, Option.mem_def, Option.map_eq_map, Option.map_some,
        Option.some.injEq] at hkq
      simp [← hkq, hkq']
    · simp_all

/-! ## The packer's invariant -/

/-- A batch fits when it holds at most eight pairs or its padded size is within the budget. -/
def Fits (T : Int) (lens : List (Nat × Nat)) (b : List Nat) : Prop :=
  b.length ≤ 8 ∨ (b.length : Int) * (sideWidth lens (·.1) b + sideWidth lens (·.2) b) ≤ T

theorem Fits.take {T : Int} {lens : List (Nat × Nat)} {b : List Nat} (h : Fits T lens b) (k : Nat) :
    Fits T lens (b.take k) := by
  have h1 := sideWidth_take_le lens (·.1) b k
  have h2 := sideWidth_take_le lens (·.2) b k
  have h3 := List.length_take_le' k b
  rcases h with h8 | hfit
  · exact Or.inl (by omega)
  · refine Or.inr (Int.le_trans ?_ hfit)
    exact Int.mul_le_mul (by omega) (by omega) (by omega) (by omega)

theorem keptOnSplit_bounds {n : Nat} (h : 0 < n) :
    0 < keptOnSplit n ∧ keptOnSplit n ≤ n ∧ n - keptOnSplit n ≤ 8 ∧
      (8 < keptOnSplit n → keptOnSplit n < n) := by
  simp only [keptOnSplit, beq_iff_eq]
  split <;> omega

/-- What the packer keeps: the batches and the pairs still in buckets hold every position once;
each bucket entry is a position with its two lengths; the buckets passed are empty; the batches
before the open one are not empty; the size and lengths of the open batch are its own; and every
batch fits. -/
structure PackerInv (T : Int) (lens : List (Nat × Nat)) (p : Packer) : Prop where
  perm : (p.batches.flatten ++ (bucketEntries p.buckets).map (·.2.2)).Perm (List.range lens.length)
  entries : ∀ e ∈ bucketEntries p.buckets, lens[e.2.2]? = some (e.1, e.2.1)
  passed : ∀ j < p.pos, ∀ kq ∈ p.buckets[j]?, kq.2 = []
  open_exists : p.batches ≠ []
  closed_ne_nil : ∀ b ∈ p.batches.dropLast, b ≠ []
  size : p.size = (p.batches.getLastD []).length
  srcLen : p.srcLen = sideWidth lens (·.1) (p.batches.getLastD [])
  tgtLen : p.tgtLen = sideWidth lens (·.2) (p.batches.getLastD [])
  fits : ∀ b ∈ p.batches, Fits T lens b

/-- **Placing a pair** taken from the front of a bucket keeps the invariant, when the open batch
is padded to the widths it has with the pair. -/
theorem place_inv {T : Int} {lens : List (Nat × Nat)} {p : Packer} {j k t idx : Nat}
    (h : PackerInv T lens p) (hf : front? p.buckets j = some (k, t, idx)) :
    PackerInv T lens (p.place T lens j idx (max p.srcLen k) (max p.tgtLen t)) ∧
      (p.place T lens j idx (max p.srcLen k) (max p.tgtLen t)).buckets = popAt p.buckets j ∧
      (p.place T lens j idx (max p.srcLen k) (max p.tgtLen t)).pos = p.pos := by
  have hpop := bucketEntries_popAt hf
  have hlens : lens[idx]? = some (k, t) := h.entries _ (hpop.mem_iff.2 List.mem_cons_self)
  obtain ⟨C, O, hb⟩ := (List.eq_nil_or_concat p.batches).resolve_left h.open_exists
  rw [List.concat_eq_append] at hb
  have hO := h.fits
  have hC := h.closed_ne_nil
  have hperm := h.perm
  rw [hb] at hO hC hperm
  simp only [List.dropLast_concat] at hC
  -- the open batch with the pair is as wide as the lengths it is padded to
  have hsrc : max p.srcLen k = sideWidth lens (·.1) (O ++ [idx]) := by
    simp [h.srcLen, hb, sideWidth_append_single, hlens]
  have htgt : max p.tgtLen t = sideWidth lens (·.2) (O ++ [idx]) := by
    simp [h.tgtLen, hb, sideWidth_append_single, hlens]
  have hsize : p.size + 1 = (O ++ [idx]).length := by simp [h.size, hb]
  -- the pair moves from the buckets to the end of the open batch
  have hmove : ∀ bs : List (List Nat), bs.flatten = C.flatten ++ (O ++ [idx]) →
      (bs.flatten ++ (bucketEntries (popAt p.buckets j)).map (·.2.2)).Perm (List.range lens.length) := by
    intro bs hbs
    refine List.Perm.trans ?_ hperm
    rw [hbs, List.flatten_concat, List.append_assoc, List.append_assoc, List.append_assoc]
    refine List.Perm.append_left _ (List.Perm.append_left _ ?_)
    simpa using (hpop.map (·.2.2)).symm
  have hentries : ∀ e ∈ bucketEntries (popAt p.buckets j), lens[e.2.2]? = some (e.1, e.2.1) :=
    fun e he => h.entries e (hpop.mem_iff.2 (List.mem_cons_of_mem _ he))
  have hpassed : ∀ j' < p.pos, ∀ kq ∈ (popAt p.buckets j)[j']?, kq.2 = [] :=
    fun j' hj' => popAt_empty (h.passed j' hj')
  unfold Packer.place
  simp only [hb, List.dropLast_concat, List.getLastD_concat]
  have hlast : ∀ A B : List Nat, (C ++ [A, B]).getLastD [] = B := fun A B => by simp
  split
  · -- over budget: the batch is split, a multiple of eight kept, at most eight carried on
    have hn : 0 < (O ++ [idx]).length := by simp
    obtain ⟨hk0, hkn, hrest, hbig⟩ := keptOnSplit_bounds hn
    generalize keptOnSplit (O ++ [idx]).length = kept at hk0 hkn hrest hbig ⊢
    -- what is carried on is empty exactly when its size is zero
    have hcarried : ∀ f : Nat × Nat → Nat,
        (if (O ++ [idx]).length - kept > 0 then
          ((O ++ [idx]).drop kept |>.map fun j => ((lens[j]?).map f).getD 0).foldl max 0 else 0) =
          sideWidth lens f ((O ++ [idx]).drop kept) := by
      intro f
      split
      · rfl
      · rename_i h0
        have hd : (O ++ [idx]).drop kept = [] :=
          List.eq_nil_of_length_eq_zero (by rw [List.length_drop]; omega)
        rw [hd]
        rfl
    refine ⟨⟨hmove _ (by simp), hentries, hpassed, by simp, ?_, by simp, ?_, ?_, ?_⟩, rfl, rfl⟩
    · intro b hb'
      simp only [List.dropLast_append_cons, List.dropLast_cons_cons, List.dropLast_singleton,
        List.mem_append, List.mem_singleton] at hb'
      rcases hb' with hb' | rfl
      · exact hC b hb'
      · simp only [ne_eq, List.take_eq_nil_iff, List.append_eq_nil_iff, List.cons_ne_self,
          and_false, or_false]
        omega
    · simpa only [hlast] using hcarried (·.1)
    · simpa only [hlast] using hcarried (·.2)
    · intro b hb'
      simp only [List.mem_append, List.mem_cons, List.mem_nil_iff, or_false] at hb'
      rcases hb' with hb' | rfl | rfl
      · exact hO b (List.mem_append_left _ hb')
      · by_cases hk : kept ≤ O.length
        · -- a prefix of the batch before this pair, which fit
          rw [List.take_append_of_le_length hk]
          exact (hO O (by simp)).take kept
        · -- the whole batch is kept, so it holds at most eight pairs
          have h8 : ¬ 8 < kept := mt hbig (by simp only [List.length_append, List.length_singleton]; omega)
          exact Or.inl (by simp only [List.length_take]; omega)
      · exact Or.inl (by simp only [List.length_drop]; omega)
  · -- within budget: the pair joins the open batch
    rename_i hfit
    refine ⟨⟨hmove _ (by simp), hentries, hpassed, by simp, by simpa using hC,
      by simp [h.size, hb], by simpa using hsrc, by simpa using htgt, ?_⟩, rfl, rfl⟩
    intro b hb'
    rcases List.mem_append.1 hb' with hb' | hb'
    · exact hO b (List.mem_append_left _ hb')
    · rw [List.mem_singleton.1 hb']
      rw [hsize, hsrc, htgt] at hfit
      exact Or.inr (Int.not_lt.1 hfit)

/-- The steps left: one per pair still in a bucket and one per bucket not yet passed. -/
def Packer.work (p : Packer) : Nat := (bucketEntries p.buckets).length + (p.buckets.length - p.pos)

/-- A step places the front pair of the current bucket or of the next, padding the open batch
to its widths with that pair. -/
theorem step_places (p : Packer) (T : Int) (lens : List (Nat × Nat)) {k t i : Nat}
    (hf : front? p.buckets p.pos = some (k, t, i)) :
    ∃ j k' t' idx, front? p.buckets j = some (k', t', idx) ∧
      p.step T lens = p.place T lens j idx (max p.srcLen k') (max p.tgtLen t') := by
  unfold Packer.step
  rw [hf]
  cases hf' : front? p.buckets (p.pos + 1) with
  | none =>
    -- with no next bucket the current one is always taken
    refine ⟨p.pos, k, t, i, hf, ?_⟩
    dsimp only
    rw [if_pos (by omega)]
    simp [hf]
  | some e =>
    obtain ⟨k', t', i'⟩ := e
    dsimp only
    split
    · exact ⟨p.pos, k, t, i, hf, by simp [hf]⟩
    · exact ⟨p.pos + 1, k', t', i', hf', by simp [hf']⟩

/-- **One step** before the last bucket keeps the invariant and does one unit of work. -/
theorem step_inv {T : Int} {lens : List (Nat × Nat)} {p : Packer} (h : PackerInv T lens p)
    (hpos : p.pos < p.buckets.length) :
    PackerInv T lens (p.step T lens) ∧ (p.step T lens).work + 1 = p.work ∧
      (p.step T lens).buckets.length = p.buckets.length := by
  cases hf : front? p.buckets p.pos with
  | none =>
    -- the current bucket is empty: it is passed
    have hstep : p.step T lens = { p with pos := p.pos + 1 } := by
      unfold Packer.step
      rw [hf]
    have hempty : ∀ kq ∈ p.buckets[p.pos]?, kq.2 = [] := by
      intro kq hkq
      obtain ⟨k, q⟩ := kq
      cases q with
      | nil => rfl
      | cons e q =>
        obtain ⟨t, i⟩ := e
        exact absurd (front?_eq_some.2 ⟨q, hkq⟩) (by simp [hf])
    refine ⟨hstep ▸ ⟨h.1, h.2, fun j hj => ?_, h.4, h.5, h.6, h.7, h.8, h.9⟩, ?_, by rw [hstep]⟩
    · rcases Nat.lt_succ_iff_lt_or_eq.1 hj with hj | rfl
      · exact h.passed j hj
      · exact hempty
    · simp only [hstep, Packer.work]
      omega
  | some e =>
    obtain ⟨k, t, i⟩ := e
    obtain ⟨j, k', t', idx, hf', hstep⟩ := step_places p T lens hf
    obtain ⟨hinv, hbuckets, hpos'⟩ := place_inv h hf'
    refine ⟨hstep ▸ hinv, ?_, by rw [hstep, hbuckets, length_popAt]⟩
    have hlen := (bucketEntries_popAt hf').length_eq
    simp only [List.length_cons] at hlen
    simp only [hstep, Packer.work, hbuckets, hpos', length_popAt]
    omega

/-- **A run** with more fuel than work left keeps the invariant and passes the last bucket. -/
theorem run_inv {T : Int} {lens : List (Nat × Nat)} :
    ∀ (fuel : Nat) (p : Packer), PackerInv T lens p → p.work < fuel →
      PackerInv T lens (Packer.run T lens fuel p) ∧
        (Packer.run T lens fuel p).buckets.length ≤ (Packer.run T lens fuel p).pos ∧
        (Packer.run T lens fuel p).buckets.length = p.buckets.length
  | 0, _, _, hw => absurd hw (Nat.not_lt_zero _)
  | fuel + 1, p, h, hw => by
    unfold Packer.run
    split
    · rename_i hpos
      obtain ⟨h', hw', hl'⟩ := step_inv h hpos
      obtain ⟨h'', hend, hl''⟩ := run_inv fuel _ h' (by omega)
      exact ⟨h'', hend, hl''.trans hl'⟩
    · exact ⟨h, by omega, rfl⟩

theorem bucketEntries_buckets_perm (lens : List (Nat × Nat)) :
    (bucketEntries (buckets lens)).Perm (lens.zipIdx.map fun x => (x.1.1, x.1.2, x.2)) := by
  rw [buckets_eq]
  refine ((List.mergeSort_perm _ _).flatMap_right _).trans ?_
  rw [List.flatMap_map]
  -- sorting a bucket reorders its entries only
  refine (List.Perm.flatMap_left _ fun kq _ => (List.mergeSort_perm _ _).map _).trans ?_
  exact (foldl_fileUnder_nil (fun x : (Nat × Nat) × Nat => x.1.1) (fun x => (x.1.2, x.2))
    lens.zipIdx).2

theorem start_inv (T : Int) (lens : List (Nat × Nat)) :
    PackerInv T lens ⟨buckets lens, 0, [[]], 0, 0, 0⟩ := by
  have hperm := bucketEntries_buckets_perm lens
  refine ⟨?_, fun e he => ?_, by simp, by simp, by simp, rfl, rfl, rfl, by simp [Fits]⟩
  · simpa [List.range_eq_range', ← List.zipIdx_map_snd, Function.comp_def] using hperm.map (·.2.2)
  · obtain ⟨x, hx, rfl⟩ := List.mem_map.1 (hperm.mem_iff.1 he)
    simpa using List.mem_zipIdx_iff_getElem?.1 hx

theorem bucketEntries_eq_nil {bs : List (Nat × List (Nat × Nat))} (h : ∀ kq ∈ bs, kq.2 = []) :
    bucketEntries bs = [] := by
  simpa [bucketEntries, List.flatMap_eq_nil_iff] using fun k q hkq => h (k, q) hkq

theorem PackerInv.entries_nil_of_passed {T : Int} {lens : List (Nat × Nat)} {p : Packer}
    (h : PackerInv T lens p) (hend : p.buckets.length ≤ p.pos) : bucketEntries p.buckets = [] := by
  refine bucketEntries_eq_nil fun kq hkq => ?_
  obtain ⟨j, hj⟩ := List.mem_iff_getElem?.1 hkq
  have : j < p.buckets.length := (List.getElem?_eq_some_iff.1 hj).1
  exact h.passed j (by omega) kq hj

/-- **Batches of sentence pairs.**  The packer passes its last bucket within its step bound; the
batches it returns hold every position once, none is empty, and a batch of more than eight
pairs, padded to its widest source and target sides, is within the budget. -/
theorem packPairs_partition_within_budget (T : Int) (lens : List (Nat × Nat)) :
    (buckets lens).length ≤ (Packer.run T lens (lens.length + (buckets lens).length + 1)
      ⟨buckets lens, 0, [[]], 0, 0, 0⟩).pos ∧
    (packPairs T lens).flatten.Perm (List.range lens.length) ∧
    (∀ b ∈ packPairs T lens, b ≠ []) ∧
    ∀ b ∈ packPairs T lens, 8 < b.length →
      (b.length : Int) * (sideWidth lens (·.1) b + sideWidth lens (·.2) b) ≤ T := by
  have hwork : (Packer.work ⟨buckets lens, 0, [[]], 0, 0, 0⟩) < lens.length + (buckets lens).length + 1 := by
    simp [Packer.work, (bucketEntries_buckets_perm lens).length_eq]
  obtain ⟨h, hend, hlen⟩ := run_inv _ _ (start_inv T lens) hwork
  unfold packPairs
  dsimp only
  generalize Packer.run T lens (lens.length + (buckets lens).length + 1) ⟨buckets lens, 0, [[]], 0, 0, 0⟩ = p at h hend hlen ⊢
  -- every bucket is passed, so the batches hold every position
  have hperm := h.perm
  rw [h.entries_nil_of_passed hend, List.map_nil, List.append_nil] at hperm
  obtain ⟨C, O, hb⟩ := (List.eq_nil_or_concat p.batches).resolve_left h.open_exists
  rw [List.concat_eq_append] at hb
  have hC := h.closed_ne_nil
  have hfits := h.fits
  rw [hb, List.dropLast_concat] at hC
  rw [hb] at hfits hperm
  -- a batch of more than eight pairs fits within the budget
  have hbig : ∀ b ∈ C ++ [O], 8 < b.length →
      (b.length : Int) * (sideWidth lens (·.1) b + sideWidth lens (·.2) b) ≤ T :=
    fun b hb' h8 => (hfits b hb').resolve_left (by omega)
  refine ⟨by simpa [hlen] using hend, ?_⟩
  rw [hb]
  split
  · -- the open batch is empty and dropped
    rename_i hlast
    have hO : O = [] := by simpa using hlast
    subst hO
    rw [List.dropLast_concat]
    exact ⟨by simpa using hperm, hC, fun b hb' => hbig b (List.mem_append_left _ hb')⟩
  · -- the open batch has pairs and is kept
    rename_i hlast
    have hO : O ≠ [] := fun hO => hlast (by simp [hO])
    refine ⟨hperm, fun b hb' => ?_, hbig⟩
    rcases List.mem_append.1 hb' with hb' | hb'
    · exact hC b hb'
    · exact List.mem_singleton.1 hb' ▸ hO

end Conversa.Batching
