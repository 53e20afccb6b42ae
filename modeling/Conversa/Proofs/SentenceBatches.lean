import Conversa.Proofs.Bucketing
import Conversa.Proofs.Monadic
import Mathlib.Data.List.Chain

/-!
# The widths a sentence packing records

`packSentences` closes the open batch when the next sentence would overrun the budget and
records as its width that next sentence's length.  `Packed` is what the packer keeps
(`place_packed`, `placeBucket_packed`, `placeBuckets_packed`), giving
`packSentences_records_next_opening`: every position once, each batch within budget at its own
width, and the recorded widths the next batches' opening lengths (`openingLength`).
-/

namespace Conversa.Batching

/-! ## The order of placing -/

theorem entries_sentenceBuckets_perm (lens : List Nat) :
    (bucketEntries (sentenceBuckets lens)).Perm lens.zipIdx := by
  rw [sentenceBuckets_eq]
  have h := (foldl_fileUnder_nil (κ := Nat) Prod.fst Prod.snd lens.zipIdx).2
  rw [List.map_id'] at h
  exact ((List.mergeSort_perm _ _).flatMap_right _).trans h

theorem sentenceBuckets_filed (lens : List Nat) : Filed (sentenceBuckets lens) := by
  rw [sentenceBuckets_eq]
  exact (foldl_fileUnder_nil (κ := Nat) Prod.fst Prod.snd lens.zipIdx).1.perm
    (List.mergeSort_perm _ _).symm

theorem sentenceBuckets_sorted (lens : List Nat) :
    (bucketEntries (sentenceBuckets lens)).Pairwise fun a b => a.1 ≤ b.1 := by
  have hs : (sentenceBuckets lens).Pairwise fun a b => decide (a.1 ≤ b.1) := by
    rw [sentenceBuckets_eq]
    exact List.pairwise_mergeSort
      (fun a b c hab hbc => by simp only [decide_eq_true_eq] at hab hbc ⊢; omega)
      (fun a b => by simp only [Bool.or_eq_true, decide_eq_true_eq]; omega) _
  unfold bucketEntries
  rw [List.pairwise_flatMap]
  refine ⟨fun kq _ => by simp [List.pairwise_map, List.pairwise_of_forall], hs.imp fun {a b} hab => ?_⟩
  simp only [List.mem_map]
  rintro _ ⟨_, _, rfl⟩ _ ⟨_, _, rfl⟩
  simpa using hab

/-! ## Packing -/

/-- The length of the sentence a batch opens with. -/
def openingLength (lens : List Nat) (b : List Nat) : Nat := lens[b.headD 0]?.getD 0

/-- The length of the longest sentence of a batch, the width its sentences are padded to. -/
def batchWidth (lens : List Nat) (b : List Nat) : Nat := (b.map fun j => lens[j]?.getD 0).foldr max 0

theorem batchWidth_append_of_le {lens b : List Nat} {i len : Nat}
    (hb : ∀ j ∈ b, lens[j]?.getD 0 ≤ len) (hi : lens[i]?.getD 0 = len) :
    batchWidth lens (b ++ [i]) = len := by
  induction b with
  | nil => simp [batchWidth, hi]
  | cons j b ih =>
    have hj := hb j List.mem_cons_self
    have := ih fun j' hj' => hb j' (List.mem_cons_of_mem j hj')
    simp only [batchWidth, List.cons_append, List.map_cons, List.foldr_cons] at this ⊢
    omega

/-- What the packer keeps after placing `placed`, as (length, position) in order: the batches
hold them in that order, each closed batch is recorded with the next one's opening length, every
batch fits at its own width, and the open batch is as wide as the last sentence placed. -/
structure Packed (T : Int) (lens : List Nat) (p : SentencePacking) (placed : List (Nat × Nat)) :
    Prop where
  order : (p.batches ++ [p.current]).flatten = placed.map (·.2)
  lengths : ∀ x ∈ placed, lens[x.2]?.getD 0 = x.1
  closed_ne_nil : ∀ b ∈ p.batches, b ≠ []
  open_ne_nil : p.batches ≠ [] → p.current ≠ []
  recorded : p.lengths = (p.batches ++ [p.current]).tail.map (openingLength lens)
  budget : ∀ b ∈ p.batches ++ [p.current], b ≠ [] → (b.length : Int) * batchWidth lens b ≤ T
  last : p.current ≠ [] → batchWidth lens p.current = ((placed.getLast?).map (·.1)).getD 0

/-- `Packed` does not look at the length last recorded for the open batch. -/
theorem Packed.with_longest {T : Int} {lens : List Nat} {p : SentencePacking}
    {pl : List (Nat × Nat)} (h : Packed T lens p pl) (n : Nat) :
    Packed T lens { p with longest := n } pl :=
  ⟨h.1, h.2, h.3, h.4, h.5, h.6, h.7⟩

theorem packed_empty (T : Int) (lens : List Nat) : Packed T lens {} [] :=
  ⟨rfl, by simp, by simp, by simp, rfl, by simp, by simp⟩

/-- **Placing one sentence** no shorter than those placed before keeps `Packed`, and succeeds
when the sentence alone fits the budget. -/
theorem place_packed {T : Int} {lens : List Nat} {p : SentencePacking} {pl : List (Nat × Nat)}
    {len i : Nat} (h : Packed T lens p pl) (hle : ∀ x ∈ pl, x.1 ≤ len)
    (hi : lens[i]?.getD 0 = len) (hT : (len : Int) ≤ T) :
    ∃ p', p.place T len i = .ok p' ∧ Packed T lens p' (pl ++ [(len, i)]) ∧
      p'.longest = p.longest := by
  -- every sentence of the open batch is among those placed, so no longer than this one
  have hcur : ∀ j ∈ p.current, lens[j]?.getD 0 ≤ len := by
    intro j hj
    have : j ∈ pl.map (·.2) := h.order ▸ List.mem_flatten.2 ⟨p.current, by simp, hj⟩
    obtain ⟨x, hx, rfl⟩ := List.mem_map.1 this
    rw [h.lengths x hx]
    exact hle x hx
  have hwidth := batchWidth_append_of_le hcur hi
  have hlengths : ∀ x ∈ pl ++ [(len, i)], lens[x.2]?.getD 0 = x.1 := by
    intro x hx
    rcases List.mem_append.1 hx with hx | hx
    · exact h.lengths x hx
    · simp_all
  unfold SentencePacking.place
  split
  · -- over the budget: the open batch is closed, recorded with this sentence's length
    rename_i hover
    have hne : p.current ≠ [] := by
      rintro hnil
      simp [hnil] at hover
      omega
    simp only [List.isEmpty_eq_false_iff.2 hne]
    refine ⟨_, rfl, ⟨?_, hlengths, ?_, by simp, ?_, ?_, by simp [batchWidth, hi]⟩, rfl⟩
    · simp [← h.order]
    · intro b hb
      rcases List.mem_append.1 hb with hb | hb
      · exact h.closed_ne_nil b hb
      · simp_all
    · have ht : (p.batches ++ [p.current] ++ [[i]]).tail = (p.batches ++ [p.current]).tail ++ [[i]] :=
        List.tail_append_of_ne_nil (by simp)
      simp only [ht, List.map_append, h.recorded]
      simp [openingLength, hi]
    · intro b hb hbne
      rcases List.mem_append.1 hb with hb | hb
      · exact h.budget b hb hbne
      · simp_all [batchWidth]
  · -- within the budget: the sentence joins the open batch
    rename_i hfit
    refine ⟨_, rfl, ⟨?_, hlengths, h.closed_ne_nil, by simp, ?_, ?_, by simp [hwidth]⟩, rfl⟩
    · simp [← h.order]
    · rw [h.recorded]
      cases hb : p.batches with
      | nil => rfl
      | cons b bs =>
        obtain ⟨a, as, hc⟩ := List.exists_cons_of_ne_nil (h.open_ne_nil (by simp [hb]))
        simp [openingLength, hc]
    · intro b hb hbne
      rcases List.mem_append.1 hb with hb | hb
      · exact h.budget b (List.mem_append_left _ hb) hbne
      · rw [List.mem_singleton.1 hb, hwidth, List.length_append, List.length_singleton]
        simpa [Int.mul_comm] using Int.not_lt.1 hfit

/-- **Placing a bucket** of sentences of one length, no shorter than those placed before,
keeps `Packed`, its sentences placed in the bucket's order. -/
theorem placeBucket_packed {T : Int} {lens : List Nat} {len : Nat} (hT : (len : Int) ≤ T) :
    ∀ (q : List Nat) {p : SentencePacking} {pl : List (Nat × Nat)}, Packed T lens p pl →
      (∀ x ∈ pl, x.1 ≤ len) → (∀ i ∈ q, lens[i]?.getD 0 = len) →
      ∃ p', q.foldlM (SentencePacking.place T len) p = .ok p' ∧
        Packed T lens p' (pl ++ q.map (len, ·)) ∧ p'.longest = p.longest
  | [], p, pl, h, _, _ => ⟨p, rfl, by simpa using h, rfl⟩
  | i :: q, p, pl, h, hle, hq => by
    obtain ⟨p₁, h₁, hp₁, hl₁⟩ := place_packed h hle (hq i List.mem_cons_self) hT
    have hle₁ : ∀ x ∈ pl ++ [(len, i)], x.1 ≤ len := by
      intro x hx
      rcases List.mem_append.1 hx with hx | hx
      · exact hle x hx
      · simp_all
    obtain ⟨p₂, h₂, hp₂, hl₂⟩ :=
      placeBucket_packed hT q hp₁ hle₁ fun j hj => hq j (List.mem_cons_of_mem i hj)
    refine ⟨p₂, by rw [List.foldlM_cons, h₁]; exact h₂, by simpa using hp₂, hl₂.trans hl₁⟩

/-- **Placing the buckets** in order of length keeps `Packed`, the open batch as wide as the
length recorded for it. -/
theorem placeBuckets_packed {T : Int} {lens : List Nat} :
    ∀ (bs : List (Nat × List Nat)) {p : SentencePacking} {pl : List (Nat × Nat)},
      (∀ kq ∈ bs, (kq.1 : Int) ≤ T ∧ kq.2 ≠ [] ∧ ∀ i ∈ kq.2, lens[i]?.getD 0 = kq.1) →
      (pl ++ bucketEntries bs).Pairwise (fun a b => a.1 ≤ b.1) →
      Packed T lens p pl → (p.current ≠ [] → batchWidth lens p.current = p.longest) →
      ∃ p', bs.foldlM (fun (p : SentencePacking) (len, bucket) => do
          let p ← bucket.foldlM (SentencePacking.place T len) p
          pure { p with longest := len }) p = .ok p' ∧
        Packed T lens p' (pl ++ bucketEntries bs) ∧
        (p'.current ≠ [] → batchWidth lens p'.current = p'.longest)
  | [], p, pl, _, _, h, hw => ⟨p, rfl, by simpa using h, hw⟩
  | (len, q) :: bs, p, pl, hbs, hsort, h, hw => by
    obtain ⟨hT, hne, hq⟩ := hbs (len, q) List.mem_cons_self
    have hle : ∀ x ∈ pl, x.1 ≤ len := by
      intro x hx
      obtain ⟨i, hi⟩ := List.exists_mem_of_ne_nil q hne
      exact (List.pairwise_append.1 hsort).2.2 x hx (len, i) (by simp [hi])
    obtain ⟨p₁, h₁, hp₁, -⟩ := placeBucket_packed hT q h hle hq
    -- the last sentence placed is the bucket's, so the open batch is as wide as the bucket
    have hw₁ : p₁.current ≠ [] → batchWidth lens p₁.current = len := by
      intro hc
      rw [hp₁.last hc]
      obtain ⟨a, ha⟩ := Option.isSome_iff_exists.1 (List.getLast?_isSome.2 hne)
      simp [List.getLast?_append, List.getLast?_map, ha]
    have hsort₁ : (pl ++ q.map (len, ·) ++ bucketEntries bs).Pairwise (fun a b => a.1 ≤ b.1) := by
      simpa using hsort
    obtain ⟨p₂, h₂, hp₂, hw₂⟩ := placeBuckets_packed bs
      (fun kq hkq => hbs kq (List.mem_cons_of_mem _ hkq)) hsort₁ (hp₁.with_longest len) hw₁
    refine ⟨p₂, ?_, by simpa using hp₂, hw₂⟩
    rw [List.foldlM_cons]
    simp only [h₁, Except.ok_bind, pure, Except.pure]
    exact h₂

/-- The packer's fold over the buckets succeeds when no sentence is longer than the budget, and
keeps `Packed` over all sentences. -/
theorem packBuckets_packed {T : Int} {lens : List Nat} (hT : ∀ n ∈ lens, (n : Int) ≤ T) :
    ∃ p, (sentenceBuckets lens).foldlM (fun (p : SentencePacking) (len, bucket) => do
          let p ← bucket.foldlM (SentencePacking.place T len) p
          pure { p with longest := len }) {} = .ok p ∧
      Packed T lens p (bucketEntries (sentenceBuckets lens)) ∧
      (p.current ≠ [] → batchWidth lens p.current = p.longest) := by
  have hperm := entries_sentenceBuckets_perm lens
  -- every position is filed under its own length
  have hkey : ∀ kq ∈ sentenceBuckets lens, ∀ i ∈ kq.2, lens[i]? = some kq.1 := by
    intro kq hkq i hi
    have : (kq.1, i) ∈ bucketEntries (sentenceBuckets lens) :=
      List.mem_flatMap.2 ⟨kq, hkq, List.mem_map_of_mem hi⟩
    exact List.mem_zipIdx_iff_getElem?.1 (hperm.mem_iff.1 this)
  have hbs : ∀ kq ∈ sentenceBuckets lens,
      (kq.1 : Int) ≤ T ∧ kq.2 ≠ [] ∧ ∀ i ∈ kq.2, lens[i]?.getD 0 = kq.1 := by
    intro kq hkq
    have hne := (sentenceBuckets_filed lens).ne_nil kq hkq
    obtain ⟨i, hi⟩ := List.exists_mem_of_ne_nil _ hne
    refine ⟨hT _ (List.mem_of_getElem? (hkey kq hkq i hi)), hne, fun j hj => ?_⟩
    simp [hkey kq hkq j hj]
  simpa using placeBuckets_packed (sentenceBuckets lens) hbs
    (by simpa using sentenceBuckets_sorted lens) (packed_empty T lens) (by simp)

/-! ## The recorded widths -/

/-- A list read off a list — each element's successor's `g`, then the last element's `f` — is
the list of `f` values exactly when each element's `f` is its successor's `g`. -/
theorem tail_map_append_getLast_eq_map_iff {α β : Type} (f g : α → β) :
    ∀ l : List α, l.tail.map g ++ (l.getLast?.map f).toList = l.map f ↔
      l.IsChain fun x y => g y = f x
  | [] => by simp
  | [a] => by simp
  | a :: b :: l => by
    have ih := tail_map_append_getLast_eq_map_iff f g (b :: l)
    simp only [List.tail_cons, List.map_cons, List.cons_append, List.cons.injEq,
      List.isChain_cons_cons, List.getLast?_cons_cons] at ih ⊢
    rw [← ih]

/-- **The widths a sentence packing records.**  With no sentence over the budget, packing
succeeds: every position once, no batch empty, each within budget at its longest sentence.  A
batch's recorded width is the next batch's opening length (the last its own): the recorded widths
are the true ones exactly when each batch is as wide as the next one's opening. -/
theorem packSentences_records_next_opening (T : Int) (lens : List Nat)
    (hT : ∀ n ∈ lens, (n : Int) ≤ T) :
    ∃ bs ws, packSentences T lens = .ok (bs, ws) ∧
      bs.flatten.Perm (List.range lens.length) ∧ (∀ b ∈ bs, b ≠ []) ∧
      (∀ b ∈ bs, (b.length : Int) * batchWidth lens b ≤ T) ∧
      ws = bs.tail.map (openingLength lens) ++ (bs.getLast?.map (batchWidth lens)).toList ∧
      (ws = bs.map (batchWidth lens) ↔
        bs.IsChain fun b b' => openingLength lens b' = batchWidth lens b) := by
  obtain ⟨p, hp, hpk, hw⟩ := packBuckets_packed hT
  have hperm : (p.batches ++ [p.current]).flatten.Perm (List.range lens.length) := by
    rw [hpk.order, List.range_eq_range', ← List.zipIdx_map_snd]
    exact (entries_sentenceBuckets_perm lens).map _
  unfold packSentences
  rw [hp, Except.ok_bind]
  by_cases hc : p.current = []
  · -- nothing is open, so nothing was ever closed
    have hb : p.batches = [] := by
      by_contra hb
      exact hpk.open_ne_nil hb hc
    have hl : p.lengths = [] := by simp [hpk.recorded, hb]
    refine ⟨[], [], by simp [hc, hb, hl, pure, Except.pure], ?_, by simp, by simp, by simp, by simp⟩
    simpa [hb, hc] using hperm
  · have hrule : p.lengths ++ [p.longest] =
        (p.batches ++ [p.current]).tail.map (openingLength lens) ++
          ((p.batches ++ [p.current]).getLast?.map (batchWidth lens)).toList := by
      simp [hpk.recorded, hw hc]
    refine ⟨_, _, by simp [hc, pure, Except.pure], hperm, ?_, ?_, hrule, ?_⟩
    · intro b hb
      rcases List.mem_append.1 hb with hb | hb
      · exact hpk.closed_ne_nil b hb
      · simpa [List.mem_singleton.1 hb] using hc
    · intro b hb
      rcases List.mem_append.1 hb with hb' | hb'
      · exact hpk.budget b hb (hpk.closed_ne_nil b hb')
      · exact hpk.budget b hb (by simpa [List.mem_singleton.1 hb'] using hc)
    · rw [hrule]
      exact tail_map_append_getLast_eq_map_iff _ _ _

/-- The rule for sentences of lengths 3, 1, 2, 5, 1 under a budget of 6, where a batch of the
two shortest closes on a sentence of length 3. -/
theorem packSentences_records_next_opening_mixed :
    (∀ n ∈ [3, 1, 2, 5, 1], (n : Int) ≤ 6) ∧
      ∃ bs ws, packSentences 6 [3, 1, 2, 5, 1] = .ok (bs, ws) ∧
        bs.flatten.Perm (List.range 5) ∧ (∀ b ∈ bs, b ≠ []) ∧
        (∀ b ∈ bs, (b.length : Int) * batchWidth [3, 1, 2, 5, 1] b ≤ 6) ∧
        ws = bs.tail.map (openingLength [3, 1, 2, 5, 1]) ++
          (bs.getLast?.map (batchWidth [3, 1, 2, 5, 1])).toList ∧
        (ws = bs.map (batchWidth [3, 1, 2, 5, 1]) ↔
          bs.IsChain fun b b' => openingLength [3, 1, 2, 5, 1] b' = batchWidth [3, 1, 2, 5, 1] b) :=
  ⟨by decide, packSentences_records_next_opening 6 [3, 1, 2, 5, 1] (by decide)⟩

end Conversa.Batching
