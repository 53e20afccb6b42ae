import Mathlib
import Conversa.Dialogue.Examples

/-!
# Counting carried-over slot pairs

When a service joins a dialogue, every value its slots share with earlier services is counted:
each pair of holders from two services raises its key's count, the smaller service first.  Two
loops take every holder in turn as first member; when the inner loop orders a pair, the first
member becomes the smaller holder for the rest of the loop.  `countPairs_eq` counts `minPairs h`
for every holder `h`, `minPairs_eq_ownPairs` says when that is `h` with every holder of another
service, and `countPairs_counts` joins them (`CarryOver.count_bump`).
-/

namespace Conversa.Dialogue

/-- A holder of a value: a service and one of its slots. -/
abbrev Holder := String × String

/-- The key of a counted pair: the two holders, the one of the smaller service first. -/
abbrev CarryKey := String × String × String × String

/-- The key counting a pair of holders: the one of the smaller service first. -/
def pairKey (h1 h2 : Holder) : CarryKey :=
  if h1.1 > h2.1 then (h2.1, h2.2, h1.1, h1.2) else (h1.1, h1.2, h2.1, h2.2)

/-- The keys counted while `m` is the first member and the holders `hs` come: a holder of
another service is paired with `m`, and becomes the first member when its service is smaller. -/
def minPairs (m : Holder) : List Holder → List CarryKey
  | [] => []
  | h :: hs =>
    if m.1 = h.1 then minPairs m hs
    else if m.1 > h.1 then pairKey m h :: minPairs h hs
    else pairKey m h :: minPairs m hs

/-- The keys of an entry `h` paired with every holder of another service. -/
def ownPairs (h : Holder) (hs : List Holder) : List CarryKey :=
  (hs.filter fun e => e.1 ≠ h.1).map (pairKey h)

/-- The count a table gives a key: `0` when it has none. -/
def CarryOver.count (c : CarryOver) (k : CarryKey) : Nat := (c.lookup k).getD 0

lemma lookup_map_key {c : CarryOver} {F : CarryKey × Nat → CarryKey × Nat}
    (hF : ∀ e, (F e).1 = e.1) (k : CarryKey) :
    (c.map F).lookup k = (c.lookup k).map fun n => (F (k, n)).2 := by
  induction c with
  | nil => rfl
  | cons e t ih =>
    obtain ⟨a, n⟩ := e
    by_cases h : k = a
    · subst h
      have := hF (k, n)
      simp_all [List.lookup]
    · simp only [List.map_cons, List.lookup, hF, beq_false_of_ne h, ih]

lemma CarryOver.count_bump (c : CarryOver) (k k' : CarryKey) :
    (c.bump k).count k' = c.count k' + if k' = k then 1 else 0 := by
  unfold CarryOver.bump CarryOver.count
  split
  · rename_i hany
    rw [lookup_map_key]
    · by_cases h : k' = k
      · subst h
        obtain ⟨x, hx, hxk⟩ := List.any_eq_true.1 hany
        obtain ⟨n, hn⟩ : ∃ n, c.lookup k' = some n :=
          Option.isSome_iff_exists.1 (List.lookup_isSome_iff.2 ⟨x, hx, by simpa using (beq_iff_eq.1 hxk).symm⟩)
        simp [hn]
      · cases c.lookup k' <;> simp [h]
    · intro e
      obtain ⟨a, n⟩ := e
      dsimp only
      split <;> rfl
  · rename_i hany
    have hnone : c.lookup k = none := by
      refine List.lookup_eq_none_iff.2 fun x hx => ?_
      have := List.any_eq_false.1 (Bool.eq_false_iff.2 hany) x hx
      simp only [bne_iff_ne, ne_eq]
      rintro rfl
      exact this (beq_self_eq_true _)
    by_cases h : k' = k
    · subst h
      simp [List.lookup_append, hnone]
    · have hsingle : [(k, 1)].lookup k' = none := by simp [List.lookup, beq_false_of_ne h]
      simp [List.lookup_append, hsingle, h]

lemma CarryOver.count_foldl_bump (ks : List CarryKey) (c : CarryOver) (k) :
    (ks.foldl CarryOver.bump c).count k = c.count k + ks.count k := by
  induction ks generalizing c with
  | nil => rfl
  | cons k' ks ih =>
    rw [List.foldl_cons, ih, CarryOver.count_bump, List.count_cons]
    by_cases h : k = k'
    · simp [h]; omega
    · simp [h, Ne.symm h]

lemma foldl_carryStep (hs : List Holder) (c : CarryOver) (m : Holder) :
    (hs.foldl carryStep (c, m.1, m.2)).1 = (minPairs m hs).foldl CarryOver.bump c := by
  induction hs generalizing c m with
  | nil => rfl
  | cons h hs ih =>
    obtain ⟨s, l⟩ := h
    by_cases hsame : m.1 = s
    · subst hsame
      simpa [carryStep, minPairs] using ih c m
    · by_cases hgt : m.1 > s
      · simpa [carryStep, minPairs, hsame, hgt, pairKey] using ih _ (s, l)
      · simpa [carryStep, minPairs, hsame, hgt, pairKey] using ih _ m

/-- Counting the pairs of the holders of a value counts, for every holder in turn, the keys of
`minPairs`. -/
theorem countPairs_eq (hs : List Holder) (c : CarryOver) :
    countPairs hs c = (hs.flatMap fun h => minPairs h hs).foldl CarryOver.bump c := by
  unfold countPairs
  suffices ∀ (outer : List Holder) (c : CarryOver), outer.foldl (fun c h1 => (hs.foldl carryStep (c, h1.1, h1.2)).1) c =
      (outer.flatMap fun h => minPairs h hs).foldl CarryOver.bump c from this hs c
  intro outer
  induction outer with
  | nil => intro c; rfl
  | cons h t ih =>
    intro c
    simp only [List.foldl_cons, List.flatMap_cons, List.foldl_append]
    rw [foldl_carryStep, ih]

lemma ownPairs_cons (h e : Holder) (hs : List Holder) :
    ownPairs h (e :: hs) = if e.1 ≠ h.1 then pairKey h e :: ownPairs h hs else ownPairs h hs := by
  unfold ownPairs
  split <;> simp_all

/-- While no holder before the last has a smaller service than `h`, `h` stays the first member
and is paired with every holder of another service. -/
lemma minPairs_eq_ownPairs (h : Holder) : ∀ hs : List Holder, (∀ e ∈ hs.dropLast, h.1 ≤ e.1) →
    minPairs h hs = ownPairs h hs
  | [], _ => rfl
  | [e], _ => by
    by_cases hs : h.1 = e.1
    · simp [minPairs, ownPairs, hs]
    · by_cases hgt : h.1 > e.1 <;> simp [minPairs, ownPairs, hs, hgt, Ne.symm hs]
  | e :: e' :: hs, hle => by
    rw [List.dropLast_cons_cons] at hle
    have ih := minPairs_eq_ownPairs h (e' :: hs) fun x hx => hle x (List.mem_cons_of_mem e hx)
    have hgt : ¬ h.1 > e.1 := not_lt.2 (hle e List.mem_cons_self)
    rw [minPairs, ownPairs_cons, ih]
    by_cases hs : h.1 = e.1
    · simp [hs]
    · simp [hs, hgt, Ne.symm hs]

/-- **Carry-over pairs are counted against a running first member.**  Counting the pairs of a
value's holders raises each key's count by its occurrences in `minPairs h` over the holders `h`:
a holder of a smaller service takes `h`'s place for the holders after it.  When every holder but
the last has the greatest service, these are `ownPairs`, every holder with every holder of
another service, so two for each unordered pair. -/
theorem countPairs_counts (hs : List Holder) (c : CarryOver) :
    (∀ k, (countPairs hs c).count k = c.count k + (hs.flatMap fun h => minPairs h hs).count k) ∧
      ((∀ h ∈ hs, ∀ e ∈ hs.dropLast, h.1 ≤ e.1) →
        ∀ k, (countPairs hs c).count k = c.count k + (hs.flatMap fun h => ownPairs h hs).count k) := by
  have hrule : ∀ k, (countPairs hs c).count k = c.count k + (hs.flatMap fun h => minPairs h hs).count k := by
    intro k
    rw [countPairs_eq, CarryOver.count_foldl_bump]
  refine ⟨hrule, fun hsorted k => ?_⟩
  rw [hrule, List.flatMap_congr fun h hh => minPairs_eq_ownPairs h hs (hsorted h hh)]

/-- Two holders in ascending order of service: their pair is counted three times. -/
theorem countPairs_counts_ascending :
    (countPairs [("Hotels_1", "where"), ("Restaurants_1", "city")] []).count
      ("Hotels_1", "where", "Restaurants_1", "city") = 3 := by
  rw [(countPairs_counts _ _).1]
  decide +kernel

end Conversa.Dialogue
