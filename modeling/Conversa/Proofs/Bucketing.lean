import Conversa.Batching.Sentences
import Conversa.Batching.Pairs

/-!
# Filing positions into buckets

Both packers file a corpus's positions into buckets by length: a position goes to the end of its
length's bucket, or opens one.  `fileUnder` is that step (`sentenceBuckets_eq`, `buckets_eq`);
`foldl_fileUnder`: filing a list gives buckets of distinct keys, none empty (`Filed`), whose
entries (`bucketEntries`) are the filed elements in some order.
-/

namespace Conversa.Batching

variable {κ β : Type}

/-- One element filed under its key: at the end of the bucket of that key, or in a new bucket at
the end. -/
def fileUnder [BEq κ] (acc : List (κ × List β)) (k : κ) (v : β) : List (κ × List β) :=
  if acc.any (·.1 == k) then acc.map fun (k', q) => if k' == k then (k', q ++ [v]) else (k', q)
  else acc ++ [(k, [v])]

/-- The entries of buckets, each value with its key, bucket after bucket. -/
def bucketEntries (bs : List (κ × List β)) : List (κ × β) := bs.flatMap fun kq => kq.2.map (kq.1, ·)

@[simp] theorem bucketEntries_nil : bucketEntries ([] : List (κ × List β)) = [] := rfl

@[simp] theorem bucketEntries_cons (kq : κ × List β) (bs : List (κ × List β)) :
    bucketEntries (kq :: bs) = kq.2.map (kq.1, ·) ++ bucketEntries bs := rfl

@[simp] theorem bucketEntries_append (bs cs : List (κ × List β)) :
    bucketEntries (bs ++ cs) = bucketEntries bs ++ bucketEntries cs := List.flatMap_append

/-- Buckets as filing builds them: one per key, none empty. -/
structure Filed (bs : List (κ × List β)) : Prop where
  nodup : (bs.map (·.1)).Nodup
  ne_nil : ∀ kq ∈ bs, kq.2 ≠ []

theorem Filed.perm {bs cs : List (κ × List β)} (h : Filed bs) (hp : bs.Perm cs) : Filed cs :=
  ⟨(hp.map _).nodup_iff.1 h.nodup, fun kq hkq => h.ne_nil kq (hp.mem_iff.2 hkq)⟩

variable [BEq κ] [LawfulBEq κ]

theorem bucketEntries_grow {acc : List (κ × List β)} {k : κ} (v : β)
    (hnd : (acc.map (·.1)).Nodup) (hk : k ∈ acc.map (·.1)) :
    (bucketEntries (acc.map fun (k', q) => if k' == k then (k', q ++ [v]) else (k', q))).Perm
      (bucketEntries acc ++ [(k, v)]) := by
  induction acc with
  | nil => simp at hk
  | cons kq acc ih =>
    obtain ⟨k', q⟩ := kq
    simp only [List.map_cons, List.nodup_cons, List.mem_cons] at hnd hk
    by_cases hkk : k' = k
    · subst hkk
      -- no later bucket has the key, so only this one grows
      have hrest : (acc.map fun (k'', q) => if k'' == k' then (k'', q ++ [v]) else (k'', q)) = acc := by
        refine (List.map_congr_left fun kq hkq => ?_).trans (List.map_id acc)
        have : kq.1 ≠ k' := fun h => hnd.1 (h ▸ List.mem_map_of_mem hkq)
        simp [this]
      simp only [beq_self_eq_true, if_true, hrest, bucketEntries_cons, List.map_append,
        List.map_cons, List.map_nil, List.append_assoc]
      exact List.Perm.append_left _ List.perm_append_comm
    · simp only [List.map_cons, beq_iff_eq, hkk, if_false, bucketEntries_cons, List.append_assoc]
      exact List.Perm.append_left _ (ih hnd.2 (hk.resolve_left (Ne.symm hkk)))

/-- **Filing one element** keeps the buckets filed and adds its entry. -/
theorem fileUnder_filed {acc : List (κ × List β)} (k : κ) (v : β) (h : Filed acc) :
    Filed (fileUnder acc k v) ∧ (bucketEntries (fileUnder acc k v)).Perm (bucketEntries acc ++ [(k, v)]) := by
  unfold fileUnder
  split
  · rename_i hany
    have hk : k ∈ acc.map (·.1) := by
      obtain ⟨kq, hkq, hkk⟩ := List.any_eq_true.1 hany
      exact List.mem_map.2 ⟨kq, hkq, by simpa using hkk⟩
    refine ⟨⟨?_, ?_⟩, bucketEntries_grow v h.nodup hk⟩
    · -- growing a bucket keeps every key
      have hkeys : (acc.map fun (k', q) => if k' == k then (k', q ++ [v]) else (k', q)).map (·.1) =
          acc.map (·.1) := by
        rw [List.map_map]
        exact List.map_congr_left fun kq _ => by by_cases hkk : kq.1 = k <;> simp [hkk]
      rw [hkeys]
      exact h.nodup
    · intro kq hkq
      obtain ⟨⟨k', q⟩, hmem, rfl⟩ := List.mem_map.1 hkq
      by_cases hkk : k' = k <;> simp [hkk, h.ne_nil _ hmem]
  · rename_i hany
    have hk : k ∉ acc.map (·.1) := fun hk => by
      obtain ⟨kq, hkq, rfl⟩ := List.mem_map.1 hk
      exact hany (List.any_eq_true.2 ⟨kq, hkq, by simp⟩)
    refine ⟨⟨?_, ?_⟩, by simp⟩
    · rw [List.map_append, List.nodup_append]
      refine ⟨h.nodup, by simp, ?_⟩
      intro a ha b hb hab
      rw [List.map_cons, List.map_nil, List.mem_singleton] at hb
      rw [hab, hb] at ha
      exact hk ha
    · intro kq hkq
      rcases List.mem_append.1 hkq with hkq | hkq
      · exact h.ne_nil kq hkq
      · simp_all

/-- **Filing a list** element by element gives filed buckets holding each element once under
its key. -/
theorem foldl_fileUnder {α : Type} (key : α → κ) (val : α → β) :
    ∀ (xs : List α) (acc : List (κ × List β)), Filed acc →
      Filed (xs.foldl (fun acc x => fileUnder acc (key x) (val x)) acc) ∧
      (bucketEntries (xs.foldl (fun acc x => fileUnder acc (key x) (val x)) acc)).Perm
        (bucketEntries acc ++ xs.map fun x => (key x, val x))
  | [], acc, h => ⟨h, by simp⟩
  | x :: xs, acc, h => by
    obtain ⟨h1, hp1⟩ := fileUnder_filed (key x) (val x) h
    obtain ⟨h2, hp2⟩ := foldl_fileUnder key val xs _ h1
    refine ⟨h2, hp2.trans ?_⟩
    simpa using hp1.append_right (xs.map fun x => (key x, val x))

theorem foldl_fileUnder_nil {α : Type} (key : α → κ) (val : α → β) (xs : List α) :
    Filed (xs.foldl (fun acc x => fileUnder acc (key x) (val x)) []) ∧
      (bucketEntries (xs.foldl (fun acc x => fileUnder acc (key x) (val x)) [])).Perm
        (xs.map fun x => (key x, val x)) := by
  simpa using foldl_fileUnder key val xs [] ⟨List.nodup_nil, by simp⟩

/-- The sentence packer files each position under its length, then sorts the buckets by length. -/
theorem sentenceBuckets_eq (lens : List Nat) :
    sentenceBuckets lens =
      (lens.zipIdx.foldl (fun acc x => fileUnder acc x.1 x.2) []).mergeSort fun a b => a.1 ≤ b.1 := rfl

/-- The pair packer files each position with its target length under its source length, sorts
each bucket by target length and position, then the buckets by source length. -/
theorem buckets_eq (lens : List (Nat × Nat)) :
    buckets lens =
      ((lens.zipIdx.foldl (fun acc x => fileUnder acc x.1.1 (x.1.2, x.2)) []).map fun kq =>
        (kq.1, kq.2.mergeSort fun a b => a.1 < b.1 || (a.1 == b.1 && a.2 ≤ b.2))).mergeSort
          fun a b => a.1 ≤ b.1 := rfl

end Conversa.Batching
