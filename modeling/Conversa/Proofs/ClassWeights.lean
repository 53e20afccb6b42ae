import Conversa.Labels.Statistics
import Conversa.Proofs.ScheduleFailures
import Mathlib

/-!
# Class weights of a labelled file

`classWeightsOf_outcome` gives a file's class weights exactly, from the labels read off its lines,
through the tally of whole-number labels (`mostCommon_ints`), their maximum (`greatest_ints`), the
weights of their counts (`freqWeights_ints`) and the filling of the classes (`fillWeights_ints`).
-/

namespace Conversa.Numeric.Scalar

@[simp] theorem add_int (a b : Int) : (Scalar.int a).add (.int b) = .ok (.int (a + b)) := rfl

@[simp] theorem mul_int (a b : Int) : (Scalar.int a).mul (.int b) = .ok (.int (a * b)) := rfl

/-- True division of whole numbers rounds their quotient once; one too large is an overflow. -/
theorem truediv_int (a b : Int) : (Scalar.int a).truediv (.int b) =
    if b = 0 then .error .divisionByZero
    else if (divInt a b).isInf then .error .intTooLarge else .ok (.float (divInt a b)) := rfl

end Conversa.Numeric.Scalar

namespace Conversa.Labels

open Numeric

@[simp] theorem same_int (a b : Int) : Data.same (.int a) (.int b) = decide (a = b) := by
  simp only [Data.same, Data.scalar?, Scalar.eq, Scalar.compareWith_int]
  rw [Bool.eq_iff_iff, beq_iff_eq, Option.some_inj, decide_eq_true_iff, Int.compare_eq_eq]

theorem greater_int (a b : Int) : greater (.int a) (.int b) = .ok (decide (b < a)) := by
  simp [greater, Data.scalar?, Except.mapError]

theorem greatest_ints (v : Int) (vs : List Int) :
    greatest ((v :: vs).map Data.int) = .ok (.int (vs.foldl max v)) := by
  induction vs generalizing v with
  | nil => rfl
  | cons w ws ih =>
    rw [List.foldl_cons, ← ih (max v w)]
    simp only [List.map_cons, greatest, List.foldlM_cons, greater_int]
    by_cases h : v < w
    · simp [h, Int.max_eq_right (Int.le_of_lt h)]
    · simp [h, Int.max_eq_left (Int.not_lt.1 h)]

theorem tally_ints (labels : List Int) : ∃ ks : List Int, ks.Nodup ∧ (∀ l, l ∈ ks ↔ l ∈ labels) ∧
    tally (labels.map Data.int) = ks.map fun l => (.int l, labels.count l) := by
  -- the tally is a fold: follow it one label at a time
  induction labels using List.reverseRecOn with
  | nil => exact ⟨[], List.nodup_nil, by simp, rfl⟩
  | append_singleton p x ih =>
    obtain ⟨ks, hnd, hmem, htally⟩ := ih
    have hany : (ks.map fun l => (Data.int l, p.count l)).any (·.1.same (.int x)) = decide (x ∈ p) := by
      rw [Bool.eq_iff_iff, List.any_eq_true, decide_eq_true_iff, ← hmem]
      simp
    simp only [tally, List.map_append, List.foldl_append, List.map_cons, List.map_nil,
      List.foldl_cons, List.foldl_nil] at htally ⊢
    rw [htally, hany]
    by_cases hx : x ∈ p
    · refine ⟨ks, hnd, by simp [hmem, hx], ?_⟩
      simp only [hx, decide_true, if_true, List.map_map]
      refine List.map_congr_left fun l _ => ?_
      by_cases h : l = x <;> simp [h, List.count_append, Ne.symm]
    · refine ⟨ks ++ [x], hnd.append (List.nodup_singleton x) (by simpa [hmem] using hx),
        by simp [hmem], ?_⟩
      simp only [hx, decide_false, Bool.false_eq_true, if_false, List.map_append, List.map_cons,
        List.map_nil]
      congr 1
      · refine List.map_congr_left fun l hl => ?_
        have : l ≠ x := fun h => hx (h ▸ (hmem l).1 hl)
        simp [List.count_append, Ne.symm this]
      · simp [List.count_append, List.count_eq_zero_of_not_mem hx]

theorem mostCommon_ints (labels : List Int) : ∃ ks : List Int, ks.Perm labels.dedup ∧
    mostCommon (labels.map Data.int) = ks.map fun l => (.int l, labels.count l) := by
  obtain ⟨ks, hnd, hmem, htally⟩ := tally_ints labels
  have hperm : (mostCommon (labels.map Data.int)).Perm (ks.map fun l => (.int l, labels.count l)) :=
    htally ▸ List.mergeSort_perm _ _
  -- the labels are read back off the keys
  have hkey : ∀ l : Int, ((Data.int l).int?.getD 0) = l := fun l => rfl
  refine ⟨(mostCommon (labels.map .int)).map fun e => e.1.int?.getD 0, ?_, ?_⟩
  · have hback := hperm.map fun e => e.1.int?.getD 0
    simp only [List.map_map, Function.comp_def, hkey, List.map_id'] at hback
    exact hback.trans ((List.perm_ext_iff_of_nodup hnd (List.nodup_dedup _)).2 fun l => by
      simp [hmem])
  · rw [List.map_map]
    conv_lhs => rw [← List.map_id (mostCommon _)]
    refine List.map_congr_left fun e he => ?_
    obtain ⟨l, -, rfl⟩ := List.mem_map.1 (hperm.subset he)
    rfl

theorem summarize_nil : summarize [] = .error (.value "max() arg is an empty sequence") := by
  simp [summarize, mostCommon, tally, greatest]

/-- The summary of whole-number labels, when there are any: their number, the counts of the
distinct labels in some order, and a greatest label. -/
theorem summarize_ints (labels : List Int) (hne : labels ≠ []) :
    ∃ ks : List Int, ks.Perm labels.dedup ∧ ∃ m ∈ labels, (∀ l ∈ labels, l ≤ m) ∧
      summarize (labels.map Data.int) =
        .ok ⟨labels.length, ks.map fun l => (.int l, labels.count l), .int m⟩ := by
  obtain ⟨ks, hperm, hmc⟩ := mostCommon_ints labels
  have hmem : ∀ l, l ∈ ks ↔ l ∈ labels := fun l => hperm.mem_iff.trans List.mem_dedup
  cases ks with
  | nil => exact absurd (List.eq_nil_iff_forall_not_mem.2 fun l hl => by simpa using (hmem l).2 hl) hne
  | cons k ks =>
    have hmax : (k :: ks).max? = some (ks.foldl max k) := rfl
    obtain ⟨hm, hle⟩ := List.max?_eq_some_iff.1 hmax
    refine ⟨k :: ks, hperm, ks.foldl max k, (hmem _).1 hm, fun l hl => hle l ((hmem l).2 hl), ?_⟩
    have hkeys : ((k :: ks).map fun l => (Data.int l, labels.count l)).map (·.1) =
        (k :: ks).map Data.int := by
      simp only [List.map_map, Function.comp_def]
    simp only [summarize, hmc, hkeys, greatest_ints, Except.ok_bind, List.length_map]
    rfl

theorem foldlM_add_ints (ks : List Int) (c : Int → Nat) (t : Int) :
    (ks.map fun l => (Data.int l, Scalar.int (c l))).foldlM
        (fun (acc : Scalar) (kf : Data × Scalar) => acc.add kf.2) (.int t) =
      .ok (.int (t + ((ks.map c).sum : Nat))) := by
  induction ks generalizing t with
  | nil => simp [pure, Except.pure]
  | cons l ks ih =>
    simp only [List.map_cons, List.foldlM_cons, Scalar.add_int, Except.ok_bind, ih, List.sum_cons]
    push_cast
    rw [Int.add_assoc]

/-- The weights of counted labels: the total count over the number of labels times each count,
unless one of these quotients is too large for a double. -/
theorem freqWeights_ints (ks : List Int) (c : Int → Nat) (hc : ∀ l ∈ ks, 0 < c l) :
    freqWeights (ks.map fun l => (.int l, .int (c l))) =
      if ∃ l ∈ ks, (divInt ((ks.map c).sum : Nat) (ks.length * c l)).isInf then
        .error ArithError.intTooLarge.toFailure
      else .ok (ks.map fun l => (.int l, .float (divInt ((ks.map c).sum : Nat) (ks.length * c l)))) := by
  unfold freqWeights
  rw [foldlM_add_ints, Int.zero_add, Except.ok_bind, List.mapM_map, mapM_eq_ite .intTooLarge
    (fun l => (.int l, .float (divInt ((ks.map c).sum : Nat) (ks.length * c l))))
    (fun l => (divInt ((ks.map c).sum : Nat) (ks.length * c l)).isInf) fun l hl => ?_]
  · split <;> rfl
  -- each label's step divides the total by a positive whole number
  have hpos : (ks.length * c l : Int) ≠ 0 := Int.ne_of_gt
    (Int.mul_pos (by exact_mod_cast List.length_pos_of_mem hl) (by exact_mod_cast hc l hl))
  simp only [Function.comp_apply, List.length_map, Scalar.mul_int, Except.ok_bind, Scalar.truediv_int,
    hpos, if_false]
  split <;> rfl

theorem find?_eq_int (ks : List Int) (c : Int) :
    ks.find? (fun l => decide (l = c)) = if c ∈ ks then some c else none := by
  induction ks with
  | nil => rfl
  | cons k ks ih => by_cases h : k = c <;> simp [h, ih, Ne.symm]

/-- With a number of classes given, the weights run over every class below it: the weight of a
label that has one, `1.0` for the others. -/
theorem fillWeights_ints (ks : List Int) (w : Int → Data) (n : Int) (hn : 0 < n) :
    fillWeights (ks.map fun l => (.int l, w l)) (n - 1) =
      (List.range n.toNat).map fun c : Nat => if (c : Int) ∈ ks then w c else .float 1.0 := by
  have htop : ¬ (n - 1 < 0) := by omega
  simp only [fillWeights, htop, if_false, Int.sub_add_cancel]
  refine List.map_congr_left fun c _ => ?_
  simp only [List.find?_map, Function.comp_def, same_int, Int.ofNat_eq_natCast, find?_eq_int]
  by_cases hc : (c : Int) ∈ ks <;> simp only [hc, if_true, if_false] <;> rfl

/-- **Class weights of a labelled file.**  An empty file has no greatest label, a label at or past
the number of classes is refused, and otherwise a class that occurs weighs the number of lines over
the number of distinct labels times its count, any other `1.0`.  A negative label weighs no class. -/
theorem classWeightsOf_outcome (file : String) (lines : List String) (n : Int) (hn : 0 < n) :
    (classWeightsOf file lines n).map Prod.fst = (lines.mapM (lineLabel file)).bind fun labels =>
      if labels = [] then .error (.value "max() arg is an empty sequence")
      else if ∃ l ∈ labels, n ≤ l then
        .error (.value s!"Found an invalid label in {file}! Labels should be from [0, num_classes-1].")
      else if ∃ l ∈ labels, (divInt labels.length (labels.dedup.length * labels.count l)).isInf then
        .error ArithError.intTooLarge.toFailure
      else .ok ((List.range n.toNat).map fun c : Nat => if (c : Int) ∈ labels then
        .float (divInt labels.length (labels.dedup.length * labels.count (c : Int))) else .float 1.0) := by
  unfold classWeightsOf
  cases lines.mapM (lineLabel file) with
  | error e => rfl
  | ok labels =>
    simp only [Except.ok_bind, Except.bind]
    by_cases hne : labels = []
    · subst hne
      simp only [List.map_nil, summarize_nil, Except.error_bind, if_true]
      rfl
    obtain ⟨ks, hperm, m, hm, hle, hsum⟩ := summarize_ints labels hne
    have hmem : ∀ l, l ∈ ks ↔ l ∈ labels := fun l => hperm.mem_iff.trans List.mem_dedup
    -- the greatest label is past the classes exactly when some label is
    have htop : n ≤ m ↔ ∃ l ∈ labels, n ≤ l :=
      ⟨fun h => ⟨m, hm, h⟩, fun ⟨l, hl, h⟩ => Int.le_trans h (hle l hl)⟩
    have htotal : (ks.map labels.count).sum = labels.length := by
      rw [(hperm.map _).sum_eq, List.sum_map_count_dedup_eq_length]
    have hK : ks.length = labels.dedup.length := hperm.length_eq
    have hint : (Data.int m).int?.getD 0 = m := rfl
    simp only [hsum, hne, if_false, Except.ok_bind, hint, ge_iff_le, htop]
    by_cases hbig : ∃ l ∈ labels, n ≤ l
    · simp only [hbig, if_true]
      rfl
    simp only [List.map_map, Function.comp_def]
    rw [freqWeights_ints ks labels.count fun l hl => List.count_pos_iff.2 ((hmem l).1 hl)]
    simp only [hbig, if_false, htotal, hK, hmem]
    split
    · rfl
    · simp only [Except.ok_bind, fillWeights_ints ks _ n hn, hmem]
      rfl

/-- Labels `-1` and `0` with one class pass the check of the greatest label: class `0` weighs two
lines over two labels once each, the double of bits `0x3FF0000000000000`, which is one. -/
theorem classWeightsOf_negative_label :
    0 < (1 : Int) ∧ divInt 2 2 = Float.ofBits 0x3FF0000000000000 ∧
      (classWeightsOf "data.tsv" ["a\t-1", "b\t0"] 1).map Prod.fst =
        if (divInt 2 2).isInf then .error ArithError.intTooLarge.toFailure
        else .ok [.float (divInt 2 2)] := by
  refine ⟨by decide, rfl, ?_⟩
  rw [classWeightsOf_outcome "data.tsv" _ 1 (by decide)]
  have hlabels : ["a\t-1", "b\t0"].mapM (lineLabel "data.tsv") = .ok [-1, 0] := by decide
  simp [hlabels, Except.bind]

end Conversa.Labels
