import Mathlib.Data.List.Induction
import Mathlib.Data.List.Forall2
import Conversa.NeuralType.Compare

/-!
# Which axes the neural type check accepts

`NType.compare a b` decides whether a tensor of type `b` may feed a port of type `a`.  The
documented rule is positionwise: at every position the port's axis is `Any` or accepts the
tensor's.  The check folds one verdict over the positions and an `Any` resets it, so a mismatch
counts only when no `Any` follows (`foldl_sameStep_iff`, **`NType.compare_eq_same_iff`**,
**`NType.compare_any_hides_mismatch`**).  Axes in another order are compared through a table
keeping each kind's last size (`mem_kindSizes`): **`NType.compare_permuted_iff`**.
-/

namespace Conversa.NeuralType

/-- Whether the axis `x` of a port accepts the axis `y` of a tensor at the same position: the
same kind, the same list mark, and `x`'s size when it has one. -/
def Axis.accepts (x y : Axis) : Bool :=
  x.kind == y.kind && Data.same x.isList y.isList && (x.size.isNull || Data.same x.size y.size)

/-- The positionwise rule of the documentation: as many axes, and at every position an `Any`
axis or one that accepts. -/
def Positionwise (as bs : List Axis) : Prop :=
  as.length = bs.length ∧ ∀ i (hi : i < as.length) (hib : i < bs.length),
    as[i].kind = .any ∨ as[i].accepts bs[i] = true

/-! ## One position of the fold -/

/-- One position of the fold in `NType.axesVerdict`, as it is written there. -/
def sameStep (same : Bool) (p : Axis × Axis) : Bool :=
  if p.1.kind == .any then true
  else if p.1.kind != p.2.kind || !Data.same p.1.isList p.2.isList
    || (!Data.same p.1.size p.2.size && !p.1.size.isNull) then false
  else same

theorem sameStep_eq (same : Bool) (p : Axis × Axis) :
    sameStep same p = if p.1.kind = .any then true else if p.1.accepts p.2 then same else false := by
  unfold sameStep Axis.accepts
  by_cases h : p.1.kind = .any
  · simp [h]
  · simp [h]
    grind

/-- **The fold says "same" exactly when every position after the last `Any` passes.**  By
induction from the end of the list: a last `Any` makes every earlier position irrelevant, and a
last axis that is not `Any` must accept and leaves the earlier positions as they were. -/
theorem foldl_sameStep_iff (l : List (Axis × Axis)) :
    l.foldl sameStep true = true ↔ ∀ i (hi : i < l.length),
      (∀ j (hj : j < l.length), i < j → l[j].1.kind ≠ .any) →
        l[i].1.kind = .any ∨ l[i].1.accepts l[i].2 = true := by
  induction l using List.reverseRecOn with
  | nil => simp
  | append_singleton l p ih =>
      rw [List.foldl_append, List.foldl_cons, List.foldl_nil, sameStep_eq]
      by_cases hany : p.1.kind = .any
      · simp only [hany, if_true, true_iff]
        intro i hi later
        by_cases hlast : i = l.length
        · subst hlast; simp [hany]
        · exact absurd (by simp [hany]) (later l.length (by simp) (by simp at hi; omega))
      · by_cases hacc : p.1.accepts p.2 = true
        · simp only [hany, hacc, if_true, if_false, ih]
          constructor
          · intro h i hi later
            by_cases hlast : i = l.length
            · subst hlast; simp [hacc]
            · have hi' : i < l.length := by simp at hi; omega
              have := h i hi' fun j hj hij => by
                have := later j (by simp; omega) hij
                rwa [List.getElem_append_left hj] at this
              rwa [List.getElem_append_left hi']
          · intro h i hi later
            -- the new last axis is no `Any`, so the positions after `i` stay the same
            have := h i (by simp; omega) fun j hj hij => by
              by_cases hjl : j = l.length
              · subst hjl; simpa using hany
              · have hj' : j < l.length := by simp at hj; omega
                rw [List.getElem_append_left hj']
                exact later j hj' hij
            rwa [List.getElem_append_left hi] at this
        · simp only [hany, hacc, if_false, Bool.false_eq_true, false_iff, not_forall]
          refine ⟨l.length, by simp, fun j hj hij => by simp at hj; omega, ?_⟩
          simp [hany, hacc]

/-! ## The verdict and the comparison -/

theorem axesVerdict_eq_zero_iff (as bs : List Axis) :
    NType.axesVerdict as bs = 0 ↔ as.length = bs.length ∧ (as.zip bs).foldl sameStep true = true := by
  unfold NType.axesVerdict
  by_cases hl : as.length = bs.length
  · simp only [hl, bne_self_eq_false, Bool.false_eq_true, if_false, true_and]
    show (if (as.zip bs).foldl sameStep true then 0 else _) = 0 ↔ _
    cases (as.zip bs).foldl sameStep true
    · -- the verdicts other than "same" are 1, 2 and 3
      simp only [Bool.false_eq_true, if_false, iff_false]
      split_ifs <;> simp
    · simp
  · simp [hl]

/-- With elements that agree, two types with axes compare `SAME` exactly when the axes verdict
is "same": every other verdict gives another outcome. -/
theorem NType.compare_eq_same_iff_verdict {a b : NType} {as bs : List Axis}
    (ha : a.axes = some as) (hb : b.axes = some bs) (he : a.element.compare b.element = .same) :
    a.compare b = .same ↔ NType.axesVerdict as bs = 0 := by
  unfold NType.compare
  rw [ha, hb]
  simp only
  generalize NType.axesVerdict as bs = v
  rcases v with _ | _ | _ | v <;> simp [he]

/-- **The exact rule of the check.**  Two types with axes whose elements agree compare `SAME`
if and only if they have as many axes and every position after the port's last `Any` axis holds
an `Any` axis or one that accepts the tensor's axis. -/
theorem NType.compare_eq_same_iff (a b : NType) (as bs : List Axis) (ha : a.axes = some as)
    (hb : b.axes = some bs) (he : a.element.compare b.element = .same) :
    a.compare b = .same ↔ as.length = bs.length ∧
      ∀ i (hi : i < as.length) (hib : i < bs.length),
        (∀ j (hj : j < as.length), i < j → as[j].kind ≠ .any) →
          as[i].kind = .any ∨ as[i].accepts bs[i] = true := by
  rw [NType.compare_eq_same_iff_verdict ha hb he, axesVerdict_eq_zero_iff, foldl_sameStep_iff]
  constructor
  · rintro ⟨hl, h⟩
    exact ⟨hl, by simpa [List.getElem_zip, hl] using h⟩
  · rintro ⟨hl, h⟩
    exact ⟨hl, by simpa [List.getElem_zip, hl] using h⟩

theorem NType.compare_eq_same_of_positionwise {a b : NType} {as bs : List Axis}
    (ha : a.axes = some as) (hb : b.axes = some bs) (he : a.element.compare b.element = .same)
    (h : Positionwise as bs) : a.compare b = .same := by
  rw [NType.compare_eq_same_iff_verdict ha hb he, axesVerdict_eq_zero_iff, foldl_sameStep_iff]
  refine ⟨h.1, fun i hi _ => ?_⟩
  have hia : i < as.length := by simp at hi; omega
  simpa [List.getElem_zip] using h.2 i hia (h.1 ▸ hia)

/-- **An `Any` hides an earlier mismatch.**  The port `(B, Any)` accepts the tensor `(T, T)`
although its first axis neither is `Any` nor accepts a time axis. -/
theorem NType.compare_any_hides_mismatch :
    let port : NType := ⟨some [⟨.batch, .null, .bool false⟩, ⟨.any, .null, .bool false⟩], .ofKind .void, .bool false⟩
    let tensor : NType := ⟨some [⟨.time, .null, .bool false⟩, ⟨.time, .null, .bool false⟩], .ofKind .void, .bool false⟩
    port.element.compare tensor.element = .same ∧ port.compare tensor = .same ∧
      ¬ Positionwise [⟨.batch, .null, .bool false⟩, ⟨.any, .null, .bool false⟩]
        [⟨.time, .null, .bool false⟩, ⟨.time, .null, .bool false⟩] := by
  intro port tensor
  have he : port.element.compare tensor.element = .same := by decide
  refine ⟨he, (NType.compare_eq_same_iff port tensor _ _ rfl rfl he).2 ⟨rfl, by decide⟩, ?_⟩
  rintro ⟨-, h⟩
  simpa [Axis.accepts] using h 0 (by simp) (by simp)

/-! ## Axes in another order -/

/-- The size of the last axis of a kind, absent when no axis has the kind. -/
def lastSize (axes : List Axis) (k : AxisKind) : Data :=
  ((axes.filter (·.kind == k)).getLast?.map (·.size)).getD .null

theorem lastSize_append_singleton (xs : List Axis) (a : Axis) (k : AxisKind) :
    lastSize (xs ++ [a]) k = if a.kind = k then a.size else lastSize xs k := by
  by_cases h : a.kind = k <;> simp [lastSize, List.filter_append, h]

theorem kindSizes_append_singleton (xs : List Axis) (a : Axis) :
    NType.kindSizes (xs ++ [a]) =
      if (NType.kindSizes xs).any (·.1 == a.kind) then
        (NType.kindSizes xs).map fun (k, s) => if k == a.kind then (k, a.size) else (k, s)
      else NType.kindSizes xs ++ [(a.kind, a.size)] := by
  simp only [NType.kindSizes, List.foldl_append, List.foldl_cons, List.foldl_nil]

theorem mem_kindSizes (xs : List Axis) (p : AxisKind × Data) :
    p ∈ NType.kindSizes xs ↔ p.1 ∈ xs.map (·.kind) ∧ p.2 = lastSize xs p.1 := by
  induction xs using List.reverseRecOn generalizing p with
  | nil => simp [NType.kindSizes]
  | append_singleton xs a ih =>
      have hany : (NType.kindSizes xs).any (·.1 == a.kind) = true ↔ a.kind ∈ xs.map (·.kind) := by
        simp only [List.any_eq_true, beq_iff_eq]
        exact ⟨fun ⟨q, hq, hk⟩ => hk ▸ ((ih q).1 hq).1, fun h => ⟨_, (ih (a.kind, lastSize xs a.kind)).2 ⟨h, rfl⟩, rfl⟩⟩
      rw [kindSizes_append_singleton]
      obtain ⟨k, s⟩ := p
      split
      · have hk := hany.1 ‹_›
        simp only [List.mem_map, Prod.exists, lastSize_append_singleton, List.map_append,
          List.mem_append, List.map_cons, List.map_nil, List.mem_singleton]
        grind
      · have hk : a.kind ∉ xs.map (·.kind) := fun h => ‹¬_› (hany.2 h)
        simp only [List.mem_append, ih, List.mem_singleton, lastSize_append_singleton,
          List.map_append, List.map_cons, List.map_nil]
        grind

theorem any_kindSizes (xs : List Axis) (k : AxisKind) :
    (NType.kindSizes xs).any (·.1 == k) = true ↔ k ∈ xs.map (·.kind) := by
  simp only [List.any_eq_true, beq_iff_eq, Prod.exists, mem_kindSizes]
  grind

theorem foldl_sameStep_of_no_any (l : List (Axis × Axis)) (s : Bool) (h : ∀ p ∈ l, p.1.kind ≠ .any) :
    l.foldl sameStep s = (s && l.all fun p => p.1.accepts p.2) := by
  induction l generalizing s with
  | nil => simp
  | cons p l ih =>
      rw [List.foldl_cons, ih _ fun q hq => h q (List.mem_cons_of_mem p hq), sameStep_eq,
        if_neg (h p List.mem_cons_self)]
      cases hacc : p.1.accepts p.2 <;> simp [hacc]

theorem find?_kindSizes {xs : List Axis} {k : AxisKind} (hk : k ∈ xs.map (·.kind)) :
    (NType.kindSizes xs).find? (·.1 == k) = some (k, lastSize xs k) := by
  cases h : (NType.kindSizes xs).find? (·.1 == k) with
  | none =>
      have := List.find?_eq_none.1 h _ ((mem_kindSizes xs (k, lastSize xs k)).2 ⟨hk, rfl⟩)
      simp at this
  | some q =>
      have hq : q.1 = k := by simpa using List.find?_some h
      have hmem := (mem_kindSizes xs q).1 (List.mem_of_find?_eq_some h)
      rw [← hq, ← hmem.2]

/-- For axes in another order and no `Any` among them, the verdict is "same" when every position
accepts, and "the same kinds in another order" when not all do but each kind's last axis has the
same size on both sides. -/
theorem axesVerdict_of_perm {as bs : List Axis} (hperm : bs.Perm as) (hany : ∀ x ∈ as, x.kind ≠ .any) :
    (NType.axesVerdict as bs = 0 ↔ List.Forall₂ (fun x y => x.accepts y = true) as bs) ∧
    (NType.axesVerdict as bs = 1 ↔ ¬ List.Forall₂ (fun x y => x.accepts y = true) as bs ∧
      ∀ x ∈ as, Data.same (lastSize bs x.kind) (lastSize as x.kind) = true) := by
  have hlen : as.length = bs.length := hperm.length_eq.symm
  have hkinds : ∀ k, k ∈ bs.map (·.kind) ↔ k ∈ as.map (·.kind) := fun k => (hperm.map _).mem_iff
  have hfold : (as.zip bs).foldl sameStep true = true ↔
      List.Forall₂ (fun x y => x.accepts y = true) as bs := by
    rw [foldl_sameStep_of_no_any _ _ fun p hp => hany p.1 (List.of_mem_zip hp).1,
      List.forall₂_iff_zip]
    simp [hlen]
  refine ⟨by rw [axesVerdict_eq_zero_iff, hfold]; simp [hlen], ?_⟩
  have hsizes : ∀ p ∈ NType.kindSizes as, (NType.kindSizes bs).find? (·.1 == p.1) =
      some (p.1, lastSize bs p.1) ∧ p.2 = lastSize as p.1 := fun p hp =>
    ⟨find?_kindSizes ((hkinds p.1).2 ((mem_kindSizes as p).1 hp).1), ((mem_kindSizes as p).1 hp).2⟩
  unfold NType.axesVerdict
  simp only [hlen, bne_self_eq_false, Bool.false_eq_true, if_false]
  split_ifs with h1 h2 h3
  · simp [hfold.1 h1]
  · -- some kind's last axes differ in size
    obtain ⟨p, hp, hmis⟩ := List.any_eq_true.1 h3
    obtain ⟨hfind, hsnd⟩ := hsizes p hp
    rw [hfind, hsnd] at hmis
    obtain ⟨x, hx, hxk⟩ := List.mem_map.1 ((mem_kindSizes as p).1 hp).1
    refine iff_of_false (by decide) fun ⟨_, hall⟩ => ?_
    have hsame := hall x hx
    rw [hxk] at hsame
    simp [hsame] at hmis
  · have hmem : ∀ x ∈ as, (x.kind, lastSize as x.kind) ∈ NType.kindSizes as := fun x hx =>
      (mem_kindSizes as _).2 ⟨List.mem_map_of_mem hx, rfl⟩
    refine iff_of_true rfl ⟨fun h => h1 (hfold.2 h), fun x hx => ?_⟩
    by_contra hne
    refine h3 (List.any_eq_true.2 ⟨_, hmem x hx, ?_⟩)
    rw [(hsizes _ (hmem x hx)).1]
    simpa using hne
  · -- the two sides have the same kinds
    refine absurd ?_ h2
    simp only [Bool.and_eq_true, List.all_eq_true, any_kindSizes, ← hkinds, List.mem_map, Prod.exists,
      mem_kindSizes]
    grind

theorem ElementValue.compare_ne_transposeSame (a b : ElementValue) : a.compare b ≠ .transposeSame := by
  unfold ElementValue.compare
  split_ifs <;> simp

/-- **The exact rule for axes in another order.**  For a tensor whose axes, none `Any`, permute
the port's, with the same elements: `SAME` exactly when the elements compare `SAME` and every
axis accepts the tensor's at its position; `SAME` or `TRANSPOSE_SAME` exactly when the elements
compare `SAME` and, unless every position accepts, each kind's last axis has one size on both
sides (`NType.compare_repeated_kind` shows a repeated kind failing). -/
theorem NType.compare_permuted_iff (a b : NType) (as bs : List Axis) (ha : a.axes = some as)
    (hb : b.axes = some bs) (hperm : bs.Perm as) (hany : ∀ x ∈ as, x.kind ≠ .any)
    (he : b.element = a.element) :
    (a.compare b = .same ↔ a.element.compare a.element = .same ∧
      List.Forall₂ (fun x y => x.accepts y = true) as bs) ∧
    (a.compare b = .same ∨ a.compare b = .transposeSame ↔ a.element.compare a.element = .same ∧
      (List.Forall₂ (fun x y => x.accepts y = true) as bs ∨
        ∀ x ∈ as, Data.same (lastSize bs x.kind) (lastSize as x.kind) = true)) := by
  obtain ⟨h0, h1⟩ := axesVerdict_of_perm hperm hany
  have hne := ElementValue.compare_ne_transposeSame a.element a.element
  unfold NType.compare
  rw [ha, hb, he]
  generalize a.element.compare a.element = E at hne ⊢
  rcases hv : NType.axesVerdict as bs with _ | _ | _ | v
  · simp [hv, h0.1 hv, hne]
  · obtain ⟨hnf, hsz⟩ := h1.1 hv
    by_cases hs : E = .same
    · simpa [hv, hs, hnf] using hsz
    · simp [hv, hs]
  all_goals
    have hnf : ¬ List.Forall₂ (fun x y => x.accepts y = true) as bs := fun h => by simp [h0.2 h] at hv
    have hnsz : ¬ ∀ x ∈ as, Data.same (lastSize bs x.kind) (lastSize as x.kind) = true :=
      fun h => by simp [h1.2 ⟨hnf, h⟩] at hv
    by_cases hs : E = .same <;> simp [hv, hs, hnf, hnsz]

/-- **A kind that comes twice defeats the transposition check.**  The tensor `(D:128, D:32)` is
the port `(D:32, D:128)` with its axes swapped, yet the comparison says neither `SAME` nor
`TRANSPOSE_SAME`: the last `D` axis has size 128 on one side and 32 on the other. -/
theorem NType.compare_repeated_kind :
    let d (n : Int) : Axis := ⟨.dimension, .int n, .bool false⟩
    let port : NType := ⟨some [d 32, d 128], .ofKind .void, .bool false⟩
    let tensor : NType := ⟨some [d 128, d 32], .ofKind .void, .bool false⟩
    [d 128, d 32].Perm [d 32, d 128] ∧
      ¬ (port.compare tensor = .same ∨ port.compare tensor = .transposeSame) := by
  intro d port tensor
  have hperm : [d 128, d 32].Perm [d 32, d 128] := List.Perm.swap _ _ []
  refine ⟨hperm, fun h => ?_⟩
  obtain ⟨-, hpos | hsize⟩ :=
    (NType.compare_permuted_iff port tensor _ _ rfl rfl hperm (by decide) rfl).2.1 h
  · exact absurd hpos (by decide)
  · exact absurd (hsize (d 32) (by simp)) (by decide)

end Conversa.NeuralType
