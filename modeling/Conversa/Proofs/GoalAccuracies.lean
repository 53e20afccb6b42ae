import Mathlib.Data.List.Forall2
import Conversa.Dialogue.Metrics
import Conversa.Proofs.Monadic

/-!
# Joint goal accuracies factor into status and value

Comparing two states slot by slot gives, per slot, whether it is right, whether its status is
and whether its value is (`compareSlot_row`, `foldlM_compareSlot_rows`).  A product of zeros and
ones is one exactly when every factor is (`productScore_orOne`), so the joint accuracies factor
(**`jointGoal_factors`**).
-/

namespace Conversa.Dialogue

/-- The comparison of one slot: one entry of each list of a `SlotComparison`. -/
structure SlotRow where
  correct : Float
  active : Bool
  categorical : Data
  status : Float
  value : Float

/-- The comparison made of some rows. -/
def SlotComparison.ofRows (rows : List SlotRow) : SlotComparison :=
  ⟨rows.map (·.correct), rows.map (·.active), rows.map (·.categorical), rows.map (·.status),
    rows.map (·.value)⟩

/-- Whether two states agree on a slot of a service: it is filled in both or in neither, and
where filled in both, the predicted value (the first the prediction gives) is the first reference
value of a categorical slot, or one of the reference values of a free one. -/
def slotAgrees (ref hyp slot : Data) : Except Failure Bool := do
  let name ← slot.key "name"
  let cat ← slot.key "is_categorical"
  let inRef ← ref.holds name
  let inHyp ← hyp.holds name
  if !(inRef && inHyp) then return inRef == inHyp
  let refs ← ref.key name.text
  let predicted ← (← hyp.key name.text).item 0
  if cat.truthy then return Data.same (← refs.item 0) predicted
  return (← refs.elements).any (Data.same · predicted)

/-- A row as the comparison of a slot makes it: status and value are zeros and ones (the value
`-1` when there is none), and the slot is right when its status is and its value, where there is
one. -/
def SlotRow.WellFormed (r : SlotRow) : Prop :=
  (r.status = 0.0 ∨ r.status = 1.0) ∧ (r.value = 0.0 ∨ r.value = 1.0 ∨ r.value = -1.0) ∧
    r.correct = r.status * (if r.value ≥ 0.0 then r.value else 1.0)

/-- The row of a slot: well formed, and right exactly when the states agree on the slot. -/
def SlotRow.Fits (ref hyp slot : Data) (r : SlotRow) : Prop :=
  r.WellFormed ∧ ∃ b, slotAgrees ref hyp slot = .ok b ∧ (r.correct = 1.0 ↔ b = true)

theorem SlotComparison.ofRows_append (rows : List SlotRow) (r : SlotRow) :
    SlotComparison.ofRows (rows ++ [r]) =
      ⟨(ofRows rows).correct ++ [r.correct], (ofRows rows).active ++ [r.active],
        (ofRows rows).categorical ++ [r.categorical], (ofRows rows).status ++ [r.status],
        (ofRows rows).value ++ [r.value]⟩ := by
  simp [ofRows]

theorem max_indicator (p q : Bool) :
    max (if p then 1.0 else 0.0 : Float) (if q then 1.0 else 0.0) = if p || q then 1.0 else 0.0 := by
  cases p <;> cases q <;> decide

theorem freeValueScore_eq (refs : List Data) (hyp : Data) :
    freeValueScore refs hyp = if refs.any (Data.same · hyp) then 1.0 else 0.0 := by
  -- the running score is 1 once a reference has matched, else 0
  suffices h : ∀ p : Bool, refs.foldl (fun score r => max score (if Data.same r hyp then 1.0 else 0.0))
      (if p then 1.0 else 0.0) = if p || refs.any (Data.same · hyp) then 1.0 else 0.0 from h false
  induction refs with
  | nil => simp
  | cons r refs ih =>
      intro p
      rw [List.foldl_cons, max_indicator, ih, List.any_cons, Bool.or_assoc]

/-- **One slot adds one row** that fits it. -/
theorem compareSlot_row {ref hyp slot : Data} {rows : List SlotRow} {c : SlotComparison}
    (h : compareSlot ref hyp slot (.ofRows rows) = .ok c) :
    ∃ r, c = .ofRows (rows ++ [r]) ∧ r.Fits ref hyp slot := by
  unfold compareSlot at h
  obtain ⟨name, hname, h⟩ := Except.bind_eq_ok.1 h
  obtain ⟨cat, hcat, h⟩ := Except.bind_eq_ok.1 h
  obtain ⟨inRef, hinRef, h⟩ := Except.bind_eq_ok.1 h
  cases inRef with
  | false =>
      simp only [Bool.false_eq_true, if_false] at h
      obtain ⟨inHyp, hinHyp, h⟩ := Except.bind_eq_ok.1 h
      refine ⟨⟨if inHyp then 0.0 else 1.0, false, cat, if inHyp then 0.0 else 1.0, -1.0⟩, ?_, ?_⟩
      · simpa [SlotComparison.ofRows_append, pure, Except.pure] using h.symm
      · have hb : slotAgrees ref hyp slot = .ok !inHyp := by
          cases inHyp <;> simp [slotAgrees, hname, hcat, hinRef, hinHyp, pure, Except.pure]
        cases inHyp <;> refine ⟨⟨?_, ?_, ?_⟩, _, hb, ?_⟩ <;> simp only <;> decide
  | true =>
      simp only [if_true] at h
      obtain ⟨inHyp, hinHyp, h⟩ := Except.bind_eq_ok.1 h
      cases inHyp with
      | false =>
          simp only [Bool.false_eq_true, if_false] at h
          refine ⟨⟨0.0, true, cat, 0.0, -1.0⟩, by simpa [SlotComparison.ofRows_append, pure, Except.pure] using h.symm, ?_⟩
          have hb : slotAgrees ref hyp slot = .ok false := by
            simp [slotAgrees, hname, hcat, hinRef, hinHyp, pure, Except.pure]
          refine ⟨⟨?_, ?_, ?_⟩, _, hb, ?_⟩ <;> simp only <;> decide
      | true =>
          -- filled in both: the value scores 1 exactly when the states agree
          have hfit : ∀ q : Bool, slotAgrees ref hyp slot = .ok q →
              SlotRow.Fits ref hyp slot ⟨if q then 1.0 else 0.0, true, cat, 1.0, if q then 1.0 else 0.0⟩ := by
            intro q hq
            cases q <;> refine ⟨⟨?_, ?_, ?_⟩, _, hq, ?_⟩ <;> simp only <;> decide
          simp only [if_true] at h
          obtain ⟨refs, hrefs, h⟩ := Except.bind_eq_ok.1 h
          obtain ⟨hv, hhv, h⟩ := Except.bind_eq_ok.1 h
          obtain ⟨predicted, hpred, h⟩ := Except.bind_eq_ok.1 h
          have hrow : ∀ cor, (pure (SlotComparison.ofRows (rows ++ [⟨cor, true, cat, 1.0, cor⟩])) : Except Failure _) = .ok c →
              c = .ofRows (rows ++ [⟨cor, true, cat, 1.0, cor⟩]) := fun _ h => (Except.ok.inj h).symm
          by_cases htr : cat.truthy
          · simp only [htr, if_true] at h
            obtain ⟨cor, hcor, h⟩ := Except.bind_eq_ok.1 h
            obtain ⟨first, hfirst, hcor⟩ := Except.bind_eq_ok.1 hcor
            cases hcor
            refine ⟨_, hrow _ (by rw [SlotComparison.ofRows_append]; exact h), hfit _ ?_⟩
            simp [slotAgrees, hname, hcat, hinRef, hinHyp, hrefs, hhv, hpred, hfirst, htr, pure, Except.pure]
          · simp only [htr, Bool.false_eq_true, if_false] at h
            obtain ⟨cor, hcor, h⟩ := Except.bind_eq_ok.1 h
            obtain ⟨values, hvalues, hcor⟩ := Except.bind_eq_ok.1 hcor
            cases hcor
            rw [freeValueScore_eq] at h
            refine ⟨_, hrow _ (by rw [SlotComparison.ofRows_append]; exact h), hfit _ ?_⟩
            simp [slotAgrees, hname, hcat, hinRef, hinHyp, hrefs, hhv, hpred, hvalues, htr, pure, Except.pure]

/-- **A run over the slots adds one fitting row for each slot**, in order. -/
theorem foldlM_compareSlot_rows (ref hyp : Data) : ∀ (slots : List Data) (rows : List SlotRow)
    (c : SlotComparison), slots.foldlM (fun c slot => compareSlot ref hyp slot c) (.ofRows rows) = .ok c →
      ∃ rows', c = .ofRows (rows ++ rows') ∧ List.Forall₂ (fun slot r => SlotRow.Fits ref hyp slot r) slots rows'
  | [], rows, c, h => ⟨[], by simpa [pure, Except.pure] using h.symm, .nil⟩
  | slot :: slots, rows, c, h => by
      rw [List.foldlM_cons, Except.bind_eq_ok] at h
      obtain ⟨c', hc', h⟩ := h
      obtain ⟨r, rfl, hr⟩ := compareSlot_row hc'
      obtain ⟨rows', rfl, hrows⟩ := foldlM_compareSlot_rows ref hyp slots _ c h
      exact ⟨r :: rows', by simp, .cons hr hrows⟩

theorem SlotRow.WellFormed.correct_eq_one {r : SlotRow} (h : r.WellFormed) :
    (r.correct = 0.0 ∨ r.correct = 1.0) ∧
      (r.correct = 1.0 ↔ r.status = 1.0 ∧ (r.value > -0.5 → r.value = 1.0)) := by
  obtain ⟨hs, hv, hc⟩ := h
  rw [hc]
  rcases hs with hs | hs <;> rcases hv with hv | hv | hv <;> rw [hs, hv] <;> decide

/-- A score read as a number, with `NA` (an empty product) read as 1. -/
def Score.orOne : Score → Float
  | .value x => x
  | .absent => 1.0

theorem mul_indicator (p q : Prop) [Decidable p] [Decidable q] :
    ((if p then 1.0 else 0.0 : Float) * if q then 1.0 else 0.0) = if p ∧ q then 1.0 else 0.0 := by
  by_cases hp : p <;> by_cases hq : q <;> simp [hp, hq] <;> decide

/-- **A product of zeros and ones is one exactly when every factor is**, the empty one too. -/
theorem productScore_orOne {xs : List Float} (h : ∀ x ∈ xs, x = 0.0 ∨ x = 1.0) :
    (productScore xs).orOne = if ∀ x ∈ xs, x = 1.0 then 1.0 else 0.0 := by
  suffices hf : ∀ p : Prop, [Decidable p] → xs.foldl (· * ·) (if p then 1.0 else 0.0) =
      if p ∧ ∀ x ∈ xs, x = 1.0 then 1.0 else 0.0 by
    cases xs with
    | nil => rfl
    | cons y ys => simpa [productScore, Score.orOne, Numeric.arrayProduct] using hf True
  intro p _
  induction xs generalizing p with
  | nil => simp
  | cons y ys ih =>
      have hstep : (if p then 1.0 else 0.0 : Float) * y = if p ∧ y = 1.0 then 1.0 else 0.0 := by
        rcases h y List.mem_cons_self with rfl | rfl <;> by_cases hp : p <;> simp [hp] <;> decide
      rw [List.foldl_cons, hstep, ih fun x hx => h x (List.mem_cons_of_mem y hx)]
      simp [and_assoc]

/-- A product over the rows that pass a test, of zeros and ones, is one when every such row
gives one. -/
theorem productScore_rows {rows : List SlotRow} (P : SlotRow → Bool) (f : SlotRow → Float)
    (h : ∀ r ∈ rows, P r → f r = 0.0 ∨ f r = 1.0) :
    (productScore ((rows.filter P).map f)).orOne = if ∀ r ∈ rows, P r → f r = 1.0 then 1.0 else 0.0 := by
  have h01 : ∀ x ∈ (rows.filter P).map f, x = 0.0 ∨ x = 1.0 := by
    intro x hx
    obtain ⟨r, hr, rfl⟩ := List.mem_map.1 hx
    exact h r (List.mem_filter.1 hr).1 (List.mem_filter.1 hr).2
  have hiff : (∀ x ∈ (rows.filter P).map f, x = 1.0) ↔ ∀ r ∈ rows, P r → f r = 1.0 := by
    simp only [List.forall_mem_map, List.mem_filter, and_imp]
  rw [productScore_orOne h01]
  simp only [hiff]

/-- The reported score of a name, read as a number (`NA` and a missing name as 1). -/
def reportedOrOne (acc : List (String × Score)) (name : String) : Float :=
  ((acc.lookup name).getD .absent).orOne

/-- The joint accuracies of a comparison made of rows, each the product over the rows it keeps. -/
theorem jointScores_ofRows (rows : List SlotRow) :
    let acc := goalNames.zip (goalScores (.ofRows rows))
    reportedOrOne acc "joint_goal_accuracy" = (productScore (rows.map (·.correct))).orOne ∧
    reportedOrOne acc "joint_cat_accuracy" =
      (productScore ((rows.filter (·.categorical.truthy)).map (·.correct))).orOne ∧
    reportedOrOne acc "joint_noncat_accuracy" =
      (productScore ((rows.filter (!·.categorical.truthy)).map (·.correct))).orOne ∧
    reportedOrOne acc "joint_cat_status_accuracy" =
      (productScore ((rows.filter (·.categorical.truthy)).map (·.status))).orOne ∧
    reportedOrOne acc "joint_noncat_status_accuracy" =
      (productScore ((rows.filter (!·.categorical.truthy)).map (·.status))).orOne ∧
    reportedOrOne acc "joint_cat_value_accuracy" =
      (productScore ((rows.filter fun r => r.categorical.truthy && r.value > -0.5).map (·.value))).orOne ∧
    reportedOrOne acc "joint_noncat_value_accuracy" =
      (productScore ((rows.filter fun r => !r.categorical.truthy && r.value > -0.5).map (·.value))).orOne := by
  have hz : let c := SlotComparison.ofRows rows
      (c.correct.zip (c.active.zip (c.categorical.map Data.truthy))).zip (c.status.zip c.value) =
        rows.map fun r => ((r.correct, r.active, r.categorical.truthy), (r.status, r.value)) := by
    induction rows with
    | nil => rfl
    | cons r rows ih => simpa [SlotComparison.ofRows] using ih
  have hall : rows.filter (fun _ => true) = rows := List.filter_eq_self.2 fun _ _ => rfl
  simp only [reportedOrOne, goalScores, hz, goalNames]
  simp [List.lookup_cons, List.filter_map, Function.comp_def, hall]

theorem compareSlotValues_rows {ref hyp service : Data} {c : SlotComparison}
    (h : compareSlotValues ref hyp service = .ok c) :
    ∃ slots, (service.key "slots" >>= Data.elements) = .ok slots ∧
      ∃ rows, c = .ofRows rows ∧ List.Forall₂ (fun slot r => SlotRow.Fits ref hyp slot r) slots rows := by
  unfold compareSlotValues at h
  obtain ⟨d, hd, h⟩ := Except.bind_eq_ok.1 h
  obtain ⟨slots, hslots, h⟩ := Except.bind_eq_ok.1 h
  obtain ⟨rows, rfl, hrows⟩ := foldlM_compareSlot_rows ref hyp slots [] c h
  exact ⟨slots, by rw [hd]; exact hslots, rows, rfl, hrows⟩

/-- Rows fitting the slots are well formed, and all right exactly when the states agree on
every slot. -/
theorem forall_rows_of_fits {ref hyp : Data} {slots : List Data} {rows : List SlotRow}
    (h : List.Forall₂ (fun slot r => SlotRow.Fits ref hyp slot r) slots rows) :
    (∀ r ∈ rows, r.WellFormed) ∧
      ((∀ r ∈ rows, r.correct = 1.0) ↔ ∀ slot ∈ slots, slotAgrees ref hyp slot = .ok true) := by
  induction h with
  | nil => simp
  | cons hfit _ ih =>
      obtain ⟨hwf, b, hb, hcor⟩ := hfit
      refine ⟨List.forall_mem_cons.2 ⟨hwf, ih.1⟩, ?_⟩
      rw [List.forall_mem_cons, List.forall_mem_cons, hcor, hb, Except.ok.injEq, ih.2]

/-- Over well-formed rows, those a test keeps are all right exactly when their statuses are
all right and so are their values, where they have one. -/
theorem forall_correct_iff {rows : List SlotRow} (hwf : ∀ r ∈ rows, r.WellFormed) (P : SlotRow → Bool) :
    (∀ r ∈ rows, P r → r.correct = 1.0) ↔
      (∀ r ∈ rows, P r → r.status = 1.0) ∧
        ∀ r ∈ rows, (P r && decide (r.value > -0.5)) → r.value = 1.0 := by
  simp only [Bool.and_eq_true, decide_eq_true_eq, and_imp]
  constructor
  · intro h
    exact ⟨fun r hr hp => (((hwf r hr).correct_eq_one.2).1 (h r hr hp)).1,
      fun r hr hp hv => (((hwf r hr).correct_eq_one.2).1 (h r hr hp)).2 hv⟩
  · rintro ⟨hs, hv⟩ r hr hp
    exact ((hwf r hr).correct_eq_one.2).2 ⟨hs r hr hp, hv r hr hp⟩

theorem indicator_eq_one (p : Prop) [Decidable p] : ((if p then 1.0 else 0.0 : Float) = 1.0) ↔ p := by
  by_cases hp : p
  · simp [hp]
  · simp only [hp, if_false, iff_false]
    decide

theorem SlotRow.WellFormed.value_kept {r : SlotRow} (h : r.WellFormed) (hv : r.value > -0.5) :
    r.value = 0.0 ∨ r.value = 1.0 := by
  rcases h.2.1 with h0 | h1 | hm
  · exact .inl h0
  · exact .inr h1
  · rw [hm] at hv
    exact absurd hv (by decide)

/-- Over well-formed rows, the joint accuracy of the rows a test keeps is the product of their
joint status accuracy and their joint value accuracy. -/
theorem jointScore_factor {rows : List SlotRow} (hwf : ∀ r ∈ rows, r.WellFormed) (P : SlotRow → Bool) :
    (productScore ((rows.filter P).map (·.correct))).orOne =
      (productScore ((rows.filter P).map (·.status))).orOne *
        (productScore ((rows.filter fun r => P r && r.value > -0.5).map (·.value))).orOne := by
  have hv : ∀ r ∈ rows, (P r && decide (r.value > -0.5)) → r.value = 0.0 ∨ r.value = 1.0 := by
    intro r hr hp
    simp only [Bool.and_eq_true, decide_eq_true_eq] at hp
    exact (hwf r hr).value_kept hp.2
  rw [productScore_rows P _ fun r hr _ => (hwf r hr).correct_eq_one.1,
    productScore_rows P _ fun r hr _ => (hwf r hr).1, productScore_rows _ _ hv, mul_indicator]
  simp only [forall_correct_iff hwf P]

/-- **The joint goal accuracies factor.**  Comparing two states gives zeros and ones (values also
`-1`), a slot right exactly when its status and value are; so each kind's joint accuracy is its
status and value ones multiplied, the joint goal accuracy is the categorical and free ones
multiplied, and it is 1 exactly when the states agree on every slot (`NA` read as 1). -/
theorem jointGoal_factors {ref hyp service : Data} {c : SlotComparison}
    (h : compareSlotValues ref hyp service = .ok c) :
    let acc := goalNames.zip (goalScores c)
    (∀ x ∈ c.correct, x = 0.0 ∨ x = 1.0) ∧ (∀ x ∈ c.status, x = 0.0 ∨ x = 1.0) ∧
      (∀ x ∈ c.value, x = 0.0 ∨ x = 1.0 ∨ x = -1.0) ∧
      c.correct = List.zipWith (fun s v => s * if v ≥ 0.0 then v else 1.0) c.status c.value ∧
      reportedOrOne acc "joint_cat_accuracy" =
        reportedOrOne acc "joint_cat_status_accuracy" * reportedOrOne acc "joint_cat_value_accuracy" ∧
      reportedOrOne acc "joint_noncat_accuracy" =
        reportedOrOne acc "joint_noncat_status_accuracy" * reportedOrOne acc "joint_noncat_value_accuracy" ∧
      reportedOrOne acc "joint_goal_accuracy" =
        reportedOrOne acc "joint_cat_accuracy" * reportedOrOne acc "joint_noncat_accuracy" ∧
      ∃ slots, (service.key "slots" >>= Data.elements) = .ok slots ∧
        (reportedOrOne acc "joint_goal_accuracy" = 1.0 ↔ ∀ slot ∈ slots, slotAgrees ref hyp slot = .ok true) := by
  obtain ⟨slots, hslots, rows, rfl, hfit⟩ := compareSlotValues_rows h
  obtain ⟨hwf, hagree⟩ := forall_rows_of_fits hfit
  obtain ⟨hg, hc, hn, hcs, hns, hcv, hnv⟩ := jointScores_ofRows rows
  intro acc
  have hcor : ∀ x ∈ rows.map (·.correct), x = 0.0 ∨ x = 1.0 := by
    simpa using fun r hr => (hwf r hr).correct_eq_one.1
  refine ⟨hcor, ?_, ?_, ?_, ?_, ?_, ?_, slots, hslots, ?_⟩
  · simpa [SlotComparison.ofRows] using fun r hr => (hwf r hr).1
  · simpa [SlotComparison.ofRows] using fun r hr => (hwf r hr).2.1
  · simp only [SlotComparison.ofRows, List.zipWith_map, List.zipWith_self]
    exact List.map_congr_left fun r hr => (hwf r hr).2.2
  · rw [hc, hcs, hcv]
    exact jointScore_factor hwf _
  · rw [hn, hns, hnv]
    exact jointScore_factor hwf _
  · -- every slot is categorical or free
    have hsplit : (∀ x ∈ rows.map (·.correct), x = 1.0) ↔
        (∀ r ∈ rows, r.categorical.truthy → r.correct = 1.0) ∧
          ∀ r ∈ rows, (!r.categorical.truthy) → r.correct = 1.0 := by
      simp only [List.forall_mem_map]
      constructor
      · intro h
        exact ⟨fun r hr _ => h r hr, fun r hr _ => h r hr⟩
      · rintro ⟨hcat, hfree⟩ r hr
        cases ht : r.categorical.truthy
        · exact hfree r hr (by simp [ht])
        · exact hcat r hr ht
    rw [hg, hc, hn, productScore_orOne hcor, productScore_rows _ _ fun r hr _ => (hwf r hr).correct_eq_one.1,
      productScore_rows _ _ fun r hr _ => (hwf r hr).correct_eq_one.1, mul_indicator]
    simp only [hsplit]
  · rw [hg, productScore_orOne hcor, indicator_eq_one, List.forall_mem_map]
    exact hagree

/-- A free slot both states fill alike and a categorical slot only the reference fills: the joint
goal accuracy is the product of the categorical and free ones. -/
theorem jointGoal_factors_city_price :
    ∃ c, compareSlotValues
        (.dict [("city", .list [.str "Oakland"]), ("price", .list [.str "cheap"])])
        (.dict [("city", .list [.str "Oakland"])])
        (.dict [("slots", .list [.dict [("name", .str "city"), ("is_categorical", .bool false)],
          .dict [("name", .str "price"), ("is_categorical", .bool true)]])]) = .ok c ∧
      let acc := goalNames.zip (goalScores c)
      reportedOrOne acc "joint_goal_accuracy" =
        reportedOrOne acc "joint_cat_accuracy" * reportedOrOne acc "joint_noncat_accuracy" := by
  obtain ⟨c, hc⟩ : ∃ c, compareSlotValues
      (.dict [("city", .list [.str "Oakland"]), ("price", .list [.str "cheap"])])
      (.dict [("city", .list [.str "Oakland"])])
      (.dict [("slots", .list [.dict [("name", .str "city"), ("is_categorical", .bool false)],
        .dict [("name", .str "price"), ("is_categorical", .bool true)]])]) = .ok c := ⟨_, rfl⟩
  exact ⟨c, hc, (jointGoal_factors hc).2.2.2.2.2.2.1⟩

end Conversa.Dialogue
