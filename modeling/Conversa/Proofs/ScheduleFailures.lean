import Conversa.Schedule.Policy
import Conversa.Proofs.Monadic

/-!
# Schedules that fail at a phase boundary

Two configurations the constructor accepts reach a failing formula: a Noam schedule without a
warm-up raises `0` to `-3/2` (`noamRates_zero_warmup`), and a hold-decay schedule holding to the
horizon divides by `0` there (`rates_hold_to_horizon`).  `rates_fail_iff_at_degenerate_phases`
gives the exact failing steps.
-/

namespace Conversa.Numeric.Scalar

@[simp] theorem compareWith_int (op : String) (a b : Int) :
    compareWith op (.int a) (.int b) = .ok (some (compare a b)) := rfl

@[simp] theorem sub_int (a b : Int) : (Scalar.int a).sub (.int b) = .ok (.int (a - b)) := rfl

@[simp] theorem lt_int (a b : Int) : (Scalar.int a).lt (.int b) = .ok (decide (a < b)) := by
  show Except.ok (some (compare a b) == some .lt) = _
  rw [Except.ok.injEq, Bool.eq_iff_iff, beq_iff_eq, Option.some_inj, decide_eq_true_iff,
    Int.compare_eq_lt]

@[simp] theorem gt_int (a b : Int) : (Scalar.int a).gt (.int b) = .ok (decide (b < a)) := by
  show Except.ok (some (compare a b) == some .gt) = _
  rw [Except.ok.injEq, Bool.eq_iff_iff, beq_iff_eq, Option.some_inj, decide_eq_true_iff,
    Int.compare_eq_gt]

@[simp] theorem le_int (a b : Int) : (Scalar.int a).le (.int b) = .ok (decide (a ≤ b)) := by
  show Except.ok (some (compare a b) == some .lt || some (compare a b) == some .eq) = _
  rw [Except.ok.injEq, Bool.eq_iff_iff]
  simp only [Bool.or_eq_true, beq_iff_eq, Option.some_inj, Int.compare_eq_lt, Int.compare_eq_eq,
    decide_eq_true_iff]
  omega

@[simp] theorem ge_int (a b : Int) : (Scalar.int a).ge (.int b) = .ok (decide (b ≤ a)) := by
  show Except.ok (some (compare a b) == some .gt || some (compare a b) == some .eq) = _
  rw [Except.ok.injEq, Bool.eq_iff_iff]
  simp only [Bool.or_eq_true, beq_iff_eq, Option.some_inj, Int.compare_eq_gt, Int.compare_eq_eq,
    decide_eq_true_iff]
  omega

/-- The larger of two whole numbers; the tie rule of `Scalar.max` does not show on them. -/
@[simp] theorem max_int (a b : Int) :
    Scalar.max (.int a) (.int b) = .ok (.int (Max.max a b)) := by
  have hmax : Max.max a b = if a < b then b else a := by
    rw [Int.max_def]
    split <;> split <;> omega
  by_cases h : a < b
  · simp only [Scalar.max, gt_int, Except.ok_bind, hmax, h, decide_true, if_true]
    rfl
  · simp only [Scalar.max, gt_int, Except.ok_bind, hmax, h, decide_false, if_false]
    rfl

theorem zero_pow_neg_three_halves :
    (Scalar.int 0).pow (.float (-1.5)) = .error .zeroToNegativePower := rfl

end Conversa.Numeric.Scalar

namespace Conversa.Schedule

open Numeric

@[simp] theorem arith_ok {α : Type} (a : α) : arith (.ok a) = .ok a := rfl

@[simp] theorem arith_error {α : Type} (e : ArithError) :
    arith (α := α) (.error e) = .error e.toFailure := rfl

/-- The Noam rule fails at every step when the warm-up is empty: whatever the step's own
power gives, the warm-up term `0 ^ (-3/2)` follows it. -/
theorem noamAnnealing_zero_warmup (normalize lr step minLr : Scalar) :
    ∃ e, noamAnnealing normalize lr step (.int 0) minLr = .error e := by
  unfold noamAnnealing
  cases step.pow (.float (-0.5)) with
  | error e => exact ⟨e, rfl⟩
  | ok decay => exact ⟨.zeroToNegativePower, by simp [Scalar.zero_pow_neg_three_halves]⟩

/-- Polynomial decay over an empty horizon divides by zero, cycling or not: the cycling
multiplier at step zero is one, so the horizon stays zero. -/
theorem polynomialDecay_zero_horizon (lr power minLr cycle : Scalar) :
    ∃ e, polynomialDecay lr (.int 0) (.int 0) power minLr cycle = .error e := by
  unfold polynomialDecay
  cases hc : cycle.truthy
  · exact ⟨.divisionByZero, by simp [Scalar.min]; rfl⟩
  · exact ⟨.floatDivisionByZero, by simp; rfl⟩

theorem rates_noam {s : Schedule} (hp : s.policy = .noam) (baseLrs : List Scalar) (epoch : Int) :
    s.rates baseLrs epoch = s.noamRates baseLrs epoch := by
  unfold Schedule.rates
  simp only [hp, beq_self_eq_true, if_true]

theorem noamRates_past_horizon {s : Schedule} {baseLrs : List Scalar} {M epoch : Int}
    (hM : s.maxSteps = .int M) (hpast : M < Max.max 1 epoch) :
    s.noamRates baseLrs epoch = .ok (baseLrs.map fun _ => s.minLr) := by
  unfold Schedule.noamRates
  simp [hM, hpast, pure, Except.pure]

@[simp] theorem checkFloor_nil (s : Schedule) : s.checkFloor [] = .ok () := rfl

theorem noamRates_nil {s : Schedule} {M : Int} (hM : s.maxSteps = .int M) (epoch : Int) :
    s.noamRates [] epoch = .ok [] := by
  unfold Schedule.noamRates
  by_cases hpast : M < Max.max 1 epoch <;> simp [hM, hpast, checkFloor_nil, pure, Except.pure]

/-- A Noam schedule without warm-up fails at every step up to its horizon, once it is given
an initial rate: the floor check passes or fails, and the rule fails after it. -/
theorem noamRates_zero_warmup {s : Schedule} {baseLrs : List Scalar} {M epoch : Int}
    (hw : s.warmupSteps = .int 0) (hM : s.maxSteps = .int M) (hstep : Max.max 1 epoch ≤ M)
    (hne : baseLrs ≠ []) : ∃ e, s.noamRates baseLrs epoch = .error e := by
  have hnotPast : (Scalar.int (Max.max 1 epoch)).gt s.maxSteps = .ok false := by
    rw [hM, Scalar.gt_int, decide_eq_false (by omega)]
  unfold Schedule.noamRates
  simp only [Scalar.max_int, arith_ok, Except.ok_bind, hnotPast]
  cases hfloor : s.checkFloor baseLrs with
  | error e => exact ⟨e, rfl⟩
  | ok u =>
    refine mapM_error_of_forall (fun lr => ?_) hne
    obtain ⟨e, he⟩ := noamAnnealing_zero_warmup s.normalize lr (.int (Max.max 1 epoch)) s.minLr
    exact ⟨e.toFailure, by rw [hw, he, arith_error]⟩

section HoldToHorizon

/-! A hold-decay schedule whose hold phase, after a warm-up of `w` steps, ends at its
horizon `H`. -/

variable {s : Schedule} {baseLrs : List Scalar} {w H : Int}
  (hp : s.policy = .polynomialHoldDecay) (hw : s.warmupSteps = .int w)
  (hh : s.holdSteps = .int H) (hM : s.maxSteps = .int H) (hwH : w < H)
include hp hw hh hM hwH

theorem rates_hold_past_horizon {epoch : Int} (hpast : H < epoch) :
    s.rates baseLrs epoch = .ok (baseLrs.map fun _ => s.minLr) := by
  have hwarm : ¬ epoch ≤ w := by omega
  have hheld : ¬ epoch < H := by omega
  unfold Schedule.rates
  simp [hp, hw, hh, hM, hwarm, hheld, hpast, Policy.holds, pure, Except.pure]

/-- At the horizon step the step is past the warm-up and no longer in the hold phase, not yet
past the horizon, and the decay runs over `H - max w H = 0` steps. -/
theorem rates_hold_at_horizon :
    s.rates baseLrs H =
      baseLrs.mapM fun lr => arith (polynomialDecay lr (.int 0) (.int 0) s.power s.minLr s.cycle) := by
  have hpast : ¬ H ≤ w := by omega
  have hmax : H - max w H = 0 := by omega
  unfold Schedule.rates Schedule.decayed
  simp [hp, hw, hh, hM, hpast, hmax, Policy.holds]

theorem rates_hold_to_horizon (hne : baseLrs ≠ []) : ∃ e, s.rates baseLrs H = .error e := by
  rw [rates_hold_at_horizon hp hw hh hM hwH]
  refine mapM_error_of_forall (fun lr => ?_) hne
  obtain ⟨e, he⟩ := polynomialDecay_zero_horizon lr s.power s.minLr s.cycle
  exact ⟨e.toFailure, by rw [he, arith_error]⟩

theorem rates_hold_to_horizon_nil : s.rates [] H = .ok [] := by
  rw [rates_hold_at_horizon hp hw hh hM hwH]
  rfl

end HoldToHorizon

/-- **Where two schedules fail inside their rate formula.**  Given an initial rate, a Noam schedule
with zero warm-up fails exactly from the first step to its horizon, and a hold-decay schedule
holding to its horizon `H` fails, from `H` on, exactly at `H`; elsewhere in these ranges the rates
are given. -/
theorem rates_fail_iff_at_degenerate_phases (s : Schedule) (baseLrs : List Scalar) (epoch : Int) :
    (∀ M, s.policy = .noam → s.warmupSteps = .int 0 → s.maxSteps = .int M →
      ((∃ e, s.rates baseLrs epoch = .error e) ↔ baseLrs ≠ [] ∧ Max.max 1 epoch ≤ M)) ∧
    (∀ w H, s.policy = .polynomialHoldDecay → s.warmupSteps = .int w → s.holdSteps = .int H →
      s.maxSteps = .int H → w < H → H ≤ epoch →
      ((∃ e, s.rates baseLrs epoch = .error e) ↔ baseLrs ≠ [] ∧ epoch = H)) := by
  constructor
  · intro M hp hw hM
    rw [rates_noam hp]
    constructor
    · intro hfail
      refine ⟨fun hnil => not_error_of_ok (hnil ▸ noamRates_nil hM epoch) hfail, ?_⟩
      by_cases hpast : M < Max.max 1 epoch
      · exact absurd hfail (not_error_of_ok (noamRates_past_horizon hM hpast))
      · omega
    · rintro ⟨hne, hstep⟩
      exact noamRates_zero_warmup hw hM hstep hne
  · intro w H hp hw hh hM hwH hfrom
    constructor
    · intro hfail
      refine ⟨fun hnil => ?_, ?_⟩
      · subst hnil
        by_cases hat : epoch = H
        · exact not_error_of_ok (hat ▸ rates_hold_to_horizon_nil hp hw hh hM hwH) hfail
        · exact not_error_of_ok (rates_hold_past_horizon hp hw hh hM hwH (by omega)) hfail
      · by_cases hat : epoch = H
        · exact hat
        · exact absurd hfail (not_error_of_ok (rates_hold_past_horizon hp hw hh hM hwH (by omega)))
    · rintro ⟨hne, rfl⟩
      exact rates_hold_to_horizon hp hw hh hM hwH hne

/-- Both failures are reached from keyword configurations: Noam given only `d_model` and
`max_steps`, and hold-decay given a hold phase as long as the horizon. -/
theorem rates_fail_at_degenerate_phases_configured :
    (∃ s, Policy.noam.configure [("d_model", .int 1), ("max_steps", .int 10)] = .ok s ∧
      ∃ e, s.rates [.float 0.1] 1 = .error e) ∧
    (∃ s, Policy.polynomialHoldDecay.configure [("max_steps", .int 10), ("hold_steps", .int 10)]
      = .ok s ∧ ∃ e, s.rates [.float 0.1] 10 = .error e) :=
  ⟨⟨_, rfl, ((rates_fail_iff_at_degenerate_phases _ _ 1).1 10 rfl rfl rfl).2
      ⟨by simp, by decide⟩⟩,
    ⟨_, rfl, ((rates_fail_iff_at_degenerate_phases _ _ 10).2 0 10 rfl rfl rfl rfl (by decide)
      (by decide)).2 ⟨by simp, rfl⟩⟩⟩

end Conversa.Schedule
