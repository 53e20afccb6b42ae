import Conversa.Proofs.ScheduleFailures

/-!
# A hold policy without a hold

Without a hold the hold boundary is `0`, so the hold-decay schedule decays from step `0` over the
steps after the warm-up, `warmup_steps` ahead of the plain polynomial decay
(`emptyHold_decays_from_start`, from `rates_by_phase` and `decayed_hold_from_zero`).
-/

namespace Conversa.Schedule
open Numeric

/-- The rates of a schedule whose hold phase, if it has one, is over by the end of its warm-up:
the warm-up ramp up to step `W`, the floor past the horizon `M`, the policy's decay between. -/
theorem rates_by_phase {s : Schedule} {W M H : Int} (hn : s.policy ≠ .noam)
    (hw : s.warmupSteps = .int W) (hM : s.maxSteps = .int M) (hH : s.holdSteps = .int H)
    (hHW : H ≤ W) (baseLrs : List Scalar) (epoch : Int) :
    s.rates baseLrs epoch =
      if epoch ≤ W then
        (do let frac ← arith (rampFactor (.int epoch) (.int W)); baseLrs.mapM fun lr => arith (lr.mul frac))
      else if M < epoch then .ok (baseLrs.map fun _ => s.minLr)
      else s.decayed baseLrs (.int epoch) := by
  have hnoam : (s.policy == .noam) = false := by simpa using hn
  unfold Schedule.rates
  by_cases hwarm : epoch ≤ W
  · simp [hnoam, hw, hwarm]
  · have hheld : ¬ epoch < H := by omega
    by_cases hpast : M < epoch <;> simp [hnoam, hw, hM, hH, hwarm, hheld, hpast, pure, Except.pure]

/-- A hold-decay schedule whose hold boundary is step `0` decays from step `0` over the steps
after its warm-up: at step `t` it gives what the plain decay gives at step `t + W`. -/
theorem decayed_hold_from_zero {W : Int} (hW : 0 ≤ W) (M : Int) (minLr power cycle normalize : Scalar)
    (baseLrs : List Scalar) (t : Int) :
    Schedule.decayed ⟨.polynomialHoldDecay, .int M, .int W, .int 0, minLr, power, cycle, normalize⟩
        baseLrs (.int t) =
      Schedule.decayed ⟨.polynomialDecay, .int M, .int W, .int 0, minLr, power, cycle, normalize⟩
        baseLrs (.int (t + W)) := by
  simp [Schedule.decayed, Int.max_eq_left hW]

/-- **A hold policy without a hold.**  With a warm-up of `W ≥ 0` steps and no hold, the hold-decay
schedule gives the plain polynomial decay's rates outside `(W, M]` and inside it the plain rates
`W` steps later: its hold boundary is `0`, not the warm-up's end.  The hold policy without a hold
gives the plain warm-up policy's rates. -/
theorem emptyHold_decays_from_start (W M : Int) (hW : 0 ≤ W) (minLr power cycle : Scalar)
    (baseLrs : List Scalar) :
    (∃ sH sP, Policy.polynomialHoldDecay.configure [("warmup_steps", .int W), ("max_steps", .int M),
          ("min_lr", minLr), ("power", power), ("cycle", cycle)] = .ok sH ∧
        Policy.polynomialDecay.configure [("warmup_steps", .int W), ("max_steps", .int M),
          ("min_lr", minLr), ("power", power), ("cycle", cycle)] = .ok sP ∧
        ∀ epoch : Int, sH.rates baseLrs epoch =
          if W < epoch ∧ epoch ≤ M then sP.decayed baseLrs (.int (epoch + W))
          else sP.rates baseLrs epoch) ∧
    (∃ s₁ s₂, Policy.warmupHold.configure [("warmup_steps", .int W), ("max_steps", .int M),
          ("min_lr", minLr)] = .ok s₁ ∧
        Policy.warmup.configure [("warmup_steps", .int W), ("max_steps", .int M),
          ("min_lr", minLr)] = .ok s₂ ∧
        ∀ epoch : Int, s₁.rates baseLrs epoch = s₂.rates baseLrs epoch) := by
  refine ⟨⟨⟨.polynomialHoldDecay, .int M, .int W, .int 0, minLr, power, cycle, .none⟩,
    ⟨.polynomialDecay, .int M, .int W, .int 0, minLr, power, cycle, .none⟩, rfl, rfl, fun epoch => ?_⟩,
    ⟨⟨.warmupHold, .int M, .int W, .int 0, minLr, .float 1.0, .bool false, .none⟩,
    ⟨.warmup, .int M, .int W, .int 0, minLr, .float 1.0, .bool false, .none⟩, rfl, rfl, fun epoch => ?_⟩⟩
  · rw [rates_by_phase (by simp) rfl rfl rfl hW, rates_by_phase (by simp) rfl rfl rfl hW]
    by_cases hwarm : epoch ≤ W
    · -- the warm-up ramp reads neither the policy nor the hold boundary
      simp [hwarm, show ¬ W < epoch by omega]
    · by_cases hpast : M < epoch
      · simp [hwarm, hpast, show ¬ epoch ≤ M by omega]
      · rw [if_neg hwarm, if_neg hpast, if_pos (show W < epoch ∧ epoch ≤ M by omega)]
        exact decayed_hold_from_zero hW M minLr power cycle .none baseLrs epoch
  · rw [rates_by_phase (by simp) rfl rfl rfl hW, rates_by_phase (by simp) rfl rfl rfl hW]
    rfl

/-- The rule for a warm-up of 3 steps, a horizon of 10, the default floor, power and cycling, and
initial rates 0.1 and 1. -/
theorem emptyHold_decays_from_start_three :
    0 ≤ (3 : Int) ∧
      (∃ sH sP, Policy.polynomialHoldDecay.configure [("warmup_steps", .int 3), ("max_steps", .int 10),
            ("min_lr", .float 0.0), ("power", .float 1.0), ("cycle", .bool false)] = .ok sH ∧
          Policy.polynomialDecay.configure [("warmup_steps", .int 3), ("max_steps", .int 10),
            ("min_lr", .float 0.0), ("power", .float 1.0), ("cycle", .bool false)] = .ok sP ∧
          ∀ epoch : Int, sH.rates [.float 0.1, .float 1.0] epoch =
            if 3 < epoch ∧ epoch ≤ 10 then sP.decayed [.float 0.1, .float 1.0] (.int (epoch + 3))
            else sP.rates [.float 0.1, .float 1.0] epoch) ∧
      (∃ s₁ s₂, Policy.warmupHold.configure [("warmup_steps", .int 3), ("max_steps", .int 10),
            ("min_lr", .float 0.0)] = .ok s₁ ∧
          Policy.warmup.configure [("warmup_steps", .int 3), ("max_steps", .int 10),
            ("min_lr", .float 0.0)] = .ok s₂ ∧
          ∀ epoch : Int, s₁.rates [.float 0.1, .float 1.0] epoch = s₂.rates [.float 0.1, .float 1.0] epoch) :=
  ⟨by decide, emptyHold_decays_from_start 3 10 (by decide) _ _ _ _⟩

end Conversa.Schedule
