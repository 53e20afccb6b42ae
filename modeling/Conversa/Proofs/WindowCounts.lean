import Conversa.Batching.Sentences

/-!
# Windows of a token corpus

A corpus is cut into windows of `width` tokens, `step` apart, labelled one token further on
(`window_natCast`, `window_labels`); a window is whole when `i * step + width + 1` tokens are
there (`full_iff`).  The size `(tokens - width) / step` counts every full window only when the
rest is a whole number of steps (`size_counts_full_windows_iff`).
-/

namespace Conversa.Batching

open Text

theorem span_natCast {α : Type} (xs : List α) (a b : Nat) :
    span xs a b = (xs.drop a).take (b - a) := by
  simp only [span, clampPosition, Int.natCast_nonneg, Int.not_lt.2, if_false, Int.toNat_natCast]
  apply List.ext_getElem?
  intro k
  simp only [List.getElem?_take, List.getElem?_drop]
  -- the clamped positions are the positions themselves wherever the slice reaches
  split <;> split
  · rw [Nat.min_eq_left (by omega)]
  · omega
  · exact (List.getElem?_eq_none (by omega)).symm
  · rfl

namespace WindowCorpus

/-- The `i`-th window is full: it and its labels hold `width` tokens each. -/
def Full (c : WindowCorpus) (i : Nat) : Prop :=
  ((c.window i).1.length : Int) = c.width ∧ ((c.window i).2.length : Int) = c.width

variable {c : WindowCorpus} {s w : Nat}

theorem window_natCast (hs : c.step = s) (hw : c.width = w) (i : Nat) :
    c.window i = ((c.tokens.drop (i * s)).take w, (c.tokens.drop (i * s + 1)).take w) := by
  have h1 : (i : Int) * c.step = ((i * s : Nat) : Int) := by simp [hs]
  have h2 : ((i * s : Nat) : Int) + c.width = ((i * s + w : Nat) : Int) := by simp [hw]
  have h3 : ((i * s : Nat) : Int) + 1 = ((i * s + 1 : Nat) : Int) := by simp
  have h4 : ((i * s + w : Nat) : Int) + 1 = ((i * s + 1 + w : Nat) : Int) := by simp; omega
  simp only [window, h1, h2, h3, h4, span_natCast]
  simp

/-- The labels of a window are its tokens shifted left by one: all but its first token, then
the token after it, if there is one. -/
theorem window_labels (hw : 1 ≤ c.width) (hs : 0 ≤ c.step) (i : Nat) :
    (c.window i).2 = (c.window i).1.tail ++ (c.tokens[(i * c.step + c.width).toNat]?).toList := by
  obtain ⟨s, hs⟩ := Int.eq_ofNat_of_zero_le hs
  obtain ⟨w, hw'⟩ := Int.eq_ofNat_of_zero_le (by omega : (0 : Int) ≤ c.width)
  have hk : (i * c.step + c.width).toNat = i * s + w := by simp [hs, hw']; omega
  rw [window_natCast hs hw', hk]
  -- the labels are the window and the token after it, less the window's first token
  have hshift : (c.tokens.drop (i * s + 1)).take w = ((c.tokens.drop (i * s)).take (w + 1)).drop 1 := by
    rw [List.drop_take, List.drop_drop, Nat.add_sub_cancel, Nat.add_comm]
  rw [hshift, List.take_add_one, List.getElem?_drop]
  by_cases hp : i * s < c.tokens.length
  · rw [List.drop_append_of_le_length (by simp; omega), List.drop_one]
  · simp [List.drop_eq_nil_iff.2 (Nat.le_of_not_lt hp),
      List.getElem?_eq_none (show c.tokens.length ≤ i * s + w by omega)]

/-- A window is full exactly when the tokens reach one past its end: its labels need the token
after it. -/
theorem full_iff (hw : 1 ≤ c.width) (hs : 0 ≤ c.step) (i : Nat) :
    c.Full i ↔ i * c.step + c.width + 1 ≤ c.tokens.length := by
  obtain ⟨s, hs⟩ := Int.eq_ofNat_of_zero_le hs
  obtain ⟨w, hw'⟩ := Int.eq_ofNat_of_zero_le (by omega : (0 : Int) ≤ c.width)
  rw [Full, window_natCast hs hw', hs, hw']
  simp only [List.length_take, List.length_drop]
  omega

/-- The size of a corpus with a positive step: the tokens past the first window, in whole
steps, rounded down. -/
theorem size_eq (hs : 1 ≤ c.step) : c.size = .ok ((c.tokens.length - c.width) / c.step) := by
  simp [size, show c.step ≠ 0 by omega, Int.fdiv_eq_ediv_of_nonneg _ (by omega : 0 ≤ c.step)]

/-- **The size counts the full windows only when the tokens past the first window are a whole
number of steps.**  With positive width and step, the size is `(tokens - width) / step`; a
window is full when `i * step + width + 1` tokens are there, and every window below the size is
full, labelled by its tokens shifted by one.  Otherwise the size misses the last full window, or
is negative for a corpus shorter than one window. -/
theorem size_counts_full_windows_iff (c : WindowCorpus) (hw : 1 ≤ c.width) (hs : 1 ≤ c.step) :
    ∃ n, c.size = .ok n ∧
      (∀ i : Nat, c.Full i ↔ i * c.step + c.width + 1 ≤ c.tokens.length) ∧
      (∀ i : Nat, (i : Int) < n → c.Full i ∧
        (c.window i).2 = (c.window i).1.tail ++ (c.tokens[(i * c.step + c.width).toNat]?).toList) ∧
      ((0 ≤ n ∧ ∀ i : Nat, (i : Int) < n ↔ c.Full i) ↔
        c.width ≤ c.tokens.length ∧ c.step ∣ c.tokens.length - c.width) := by
  have hfull := full_iff hw (by omega : 0 ≤ c.step)
  refine ⟨_, size_eq hs, hfull, fun i hi => ⟨(hfull i).2 ?_, window_labels hw (by omega) i⟩, ?_⟩
  · -- a window below the size ends a whole step before the tokens do
    have := (Int.le_ediv_iff_mul_le (by omega : 0 < c.step)).1 (show (i : Int) + 1 ≤ (c.tokens.length - c.width) / c.step by omega)
    rw [Int.add_mul, Int.one_mul] at this
    omega
  constructor
  · rintro ⟨hn, hcount⟩
    have hk := (Int.ediv_nonneg_iff_of_pos (by omega : 0 < c.step)).1 hn
    refine ⟨by omega, ?_⟩
    -- the window at the size is not full, so the size's steps cover all the tokens
    obtain ⟨n, hn⟩ := Int.eq_ofNat_of_zero_le hn
    have hnot := mt (hfull n).2 (mt (hcount n).2 (by omega))
    have hle := Int.ediv_mul_le (c.tokens.length - c.width) (by omega : c.step ≠ 0)
    exact ⟨n, by rw [hn] at hle; rw [Int.mul_comm]; omega⟩
  · rintro ⟨hk, q, hq⟩
    have hpos : 0 < c.step := by omega
    refine ⟨Int.ediv_nonneg (by omega) (by omega), fun i => ?_⟩
    rw [hfull, hq, Int.mul_ediv_cancel_left _ (by omega : c.step ≠ 0)]
    constructor
    · intro hi
      have := Int.mul_le_mul_of_nonneg_left (show (i : Int) + 1 ≤ q by omega) (Int.le_of_lt hpos)
      rw [Int.mul_add, Int.mul_one, Int.mul_comm] at this
      omega
    · intro hi
      refine Int.lt_of_not_ge fun hq' => ?_
      have := Int.mul_le_mul_of_nonneg_left (show q ≤ (i : Int) by omega) (Int.le_of_lt hpos)
      rw [Int.mul_comm c.step i] at this
      omega

/-- Six tokens cut into windows of three, two apart: the size is one, though the window after it
is full too. -/
theorem size_counts_full_windows_six_tokens :
    (1 : Int) ≤ 3 ∧ (1 : Int) ≤ 2 ∧ ∃ n, (⟨[2, 3, 4, 5, 6, 4], 3, 2⟩ : WindowCorpus).size = .ok n ∧
      (∀ i : Nat, Full ⟨[2, 3, 4, 5, 6, 4], 3, 2⟩ i ↔ i * 2 + 3 + 1 ≤ (6 : Int)) ∧
      (∀ i : Nat, (i : Int) < n → Full ⟨[2, 3, 4, 5, 6, 4], 3, 2⟩ i ∧
        (window ⟨[2, 3, 4, 5, 6, 4], 3, 2⟩ i).2 = (window ⟨[2, 3, 4, 5, 6, 4], 3, 2⟩ i).1.tail ++
          ([2, 3, 4, 5, 6, 4][(i * 2 + 3 : Int).toNat]?).toList) ∧
      ((0 ≤ n ∧ ∀ i : Nat, (i : Int) < n ↔ Full ⟨[2, 3, 4, 5, 6, 4], 3, 2⟩ i) ↔
        (3 : Int) ≤ 6 ∧ (2 : Int) ∣ 6 - 3) :=
  ⟨by decide, by decide, size_counts_full_windows_iff ⟨[2, 3, 4, 5, 6, 4], 3, 2⟩ (by decide) (by decide)⟩

end WindowCorpus

end Conversa.Batching
