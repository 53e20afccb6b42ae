import Mathlib
import Conversa.Comprehension.Features

/-!
# The windows over a passage

A long passage is read through windows (`windowsFrom`), each token flagged in the input whose
window `bestWindow` picks.  Windows are within the room (`mem_windowsFrom`), start in increasing
order (`windowsFrom_starts`) and cover every token (`windowsFrom_cover`, `bestWindow_holds`), so
each token is flagged once (`windows_cover_each_token_once`).  The scan the features run
(`scanWindows`) ends only with room for a token and a positive stride or a passage that fits, and
then sets these windows (`passage_scan_ends_iff_covers`).
-/

namespace Conversa.Comprehension

theorem Window.holds_iff {w : Window} {pos : Nat} :
    w.holds pos = true ↔ w.start ≤ pos ∧ pos ≤ w.last := by
  simp [Window.holds]

section Windows

variable {total room stride : Nat}

/-- Every window holds between one token and the room, from `start` on and inside the
passage. -/
theorem mem_windowsFrom (hroom : 1 ≤ room) (hstride : 1 ≤ stride) (start : Nat) :
    ∀ w ∈ windowsFrom total room stride start,
      start ≤ w.start ∧ 1 ≤ w.length ∧ w.length ≤ room ∧ w.start + w.length ≤ total := by
  fun_induction windowsFrom total room stride start with
  | case1 start h length hend =>
    intro w hw
    simp only [List.mem_singleton] at hw
    subst hw
    simp only [beq_iff_eq, length] at hend ⊢
    omega
  | case2 start h length hend step hstep =>
    -- a window that cannot move on does not arise: its length and the stride are positive
    simp only [step, length] at hstep
    omega
  | case3 start h length hend step hstep ih =>
    intro w hw
    rcases List.mem_cons.1 hw with rfl | hw
    · simp only [beq_iff_eq, length] at hend ⊢
      omega
    · have := ih w hw
      omega
  | case4 start h =>
    intro w hw
    cases hw

theorem windowsFrom_within (hroom : 1 ≤ room) (start : Nat) :
    ∀ w ∈ windowsFrom total room stride start, 1 ≤ w.length ∧ w.start + w.length ≤ total := by
  fun_induction windowsFrom total room stride start with
  | case1 start h length hend =>
    intro w hw
    simp only [List.mem_singleton] at hw
    subst hw
    simp only [beq_iff_eq, length] at hend ⊢
    omega
  | case2 start h length hend step hstep =>
    intro w hw
    simp only [List.mem_singleton] at hw
    subst hw
    simp only [length]
    omega
  | case3 start h length hend step hstep ih =>
    intro w hw
    rcases List.mem_cons.1 hw with rfl | hw
    · simp only [beq_iff_eq, length] at hend ⊢
      omega
    · exact ih w hw
  | case4 start h =>
    intro w hw
    cases hw

/-- Each window starts after the one before: it moves on by the stride or its length, both
positive. -/
theorem windowsFrom_starts (hroom : 1 ≤ room) (hstride : 1 ≤ stride) (start : Nat) :
    ((windowsFrom total room stride start).map (·.start)).Pairwise (· < ·) := by
  fun_induction windowsFrom total room stride start with
  | case1 start h length hend => simp
  | case2 start h length hend step hstep =>
    simp only [step, length] at hstep
    omega
  | case3 start h length hend step hstep ih =>
    refine List.pairwise_cons.2 ⟨fun b hb => ?_, ih⟩
    obtain ⟨w, hw, rfl⟩ := List.mem_map.1 hb
    have hlater := (mem_windowsFrom hroom hstride _ w hw).1
    simp only [step, length] at hstep hlater ⊢
    omega
  | case4 start h => simp

/-- Every token from `start` on lies in a window: a token the first window does not reach lies at
or after the next window's start. -/
theorem windowsFrom_cover (hroom : 1 ≤ room) (hstride : 1 ≤ stride) (start : Nat) :
    ∀ k, start ≤ k → k < total → ∃ w ∈ windowsFrom total room stride start, w.holds k = true := by
  fun_induction windowsFrom total room stride start with
  | case1 start h length hend =>
    intro k hk hkt
    simp only [beq_iff_eq, length] at hend
    refine ⟨_, List.mem_singleton_self _, ?_⟩
    rw [Window.holds_iff]
    simp only [Window.last, length]
    omega
  | case2 start h length hend step hstep =>
    simp only [step, length] at hstep
    omega
  | case3 start h length hend step hstep ih =>
    intro k hk hkt
    simp only [step, length] at hstep ih
    by_cases hin : k < start + length
    · refine ⟨_, List.mem_cons_self, ?_⟩
      rw [Window.holds_iff]
      simp only [Window.last, length] at hin ⊢
      omega
    · simp only [length] at hin
      obtain ⟨w, hw, hk'⟩ := ih k (by omega) hkt
      exact ⟨w, List.mem_cons_of_mem _ hw, hk'⟩
  | case4 start h =>
    intro k hk hkt
    omega

end Windows

section Scan

variable {total : Nat} {room stride : Int}

/-- A scan that ends sets the windows of `windowsFrom`, with any count for a room or stride it
never reads: the room is read only before a token, the stride only short of the end. -/
theorem scanWindows_eq_windowsFrom {start r s : Nat} {ws : List Window}
    (h : scanWindows total room stride start = some ws) (hr : 0 < room → r = room.toNat)
    (hs : 0 < stride → s = stride.toNat) : ws = windowsFrom total r s start := by
  fun_induction scanWindows total room stride start generalizing ws
  case case1 => cases h
  case case2 start hlt hroom length hend =>
    cases h
    rw [windowsFrom, if_pos hlt, hr (by omega)]
    simp [length] at hend ⊢
    omega
  case case3 => cases h
  case case4 start hlt hroom length hend hstride ih =>
    obtain ⟨ws', hrec, rfl⟩ := Option.map_eq_some_iff.1 h
    rw [ih hrec, windowsFrom.eq_1 total r s start, if_pos hlt, hr (by omega), hs (by omega)]
    simp only [length] at hend ⊢
    simp [hend, hstride, Nat.min_assoc]
    omega
  case case5 start hge =>
    cases h
    rw [windowsFrom, if_neg hge]

/-- The scan ends iff it starts at the end, or there is room for a token and either the rest fits
one window or the stride is positive. -/
theorem scanWindows_isSome_iff {start : Nat} :
    (scanWindows total room stride start).isSome ↔
      total ≤ start ∨ 1 ≤ room ∧ ((total : Int) ≤ start + room ∨ 1 ≤ stride) := by
  fun_induction scanWindows total room stride start
  case case1 start hlt hroom =>
    simp only [Option.isSome_none, Bool.false_eq_true, false_iff]
    omega
  case case2 start hlt hroom length hend =>
    simp only [Option.isSome_some, true_iff]
    simp only [length] at hend
    omega
  case case3 start hlt hroom length hend hstride =>
    simp only [Option.isSome_none, Bool.false_eq_true, false_iff]
    simp only [length] at hend
    omega
  case case4 start hlt hroom length hend hstride ih =>
    rw [Option.map_eq_map, Option.isSome_map, ih]
    omega
  case case5 start hge =>
    simp only [Option.isSome_some, true_iff]
    omega

end Scan

section BestWindow

variable {ws : List Window} {pos : Nat}

theorem bestWindow_holds {j : Nat} (h : bestWindow ws pos = some j) :
    ∃ w, ws[j]? = some w ∧ w.holds pos = true := by
  unfold bestWindow at h
  obtain ⟨⟨i, s⟩, hfold, rfl⟩ := Option.map_eq_some_iff.1 h
  have hmem : ∀ p ∈ ws.zipIdx, ws[p.2]? = some p.1 := fun p hp =>
    List.mk_mem_zipIdx_iff_getElem?.1 hp
  generalize ws.zipIdx = l at hfold hmem
  -- the best so far is always a window that holds the token
  suffices key : ∀ (best : Option (Nat × Float)), (∀ i s, best = some (i, s) →
      ∃ w, ws[i]? = some w ∧ w.holds pos = true) → ∀ i s, l.foldl _ best = some (i, s) →
      ∃ w, ws[i]? = some w ∧ w.holds pos = true from
    key none (by simp) i s hfold
  clear hfold
  induction l with
  | nil =>
    intro best hbest
    simpa using hbest
  | cons p l ih =>
    intro best hbest i s h
    rw [List.foldl_cons] at h
    refine ih (fun q hq => hmem q (List.mem_cons_of_mem _ hq)) _ ?_ i s h
    obtain ⟨w, k⟩ := p
    have hw : ws[k]? = some w := hmem _ List.mem_cons_self
    intro i s hb
    dsimp only at hb
    split at hb
    · exact hbest i s hb
    · rename_i hholds
      simp only [Bool.not_eq_true', Bool.not_eq_false] at hholds
      split at hb
      · split at hb
        · cases hb
          exact ⟨w, hw, by simpa using hholds⟩
        · exact hbest i s hb
      · cases hb
        exact ⟨w, hw, by simpa using hholds⟩

theorem bestWindow_isSome (h : ∃ w ∈ ws, w.holds pos = true) : (bestWindow ws pos).isSome := by
  obtain ⟨w, hw, hholds⟩ := h
  obtain ⟨i, hi⟩ := List.mem_iff_getElem?.1 hw
  unfold bestWindow
  rw [Option.isSome_map]
  have hmem : (w, i) ∈ ws.zipIdx := List.mk_mem_zipIdx_iff_getElem?.2 hi
  generalize ws.zipIdx = l at hmem
  -- once a window holds the token the best so far is some window, and stays one
  suffices key : ∀ (best : Option (Nat × Float)),
      best.isSome = true ∨ (∃ p ∈ l, p.1.holds pos = true) → (l.foldl _ best).isSome = true from
    key none (Or.inr ⟨_, hmem, hholds⟩)
  clear hmem
  induction l with
  | nil =>
    intro best hbest
    simpa using hbest
  | cons p l ih =>
    intro best hbest
    rw [List.foldl_cons]
    by_cases hlater : ∃ q ∈ l, q.1.holds pos = true
    · exact ih _ (Or.inr hlater)
    refine ih _ (Or.inl ?_)
    have hnow : best.isSome = true ∨ p.1.holds pos = true := by
      rcases hbest with hb | ⟨q, hq, hqh⟩
      · exact Or.inl hb
      · rcases List.mem_cons.1 hq with rfl | hq
        · exact Or.inr hqh
        · exact absurd ⟨q, hq, hqh⟩ hlater
    obtain ⟨w, k⟩ := p
    dsimp only
    split
    · rename_i hnot
      rcases hnow with hb | hp
      · exact hb
      · simp [hp] at hnot
    · split
      · split <;> simp_all
      · rfl

end BestWindow

/-- **Each token is flagged in exactly one window.**  With a positive room and stride, every
window holds between one token and the room and ends inside the passage, the windows start at
strictly increasing tokens, and every token of the passage lies in exactly one window that is
also the one picked as giving it the most context. -/
theorem windows_cover_each_token_once {total room stride : Nat} (hroom : 1 ≤ room)
    (hstride : 1 ≤ stride) :
    (∀ w ∈ windowsFrom total room stride 0,
      1 ≤ w.length ∧ w.length ≤ room ∧ w.start + w.length ≤ total) ∧
    ((windowsFrom total room stride 0).map (·.start)).Pairwise (· < ·) ∧
    ∀ k < total, ∃! j, (windowsFrom total room stride 0)[j]?.map (·.holds k) = some true ∧
      bestWindow (windowsFrom total room stride 0) k = some j := by
  refine ⟨fun w hw => (mem_windowsFrom hroom hstride 0 w hw).2, windowsFrom_starts hroom hstride 0,
    fun k hk => ?_⟩
  obtain ⟨j, hj⟩ := Option.isSome_iff_exists.1
    (bestWindow_isSome (windowsFrom_cover hroom hstride 0 k (Nat.zero_le k) hk))
  obtain ⟨w, hw, hholds⟩ := bestWindow_holds hj
  refine ⟨j, ⟨by simp [hw, hholds], hj⟩, fun j' hj' => ?_⟩
  rw [hj] at hj'
  exact (Option.some_inj.1 hj'.2).symm

/-- **The scan over a passage ends exactly when it can, and then flags each token once.**  The
scan ends iff the passage is empty, or there is room for a token and either the whole passage fits
one window or the stride is positive; a scan that ends sets windows of one token up to the room
inside the passage, at strictly increasing starts, and every token lies in exactly one window that
is also the one picked as giving it the most context. -/
theorem passage_scan_ends_iff_covers {total : Nat} {room stride : Int} :
    ((scanWindows total room stride 0).isSome ↔
      total = 0 ∨ 1 ≤ room ∧ ((total : Int) ≤ room ∨ 1 ≤ stride)) ∧
    ∀ ws, scanWindows total room stride 0 = some ws →
      (∀ w ∈ ws, 1 ≤ w.length ∧ (w.length : Int) ≤ room ∧ w.start + w.length ≤ total) ∧
      (ws.map (·.start)).Pairwise (· < ·) ∧
      ∀ k < total, ∃! j, ws[j]?.map (·.holds k) = some true ∧ bestWindow ws k = some j := by
  have hends : (scanWindows total room stride 0).isSome ↔
      total = 0 ∨ 1 ≤ room ∧ ((total : Int) ≤ room ∨ 1 ≤ stride) := by
    simpa using @scanWindows_isSome_iff total room stride 0
  refine ⟨hends, fun ws h => ?_⟩
  -- the counts the scan reads, and one where it reads none, set the same windows
  have hws : ws = windowsFrom total (max 1 room.toNat) (max 1 stride.toNat) 0 :=
    scanWindows_eq_windowsFrom h (by omega) (by omega)
  obtain ⟨hwithin, hstarts, hflag⟩ := @windows_cover_each_token_once total _ _
    (le_max_left 1 room.toNat) (le_max_left 1 stride.toNat)
  rw [← hws] at hwithin hstarts hflag
  refine ⟨fun w hw => ?_, hstarts, hflag⟩
  obtain ⟨hlen, hle, hend⟩ := hwithin w hw
  -- a window holds a token, so the scan read the room, which is then positive
  have hroom : 1 ≤ room := by
    have := hends.1 (by simp [h])
    omega
  exact ⟨hlen, by omega, hend⟩

end Conversa.Comprehension
