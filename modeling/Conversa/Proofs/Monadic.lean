import Conversa.Failure

/-!
# Computations that may fail

The model's functions run in `Except`.  These lemmas take such computations apart without
unfolding the monad: a bind succeeds when both parts do (`Except.bind_eq_ok`); a fold keeps what
each successful step keeps (`foldlM_ok_inv`, `foldlM_zipIdx_ok_inv`); a map gives one value per
element (`mapM_ok_length`, `mapM_zipIdx_ok`, `mapM_ok_getElem?`, `mapM_ok_eq_map`), succeeds exactly
when every step does (`exists_mapM_ok_iff`) and fails with the failure of one of them
(`mapM_error_mem`).
-/

namespace Conversa

variable {ε α β : Type}

@[simp] theorem Except.ok_bind (a : α) (f : α → Except ε β) : (Except.ok a >>= f) = f a := rfl

@[simp] theorem Except.error_bind (e : ε) (f : α → Except ε β) :
    (Except.error e >>= f) = Except.error e := rfl

/-- A bound computation gives a value when its first part gives one on which the rest gives that
value. -/
theorem Except.bind_eq_ok {x : Except ε α} {f : α → Except ε β} {b : β} :
    (x >>= f) = .ok b ↔ ∃ a, x = .ok a ∧ f a = .ok b := by
  cases x with
  | error e => simp
  | ok a => simp

/-- **What every step keeps, a successful fold keeps.**  A step need only keep it for the
elements of the list. -/
theorem foldlM_ok_inv (P : β → Prop) {f : β → α → Except ε β} :
    ∀ {xs : List α}, (∀ b x b', x ∈ xs → P b → f b x = .ok b' → P b') →
      ∀ (b r : β), P b → xs.foldlM f b = .ok r → P r
  | [], _, b, r, hb, h => by
      simp only [List.foldlM_nil, pure, Except.pure, Except.ok.injEq] at h
      exact h ▸ hb
  | x :: xs, step, b, r, hb, h => by
      rw [List.foldlM_cons, Except.bind_eq_ok] at h
      obtain ⟨b', hb', hrest⟩ := h
      exact foldlM_ok_inv P (fun b y b' hy => step b y b' (List.mem_cons_of_mem x hy)) b' r
        (step b x b' List.mem_cons_self hb hb') hrest

/-- **What every step keeps, a successful fold over numbered elements keeps,** the number of the
state counting the elements folded in. -/
theorem foldlM_zipIdx_ok_inv (P : Nat → β → Prop) {f : β → α × Nat → Except ε β} :
    ∀ {xs : List α} {k : Nat}, (∀ i b x b', x ∈ xs → P i b → f b (x, i) = .ok b' → P (i + 1) b') →
      ∀ (b r : β), P k b → (xs.zipIdx k).foldlM f b = .ok r → P (k + xs.length) r
  | [], k, _, b, r, hb, h => by
      simp only [List.zipIdx_nil, List.foldlM_nil, pure, Except.pure, Except.ok.injEq] at h
      simpa [← h] using hb
  | x :: xs, k, step, b, r, hb, h => by
      rw [List.zipIdx_cons, List.foldlM_cons, Except.bind_eq_ok] at h
      obtain ⟨b', hb', hrest⟩ := h
      have := foldlM_zipIdx_ok_inv P (fun i b y b' hy => step i b y b' (List.mem_cons_of_mem x hy))
        b' r (step k b x b' List.mem_cons_self hb hb') hrest
      rwa [List.length_cons, ← Nat.add_assoc, Nat.add_right_comm]

theorem mapM_ok_mem {f : α → Except ε β} :
    ∀ {xs : List α} {ys : List β}, xs.mapM f = .ok ys → ∀ y ∈ ys, ∃ x ∈ xs, f x = .ok y
  | [], ys, h => by
      simp only [List.mapM_nil, pure, Except.pure, Except.ok.injEq] at h
      simp [← h]
  | x :: xs, ys, h => by
      simp only [List.mapM_cons, Except.bind_eq_ok, pure, Except.pure, Except.ok.injEq] at h
      obtain ⟨y, hy, ys', hys', rfl⟩ := h
      intro z hz
      rcases List.mem_cons.1 hz with rfl | hz
      · exact ⟨x, List.mem_cons_self, hy⟩
      · obtain ⟨x', hx', hfx⟩ := mapM_ok_mem hys' z hz
        exact ⟨x', List.mem_cons_of_mem _ hx', hfx⟩

theorem mapM_ok_length {f : α → Except ε β} :
    ∀ {xs : List α} {ys : List β}, xs.mapM f = .ok ys → ys.length = xs.length
  | [], ys, h => by
      simp only [List.mapM_nil, pure, Except.pure, Except.ok.injEq] at h
      simp [← h]
  | x :: xs, ys, h => by
      simp only [List.mapM_cons, Except.bind_eq_ok, pure, Except.pure, Except.ok.injEq] at h
      obtain ⟨y, -, ys', hys, rfl⟩ := h
      simp [mapM_ok_length hys]

/-- A successful map over numbered elements gives one value per element, each its step's value
at that element with some number. -/
theorem mapM_zipIdx_ok {g : α × Nat → Except ε β} :
    ∀ {xs : List α} {k : Nat} {ys : List β}, (xs.zipIdx k).mapM g = .ok ys →
      ys.length = xs.length ∧ ∀ p ∈ xs.zip ys, ∃ i, g (p.1, i) = .ok p.2
  | [], _, ys, h => by
      simp only [List.zipIdx_nil, List.mapM_nil, pure, Except.pure, Except.ok.injEq] at h
      simp [← h]
  | x :: xs, k, ys, h => by
      simp only [List.zipIdx_cons, List.mapM_cons, Except.bind_eq_ok, pure, Except.pure,
        Except.ok.injEq] at h
      obtain ⟨y, hy, ys', hys, rfl⟩ := h
      obtain ⟨hlen, hrest⟩ := mapM_zipIdx_ok hys
      refine ⟨by simp [hlen], fun p hp => ?_⟩
      rcases List.mem_cons.1 hp with rfl | hp
      · exact ⟨k, hy⟩
      · exact hrest p hp

theorem mapM_zipIdx_ok_mem {g : α × Nat → Except ε β} :
    ∀ {xs : List α} {k : Nat} {ys : List β}, (xs.zipIdx k).mapM g = .ok ys →
      ∀ x ∈ xs, ∃ i y, g (x, i) = .ok y
  | [], _, _, _, x, hx => absurd hx List.not_mem_nil
  | x :: xs, k, ys, h, x', hx' => by
      simp only [List.zipIdx_cons, List.mapM_cons, Except.bind_eq_ok, pure, Except.pure,
        Except.ok.injEq] at h
      obtain ⟨y, hy, ys', hys, rfl⟩ := h
      rcases List.mem_cons.1 hx' with rfl | hx'
      · exact ⟨k, y, hy⟩
      · exact mapM_zipIdx_ok_mem hys x' hx'

/-- A map over numbered elements whose step gives a value for every element at every number
succeeds. -/
theorem mapM_zipIdx_ok_of_forall {g : α × Nat → Except ε β} :
    ∀ {xs : List α} {k : Nat}, (∀ x ∈ xs, ∀ i, ∃ y, g (x, i) = .ok y) →
      ∃ ys, (xs.zipIdx k).mapM g = .ok ys
  | [], _, _ => ⟨[], rfl⟩
  | x :: xs, k, h => by
      obtain ⟨y, hy⟩ := h x List.mem_cons_self k
      obtain ⟨ys, hys⟩ := @mapM_zipIdx_ok_of_forall g xs (k + 1) fun x' hx' =>
        h x' (List.mem_cons_of_mem x hx')
      exact ⟨y :: ys, by simp [List.zipIdx_cons, List.mapM_cons, hy, hys, pure, Except.pure]⟩

theorem mapM_ok_of_forall {f : α → Except ε β} (g : α → β) :
    ∀ {xs : List α}, (∀ x ∈ xs, f x = .ok (g x)) → xs.mapM f = .ok (xs.map g)
  | [], _ => rfl
  | x :: xs, h => by
      have hrest := @mapM_ok_of_forall f g xs fun x' hx' => h x' (List.mem_cons_of_mem x hx')
      simp [List.mapM_cons, h x List.mem_cons_self, hrest, pure, Except.pure]

theorem mapM_ok_getElem? {f : α → Except ε β} :
    ∀ {xs : List α} {ys : List β}, xs.mapM f = .ok ys →
      ys.length = xs.length ∧ ∀ (i : Nat) x, xs[i]? = some x → ∃ y, ys[i]? = some y ∧ f x = .ok y
  | [], ys, h => by
      simp only [List.mapM_nil, pure, Except.pure, Except.ok.injEq] at h
      simp [← h]
  | x :: xs, ys, h => by
      simp only [List.mapM_cons, Except.bind_eq_ok, pure, Except.pure, Except.ok.injEq] at h
      obtain ⟨y, hy, ys', hys, rfl⟩ := h
      obtain ⟨hlen, hat⟩ := mapM_ok_getElem? hys
      refine ⟨by simp [hlen], fun i x' hx' => ?_⟩
      cases i with
      | zero =>
        simp only [List.getElem?_cons_zero, Option.some.injEq] at hx' ⊢
        exact ⟨y, rfl, hx' ▸ hy⟩
      | succ i => simpa using hat i x' (by simpa using hx')

/-- A successful map over numbered elements gives at each position its step's value at the
element there, numbered by its position. -/
theorem mapM_zipIdx_ok_getElem? {g : α × Nat → Except ε β} {xs : List α} {k : Nat} {ys : List β}
    (h : (xs.zipIdx k).mapM g = .ok ys) :
    ys.length = xs.length ∧ ∀ (i : Nat) x, xs[i]? = some x → ∃ y, ys[i]? = some y ∧ g (x, k + i) = .ok y := by
  obtain ⟨hlen, hat⟩ := mapM_ok_getElem? h
  refine ⟨by simpa using hlen, fun i x hx => ?_⟩
  exact hat i (x, k + i) (by simp [List.getElem?_zipIdx, hx])

/-- A successful map whose step's values are known gives the known values, the step succeeding
on every element. -/
theorem mapM_ok_eq_map {f : α → Except ε β} (g : α → β) (hf : ∀ x y, f x = .ok y → y = g x) :
    ∀ {xs : List α} {ys : List β}, xs.mapM f = .ok ys → ys = xs.map g ∧ ∀ x ∈ xs, f x = .ok (g x)
  | [], ys, h => by
      simp only [List.mapM_nil, pure, Except.pure, Except.ok.injEq] at h
      simp [← h]
  | x :: xs, ys, h => by
      simp only [List.mapM_cons, Except.bind_eq_ok, pure, Except.pure, Except.ok.injEq] at h
      obtain ⟨y, hy, ys', hys, rfl⟩ := h
      obtain ⟨rfl, hrest⟩ := mapM_ok_eq_map g hf hys
      have := hf x y hy
      subst this
      exact ⟨rfl, by simpa [hy] using hrest⟩

theorem exists_mapM_ok_iff {f : α → Except ε β} :
    ∀ {xs : List α}, (∃ ys, xs.mapM f = .ok ys) ↔ ∀ x ∈ xs, ∃ y, f x = .ok y
  | [] => by simpa using ⟨[], rfl⟩
  | x :: xs => by
    rw [List.forall_mem_cons, ← exists_mapM_ok_iff]
    constructor
    · rintro ⟨ys, h⟩
      simp only [List.mapM_cons, Except.bind_eq_ok] at h
      obtain ⟨y, hy, zs, hzs, -⟩ := h
      exact ⟨⟨y, hy⟩, zs, hzs⟩
    · rintro ⟨⟨y, hy⟩, zs, hzs⟩
      exact ⟨y :: zs, by simp [List.mapM_cons, hy, hzs, pure, Except.pure]⟩

theorem mapM_error_mem {f : α → Except ε β} :
    ∀ {xs : List α} {e : ε}, xs.mapM f = .error e → ∃ x ∈ xs, f x = .error e
  | [], e, h => by cases h
  | x :: xs, e, h => by
    rw [List.mapM_cons] at h
    cases hx : f x with
    | error e' =>
      rw [hx] at h
      cases h
      exact ⟨x, List.mem_cons_self, hx⟩
    | ok y =>
      cases hxs : xs.mapM f with
      | error e' =>
        rw [hx, Except.ok_bind, hxs] at h
        cases h
        obtain ⟨x', hx', hfx⟩ := mapM_error_mem hxs
        exact ⟨x', List.mem_cons_of_mem _ hx', hfx⟩
      | ok ys => rw [hx, Except.ok_bind, hxs] at h; cases h

theorem mapM_error_of_forall {f : α → Except ε β} (hf : ∀ x, ∃ e, f x = .error e) :
    ∀ {xs : List α}, xs ≠ [] → ∃ e, xs.mapM f = .error e
  | x :: xs, _ => by
    obtain ⟨e, he⟩ := hf x
    exact ⟨e, by simp [List.mapM_cons, he]⟩

/-- A map whose every step gives a value or fails with one same failure fails with it exactly
when some step does. -/
theorem mapM_eq_ite {f : α → Except ε β} (e : ε) (g : α → β) (bad : α → Prop) [DecidablePred bad] :
    ∀ {xs : List α}, (∀ x ∈ xs, f x = if bad x then .error e else .ok (g x)) →
      xs.mapM f = if ∃ x ∈ xs, bad x then .error e else .ok (xs.map g)
  | [], _ => rfl
  | x :: xs, hf => by
    rw [List.mapM_cons, hf x List.mem_cons_self,
      mapM_eq_ite e g bad fun y hy => hf y (List.mem_cons_of_mem x hy)]
    by_cases hx : bad x
    · have hsome : ∃ y ∈ x :: xs, bad y := ⟨x, List.mem_cons_self, hx⟩
      simp only [hx, hsome, if_true, Except.error_bind]
    · have hiff : (∃ y ∈ x :: xs, bad y) ↔ ∃ y ∈ xs, bad y := by simp [hx]
      by_cases hrest : ∃ y ∈ xs, bad y <;>
        simp only [hx, hiff, hrest, if_true, if_false, Except.ok_bind, List.map_cons] <;> rfl

theorem not_error_of_ok {x : Except ε α} {a : α} (h : x = .ok a) : ¬ ∃ e, x = .error e := by
  rintro ⟨e, he⟩
  rw [h] at he
  cases he

end Conversa
