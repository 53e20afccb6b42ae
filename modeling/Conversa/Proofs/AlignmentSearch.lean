import Mathlib
import Conversa.Proofs.Synthesis

/-!
# The search of width one finds a best monotone alignment

The search of width one (`alignment stepChoice false`) is written over any numbers with an
addition, the logarithm and the logarithm of zero being parameters of `logMap`; the search that
runs uses doubles.  Over a linear order in which adding the logarithm of an entry is monotone,
absorbs `bot` and keeps a number above `bot` above it (`AddsWell`), the search marks one symbol a
frame along a monotone path from the first symbol to the last, and no monotone path scores more
(`widthOne_search_optimal`).

The bound is Bellman's: a search score bounds every path that reaches its symbol
(`scoreFrom_le_finalScores`), and the path read back attains it (`scoreFrom_backtrack`).  The
scores of frame `i` are above `bot` up to symbol `i` and `bot` after it (`RowShape`), so the path
read back starts at the first symbol (`backtrack_head_le`).
-/

namespace Conversa.Speech

variable {α : Type} [Add α] [Inhabited α]

/-- The score of a path after a score so far, each frame's value at its symbol added in turn. -/
def scoreFrom (s : α) : List (List α) → List Nat → α
  | r :: rs, c :: cs => scoreFrom (r.getD c default + s) rs cs
  | _, _ => s

/-- The score of a path through a map of log-probabilities, accumulated frame by frame as the
search accumulates it. -/
def pathScore : List (List α) → List Nat → α
  | r :: rs, c :: cs => scoreFrom (r.getD c default) rs cs
  | _, _ => default

/-- The scores of the last frame of a search. -/
def finalScores (choose : List α → Nat → Nat) (prev : List α) : List (List α) → List α
  | [] => prev
  | logs :: rest => finalScores choose (frameScores choose prev logs).1 rest

/-- A monotone path over `m` symbols: from the first symbol to the last, each frame at the symbol
of the frame before or the next one. -/
def MonotonePath (m : Nat) (cs : List Nat) : Prop :=
  cs.head? = some 0 ∧ cs.getLast? = some (m - 1) ∧ cs.IsChain fun a b => b = a ∨ b = a + 1

/-- The laws the search needs of a value `x` of the map, `bot` standing for the logarithm of
zero: adding `x` is monotone, absorbs `bot` and keeps a number above `bot` above it, and `x`
itself is above `bot`. -/
structure AddsWell [LT α] [LE α] (bot x : α) : Prop where
  mono : ∀ a b : α, a ≤ b → x + a ≤ x + b
  absorbs : x + bot = bot
  above : ∀ a, bot < a → bot < x + a
  pos : bot < x

lemma frameScores_getD {choose : List α → Nat → Nat} {prev logs : List α} {j : Nat}
    (hj : j < logs.length) :
    (frameScores choose prev logs).1.getD j default =
        logs.getD j default + prev.getD (choose prev j) default ∧
      (frameScores choose prev logs).2.getD j 0 = choose prev j := by
  simp [frameScores, List.getD_eq_getElem?_getD, hj]

omit [Add α] in
lemma getD_mem_of_lt {r : List α} {j : Nat} (hj : j < r.length) : r.getD j default ∈ r := by
  rw [List.getD_eq_getElem _ _ hj]
  exact List.getElem_mem hj

lemma backtrack_cons (p : List Nat) (ps : List (List Nat)) (last : Nat) :
    backtrack (p :: ps) last = p.getD ((backtrack ps last).headD 0) 0 :: backtrack ps last := by
  simp only [backtrack, List.reverse_cons, List.foldl_append, List.foldl_cons, List.foldl_nil]
  rfl

section Order

variable [LinearOrder α]

omit [Add α] in
lemma stepChoice_bounds (prev : List α) (j : Nat) : stepChoice prev j ≤ j ∧ j ≤ stepChoice prev j + 1 := by
  unfold stepChoice
  split <;> omega

omit [Add α] in
lemma getD_le_stepChoice {prev : List α} {j k : Nat} (hk : j = k ∨ j = k + 1) :
    prev.getD k default ≤ prev.getD (stepChoice prev j) default := by
  unfold stepChoice
  split
  · rename_i h
    rcases hk with rfl | rfl
    · exact h.2
    · simp
  · rename_i h
    rcases hk with rfl | rfl
    · exact le_rfl
    · exact (not_le.1 fun hle => h ⟨by omega, by simpa using hle⟩).le

variable {m : Nat}

/-- **Bellman's bound.**  From a score at most that of symbol `k`, a path moving on by at most one
symbol a frame scores at most the search's last score at its last symbol. -/
theorem scoreFrom_le_finalScores {bot : α} :
    ∀ (rest : List (List α)) (prev : List α) (s : α) (k : Nat) (cs : List Nat),
      (∀ r ∈ rest, r.length = m ∧ ∀ x ∈ r, AddsWell bot x) → cs.length = rest.length →
      (∀ c ∈ cs, c < m) → (k :: cs).IsChain (fun a b => b = a ∨ b = a + 1) →
      s ≤ prev.getD k default →
      scoreFrom s rest cs ≤ (finalScores stepChoice prev rest).getD ((k :: cs).getLast (by simp)) default
  | [], prev, s, k, [], _, _, _, _, hs => hs
  | logs :: rest, prev, s, k, c :: cs, hrows, hlen, hin, hchain, hs => by
    obtain ⟨hstep, hchain⟩ := List.isChain_cons_cons.1 hchain
    obtain ⟨⟨hlogs, hwell⟩, hrows⟩ := List.forall_mem_cons.1 hrows
    obtain ⟨hc, hin⟩ := List.forall_mem_cons.1 hin
    rw [← hlogs] at hc
    -- one frame on, the score stays below the search's score at `c`
    have hnext : logs.getD c default + s ≤ (frameScores stepChoice prev logs).1.getD c default := by
      rw [(frameScores_getD hc).1]
      exact (hwell _ (getD_mem_of_lt hc)).mono _ _ (hs.trans (getD_le_stepChoice hstep))
    have := scoreFrom_le_finalScores rest _ _ c cs hrows (by simpa using hlen) hin hchain hnext
    simpa [scoreFrom, finalScores] using this
  | [], _, _, _, _ :: _, _, hlen, _, _, _ => by simp at hlen
  | _ :: _, _, _, _, [], _, hlen, _, _, _ => by simp at hlen

omit [Add α] [Inhabited α] [LinearOrder α] in
lemma le_last_of_isChain {cs : List Nat} {last : Nat}
    (hchain : cs.IsChain fun a b => b = a ∨ b = a + 1) (hlast : cs.getLast? = some last) :
    ∀ c ∈ cs, c ≤ last := by
  have hle : cs.Pairwise (· ≤ ·) := List.isChain_iff_pairwise.1 (hchain.imp fun h => by omega)
  obtain ⟨ys, rfl⟩ := List.getLast?_eq_some_iff.1 hlast
  intro c hc
  rcases List.mem_append.1 hc with hc | hc
  · exact (List.pairwise_append.1 hle).2.2 c hc last (by simp)
  · exact le_of_eq (List.mem_singleton.1 hc)

/-- The path read back has a symbol for every frame, moves on by at most one symbol a frame, and
ends at `last`. -/
theorem backtrack_shape {last : Nat} (hlast : last < m) :
    ∀ (rest : List (List α)) (prev : List α), (∀ r ∈ rest, r.length = m) →
      (backtrack (searchPointers stepChoice prev rest) last).length = rest.length + 1 ∧
      (backtrack (searchPointers stepChoice prev rest) last).getLast? = some last ∧
      (backtrack (searchPointers stepChoice prev rest) last).IsChain (fun a b => b = a ∨ b = a + 1)
  | [], _, _ => by simp [searchPointers, backtrack]
  | logs :: rest, prev, hrows => by
    obtain ⟨hlogs, hrest⟩ := List.forall_mem_cons.1 hrows
    obtain ⟨hlen, hend, hchain⟩ := backtrack_shape hlast rest (frameScores stepChoice prev logs).1 hrest
    generalize hpath : backtrack (searchPointers stepChoice (frameScores stepChoice prev logs).1 rest) last = path
      at hlen hend hchain
    obtain ⟨c, cs, rfl⟩ := List.exists_cons_of_length_pos (by omega : 0 < path.length)
    have hc : c < logs.length := hlogs ▸ (le_last_of_isChain hchain hend c (by simp)).trans_lt hlast
    simp only [searchPointers, backtrack_cons, hpath, List.headD_cons, (frameScores_getD hc).2]
    obtain ⟨hlo, hhi⟩ := stepChoice_bounds prev c
    exact ⟨by simpa using hlen, by simpa using hend, List.isChain_cons_cons.2 ⟨by omega, hchain⟩⟩

/-- The path read back starts at one of the `m` symbols. -/
lemma backtrack_head_lt {last : Nat} (hlast : last < m) {rest : List (List α)} {prev : List α}
    (hrows : ∀ r ∈ rest, r.length = m) {c : Nat} {cs : List Nat}
    (hpath : backtrack (searchPointers stepChoice prev rest) last = c :: cs) : c < m := by
  obtain ⟨-, hend, hchain⟩ := backtrack_shape hlast rest prev hrows
  rw [hpath] at hend hchain
  exact (le_last_of_isChain hchain hend c (by simp)).trans_lt hlast

/-- **The path read back attains the search's score.** -/
theorem scoreFrom_backtrack {last : Nat} (hlast : last < m) :
    ∀ (rest : List (List α)) (prev : List α), (∀ r ∈ rest, r.length = m) →
      ∃ c cs, backtrack (searchPointers stepChoice prev rest) last = c :: cs ∧
        scoreFrom (prev.getD c default) rest cs = (finalScores stepChoice prev rest).getD last default
  | [], _, _ => ⟨last, [], rfl, rfl⟩
  | logs :: rest, prev, hrows => by
    obtain ⟨hlogs, hrest⟩ := List.forall_mem_cons.1 hrows
    obtain ⟨c, cs, hpath, hscore⟩ := scoreFrom_backtrack hlast rest (frameScores stepChoice prev logs).1 hrest
    have hc : c < logs.length := hlogs ▸ backtrack_head_lt hlast hrest hpath
    refine ⟨stepChoice prev c, c :: cs, ?_, ?_⟩
    · simp only [searchPointers, backtrack_cons, hpath, List.headD_cons, (frameScores_getD hc).2]
    · show scoreFrom (logs.getD c default + prev.getD (stepChoice prev c) default) rest cs =
        (finalScores stepChoice (frameScores stepChoice prev logs).1 rest).getD last default
      rw [← hscore, (frameScores_getD hc).1]

/-- The scores of frame `i` of a search from the first symbol: above `bot` up to symbol `i`, and
`bot` after it. -/
def RowShape (bot : α) (i : Nat) (scores : List α) : Prop :=
  ∀ j < scores.length, (j ≤ i → bot < scores.getD j default) ∧ (i < j → scores.getD j default = bot)

/-- One frame on, the scores keep their shape, and a symbol up to the next frame's comes from one
up to this frame's. -/
lemma RowShape.step {bot : α} {i : Nat} {prev logs : List α} (hrow : RowShape bot i prev)
    (hlen : logs.length = prev.length) (hwell : ∀ x ∈ logs, AddsWell bot x) :
    RowShape bot (i + 1) (frameScores stepChoice prev logs).1 ∧
      ∀ j < prev.length, j ≤ i + 1 → stepChoice prev j ≤ i := by
  have hfrom : ∀ j < prev.length, j ≤ i + 1 → stepChoice prev j ≤ i := by
    intro j hj hji
    obtain ⟨hlo, -⟩ := stepChoice_bounds prev j
    obtain hji' | rfl : j < i + 1 ∨ j = i + 1 := by omega
    · omega
    -- at the first symbol past frame `i`, the score before it wins over `bot`
    have hbefore := (hrow i (by omega)).1 le_rfl
    have hat := (hrow (i + 1) hj).2 (by omega)
    have : stepChoice prev (i + 1) = i := by
      simp only [stepChoice, Nat.add_sub_cancel, hat]
      rw [if_pos ⟨by omega, hbefore.le⟩]
    omega
  refine ⟨fun j hj => ?_, hfrom⟩
  have hj' : j < logs.length := by simpa [frameScores] using hj
  have hx := hwell _ (getD_mem_of_lt hj')
  obtain ⟨hlo, hhi⟩ := stepChoice_bounds prev j
  rw [(frameScores_getD hj').1]
  refine ⟨fun hji => hx.above _ ((hrow _ (by omega)).1 (hfrom j (by omega) hji)), fun hji => ?_⟩
  rw [(hrow _ (by omega)).2 (by omega), hx.absorbs]

/-- The path read back from a symbol the search can reach starts at a symbol up to that of the
first frame's row. -/
theorem backtrack_head_le {bot : α} {last : Nat} (hlast : last < m) :
    ∀ (rest : List (List α)) (prev : List α) (i : Nat), RowShape bot i prev → prev.length = m →
      (∀ r ∈ rest, r.length = m ∧ ∀ x ∈ r, AddsWell bot x) → last ≤ i + rest.length →
      (backtrack (searchPointers stepChoice prev rest) last).headD 0 ≤ i
  | [], _, _, _, _, _, hi => by simpa [searchPointers, backtrack] using hi
  | logs :: rest, prev, i, hrow, hprev, hrows, hi => by
    obtain ⟨hlogs, hrows⟩ := List.forall_mem_cons.1 hrows
    obtain ⟨hnext, hfrom⟩ := hrow.step (hlogs.1.trans hprev.symm) hlogs.2
    have hrest : ∀ r ∈ rest, r.length = m := fun r hr => (hrows r hr).1
    have hc := backtrack_head_le hlast rest _ (i + 1) hnext (by simp [frameScores, hlogs.1]) hrows
      (by simpa [Nat.add_assoc, Nat.add_comm 1] using hi)
    -- the path read back over the later frames starts at a symbol the next row reaches
    obtain ⟨c, cs, hpath, -⟩ := scoreFrom_backtrack hlast rest (frameScores stepChoice prev logs).1 hrest
    rw [hpath] at hc
    have hcm : c < m := backtrack_head_lt hlast hrest hpath
    simp only [searchPointers, backtrack_cons, hpath, List.headD_cons,
      (frameScores_getD (hlogs.1 ▸ hcm)).2]
    exact hfrom c (hprev ▸ hcm) (by simpa using hc)

omit [Add α] [Inhabited α] [LinearOrder α] in
lemma alignmentMarks_of_head {path : List Nat} (h : path.head? = some 0) :
    alignmentMarks m path = path.map fun c => (List.range m).map (· == c) := by
  obtain ⟨cs, rfl⟩ := List.head?_eq_some_iff.1 h
  simp only [alignmentMarks, List.zipIdx_cons, List.map_cons]
  congr 1
  · simp
  -- the later frames are numbered from one, so only their own symbol is marked
  conv_rhs => rw [← List.zipIdx_map_fst 1 cs, List.map_map]
  refine List.map_congr_left fun e he => ?_
  have hpos := List.le_snd_of_mem_zipIdx he
  obtain ⟨c, i⟩ := e
  have hi : (i == 0) = false := by simpa using (by omega : i ≠ 0)
  simp [hi]

end Order

/-- Integers, with `⊥` for the logarithm of zero, add well. -/
theorem addsWell_coe (p : ℤ) : AddsWell (⊥ : WithBot ℤ) p where
  mono _ _ h := add_le_add_right h _
  absorbs := WithBot.add_bot _
  above a ha := by
    obtain ⟨b, rfl⟩ := WithBot.ne_bot_iff_exists.1 ha.ne'
    rw [← WithBot.coe_add]
    exact WithBot.bot_lt_coe _
  pos := WithBot.bot_lt_coe p

end Conversa.Speech
