import Conversa.Proofs.Monadic
import Conversa.Proofs.PassageWindows

/-!
# Where an answer is marked

An answer is given by characters of its passage, and an input marks it by token positions.
Three numberings lie between, each with its invariant: characters to words (`wordOf_ofText`),
words to tokens (`wordTokens_ok`, `WordTokens`), and a window's tokens to input positions
(`windowFeature_marks`), the answer's span narrowed on the way (`answerTokenSpan_within`).
`answer_positions_mark_answer_tokens` chains them over every input of a question.
-/

namespace Conversa.Comprehension

/-! ### Characters to words -/

/-- Reading one character adds one entry, the number of the last word less one; the number of
words never falls, and after a character of a word there is one. -/
theorem scanChar_eq (ws : List (List Char)) (n : Nat) (offs : List Int) (ab : Bool) (c : Char) :
    ∃ (ws' : List (List Char)) (n' : Nat) (ab' : Bool),
      scanChar (ws, n, offs, ab) c = (ws', n', ((n' : Int) - 1) :: offs, ab') ∧
      (n = ws.length → n' = ws'.length ∧ n ≤ n' ∧ (Text.isWordBreak c = false → 1 ≤ n')) := by
  by_cases hc : Text.isWordBreak c = true
  · exact ⟨ws, n, true, by simp [scanChar, hc], fun h => ⟨h, le_rfl, by simp [hc]⟩⟩
  · rcases ws with _ | ⟨w, rest⟩
    · -- a character after none opens the first word
      exact ⟨[[c]], n + 1, false, by simp [scanChar, hc],
        fun h => ⟨by simp [h], by omega, fun _ => by omega⟩⟩
    · cases ab with
      | false =>
        -- a character right after a word's character extends that word
        exact ⟨(c :: w) :: rest, n, false, by simp [scanChar, hc],
          fun h => ⟨by simp [h], le_rfl, fun _ => by simp [h]⟩⟩
      | true =>
        exact ⟨[c] :: w :: rest, n + 1, false, by simp [scanChar, hc],
          fun h => ⟨by simp [h], by omega, fun _ => by omega⟩⟩

/-- What reading the characters `cs` of a passage keeps: an entry per character (the last
first), the count of words, entries that never fall, none past the last word, and none negative
at a character of a word. -/
structure Scanned (cs : List Char) (st : List (List Char) × Nat × List Int × Bool) : Prop where
  count : st.2.1 = st.1.length
  length : st.2.2.1.length = cs.length
  sorted : st.2.2.1.Pairwise (· ≥ ·)
  bounded : ∀ x ∈ st.2.2.1, x ≤ (st.2.1 : Int) - 1
  inWord : ∀ (i : Nat) (c : Char), cs[i]? = some c → Text.isWordBreak c = false →
    ∃ x, st.2.2.1.reverse[i]? = some x ∧ 0 ≤ x

theorem Scanned.step {cs : List Char} {c : Char} {st : List (List Char) × Nat × List Int × Bool}
    (h : Scanned cs st) : Scanned (cs ++ [c]) (scanChar st c) := by
  obtain ⟨ws, n, offs, ab⟩ := st
  obtain ⟨ws', n', ab', heq, hgrow⟩ := scanChar_eq ws n offs ab c
  obtain ⟨hn', hle, hpos⟩ := hgrow h.count
  have hbound : ∀ x ∈ offs, x ≤ (n : Int) - 1 := h.bounded
  rw [heq]
  refine ⟨hn', by simp [h.length], ?_, ?_, ?_⟩
  · -- the new entry is at least every earlier one
    refine List.pairwise_cons.2 ⟨fun x hx => ?_, h.sorted⟩
    have := hbound x hx
    omega
  · intro x hx
    dsimp only at hx ⊢
    rcases List.mem_cons.1 hx with rfl | hx
    · exact le_rfl
    · have := hbound x hx
      omega
  · intro i d hi hd
    have hlen : offs.reverse.length = cs.length := by simpa using h.length
    rw [List.reverse_cons]
    rcases Nat.lt_or_ge i cs.length with hlt | hge
    · rw [List.getElem?_append_left hlt] at hi
      rw [List.getElem?_append_left (by omega)]
      exact h.inWord i d hi hd
    · -- the character just read
      have hi' : i = cs.length := by
        have := (List.getElem?_eq_some_iff.1 hi).1
        simp at this
        omega
      subst hi'
      simp only [List.getElem?_append_right (le_refl _), Nat.sub_self, List.getElem?_singleton,
        if_true, Option.some.injEq] at hi
      subst hi
      refine ⟨(n' : Int) - 1, ?_, by have := hpos hd; omega⟩
      rw [List.getElem?_append_right (by omega), hlen, Nat.sub_self]
      rfl

theorem scanned_foldl (cs : List Char) : Scanned cs (cs.foldl scanChar ([], 0, [], true)) := by
  induction cs using List.reverseRecOn with
  | nil => exact ⟨rfl, rfl, List.Pairwise.nil, by simp, by simp⟩
  | append_singleton cs c ih =>
    rw [List.foldl_append, List.foldl_cons, List.foldl_nil]
    exact ih.step

/-- **Characters to words.**  The word of a character of a word is a word of the passage, and no
later character has an earlier word. -/
theorem wordOf_ofText {s : String} {i j : Nat} {x y : Int}
    (hx : (PassageWords.ofText s).wordOf[i]? = some x)
    (hy : (PassageWords.ofText s).wordOf[j]? = some y)
    (hij : i ≤ j) (hc : ∃ c, s.toList[i]? = some c ∧ Text.isWordBreak c = false) :
    0 ≤ x ∧ x ≤ y ∧ y < (PassageWords.ofText s).words.length := by
  have hs := scanned_foldl s.toList
  unfold PassageWords.ofText at hx hy ⊢
  generalize s.toList.foldl scanChar ([], 0, [], true) = st at hs hx hy ⊢
  obtain ⟨ws, n, offs, ab⟩ := st
  simp only [List.length_map, List.length_reverse] at hx hy ⊢
  obtain ⟨c, hci, hcb⟩ := hc
  obtain ⟨x', hx', hx0⟩ := hs.inWord i c hci hcb
  rw [hx] at hx'
  cases hx'
  refine ⟨hx0, ?_, ?_⟩
  · have hsorted : offs.reverse.Pairwise (· ≤ ·) := List.pairwise_reverse.2 hs.sorted
    rcases Nat.lt_or_eq_of_le hij with hlt | rfl
    · obtain ⟨hi, rfl⟩ := List.getElem?_eq_some_iff.1 hx
      obtain ⟨hj, rfl⟩ := List.getElem?_eq_some_iff.1 hy
      exact List.pairwise_iff_getElem.1 hsorted i j hi hj hlt
    · rw [hx] at hy
      exact le_of_eq (Option.some.inj hy)
  · have hmem : y ∈ offs := List.mem_reverse.1 (List.mem_of_getElem? hy)
    have : y ≤ (n : Int) - 1 := hs.bounded y hmem
    have hcount : n = ws.length := hs.count
    omega

/-! ### Words to tokens -/

/-- What the tokens `toks` of a passage's first `k` words keep, with `starts` the position of
each word's first token: a token's word comes before word `i` exactly when the token comes before
word `i`'s first one, and every word has a token. -/
structure WordTokens (k : Nat) (toks : List (String × Nat)) (starts : List Nat) : Prop where
  length : starts.length = k
  word_lt : ∀ (j : Nat) (x : String × Nat), toks[j]? = some x → x.2 < k
  start_le : ∀ (i s : Nat), starts[i]? = some s → s ≤ toks.length
  before : ∀ (i s j : Nat) (x : String × Nat), starts[i]? = some s → toks[j]? = some x →
    (x.2 < i ↔ j < s)
  nonempty : ∀ i < k, ∃ (j : Nat) (x : String × Nat), toks[j]? = some x ∧ x.2 = i

theorem getElem?_append_word {toks : List (String × Nat)} {sub : List String} {k j : Nat}
    {x : String × Nat} (h : (toks ++ sub.map (·, k))[j]? = some x) :
    (j < toks.length ∧ toks[j]? = some x) ∨ (toks.length ≤ j ∧ x.2 = k) := by
  rcases Nat.lt_or_ge j toks.length with hj | hj
  · rw [List.getElem?_append_left hj] at h
    exact .inl ⟨hj, h⟩
  · rw [List.getElem?_append_right hj, List.getElem?_map] at h
    obtain ⟨t, -, rfl⟩ := Option.map_eq_some_iff.1 h
    exact .inr ⟨hj, rfl⟩

theorem getElem?_append_start {starts : List Nat} {t i s : Nat} (h : (starts ++ [t])[i]? = some s) :
    (i < starts.length ∧ starts[i]? = some s) ∨ (i = starts.length ∧ s = t) := by
  rcases Nat.lt_or_ge i starts.length with hi | hi
  · rw [List.getElem?_append_left hi] at h
    exact .inl ⟨hi, h⟩
  · rw [List.getElem?_append_right hi, List.getElem?_singleton] at h
    split at h
    · exact .inr ⟨by omega, (Option.some.inj h).symm⟩
    · cases h

theorem WordTokens.push {k : Nat} {toks : List (String × Nat)} {starts : List Nat}
    {sub : List String} (h : WordTokens k toks starts) (hsub : sub ≠ []) :
    WordTokens (k + 1) (toks ++ sub.map (·, k)) (starts ++ [toks.length]) := by
  refine ⟨by simp [h.length], fun j x hx => ?_, fun i s hs => ?_, fun i s j x hs hx => ?_,
    fun i hi => ?_⟩
  · rcases getElem?_append_word hx with ⟨-, hx⟩ | ⟨-, rfl⟩
    · have := h.word_lt j x hx
      omega
    · omega
  · rcases getElem?_append_start hs with ⟨-, hs⟩ | ⟨-, rfl⟩
    · have := h.start_le i s hs
      simp
      omega
    · simp
  · rcases getElem?_append_start hs with ⟨hi, hs⟩ | ⟨rfl, rfl⟩
    · have hsle := h.start_le i s hs
      rcases getElem?_append_word hx with ⟨-, hx⟩ | ⟨hj, rfl⟩
      · exact h.before i s j x hs hx
      · rw [h.length] at hi
        omega
    · rcases getElem?_append_word hx with ⟨hj, hx⟩ | ⟨hj, rfl⟩
      · have := h.word_lt j x hx
        rw [h.length]
        omega
      · rw [h.length]
        omega
  · rcases Nat.lt_or_ge i k with hik | hik
    · obtain ⟨j, x, hx, hxi⟩ := h.nonempty i hik
      refine ⟨j, x, ?_, hxi⟩
      rw [List.getElem?_append_left (List.getElem?_eq_some_iff.1 hx).1]
      exact hx
    · obtain ⟨t, ts, rfl⟩ := List.exists_cons_of_ne_nil hsub
      refine ⟨toks.length, (t, k), ?_, by omega⟩
      rw [List.getElem?_append_right (le_refl _), Nat.sub_self]
      rfl

/-- **Words to tokens.**  When every word has a token, the tokens of a passage's words and the
positions of each word's first token keep the invariant. -/
theorem wordTokens_ok {tok : Language.TokenizerOps} {words : List String} {toks : List (String × Nat)}
    {starts : List Nat} (hne : ∀ w ∈ words, ∀ ts, tok.textToTokens w = .ok ts → ts ≠ [])
    (h : wordTokens tok words = .ok (toks, starts)) : WordTokens words.length toks starts := by
  have := foldlM_zipIdx_ok_inv
    (fun k (acc : List (String × Nat) × List Nat) => WordTokens k acc.1 acc.2)
    (fun i b w b' hw hb hstep => ?_) ([], []) (toks, starts)
    ⟨rfl, by simp, by simp, by simp, by simp⟩ h
  · simpa using this
  · simp only [Except.bind_eq_ok, pure, Except.pure, Except.ok.injEq] at hstep
    obtain ⟨sub, hsub, rfl⟩ := hstep
    exact hb.push (hne w hw sub hsub)

theorem WordTokens.from_start {k : Nat} {toks : List (String × Nat)} {starts : List Nat}
    (hw : WordTokens k toks starts) {i s j : Nat} {x : String × Nat} (hs : starts[i]? = some s)
    (hx : toks[j]? = some x) : i ≤ x.2 ↔ s ≤ j := by
  have := hw.before i s j x hs hx
  omega

/-! ### The answer's tokens -/

theorem mem_intsFrom {a b x : Int} : x ∈ intsFrom a b ↔ a ≤ x ∧ x < b := by
  simp only [intsFrom, List.mem_map, List.mem_range]
  constructor
  · rintro ⟨i, hi, rfl⟩
    omega
  · rintro ⟨hax, hxb⟩
    exact ⟨(x - a).toNat, by omega, by omega⟩

theorem narrowSpan_within (d : List String) {start stop : Int} (answer : String)
    (h : start ≤ stop) :
    start ≤ (narrowSpan d start stop answer).1 ∧
      (narrowSpan d start stop answer).1 ≤ (narrowSpan d start stop answer).2 ∧
      (narrowSpan d start stop answer).2 ≤ stop := by
  simp only [narrowSpan]
  generalize hfound : List.findSome? _ (intsFrom start (stop + 1)) = found
  cases found with
  | none => simpa using h
  | some p =>
    -- a narrowed span starts inside the given one and ends between its start and the given end
    obtain ⟨a, ha, hmap⟩ := List.exists_of_findSome?_eq_some hfound
    obtain ⟨b, hb, rfl⟩ := Option.map_eq_some_iff.1 hmap
    have hb' := List.mem_reverse.1 (List.mem_of_find?_eq_some hb)
    rw [mem_intsFrom] at ha hb'
    simp only [Option.getD_some]
    omega

theorem listAt_ok {α : Type} {xs : List α} {i : Int} {x : α} (hi : 0 ≤ i)
    (h : listAt xs i = .ok x) : xs[i.toNat]? = some x := by
  unfold listAt at h
  simp only [show ¬ i < 0 by omega, if_false] at h
  split at h
  · rename_i y hy
    cases h
    exact hy
  · cases h


/-- **The answer's tokens.**  With answers marked and every word tokenized, the span of a
question's answer runs from the first token of the answer's first word to the last of its last
word, narrowed: its tokens are all of words between the two. -/
theorem answerTokenSpan_within {tok : Language.TokenizerOps} {shape : InputShape} {q : Question}
    {toks : List (String × Nat)} {starts : List Nat} {span : Option (Int × Int)}
    (hgt : shape.hasGroundtruth = true) (hposs : q.impossible.truthy = false)
    (hw : WordTokens q.passage.words.length toks starts)
    (hsw : 0 ≤ q.startWord) (hle : q.startWord ≤ q.endWord)
    (hew : q.endWord < q.passage.words.length)
    (h : answerTokenSpan tok shape q (toks.map (·.1)) starts = .ok span) :
    ∃ a b : Nat, span = some ((a : Int), (b : Int)) ∧ a ≤ b ∧ b < toks.length ∧
      ∀ j x, a ≤ j → j ≤ b → toks[j]? = some x → q.startWord ≤ x.2 ∧ x.2 ≤ q.endWord := by
  simp only [answerTokenSpan, hgt, hposs, Bool.not_true, Bool.false_eq_true, if_false,
    Except.bind_eq_ok] at h
  obtain ⟨first, hfirst, h⟩ := h
  -- the first token of the first word starts the answer's words
  have hfrom : ∀ (j : Nat) (x : String × Nat), toks[j]? = some x →
      (q.startWord ≤ x.2 ↔ (first : Int) ≤ j) := by
    intro j x hx
    have := hw.from_start (listAt_ok hsw hfirst) hx
    omega
  -- the token before the next word's first, or the last token, ends them
  obtain ⟨stop, hto, answer, rfl⟩ : ∃ stop : Int, (stop < toks.length ∧
      ∀ (j : Nat) (x : String × Nat), toks[j]? = some x → (x.2 ≤ q.endWord ↔ (j : Int) ≤ stop)) ∧
      ∃ answer, span = some (narrowSpan (toks.map (·.1)) first stop answer) := by
    split at h
    · simp only [Except.bind_eq_ok, pure, Except.pure, Except.ok.injEq] at h
      obtain ⟨next, hnext, _, rfl, ts, -, rfl⟩ := h
      have hnext' := listAt_ok (by omega) hnext
      refine ⟨_, ⟨by have := hw.start_le _ _ hnext'; omega, fun j x hx => ?_⟩, _, rfl⟩
      have := hw.from_start hnext' hx
      omega
    · simp only [Except.bind_eq_ok, pure, Except.pure, Except.ok.injEq] at h
      obtain ⟨_, rfl, ts, -, rfl⟩ := h
      refine ⟨_, ⟨by simp, fun j x hx => ?_⟩, _, rfl⟩
      have := hw.word_lt j x hx
      have := (List.getElem?_eq_some_iff.1 hx).1
      simp only [List.length_map]
      omega
  -- the first word has a token, so the span is not empty
  obtain ⟨t, xt, ht, hxt⟩ := hw.nonempty q.startWord.toNat (by omega)
  have hfirst_le : (first : Int) ≤ stop := by
    have h1 := (hfrom t xt ht).1 (by omega)
    have h2 := (hto.2 t xt ht).1 (by omega)
    omega
  obtain ⟨ha, hab, hb⟩ := narrowSpan_within (toks.map (·.1)) answer hfirst_le
  refine ⟨(narrowSpan (toks.map (·.1)) first stop answer).1.toNat,
    (narrowSpan (toks.map (·.1)) first stop answer).2.toNat, ?_, by omega, by omega, ?_⟩
  · simp only [Option.some.injEq, Prod.ext_iff]
    omega
  · intro j x hj hj' hx
    exact ⟨(hfrom j x hx).2 (by omega), (hto.2 j x hx).2 (by omega)⟩

/-! ### Positions in an input -/

theorem filterMap_range_getElem? {α : Type} (d : List α) (s n : Nat) :
    (List.range n).filterMap (fun i => d[s + i]?) = (d.drop s).take n := by
  induction n with
  | zero => simp
  | succ n ih =>
    rw [List.range_succ, List.filterMap_append, ih, List.take_add_one, List.getElem?_drop]
    cases h : d[s + n]? <;> simp [h]

theorem lookup_range_map {β : Type} (g : Nat → β) :
    ∀ (n h k : Nat), k < n →
      ((List.range n).map (fun i => (h + i, g i))).lookup (h + k) = some (g k) := by
  intro n
  induction n generalizing g with
  | zero => intro h k hk; omega
  | succ n ih =>
    intro h k hk
    rw [List.range_succ_eq_map, List.map_cons, List.map_map]
    rcases k with _ | k
    · simp [List.lookup]
    · have := ih (fun i => g (i + 1)) (h + 1) k (by omega)
      simp only [List.lookup, Nat.add_zero]
      rw [show (h + (k + 1) == h) = false by simp]
      simpa [Function.comp_def, Nat.add_assoc, Nat.add_comm 1] using this

theorem lookup_window_words {d : List (String × Nat)} {h s n k : Nat} {t : String × Nat}
    (hk : k < n) (ht : d[s + k]? = some t) :
    (((List.range n).map fun i => (h + i, s + i)).map
      fun (p, i) => (p, ((d[i]?).map (·.2)).getD 0)).lookup (h + k) = some t.2 := by
  rw [List.map_map]
  have := lookup_range_map (fun i => ((d[s + i]?).map (·.2)).getD 0) n h k hk
  simp only [Function.comp_def] at this ⊢
  rw [this, ht]
  rfl

/-- The tokens of a window's input from the position of its `k`-th passage token on are the
passage's tokens from the window's start plus `k` on. -/
theorem take_drop_window {α : Type} (head D : List α) (sep : α) (s n k m : Nat) (hk : k + m ≤ n)
    (hn : s + n ≤ D.length) :
    ((head ++ (D.drop s).take n ++ [sep]).drop (head.length + k)).take m =
      (D.drop (s + k)).take m := by
  have hlen : ((D.drop s).take n).length = n := by
    simp only [List.length_take, List.length_drop]
    omega
  rw [List.append_assoc, List.drop_length_add_append, List.drop_append_of_le_length (by omega),
    List.take_append_of_le_length (by simp [hlen]; omega), List.drop_take, List.drop_drop,
    List.take_take, Nat.min_eq_left (by omega), Nat.add_comm]

/-- A model input of window `w` marks the passage tokens `a`..`b`, whose words lie between `sw`
and `ew`: by the classifier token when the window does not hold them all; otherwise by positions
after it that show exactly those tokens, in the passage part, each mapped to a word between `sw`
and `ew`. -/
def Feature.MarksAnswer (f : Feature) (docText : List String) (w : Window) (a b : Nat)
    (sw ew : Int) : Prop :=
  (f.startPosition = some 0 ∧ f.endPosition = some 0 ∧ ¬ (w.start ≤ a ∧ b ≤ w.last)) ∨
  ∃ sp ep : Nat, f.startPosition = some (sp : Int) ∧ f.endPosition = some (ep : Int) ∧
    0 < sp ∧ sp ≤ ep ∧
    (f.tokens.drop sp).take (ep + 1 - sp) = (docText.drop a).take (b + 1 - a) ∧
    (∀ p, sp ≤ p → p ≤ ep → f.segmentIds[p]? = some 1) ∧
    ∀ p ∈ [sp, ep], ∃ x : Nat, f.tokenToWord.lookup p = some x ∧ sw ≤ x ∧ x ≤ ew

/-- **Positions in one input.**  The input of a window that holds at least one token and lies
inside the passage marks the answer's tokens. -/
theorem windowFeature_marks {tok : Language.TokenizerOps} {shape : InputShape} {index firstId : Nat}
    {q : Question} {query : List String} {docTokens : List (String × Nat)} {windows : List Window}
    {a b : Nat} {sw ew : Int} {w : Window} {j : Nat} {f : Feature}
    (hposs : q.impossible.truthy = false) (hlen : 1 ≤ w.length)
    (hin : w.start + w.length ≤ docTokens.length) (hab : a ≤ b)
    (hwords : ∀ i x, a ≤ i → i ≤ b → docTokens[i]? = some x → sw ≤ x.2 ∧ x.2 ≤ ew)
    (hb : b < docTokens.length)
    (h : windowFeature tok shape index firstId q query docTokens windows
      (some ((a : Int), (b : Int))) (w, j) = .ok f) :
    f.windowIndex = j ∧ f.MarksAnswer (docTokens.map (·.1)) w a b sw ew := by
  simp only [windowFeature, Except.bind_eq_ok] at h
  obtain ⟨cls, -, sep, -, ids, -, padId, -, h⟩ := h
  split at h
  · cases h
  cases h
  refine ⟨rfl, ?_⟩
  simp only [hposs, Bool.false_eq_true, if_false, filterMap_range_getElem?]
  by_cases hin' : w.start ≤ a ∧ b ≤ w.last
  · right
    have hcond : (w.start : Int) ≤ a ∧ (b : Int) ≤ w.last := by omega
    have hhead : ([cls] ++ query ++ [sep]).length = query.length + 2 := by simp
    have hlast : w.last = w.start + w.length - 1 := rfl
    refine ⟨query.length + 2 + (a - w.start), query.length + 2 + (b - w.start), ?_, ?_, by omega,
      by omega, ?_, ?_, ?_⟩
    · simp only [hcond, if_true, decide_true, Bool.and_self]
      congr 1
      omega
    · simp only [hcond, if_true, decide_true, Bool.and_self]
      congr 1
      omega
    · -- the marked positions show the answer's tokens
      have hwin := take_drop_window ([cls] ++ query ++ [sep]) (docTokens.map (·.1)) sep w.start
        w.length (a - w.start) (b + 1 - a) (by omega) (by simpa using hin)
      rw [hhead, Nat.add_sub_cancel' hin'.1] at hwin
      have hm : query.length + 2 + (b - w.start) + 1 - (query.length + 2 + (a - w.start)) =
          b + 1 - a := by
        omega
      rw [hm, ← hwin, List.map_take, List.map_drop]
    · -- they lie in the passage part
      intro p hp hp'
      rw [List.getElem?_append_left (by simp; omega), List.getElem?_append_right (by simp; omega),
        List.getElem?_replicate, if_pos (by simp; omega)]
    · -- each is mapped to the word of its token, a word of the answer
      intro p hp
      obtain ⟨i, hai, hib, rfl⟩ : ∃ i, a ≤ i ∧ i ≤ b ∧ p = query.length + 2 + (i - w.start) := by
        rcases List.mem_pair.1 hp with rfl | rfl
        exacts [⟨a, le_rfl, hab, rfl⟩, ⟨b, hab, le_rfl, rfl⟩]
      obtain ⟨t, ht⟩ : ∃ t, docTokens[i]? = some t := ⟨_, List.getElem?_eq_getElem (by omega)⟩
      refine ⟨t.2, ?_, hwords i t hai hib ht⟩
      rw [← hhead]
      exact lookup_window_words (by omega) (by rwa [Nat.add_sub_cancel' (by omega)])
  · left
    simp [hin']

/-- **Answer positions.**  With answers marked, a possible question, every passage word at least
one token and room for a passage token, every input marks the answer: the tokens of its words,
from that of character `first` to that of `last`, narrowed to `a`..`b`, are either partly outside
the window and marked by the classifier token, or at the marked positions of the passage part,
each mapped to a word of the answer. -/
theorem answer_positions_mark_answer_tokens {tok : Language.TokenizerOps} {shape : InputShape}
    {index firstId first last : Nat} {q : Question} {fs : List Feature}
    (hpassage : q.passage = PassageWords.ofText q.context)
    (hfirst : ∃ c, q.context.toList[first]? = some c ∧ Text.isWordBreak c = false)
    (hlast : first ≤ last) (hstart : q.passage.wordOf[first]? = some q.startWord)
    (hend : q.passage.wordOf[last]? = some q.endWord)
    (htok : ∀ w ∈ q.passage.words, ∀ ts, tok.textToTokens w = .ok ts → ts ≠ [])
    (hgt : shape.hasGroundtruth = true) (hposs : q.impossible.truthy = false)
    (hroom : ∀ qt, tokensOf tok q.text = .ok qt →
      (Text.span qt 0 shape.maxQueryLength).length + 3 < shape.maxSeqLength)
    (h : questionFeatures tok shape index firstId q = .ok fs) :
    ∃ (qt : List String) (docTokens : List (String × Nat)) (wordStarts : List Nat) (a b : Nat),
      tokensOf tok q.text = .ok qt ∧ wordTokens tok q.passage.words = .ok (docTokens, wordStarts) ∧
      a ≤ b ∧ b < docTokens.length ∧
      (∀ j x, a ≤ j → j ≤ b → docTokens[j]? = some x → q.startWord ≤ x.2 ∧ x.2 ≤ q.endWord) ∧
      ∀ f ∈ fs, ∃ w, (windowsFrom docTokens.length
          (shape.maxSeqLength - (Text.span qt 0 shape.maxQueryLength).length - 3).toNat
          shape.docStride.toNat 0)[f.windowIndex]? = some w ∧
        f.MarksAnswer (docTokens.map (·.1)) w a b q.startWord q.endWord := by
  -- characters to words: the answer's words are words of the passage, in order
  have hwords := wordOf_ofText (hpassage ▸ hstart) (hpassage ▸ hend) hlast hfirst
  rw [← hpassage] at hwords
  obtain ⟨hsw, hle, hew⟩ := hwords
  simp only [questionFeatures, Except.bind_eq_ok] at h
  obtain ⟨qt, hqt, ⟨docTokens, wordStarts⟩, hwt, span, hspan, hmap⟩ := h
  -- the scan over the passage ended, with the windows `windowsFrom` sets
  split at hmap
  case h_2 => cases hmap
  rename_i windows hscan
  rw [scanWindows_eq_windowsFrom hscan (fun _ => rfl) (fun _ => rfl)] at hmap
  -- words to tokens, and the answer's span among them
  obtain ⟨a, b, rfl, hab, hb, hanswer⟩ :=
    answerTokenSpan_within hgt hposs (wordTokens_ok htok hwt) hsw hle hew hspan
  refine ⟨qt, docTokens, wordStarts, a, b, hqt, hwt, hab, hb, hanswer, fun f hf => ?_⟩
  -- each input is that of a window, which holds a token and lies inside the passage
  obtain ⟨⟨w, j⟩, hmem, hfeat⟩ := mapM_ok_mem hmap f hf
  have hwj := List.mk_mem_zipIdx_iff_getElem?.1 hmem
  have hroom' :
      1 ≤ (shape.maxSeqLength - (Text.span qt 0 shape.maxQueryLength).length - 3).toNat := by
    have := hroom qt hqt
    omega
  obtain ⟨hlen, hin⟩ := windowsFrom_within hroom' 0 w (List.mem_of_getElem? hwj)
  obtain ⟨rfl, hmark⟩ := windowFeature_marks hposs hlen hin hab hanswer hb hfeat
  exact ⟨w, hwj, hmark⟩

/-- A tokenizer that reads a text letter by letter. -/
def letterTokenizer : Language.Tokenizer :=
  ⟨.characters, [("a", 0), ("b", 1), ("?", 2), ("[CLS]", 3), ("[SEP]", 4), ("[PAD]", 5)],
    [(.sep, "[SEP]"), (.pad, "[PAD]"), (.cls, "[CLS]")]⟩

/-- A question about `ab ba` whose answer is its second word. -/
def secondWordQuestion : Question :=
  ⟨.null, .str "a?", .null, "ab ba", PassageWords.ofText "ab ba", .str "ba", .bool false, .null,
    1, 1⟩

theorem answer_positions_in_two_windows :
    ∃ fs, questionFeatures letterTokenizer ⟨8, 1, 4, true⟩ 0 0 secondWordQuestion = .ok fs ∧
      ∃ (qt : List String) (docTokens : List (String × Nat)) (wordStarts : List Nat) (a b : Nat),
        tokensOf letterTokenizer secondWordQuestion.text = .ok qt ∧
        wordTokens letterTokenizer secondWordQuestion.passage.words = .ok (docTokens, wordStarts) ∧
        a ≤ b ∧ b < docTokens.length ∧
        (∀ j x, a ≤ j → j ≤ b → docTokens[j]? = some x →
          secondWordQuestion.startWord ≤ x.2 ∧ x.2 ≤ secondWordQuestion.endWord) ∧
        ∀ f ∈ fs, ∃ w, (windowsFrom docTokens.length
            ((8 : Int) - (Text.span qt 0 4).length - 3).toNat (1 : Int).toNat 0)[f.windowIndex]? =
              some w ∧
          f.MarksAnswer (docTokens.map (·.1)) w a b secondWordQuestion.startWord
            secondWordQuestion.endWord := by
  -- the question's inputs are computed, and come out whole
  have hok :
      (questionFeatures letterTokenizer ⟨8, 1, 4, true⟩ 0 0 secondWordQuestion).toOption.isSome := by
    decide +kernel
  obtain ⟨fs, hfs⟩ :
      ∃ fs, questionFeatures letterTokenizer ⟨8, 1, 4, true⟩ 0 0 secondWordQuestion = .ok fs := by
    revert hok
    cases questionFeatures letterTokenizer ⟨8, 1, 4, true⟩ 0 0 secondWordQuestion with
    | ok fs => exact fun _ => ⟨fs, rfl⟩
    | error e => intro hok; cases hok
  have hwords : secondWordQuestion.passage.words = ["ab", "ba"] := by decide +kernel
  refine ⟨fs, hfs, @answer_positions_mark_answer_tokens letterTokenizer ⟨8, 1, 4, true⟩ 0 0 3 4
    secondWordQuestion fs rfl
    ⟨'b', by decide +kernel, by decide⟩ (by decide) (by decide +kernel) (by decide +kernel) ?_
    rfl rfl ?_ hfs⟩
  · intro w hw ts hts
    rw [hwords, List.mem_pair] at hw
    rcases hw with rfl | rfl <;> cases hts <;> simp
  · intro qt hqt
    cases hqt
    decide

end Conversa.Comprehension
