import Mathlib
import Conversa.Speech.Phonemes
import Conversa.Proofs.Monadic

/-!
# Spacing of phoneme encodings

An encoding walks the symbols of the front end, keeping a space only after a label that is not
one, and dropping a space before punctuation unless spaces are kept; at the end it drops the
trailing spaces.  Every list on the way starts with no space and has no two spaces running
(`Spaced`), and the trimmed list ends with no space either.

Main statement, `encode_spaced_well`: an unpadded encoding in which no symbol is kept fails on
the last of no symbols; when one is kept, and the space and out-of-vocabulary labels are neither
letters, digits nor an apostrophe and occur once among the labels, it gives ids of ordinary
labels, spaced well.  Labels must not repeat: an
out-of-vocabulary label that is also a phoneme takes that phoneme's id.
-/

namespace Conversa.Speech.PhonemeVocabulary

/-- Whether a symbol, its stress dropped, is kept: a label of letters or digits, or an
apostrophe, that the vocabulary has, or punctuation when punctuation is kept. -/
def isKept (v : PhonemeVocabulary) (q : String) : Bool :=
  (isAlnumText q || q == "'") && v.labels.contains q || punctuationMarks.contains q && v.options.punct

/-- Labels with no space first or last and never two spaces running. -/
def WellSpaced (sp : String) (ls : List String) : Prop :=
  ls.head? ≠ some sp ∧ ls.getLast? ≠ some sp ∧ ls.IsChain fun a b => ¬ (a = sp ∧ b = sp)

/-- The labels kept while encoding: no space first, never two spaces running, and each label a
space or a kept symbol. -/
structure Spaced (v : PhonemeVocabulary) (ps : List String) : Prop where
  head : ps.head? ≠ some v.space
  chain : ps.IsChain fun a b => ¬ (a = v.space ∧ b = v.space)
  kept : ∀ q ∈ ps, q = v.space ∨ v.isKept q = true

/-- Some label kept so far is not a space. -/
def HasSymbol (v : PhonemeVocabulary) (ps : List String) : Prop := ∃ q ∈ ps, q ≠ v.space

variable {v : PhonemeVocabulary} {ps qs : List String}

lemma Spaced.of_prefix (h : Spaced v ps) (hp : qs <+: ps) : Spaced v qs := by
  obtain ⟨r, rfl⟩ := hp
  refine ⟨?_, h.chain.left_of_append, fun q hq => h.kept q (List.mem_append_left r hq)⟩
  cases qs with
  | nil => simp
  | cons a t => simpa using h.head

lemma Spaced.append_space (h : Spaced v ps) (hne : ps ≠ []) (hlast : ps.getLast? ≠ some v.space) :
    Spaced v (ps ++ [v.space]) := by
  obtain ⟨a, t, rfl⟩ := List.exists_cons_of_ne_nil hne
  refine ⟨by simpa using h.head, h.chain.append (by simp) ?_, ?_⟩
  · rintro x hx y hy ⟨rfl, -⟩
    exact hlast hx
  · intro q hq
    rcases List.mem_append.1 hq with hq | hq
    · exact h.kept q hq
    · exact Or.inl (List.mem_singleton.1 hq)

lemma Spaced.append_kept {q : String} (h : Spaced v ps) (hq : q ≠ v.space) (hk : v.isKept q = true) :
    Spaced v (ps ++ [q]) := by
  refine ⟨?_, h.chain.append (by simp) ?_, ?_⟩
  · cases ps with
    | nil => simpa using hq
    | cons a t => simpa using h.head
  · rintro x - y hy ⟨-, rfl⟩
    exact hq (by simpa using hy)
  · intro x hx
    rcases List.mem_append.1 hx with hx | hx
    · exact h.kept x hx
    · exact Or.inr (List.mem_singleton.1 hx ▸ hk)

lemma Spaced.step (hsp : v.isKept v.space = false) (h : Spaced v ps) (p : String) :
    Spaced v (v.keepSymbol ps p) ∧
      (HasSymbol v ps ∨ v.isKept (v.unstressed p) = true → HasSymbol v (v.keepSymbol ps p)) := by
  unfold PhonemeVocabulary.keepSymbol
  generalize v.unstressed p = q
  by_cases hq : q = v.space
  · -- a space is never kept as a symbol, so only the first rule can take it
    subst hq
    have hk : ((isAlnumText v.space || v.space == "'") && v.labels.contains v.space) = false ∧
        (punctuationMarks.contains v.space && v.options.punct) = false := by
      simpa [isKept] using hsp
    simp only [hk.1, hk.2, Bool.false_eq_true, if_false, beq_self_eq_true, Bool.true_and]
    split
    · rename_i hc
      simp only [Bool.and_eq_true, Bool.not_eq_true', List.isEmpty_eq_false_iff, bne_iff_ne, ne_eq] at hc
      refine ⟨h.append_space hc.1 hc.2, ?_⟩
      rintro (⟨x, hx, hne⟩ | hkept)
      · exact ⟨x, List.mem_append_left _ hx, hne⟩
      · simp [hsp] at hkept
    · exact ⟨h, fun hw => hw.resolve_right (by simp [hsp])⟩
  · have hne : (q == v.space) = false := by simpa using hq
    simp only [hne, Bool.false_and, Bool.false_eq_true, if_false]
    -- the letter rule may append the symbol; then the punctuation rule may take back a space
    -- and append it
    have h2 : Spaced v (if ((isAlnumText q || q == "'") && v.labels.contains q) = true then ps ++ [q] else ps) ∧
        (∀ x ∈ ps, x ∈ (if ((isAlnumText q || q == "'") && v.labels.contains q) = true then ps ++ [q] else ps)) ∧
        (v.isKept q = true → (punctuationMarks.contains q && v.options.punct) = false →
          q ∈ (if ((isAlnumText q || q == "'") && v.labels.contains q) = true then ps ++ [q] else ps)) := by
      split
      · exact ⟨h.append_kept hq (by simp_all [isKept]), fun x hx => List.mem_append_left _ hx, by simp⟩
      · rename_i hc
        refine ⟨h, fun x hx => hx, fun hk hp => ?_⟩
        simp only [isKept, hp, Bool.or_false] at hk
        exact absurd hk hc
    generalize (if ((isAlnumText q || q == "'") && v.labels.contains q) = true then ps ++ [q] else ps) = ps2 at h2 ⊢
    obtain ⟨hs2, hsub, hq2⟩ := h2
    split
    · rename_i hp
      have hr : Spaced v (if (!v.options.spaces && !ps2.isEmpty && ps2.getLast? == some v.space) = true
          then ps2.dropLast else ps2) := by
        split
        · exact hs2.of_prefix (List.dropLast_prefix _)
        · exact hs2
      exact ⟨hr.append_kept hq (by simp_all [isKept]), fun _ => ⟨q, by simp, hq⟩⟩
    · rename_i hp
      refine ⟨hs2, ?_⟩
      rintro (⟨x, hx, hxs⟩ | hkept)
      · exact ⟨x, hsub x hx, hxs⟩
      · exact ⟨q, hq2 hkept (by simpa using hp), hq⟩

/-- The walk over all symbols keeps the spacing, and ends with a symbol other than a space once
one is kept. -/
lemma Spaced.foldl (hsp : v.isKept v.space = false) (phonemes : List String) :
    ∀ ps, Spaced v ps → Spaced v (phonemes.foldl v.keepSymbol ps) ∧
      (HasSymbol v ps ∨ (∃ p ∈ phonemes, v.isKept (v.unstressed p) = true) →
        HasSymbol v (phonemes.foldl v.keepSymbol ps)) := by
  induction phonemes with
  | nil => intro ps h; exact ⟨h, fun hw => hw.resolve_right (by simp)⟩
  | cons p rest ih =>
    intro ps h
    obtain ⟨hstep, hword⟩ := h.step hsp p
    obtain ⟨hrun, hrest⟩ := ih _ hstep
    refine ⟨hrun, fun hw => hrest ?_⟩
    rcases hw with hw | ⟨p', hp', hk⟩
    · exact Or.inl (hword (Or.inl hw))
    · rcases List.mem_cons.1 hp' with rfl | hp'
      · exact Or.inl (hword (Or.inr hk))
      · exact Or.inr ⟨p', hp', hk⟩

/-- Dropping the trailing spaces of a spaced list with a symbol leaves it non-empty and spaced
well. -/
lemma Spaced.trim (h : Spaced v ps) (hw : HasSymbol v ps) :
    ((ps.reverse.dropWhile (· == v.space)).reverse ≠ [] ∧
      WellSpaced v.space (ps.reverse.dropWhile (· == v.space)).reverse) ∧
      Spaced v (ps.reverse.dropWhile (· == v.space)).reverse := by
  have hsplit : ps = (ps.reverse.dropWhile (· == v.space)).reverse ++
      (ps.reverse.takeWhile (· == v.space)).reverse := by
    rw [← List.reverse_append, List.takeWhile_append_dropWhile, List.reverse_reverse]
  have ht : Spaced v (ps.reverse.dropWhile (· == v.space)).reverse :=
    h.of_prefix ⟨_, hsplit.symm⟩
  refine ⟨⟨?_, ht.head, ?_, ht.chain⟩, ht⟩
  · -- only spaces would remain, yet a symbol was kept
    intro hnil
    obtain ⟨x, hx, hxs⟩ := hw
    rw [hsplit, hnil, List.nil_append, List.mem_reverse] at hx
    exact hxs (by simpa using List.mem_takeWhile_imp hx)
  · rw [List.getLast?_reverse]
    have := List.head?_dropWhile_not (· == v.space) ps.reverse
    intro hs
    rw [hs] at this
    simp at this

section Make

variable (o : PhonemeOptions)

/-- The labels of a vocabulary: the base labels, then padding, blank and out-of-vocabulary in
the order the blank's place asks. -/
lemma make_labels : (make o).labels = baseLabels o ++ (match o.blankAt with
    | .none => ["<pad>", o.oov]
    | .lastButOne => ["<pad>", "<blank>", o.oov]
    | .last => ["<pad>", o.oov, "<blank>"]) := by
  unfold make
  cases o.blankAt <;> rfl

lemma make_space : (make o).space = o.space := by
  simp only [space, make_labels, baseLabels, List.cons_append, List.headD_cons]

/-- Where the utility labels stand: padding, blank and out-of-vocabulary each at its own id,
after every base label. -/
lemma make_utility :
    (make o).labels[(make o).pad]? = some "<pad>" ∧ (make o).labels[(make o).oov]? = some o.oov ∧
      (0 ≤ (make o).blank → (make o).labels[(make o).blank.toNat]? = some "<blank>") ∧
      (baseLabels o).length = (make o).pad ∧ (make o).pad ≤ (make o).oov ∧
      ((make o).blank ≥ 0 → (make o).pad < (make o).blank.toNat) := by
  have h2 : ∀ n : Nat, ((n : Int) + 2).toNat = n + 2 := fun n => by omega
  unfold make
  cases o.blankAt <;> simp [h2]

lemma make_options : (make o).options = o := by
  unfold make
  cases o.blankAt <;> rfl

lemma mem_labels_tail {m : String} (hm : m ∈ (baseLabels o).tail) : m ∈ (make o).labels.tail := by
  have hcons : baseLabels o = o.space :: (baseLabels o).tail := by
    simp only [baseLabels, List.cons_append, List.tail_cons]
  rw [make_labels, hcons, List.cons_append, List.tail_cons]
  exact List.mem_append_left _ hm

lemma mem_baseLabels_of_punct (h : o.punct = true) {m : String} (hm : m ∈ punctuationMarks) :
    m ∈ (baseLabels o).tail := by
  simp only [baseLabels, h, if_true, List.cons_append, List.tail_cons, List.mem_append]
  exact Or.inr hm

variable {o}

lemma space_not_mem_tail (hspace : (make o).labels.count o.space = 1) : o.space ∉ (make o).labels.tail := by
  have hcons : (make o).labels = o.space :: (make o).labels.tail := by
    simp only [make_labels, baseLabels, List.cons_append, List.tail_cons]
  rw [hcons, List.count_cons_self] at hspace
  exact List.count_eq_zero.1 (by omega)

lemma oov_not_mem_base (hoov : (make o).labels.count o.oov = 1) : o.oov ∉ baseLabels o := by
  intro hmem
  have hutil : o.oov ∈ (make o).labels.drop (baseLabels o).length := by
    rw [make_labels, List.drop_left]
    cases o.blankAt <;> simp
  rw [make_labels, List.count_append, List.drop_left] at *
  have h1 := List.count_pos_iff.2 hmem
  have h2 := List.count_pos_iff.2 hutil
  omega

/-- Under the label conditions, the space and every kept symbol have ids of their own, not those
of padding, blank or out-of-vocabulary. -/
lemma make_idOf (hspace : (make o).labels.count o.space = 1) (hoov : (make o).labels.count o.oov = 1)
    (hoovText : isAlnumText o.oov = false ∧ o.oov ≠ "'") {q : String}
    (hq : q = o.space ∨ (make o).isKept q = true) :
    ∃ i, (make o).idOf q = some i ∧ (make o).labels[i]? = some q ∧
      i ≠ (make o).pad ∧ (i : Int) ≠ (make o).blank ∧ i ≠ (make o).oov := by
  obtain ⟨hpad, hoovAt, hblank, hlen, hpo, hpb⟩ := make_utility o
  have hbase : 0 < (make o).pad := by
    rw [← hlen]
    simp only [baseLabels, List.cons_append, List.length_cons]
    omega
  have hangle : Text.isAlnum '<' = false := by decide
  have hmem : q ∈ (make o).labels := by
    rcases hq with rfl | hk
    · rw [make_labels]
      simp only [baseLabels, List.cons_append, List.mem_cons, true_or]
    · simp only [isKept, Bool.or_eq_true, Bool.and_eq_true, List.contains_iff_mem] at hk
      rcases hk with ⟨-, hk⟩ | ⟨hk, hp⟩
      · exact hk
      · rw [make_options] at hp
        rw [make_labels]
        exact List.mem_append_left _ (List.mem_of_mem_tail (mem_baseLabels_of_punct o hp (by simpa using hk)))
  obtain ⟨i, hi⟩ := Option.isSome_iff_exists.1 (Text.lastPosition_isSome hmem)
  have hiq := Text.lastPosition_eq_some hi
  refine ⟨i, hi, hiq, ?_⟩
  rcases hq with rfl | hk
  · -- the space stands only at the front, before every utility label
    have hi0 : i = 0 := by
      by_contra h0
      refine space_not_mem_tail hspace (List.mem_of_getElem? (i := i - 1) ?_)
      rw [List.getElem?_tail, show i - 1 + 1 = i by omega, hiq]
    subst hi0
    refine ⟨by omega, fun h => ?_, by omega⟩
    have := hpb (by omega)
    omega
  · -- a kept symbol is none of the utility labels
    refine ⟨?_, fun hib => ?_, ?_⟩
    · rintro rfl
      rw [hpad] at hiq
      cases hiq
      simp [isKept, isAlnumText, hangle, punctuationMarks] at hk
    · have hb : 0 ≤ (make o).blank := by omega
      rw [show i = (make o).blank.toNat by omega, hblank hb] at hiq
      cases hiq
      simp [isKept, isAlnumText, hangle, punctuationMarks] at hk
    · rintro rfl
      rw [hoovAt] at hiq
      cases hiq
      simp only [isKept, hoovText.1, hoovText.2, Bool.false_or, beq_iff_eq, make_options,
        Bool.or_eq_true, Bool.and_eq_true, List.contains_iff_mem, false_and, false_or] at hk
      exact oov_not_mem_base hoov (List.mem_of_mem_tail (mem_baseLabels_of_punct o hk.2 (by simpa using hk.1)))

end Make

lemma keepSymbol_nil {p : String} (hp : v.isKept (v.unstressed p) = false) : v.keepSymbol [] p = [] := by
  simp only [isKept, Bool.or_eq_false_iff] at hp
  simp only [keepSymbol, List.isEmpty_nil, Bool.not_true, Bool.and_false, Bool.false_and,
    Bool.false_eq_true, if_false, hp.1, hp.2]

lemma foldl_keepSymbol_nil :
    ∀ phonemes : List String, (∀ p ∈ phonemes, v.isKept (v.unstressed p) = false) →
      phonemes.foldl v.keepSymbol [] = []
  | [], _ => rfl
  | p :: rest, h => by
    rw [List.foldl_cons, keepSymbol_nil (h p List.mem_cons_self)]
    exact foldl_keepSymbol_nil rest fun q hq => h q (List.mem_cons_of_mem p hq)

/-- An unpadded encoding fails on the last of no symbols when none is kept.  When one is kept,
with space and out-of-vocabulary labels that are neither letters, digits nor an apostrophe and
occur once among the labels, the ids are of ordinary labels, which start and end with no space
and have no two spaces running. -/
theorem encode_spaced_well (o : PhonemeOptions) (phonemes : List String) (hpad : o.padWithSpace = false)
    (hspace : (make o).labels.count o.space = 1) (hoov : (make o).labels.count o.oov = 1)
    (htext : ∀ l ∈ [o.space, o.oov], isAlnumText l = false ∧ l ≠ "'") :
    ((∀ p ∈ phonemes, (make o).isKept ((make o).unstressed p) = false) →
      (make o).encode phonemes = .error .listIndex) ∧
    ((∃ p ∈ phonemes, (make o).isKept ((make o).unstressed p) = true) →
      ∃ ids, (make o).encode phonemes = .ok ids ∧
        (∀ i ∈ ids, i < (make o).labels.length ∧ i ≠ (make o).pad ∧ (i : Int) ≠ (make o).blank ∧
          i ≠ (make o).oov) ∧
        WellSpaced o.space (ids.map fun i => (make o).labels.getD i "")) := by
  refine ⟨fun hnone => ?_, fun hkept => ?_⟩
  · simp [encode, foldl_keepSymbol_nil phonemes hnone, throw, throwThe, MonadExceptOf.throw]
  obtain ⟨hspText, hoovText⟩ : (isAlnumText o.space = false ∧ o.space ≠ "'") ∧
      (isAlnumText o.oov = false ∧ o.oov ≠ "'") := ⟨htext _ (by simp), htext _ (by simp)⟩
  -- the space is no kept symbol: not a letter label, and as punctuation it would repeat
  have hsp : (make o).isKept (make o).space = false := by
    have hq : (o.space == "'") = false := by simpa using hspText.2
    rw [make_space]
    cases hp : o.punct
    · simp [isKept, hspText.1, hq, make_options, hp]
    · have hmem : o.space ∉ punctuationMarks := fun hc =>
        space_not_mem_tail hspace (mem_labels_tail o (mem_baseLabels_of_punct o hp hc))
      simp [isKept, hspText.1, hq, hmem]
  obtain ⟨hrun, hword⟩ := Spaced.foldl hsp phonemes [] ⟨by simp, by simp, by simp⟩
  obtain ⟨⟨hne, hwell⟩, hspaced⟩ := hrun.trim (hword (Or.inr hkept))
  have hids := fun q hq => make_idOf hspace hoov hoovText (q := q)
    (by simpa [make_space] using hspaced.kept q hq)
  refine ⟨(((phonemes.foldl (make o).keepSymbol []).reverse.dropWhile
      (· == (make o).space)).reverse).map fun q => ((make o).idOf q).getD 0, ?_, ?_, ?_⟩
  · simp only [encode, make_options, hpad, Bool.false_eq_true, if_false]
    rw [if_neg (by simpa using hne)]
    apply mapM_ok_of_forall
    intro q hq
    obtain ⟨i, hi, -⟩ := hids q hq
    simp [hi, pure, Except.pure]
  · intro i hi
    obtain ⟨q, hq, rfl⟩ := List.mem_map.1 hi
    obtain ⟨j, hj, hjq, hjp, hjb, hjo⟩ := hids q hq
    simp only [hj, Option.getD_some]
    exact ⟨(List.getElem?_eq_some_iff.1 hjq).1, hjp, hjb, hjo⟩
  · have hmap : ∀ q ∈ ((phonemes.foldl (make o).keepSymbol []).reverse.dropWhile (· == (make o).space)).reverse,
        (make o).labels.getD (((make o).idOf q).getD 0) "" = q := by
      intro q hq
      obtain ⟨j, hj, hjq, -⟩ := hids q hq
      simp [hj, List.getD_eq_getElem?_getD, hjq]
    rw [List.map_map, ← make_space]
    convert hwell using 2
    exact (List.map_congr_left hmap).trans (List.map_id' _)

/-- A greeting with a space before punctuation and a trailing space encodes spaced well. -/
theorem encode_spaced_well_greeting :
    ∃ ids, (make {}).encode ["HH", "AH0", " ", ",", " "] = .ok ids ∧
      WellSpaced " " (ids.map fun i => (make {}).labels.getD i "") := by
  obtain ⟨ids, h, -, hw⟩ := (encode_spaced_well {} ["HH", "AH0", " ", ",", " "] rfl (by decide +kernel)
    (by decide +kernel) (by decide +kernel)).2 ⟨"HH", by simp, by decide +kernel⟩
  exact ⟨ids, h, hw⟩

-- an out-of-vocabulary label that is also a phoneme takes that phoneme's place
example : (make { oov := "AA" }).encode ["AA"] = .ok [(make { oov := "AA" }).oov] := by
  rfl

end Conversa.Speech.PhonemeVocabulary
