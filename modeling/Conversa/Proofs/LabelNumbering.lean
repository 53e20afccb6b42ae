import Mathlib
import Conversa.Speech.Collection

/-!
# Numbering labels

**Character parsers** split the normalised text at every space, number a word that is a label of
several characters whole and others character by character, with the space's number between
words; the numbers name labels and spell the text back (`parse_spells_text`, from
`wordIds_names` and the `List.intercalate` lemmas).  **Relative speaker labels** number words by
first occurrence: `Relabelled` is the invariant of the fold (`relabelled_relativeLabels`),
read back in `relativeLabels_first_occurrence`.
-/

namespace List

variable {α β : Type}

lemma map_intercalate (f : α → β) (sep : List α) :
    ∀ xs : List (List α), (sep.intercalate xs).map f = (sep.map f).intercalate (xs.map (List.map f))
  | [] => rfl
  | [_] => by simp
  | x :: y :: zs => by simp [map_intercalate f sep (y :: zs)]

lemma flatMap_intercalate (f : α → List β) (sep : List α) :
    ∀ xs : List (List α), (sep.intercalate xs).flatMap f = (sep.flatMap f).intercalate (xs.map (List.flatMap f))
  | [] => rfl
  | [_] => by simp
  | x :: y :: zs => by simp [flatMap_intercalate f sep (y :: zs)]

/-- Every element of a list joined by `s` satisfies what every element of the parts satisfies,
and what `s` satisfies when there are two parts or more. -/
lemma forall_mem_intercalate {P : α → Prop} {s : α} : ∀ {xs : List (List α)}, (∀ x ∈ xs, ∀ t ∈ x, P t) →
    (2 ≤ xs.length → P s) → ∀ t ∈ [s].intercalate xs, P t
  | [], _, _ => by simp
  | [x], hx, _ => by simpa using hx x (by simp)
  | x :: y :: zs, hx, hs => by
    simp only [intercalate_cons_cons, mem_append, mem_singleton]
    rintro t ((ht | rfl) | ht)
    · exact hx x (by simp) t ht
    · exact hs (by simp)
    · exact forall_mem_intercalate (fun x' hx' => hx x' (mem_cons_of_mem x hx')) (fun _ => hs (by simp)) t ht

lemma mem_intercalate_of_mem {sep w : List α} {c : α} (hc : c ∈ w) : ∀ {xs : List (List α)}, w ∈ xs →
    c ∈ sep.intercalate xs
  | [_], h => by simp_all
  | x :: y :: zs, h => by
    simp only [intercalate_cons_cons, mem_append]
    rcases mem_cons.1 h with rfl | h
    · exact Or.inl (Or.inl hc)
    · exact Or.inr (mem_intercalate_of_mem hc h)

lemma intercalate_eq_of_length_le_one {sep sep' : List α} : ∀ {xs : List (List α)}, xs.length ≤ 1 →
    sep.intercalate xs = sep'.intercalate xs
  | [], _ => rfl
  | [_], _ => by simp
  | _ :: _ :: _, h => by simp at h

end List

namespace Conversa.Language.CharParser

variable {p : CharParser}

/-- The label a number stands for; a number that names no label stands for the empty text. -/
def labelAt (p : CharParser) (t : Int) : String := (p.labels[t.toNat]?).getD ""

/-- The labels a word is spelled with: itself when it is a label of several characters, else its
characters. -/
def wordLabels (p : CharParser) (w : String) : List String :=
  if p.isLongLabel w then [w] else w.toList.map String.singleton

/-- A number names a label when it is a position of the labels. -/
def Names (p : CharParser) (t : Int) : Prop := 0 ≤ t ∧ t < p.labels.length

lemma idOr_of_mem {l : String} (h : l ∈ p.labels) : p.Names (p.idOr l) ∧ p.labelAt (p.idOr l) = l := by
  obtain ⟨n, hn⟩ : ∃ n, p.labelId? l = some n := Option.isSome_iff_exists.1 (Text.lastPosition_isSome h)
  have hl := Text.lastPosition_eq_some hn
  obtain ⟨hlt, -⟩ := List.getElem?_eq_some_iff.1 hl
  simp only [idOr, hn]
  exact ⟨⟨Int.natCast_nonneg n, by omega⟩, by simp [labelAt, hl]⟩

lemma mem_of_isLongLabel {w : String} (h : p.isLongLabel w = true) : w ∈ p.labels := by
  obtain ⟨l, hl, hw⟩ := List.any_eq_true.1 h
  simp only [Bool.and_eq_true, beq_iff_eq] at hw
  exact hw.2 ▸ hl

/-- A word whose characters are labels gets numbers that name labels, and they spell the word
as `wordLabels` does. -/
lemma wordIds_names {w : String} (hw : ∀ c ∈ w.toList, String.singleton c ∈ p.labels) :
    (∀ t ∈ p.wordIds w, p.Names t) ∧ (p.wordIds w).map p.labelAt = p.wordLabels w := by
  have hchars : (∀ t ∈ w.toList.map (fun c => p.idOr (String.singleton c)), p.Names t) ∧
      (w.toList.map fun c => p.idOr (String.singleton c)).map p.labelAt = w.toList.map String.singleton := by
    refine ⟨fun t ht => ?_, ?_⟩
    · obtain ⟨c, hc, rfl⟩ := List.mem_map.1 ht
      exact (idOr_of_mem (hw c hc)).1
    · rw [List.map_map]
      exact List.map_congr_left fun c hc => (idOr_of_mem (hw c hc)).2
  unfold wordIds wordLabels
  split
  · rename_i n hn
    split
    · -- a whole label of several characters
      rename_i hlong
      have := idOr_of_mem (mem_of_isLongLabel hlong)
      simp only [idOr, hn] at this
      simpa using this
    · exact hchars
  · rename_i hn
    have hlong : p.isLongLabel w = false := by
      cases hl : p.isLongLabel w
      · rfl
      · exact absurd hn (Option.isSome_iff_ne_none.1 (Text.lastPosition_isSome (mem_of_isLongLabel hl)))
    simpa [hlong] using hchars

lemma flatMap_wordLabels (w : String) : (p.wordLabels w).flatMap String.toList = w.toList := by
  unfold wordLabels
  split
  · simp
  · induction w.toList with
    | nil => rfl
    | cons c cs ih => simp [ih]

/-- **A parser reads a text into numbers that spell it back.**  For a plain normalising parser
that drops no label's number, a text whose normalised characters are labels is read into numbers
naming labels: the words with the space between, a word that is a long label whole, others
character by character, and so, joined, the normalised text. -/
theorem parse_spells_text (p : CharParser) (s : String) (hn : p.normalize = true) (hk : p.kind = .plain)
    (hblank : p.blankId < 0 ∨ p.labels.length ≤ p.blankId)
    (hchars : ∀ c ∈ (p.normalizeText s).toList, String.singleton c ∈ p.labels) :
    ∃ ids, p.parse s = some ids ∧ (∀ t ∈ ids, 0 ≤ t ∧ t < p.labels.length) ∧
      ids.map p.labelAt = [" "].intercalate
        (((p.normalizeText s).toList.splitOn ' ').map fun w => p.wordLabels (String.ofList w)) ∧
      String.join (ids.map p.labelAt) = p.normalizeText s := by
  set t := p.normalizeText s
  set words := t.toList.splitOn ' '
  -- the space's number is read only between two words, and then the text has a space
  have hspace : 2 ≤ words.length → p.Names (p.idOr " ") ∧ p.labelAt (p.idOr " ") = " " := by
    intro h2
    by_cases hs : ' ' ∈ t.toList
    · exact idOr_of_mem (hchars ' ' hs)
    · simp [words, List.splitOn_eq_singleton hs] at h2
  have hwords : ∀ w ∈ words, (∀ x ∈ p.wordIds (String.ofList w), p.Names x) ∧
      (p.wordIds (String.ofList w)).map p.labelAt = p.wordLabels (String.ofList w) := by
    intro w hw
    refine wordIds_names fun c hc => hchars c ?_
    have ht : [' '].intercalate words = t.toList := List.intercalate_splitOn ' '
    rw [← ht]
    exact List.mem_intercalate_of_mem (by simpa using hc) hw
  set ids := [p.idOr " "].intercalate (words.map fun w => p.wordIds (String.ofList w))
  have hnames : ∀ x ∈ ids, p.Names x :=
    List.forall_mem_intercalate (by simpa using fun w hw => (hwords w hw).1) (by simpa using fun h => (hspace h).1)
  have hfilter : ids.filter (· != p.blankId) = ids := by
    refine List.filter_eq_self.2 fun x hx => ?_
    have := hnames x hx
    simp only [Names] at this
    simp only [bne_iff_ne, ne_eq]
    omega
  have hmap : ids.map p.labelAt = [" "].intercalate (words.map fun w => p.wordLabels (String.ofList w)) := by
    have hparts : words.map (List.map p.labelAt ∘ fun w => p.wordIds (String.ofList w)) =
        words.map fun w => p.wordLabels (String.ofList w) :=
      List.map_congr_left fun w hw => (hwords w hw).2
    rw [List.map_intercalate, List.map_map, hparts]
    rcases Nat.lt_or_ge words.length 2 with h | h
    · exact List.intercalate_eq_of_length_le_one (by simpa using Nat.le_of_lt_succ h)
    · simp [hspace h]
  refine ⟨_, by simp only [parse, hn, hk, ↓reduceIte]; exact congrArg some hfilter,
    fun x hx => hnames x hx, hmap, ?_⟩
  -- spelled out, the words with spaces between are the text
  apply String.toList_injective
  rw [hmap, String.toList_join, List.flatMap_intercalate, List.map_map]
  have hparts : words.map (List.flatMap String.toList ∘ fun w => p.wordLabels (String.ofList w)) = words :=
    (List.map_congr_left (g := id) fun w _ => by simp [flatMap_wordLabels]).trans (List.map_id words)
  rw [hparts, show [" "].flatMap String.toList = [' '] by decide]
  exact List.intercalate_splitOn ' '

/-- A parser of the letters `a` and `b`, the space and the word `ab`, that keeps case. -/
def abParser : CharParser := { labels := ["a", "b", " ", "ab"], lowercase := false }

/-- `ab a` is read as the label `ab`, the space and `a`. -/
theorem parse_spells_text_ab :
    (abParser.normalize = true ∧ abParser.kind = .plain ∧
      (abParser.blankId < 0 ∨ abParser.labels.length ≤ abParser.blankId) ∧
      ∀ c ∈ (abParser.normalizeText "ab a").toList, String.singleton c ∈ abParser.labels) ∧
    ∃ ids, abParser.parse "ab a" = some ids ∧ ids.map abParser.labelAt = ["ab", " ", "a"] ∧
      String.join (ids.map abParser.labelAt) = "ab a" := by
  have hchars : ∀ c ∈ (abParser.normalizeText "ab a").toList, String.singleton c ∈ abParser.labels := by
    -- checked as a walk over the characters, not over every character there is
    have h : ((abParser.normalizeText "ab a").toList.all fun c => String.singleton c ∈ abParser.labels) = true := by
      decide +kernel
    simpa using h
  obtain ⟨ids, hp, -, hmap, hjoin⟩ := parse_spells_text abParser "ab a" rfl rfl (by decide) hchars
  refine ⟨⟨rfl, rfl, by decide, hchars⟩, ids, hp, ?_, hjoin⟩
  rw [hmap]
  decide +kernel

end Conversa.Language.CharParser

namespace Conversa.Speech

/-- The least label above every label used: one more than the greatest, `0` before any. -/
def nextLabel (r : List Nat) : Nat := r.foldl (fun m x => max m (x + 1)) 0

lemma nextLabel_append_singleton (r : List Nat) (x : Nat) :
    nextLabel (r ++ [x]) = max (nextLabel r) (x + 1) := by
  simp [nextLabel, List.foldl_append]

/-- What labelling words relatively keeps: the distinct words `d` are the words, each once; every
word is labelled by its place in `d`; and every label is at most the next free one after the
labels before it, the next free one being the number of distinct words. -/
structure Relabelled (ws : List String) (r : List Nat) (d : List String) : Prop where
  nodup : d.Nodup
  mem_iff : ∀ w, w ∈ d ↔ w ∈ ws
  labels : r = ws.map d.idxOf
  next : nextLabel r = d.length
  fresh : ∀ i (h : i < r.length), r.get ⟨i, h⟩ ≤ nextLabel (r.take i)

lemma idxOf?_eq_ite (d : List String) (w : String) :
    d.idxOf? w = if w ∈ d then some (d.idxOf w) else none := by
  induction d with
  | nil => simp
  | cons x xs ih => grind

/-- One more word is labelled by its first place among the distinct words, a new word by the
next label. -/
lemma relativeLabels_append_singleton (ws : List String) (w : String) :
    relativeLabels (ws ++ [w]) =
      if w ∈ (relativeLabels ws).2 then
        ((relativeLabels ws).1 ++ [(relativeLabels ws).2.idxOf w], (relativeLabels ws).2)
      else ((relativeLabels ws).1 ++ [(relativeLabels ws).2.length], (relativeLabels ws).2 ++ [w]) := by
  unfold relativeLabels
  rw [List.foldl_append, List.foldl_cons, List.foldl_nil]
  generalize List.foldl _ ([], []) ws = acc
  by_cases hw : w ∈ acc.2 <;> simp [hw, idxOf?_eq_ite]

lemma fresh_append {r : List Nat} {x : Nat} (hr : ∀ i (h : i < r.length), r.get ⟨i, h⟩ ≤ nextLabel (r.take i))
    (hx : x ≤ nextLabel r) : ∀ i (h : i < (r ++ [x]).length), (r ++ [x]).get ⟨i, h⟩ ≤ nextLabel ((r ++ [x]).take i) := by
  intro i h
  simp only [List.length_append, List.length_singleton] at h
  rcases Nat.lt_or_ge i r.length with hi | hi
  · simpa [List.getElem_append_left hi, List.take_append_of_le_length hi.le] using hr i hi
  · obtain rfl : i = r.length := by omega
    simpa using hx

/-- **Relabelling words keeps `Relabelled`**, by induction on the words from the end. -/
theorem relabelled_relativeLabels (ws : List String) :
    Relabelled ws (relativeLabels ws).1 (relativeLabels ws).2 := by
  induction ws using List.reverseRecOn with
  | nil => exact ⟨List.nodup_nil, by simp [relativeLabels], rfl, rfl, by simp [relativeLabels]⟩
  | append_singleton ws w ih =>
    obtain ⟨hnd, hmem, hr, hnext, hfresh⟩ := ih
    rw [relativeLabels_append_singleton]
    generalize relativeLabels ws = p at *
    obtain ⟨r, d⟩ := p
    dsimp only at *
    by_cases hw : w ∈ d
    · -- a word seen before keeps its label
      simp only [hw, if_true]
      have hlt := List.idxOf_lt_length_of_mem hw
      refine ⟨hnd, fun x => ?_, by simp [hr], by rw [nextLabel_append_singleton]; omega,
        fresh_append hfresh (by omega)⟩
      rw [hmem]
      simp only [List.mem_append, List.mem_singleton]
      exact ⟨Or.inl, fun h => h.elim id fun h => h ▸ (hmem w).1 hw⟩
    · -- a new word takes the next label
      simp only [hw, if_false]
      refine ⟨hnd.append (List.nodup_singleton w) (by simpa using hw), fun x => by simp [hmem], ?_,
        by rw [nextLabel_append_singleton]; simp; omega, fresh_append hfresh (by omega)⟩
      rw [hr, List.map_append, List.map_singleton, List.idxOf_append_of_notMem hw]
      congr 1
      · exact List.map_congr_left fun x hx => (List.idxOf_append_of_mem ((hmem x).2 hx)).symm
      · simp

/-- **Relative speaker labels number the words by first occurrence.**  The words of a label
sequence (its `Text.words`, or any words) get one label each, the same label exactly for the same
word, each at most one above every label before it, the first `0`; and the distinct words
returned are the words, each once. -/
theorem relativeLabels_first_occurrence (ws : List String) :
    (relativeLabels ws).1.length = ws.length ∧
      (∀ i j : Nat, (relativeLabels ws).1[i]? = (relativeLabels ws).1[j]? ↔ ws[i]? = ws[j]?) ∧
      (∀ i (h : i < (relativeLabels ws).1.length),
        (relativeLabels ws).1.get ⟨i, h⟩ ≤ nextLabel ((relativeLabels ws).1.take i)) ∧
      (relativeLabels ws).2.Nodup ∧ ∀ w, w ∈ (relativeLabels ws).2 ↔ w ∈ ws := by
  obtain ⟨hnd, hmem, hr, -, hfresh⟩ := relabelled_relativeLabels ws
  refine ⟨by simp [hr], fun i j => ?_, hfresh, hnd, hmem⟩
  simp only [hr, List.getElem?_map]
  -- two words have the same place among the distinct words exactly when they are the same
  rcases hi : ws[i]? with _ | x <;> rcases hj : ws[j]? with _ | y <;> simp only [Option.map_none, Option.map_some,
    reduceCtorEq, Option.some.injEq]
  exact List.idxOf_inj ((hmem x).2 (List.mem_of_getElem? hi))

end Conversa.Speech
