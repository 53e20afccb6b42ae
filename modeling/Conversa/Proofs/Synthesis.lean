import Mathlib
import Conversa.Speech.Synthesis

/-!
# Speech synthesis: the two alignment searches, and reading a sequence back

The checked search (`mas`) takes each predecessor by an argmax, where NaN counts as greatest; the
width-one search compares with `≥`, where NaN never wins (`windowChoice_one_eq_stepChoice_iff`).
Off NaN they agree (`searchPointers_window_one_eq`): **`alignment_window_one_eq_step`**.  Reading
a sequence back squeezes runs of blanks (`Text.squeeze_isChain`), so it reads back as itself
exactly without two blanks in a row (**`textToSequence_sequenceText_iff`**).
-/

namespace Float.Model.UnpackedFloat

theorem compare_swap (a b : UnpackedFloat) : a.compare b = (b.compare a).map Ordering.swap := by
  rcases a with s₁ | _ | s₁ | ⟨s₁, m₁, e₁, _⟩ <;> rcases b with s₂ | _ | s₂ | ⟨s₂, m₂, e₂, _⟩ <;>
    (try cases s₁) <;> (try cases s₂) <;>
    simp [UnpackedFloat.compare, Ordering.swap_then, Int.compare_swap, Nat.compare_swap] <;> rfl

theorem lt_eq_not_le {a b : UnpackedFloat} (ha : a.isNaN = false) (hb : b.isNaN = false) :
    a.lt b = !b.le a := by
  -- only a NaN is incomparable
  have hsome : (a.compare b).isSome := by
    rcases a with s₁ | _ | s₁ | ⟨s₁, m₁, e₁, _⟩ <;> rcases b with s₂ | _ | s₂ | ⟨s₂, m₂, e₂, _⟩ <;>
      (try cases s₁) <;> (try cases s₂) <;> simp_all [UnpackedFloat.compare, isNaN]
  obtain ⟨o, ho⟩ := Option.isSome_iff_exists.mp hsome
  rw [UnpackedFloat.lt, UnpackedFloat.le, compare_swap b a, ho]
  cases o <;> rfl

theorem le_eq_false_of_isNaN {a b : UnpackedFloat} (h : a.isNaN = true ∨ b.isNaN = true) :
    a.le b = false := by
  rcases h with h | h <;> cases a <;> cases b <;> simp_all [UnpackedFloat.le, UnpackedFloat.compare, isNaN]

end Float.Model.UnpackedFloat

namespace Float

theorem lt_iff_not_le_of_not_isNaN {x y : Float} (hx : x.isNaN = false) (hy : y.isNaN = false) :
    x < y ↔ ¬ y ≤ x := by
  change decide (x.toModel.unpack.lt y.toModel.unpack = true) = true ↔
    ¬ decide (y.toModel.unpack.le x.toModel.unpack = true) = true
  rw [Float.Model.UnpackedFloat.lt_eq_not_le hx hy]
  simp

theorem not_le_of_isNaN {x y : Float} (h : x.isNaN = true ∨ y.isNaN = true) : ¬ x ≤ y := by
  change ¬ decide (x.toModel.unpack.le y.toModel.unpack = true) = true
  rw [Float.Model.UnpackedFloat.le_eq_false_of_isNaN h]
  simp

end Float

namespace Conversa.Speech

/-! ### One cell -/

lemma firstGreatest_singleton (base : Nat) (a : Float) : firstGreatest base [a] = base := by
  simp [firstGreatest]

lemma firstGreatest_pair (base : Nat) (a b : Float) :
    firstGreatest base [a, b] = if !a.isNaN && (b.isNaN || b > a) then base + 1 else base := by
  simp only [firstGreatest, List.zipIdx_cons, List.zipIdx_nil, List.foldl_cons, List.foldl_nil]
  split_ifs <;> simp [Nat.add_comm]

lemma windowChoice_one_succ {prev : List Float} {j : Nat} (hj : j + 1 < prev.length) :
    windowChoice 1 prev (j + 1) = firstGreatest j [prev[j], prev[j + 1]] := by
  simp only [windowChoice, Nat.add_sub_cancel, show j + 1 + 1 - j = 2 by omega]
  rw [List.drop_eq_getElem_cons (by omega), List.drop_eq_getElem_cons hj]
  rfl

lemma stepChoice_succ {prev : List Float} {j : Nat} (hj : j + 1 < prev.length) :
    stepChoice prev (j + 1) = if prev[j + 1] ≤ prev[j] then j else j + 1 := by
  simp [stepChoice, List.getD_eq_getElem?_getD, List.getElem?_eq_getElem hj,
    List.getElem?_eq_getElem (show j < prev.length by omega)]

/-- The two rules choose alike at a cell exactly when the score to its left in the frame before
is not NaN: a NaN there wins the argmax and loses the comparison. -/
theorem windowChoice_one_eq_stepChoice_iff {prev : List Float} {j : Nat} (hj : j < prev.length) :
    windowChoice 1 prev j = stepChoice prev j ↔ j = 0 ∨ (prev.getD (j - 1) 0.0).isNaN = false := by
  cases j with
  | zero =>
    obtain ⟨a, rest, rfl⟩ := List.exists_cons_of_length_pos hj
    simp [windowChoice, stepChoice, firstGreatest_singleton]
  | succ j =>
    rw [windowChoice_one_succ hj, firstGreatest_pair, stepChoice_succ hj]
    simp only [Nat.add_sub_cancel, List.getD_eq_getElem?_getD,
      List.getElem?_eq_getElem (show j < prev.length by omega), Option.getD_some]
    cases ha : prev[j].isNaN
    · cases hb : prev[j + 1].isNaN
      · -- two numbers: `b > a` exactly when not `b ≤ a`
        have hlt := Float.lt_iff_not_le_of_not_isNaN ha hb
        by_cases hle : prev[j + 1] ≤ prev[j] <;> simp_all [GT.gt]
      · simp [Float.not_le_of_isNaN (Or.inl hb)]
    · simp [Float.not_le_of_isNaN (Or.inr ha)]

/-! ### A whole search -/

/-- The scores of every frame of a search, from the first frame's log-probabilities on. -/
def searchFrames {α : Type} [Add α] [Inhabited α] (choose : List α → Nat → Nat) (prev : List α) :
    List (List α) → List (List α)
  | [] => [prev]
  | logs :: rest => prev :: searchFrames choose (frameScores choose prev logs).1 rest

@[simp] lemma frameScores_length {α : Type} [Add α] [Inhabited α] (choose : List α → Nat → Nat)
    (prev logs : List α) :
    (frameScores choose prev logs).1.length = logs.length := by
  simp [frameScores]

lemma frameScores_congr {c₁ c₂ : List Float → Nat → Nat} {prev logs : List Float}
    (h : ∀ j < logs.length, c₁ prev j = c₂ prev j) :
    frameScores c₁ prev logs = frameScores c₂ prev logs := by
  have hcells : logs.zipIdx.map (fun e => (e.1 + prev.getD (c₁ prev e.2) default, c₁ prev e.2)) =
      logs.zipIdx.map (fun e => (e.1 + prev.getD (c₂ prev e.2) default, c₂ prev e.2)) :=
    List.map_congr_left fun e he => by rw [h e.2 (List.mem_zipIdx' he).1]
  simp only [frameScores, hcells]

/-- A search whose scores are never NaN takes the same predecessors under both rules. -/
theorem searchPointers_window_one_eq {prev : List Float} {rest : List (List Float)}
    (hlen : ∀ logs ∈ rest, logs.length = prev.length)
    (hnan : ∀ frame ∈ searchFrames stepChoice prev rest, ∀ x ∈ frame, x.isNaN = false) :
    searchPointers (windowChoice 1) prev rest = searchPointers stepChoice prev rest := by
  induction rest generalizing prev with
  | nil => rfl
  | cons logs rest ih =>
    -- the frame before holds no NaN, so the rules choose alike at every symbol of this frame
    have hframe : frameScores (windowChoice 1) prev logs = frameScores stepChoice prev logs := by
      apply frameScores_congr
      intro j hj
      have hj' : j < prev.length := hlen logs (by simp) ▸ hj
      refine (windowChoice_one_eq_stepChoice_iff hj').2 ?_
      rcases j with _ | j
      · exact .inl rfl
      · refine .inr (hnan prev (by simp [searchFrames]) _ ?_)
        simp [List.getD_eq_getElem?_getD, List.getElem?_eq_getElem (show j < prev.length by omega)]
    simp only [searchPointers, hframe]
    congr 1
    apply ih
    · intro l hl
      rw [frameScores_length, hlen logs (by simp), hlen l (by simp [hl])]
    · intro frame hf
      exact hnan frame (by simp [searchFrames, hf])

end Conversa.Speech

/-! ## The text front end -/

theorem String.join_map_singleton (l : List Char) : String.join (l.map String.singleton) = String.ofList l := by
  rw [← String.toList_inj]
  simp [String.toList_join, List.flatMap_map]

namespace Conversa.Text

/-- Squeezing keeps one character for each run: a blank for a run of white space, else the run's only character. -/
lemma squeeze_eq_map (p : Char → Bool) (cs : List Char) :
    squeeze p cs = (cs.splitBy fun a b => p a && p b).map fun m => if p (m.headD ' ') then ' ' else m.headD ' ' := by
  rw [squeeze, List.map_eq_flatMap]
  apply List.flatMap_congr
  intro m hm
  obtain ⟨c, rest, rfl⟩ := List.exists_cons_of_ne_nil (List.ne_nil_of_mem_splitBy hm)
  -- a run of characters without `p` has one character: neighbours in a run both have `p`
  have hrest : ¬ p c → rest = [] := by
    intro hc
    cases rest with
    | nil => rfl
    | cons d rest =>
      have := (List.isChain_cons_cons.1 (List.isChain_of_mem_splitBy hm)).1
      simp_all
  by_cases hc : p c
  · simp [hc]
  · simp [hc, hrest hc]

lemma squeeze_eq_self {p : Char → Bool} {cs : List Char} (hsp : ∀ c ∈ cs, p c → c = ' ')
    (hc : cs.IsChain fun a b => ¬ (p a ∧ p b)) : squeeze p cs = cs := by
  have hsplit : (cs.splitBy fun a b => p a && p b) = cs.map ([·]) := by
    refine List.splitBy_eq_iff.2 ⟨by rw [← List.flatMap_def, List.flatMap_singleton'], by simp,
      by simp, ?_⟩
    rw [List.isChain_map]
    exact hc.imp fun a b h => ⟨List.cons_ne_nil _ _, List.cons_ne_nil _ _, by simpa using h⟩
  rw [squeeze_eq_map, hsplit, List.map_map]
  conv_rhs => rw [← List.map_id cs]
  refine List.map_congr_left fun c hc' => ?_
  by_cases h : p c
  · rw [hsp c hc' h]
    exact ite_self _
  · simp [h]

lemma forall_of_isChain {p : Char → Bool} {c : Char} {l : List Char}
    (h : (c :: l).IsChain fun a b => p a && p b) (hc : p c) : ∀ x ∈ c :: l, p x := by
  induction l generalizing c with
  | nil => simpa using hc
  | cons d l ih =>
    obtain ⟨hcd, hl⟩ := List.isChain_cons_cons.1 h
    have hd : p d := by simp_all
    intro x hx
    rcases List.mem_cons.1 hx with rfl | hx
    · exact hc
    · exact ih hl hd x hx

lemma squeeze_isChain (p : Char → Bool) (cs : List Char) :
    (squeeze p cs).IsChain fun a b => ¬ (p a ∧ p b) := by
  rw [squeeze_eq_map, List.isChain_map]
  refine (List.isChain_getLast_head_splitBy _ cs).imp_of_mem_imp fun m m' hm hm' ⟨ha, hb, hr⟩ => ?_
  obtain ⟨c, rest, rfl⟩ := List.exists_cons_of_ne_nil ha
  obtain ⟨c', rest', rfl⟩ := List.exists_cons_of_ne_nil hb
  -- two runs of white space in a row would have been one
  rintro ⟨h₁, h₂⟩
  have hc : p c := by by_cases h : p c <;> simp_all
  have hc' : p c' := by by_cases h : p c' <;> simp_all
  have hlast := forall_of_isChain (List.isChain_of_mem_splitBy hm) hc _ (List.getLast_mem ha)
  simp_all

lemma replaceText_of_not_mem {cs : List Char} (h : '\x7d' ∉ cs) :
    replaceText "\x7d\x7b" " " cs = cs := by
  induction cs with
  | nil => simp [replaceText, rewrite]
  | cons c cs ih =>
    have hc : c ≠ '\x7d' := fun e => h (e ▸ List.mem_cons_self)
    simp only [replaceText] at ih ⊢
    rw [rewrite]
    simpa [literal, Ne.symm hc] using ih fun h' => h (List.mem_cons_of_mem _ h')

lemma mem_squeeze {p : Char → Bool} {cs : List Char} {c : Char} (h : c ∈ squeeze p cs) :
    c = ' ' ∨ c ∈ cs := by
  rw [squeeze_eq_map] at h
  obtain ⟨m, hm, rfl⟩ := List.mem_map.1 h
  obtain ⟨d, rest, rfl⟩ := List.exists_cons_of_ne_nil (List.ne_nil_of_mem_splitBy hm)
  have hd : d ∈ cs := by
    rw [← List.flatten_splitBy (fun a b => p a && p b) cs]
    exact List.mem_flatten.2 ⟨_, hm, List.mem_cons_self⟩
  by_cases hp : p d <;> simp [hp, hd]

lemma lowerFrom_of_ascii {cs : List Char} (h : ∀ c ∈ cs, c.toNat < 128 ∧ c.toLower = c)
    (before : List Char) : lowerFrom before cs = cs := by
  induction cs generalizing before with
  | nil => rfl
  | cons c cs ih =>
    obtain ⟨h128, hlow⟩ := h c List.mem_cons_self
    rw [lowerFrom, if_neg (by simp; omega), lowerChar, if_pos h128, hlow,
      ih (fun d hd => h d (List.mem_cons_of_mem _ hd))]
    rfl

end Conversa.Text

namespace Conversa.Speech

/-- The characters of the plain symbols, in order. -/
def symbolChars : List Char :=
  ['_', '-', '!', Char.ofNat 39, '(', ')', ',', '.', ':', ';', '?', ' '] ++
    (List.range 26).map (fun i => Char.ofNat (65 + i)) ++ (List.range 26).map (fun i => Char.ofNat (97 + i))

/-- The character of a plain symbol's number. -/
def symbolChar (i : Nat) : Char := symbolChars.getD i ' '

lemma plainSymbols_eq : plainSymbols = symbolChars.map String.singleton := by decide +kernel

/-- The 64 plain symbols are ASCII characters other than braces, each found at its own number;
the blank, number 11, is the only white space, and the capitals, numbers 12 to 37, are the only
ones lower case changes. -/
lemma symbolChar_facts : ∀ i < 64, symbolChars.idxOf? (symbolChar i) = some i ∧
    (symbolChar i).toNat < 128 ∧ symbolChar i ≠ '\x7b' ∧ symbolChar i ≠ '\x7d' ∧
    Text.isSpace (symbolChar i) = (i == 11) ∧ (i < 12 ∨ 38 ≤ i → (symbolChar i).toLower = symbolChar i) := by
  decide +kernel

lemma idxOf?_plainSymbols (c : Char) :
    plainSymbols.idxOf? (String.singleton c) = symbolChars.idxOf? c := by
  rw [plainSymbols_eq]
  simp only [List.idxOf?, List.findIdx?_map]
  congr 1
  funext x
  simp [String.singleton_inj]

lemma mem_symbolChars {c : Char} (h : c ∈ symbolChars) : ∃ i < 64, symbolChar i = c := by
  obtain ⟨i, hi, rfl⟩ := List.mem_iff_getElem.1 h
  exact ⟨i, by simpa [symbolChars] using hi, by simp [symbolChar, hi]⟩

lemma spell_map_symbolChar {seq : List Nat} (hs : ∀ i ∈ seq, i < 64) :
    spell plainSymbols (String.ofList (seq.map symbolChar)) = seq := by
  simp only [spell, String.toList_ofList, List.filterMap_map]
  refine (List.filterMap_congr fun i hi => ?_).trans List.filterMap_some
  simp [idxOf?_plainSymbols, (symbolChar_facts i (hs i hi)).1]

lemma map_symbolChar_spell {cs : List Char} (hcs : ∀ c ∈ cs, c ∈ symbolChars) :
    (spell plainSymbols (String.ofList cs)).map symbolChar = cs := by
  induction cs with
  | nil => rfl
  | cons c cs ih =>
    obtain ⟨i, hi, rfl⟩ := mem_symbolChars (hcs c List.mem_cons_self)
    have h := ih fun d hd => hcs d (List.mem_cons_of_mem _ hd)
    simp only [spell, String.toList_ofList, idxOf?_plainSymbols] at h ⊢
    simp [(symbolChar_facts i hi).1, h]

/-- The text of plain symbol numbers: their characters, with no braces to merge. -/
lemma sequenceText_plain {seq : List Nat} (hs : ∀ i ∈ seq, i < 64) :
    sequenceText plainSymbols (seq.map Int.ofNat) = String.ofList (seq.map symbolChar) := by
  have hparts : (seq.map Int.ofNat).filterMap (fun i => if i < 0 then none else plainSymbols[i.toNat]?) =
      (seq.map symbolChar).map String.singleton := by
    rw [List.filterMap_map, List.map_map, ← List.filterMap_eq_map]
    refine List.filterMap_congr fun i hi => ?_
    have hi' : i < symbolChars.length := by simpa [symbolChars] using hs i hi
    simp [plainSymbols_eq, symbolChar, hi']
  have hkept : ∀ s ∈ (seq.map symbolChar).map String.singleton,
      (if s.length > 1 && s.startsWith "@" then "\x7b" ++ (s.drop 1).toString ++ "\x7d" else s) = s := by
    intro s hs'
    obtain ⟨c, -, rfl⟩ := List.mem_map.1 hs'
    simp
  simp only [sequenceText, hparts, List.map_congr_left hkept, List.map_id', String.join_map_singleton,
    String.toList_ofList]
  rw [Text.replaceText_of_not_mem]
  intro h
  obtain ⟨i, hi, hc⟩ := List.mem_map.1 h
  exact (symbolChar_facts i (hs i hi)).2.2.2.1 hc

lemma bracedPart_eq_none {cs : List Char} (h : '\x7b' ∉ cs) (before : List Char) :
    bracedPart before cs = none := by
  induction cs generalizing before with
  | nil => rfl
  | cons c cs ih =>
    have hc : c ≠ '\x7b' := fun e => h (e ▸ List.mem_cons_self)
    rw [bracedPart]
    split_ifs with h₁ h₂
    · rfl
    · exact absurd (by simpa using h₂) hc
    · exact ih (fun h' => h (List.mem_cons_of_mem _ h')) _

/-- A text of plain symbols other than capitals and braces reads as the numbers of its
characters, runs of white space squeezed to one blank. -/
lemma textToSequence_plain (cs : List Char) (hcs : ∀ c ∈ cs, c.toNat < 128 ∧ c.toLower = c)
    (hbrace : '\x7b' ∉ cs) :
    textToSequence plainSymbols none ["basic_cleaners"] (String.ofList cs) =
      .ok (spell plainSymbols (String.ofList (Text.squeeze Text.isSpace cs))) := by
  have hclean : cleanWith ["basic_cleaners"] (String.ofList cs) =
      .ok (String.ofList (Text.squeeze Text.isSpace cs)) := by
    simp [cleanWith, Cleaner.ofName?, Cleaner.run, Text.lower, Text.lowerFrom_of_ascii hcs]
  cases cs with
  | nil => rfl
  | cons c cs =>
    simp only [textToSequence, sequenceFrom, String.toList_ofList, bracedPart_eq_none hbrace, hclean]
    rfl

/-- **Reading back the text of a sequence.**  Without a pronouncing dictionary and with the basic
cleaners, the text of a sequence of plain symbols other than capitals reads back as the sequence
exactly when no two blanks stand next to each other: reading squeezes a run of blanks to one. -/
theorem textToSequence_sequenceText_iff (seq : List Nat)
    (hs : ∀ i ∈ seq, i < 12 ∨ 38 ≤ i ∧ i < 64) :
    textToSequence (symbolsOf false) none ["basic_cleaners"]
        (sequenceText (symbolsOf false) (seq.map Int.ofNat)) = .ok seq ↔
      seq.IsChain fun a b => ¬ (a = 11 ∧ b = 11) := by
  have h64 : ∀ i ∈ seq, i < 64 := fun i hi => by rcases hs i hi with h | h <;> omega
  have hfacts := fun i hi => symbolChar_facts i (h64 i hi)
  have hspace : ∀ i ∈ seq, Text.isSpace (symbolChar i) = (i == 11) :=
    fun i hi => (hfacts i hi).2.2.2.2.1
  -- the characters are ASCII, none a capital and none a brace
  have hcs : ∀ c ∈ seq.map symbolChar, c.toNat < 128 ∧ c.toLower = c := by
    intro c hc
    obtain ⟨i, hi, rfl⟩ := List.mem_map.1 hc
    obtain ⟨-, hascii, -, -, -, hlower⟩ := hfacts i hi
    exact ⟨hascii, hlower ((hs i hi).imp id And.left)⟩
  have hbrace : '\x7b' ∉ seq.map symbolChar := by
    intro hc
    obtain ⟨i, hi, he⟩ := List.mem_map.1 hc
    obtain ⟨-, -, hopen, -⟩ := hfacts i hi
    exact hopen he
  -- white space next to white space among the characters is a blank next to a blank
  have hchain : (seq.map symbolChar).IsChain (fun a b => ¬ (Text.isSpace a ∧ Text.isSpace b)) ↔
      seq.IsChain fun a b => ¬ (a = 11 ∧ b = 11) := by
    rw [List.isChain_map]
    constructor <;> intro h <;> refine h.imp_of_mem_imp fun a b ha hb hab => ?_ <;>
      simp_all [hspace a ha, hspace b hb]
  simp only [symbolsOf, Bool.false_eq_true, if_false, List.append_nil]
  rw [sequenceText_plain h64, textToSequence_plain _ hcs hbrace, Except.ok.injEq]
  constructor
  · -- a squeezed text has no white space next to white space, and it spells the sequence
    intro h
    have hmem : ∀ c ∈ Text.squeeze Text.isSpace (seq.map symbolChar), c ∈ symbolChars := by
      intro c hc
      rcases Text.mem_squeeze hc with rfl | hc
      · decide
      · obtain ⟨i, hi, rfl⟩ := List.mem_map.1 hc
        have hi' : i < symbolChars.length := by simpa [symbolChars] using h64 i hi
        simp [symbolChar, hi']
    have hsq := Text.squeeze_isChain Text.isSpace (seq.map symbolChar)
    rw [← map_symbolChar_spell hmem, h] at hsq
    exact hchain.1 hsq
  · intro h
    rw [Text.squeeze_eq_self ?_ (hchain.2 h), spell_map_symbolChar h64]
    intro c hc hsp
    obtain ⟨i, hi, rfl⟩ := List.mem_map.1 hc
    have : i = 11 := by simpa [hspace i hi] using hsp
    subst this
    rfl

/-- The sequence of `a # b`, whose mark has no symbol, holds two blanks in a row, which its text
does not give back. -/
theorem textToSequence_sequenceText_iff_two_blanks :
    textToSequence (symbolsOf false) none ["basic_cleaners"] "a # b" = .ok [38, 11, 11, 39] ∧
      (∀ i ∈ [38, 11, 11, 39], i < 12 ∨ 38 ≤ i ∧ i < 64) ∧
      (textToSequence (symbolsOf false) none ["basic_cleaners"]
          (sequenceText (symbolsOf false) ([38, 11, 11, 39].map Int.ofNat)) = .ok [38, 11, 11, 39] ↔
        [38, 11, 11, 39].IsChain fun a b => ¬ (a = 11 ∧ b = 11)) :=
  ⟨by decide +kernel, by decide, textToSequence_sequenceText_iff _ (by decide)⟩

end Conversa.Speech
