import Conversa.Proofs.ExampleIndependence
import Conversa.Proofs.Entries

/-!
# Cutting utterances, and the spans of free slots

An utterance is cut into naive pieces and every word among them into tokens; with a tokenizer
that cannot fail the cut aligns words and tokens both ways (`cutUtteranceBy_aligns`).  A free
slot's value is given by spans of characters of the user or system utterance; the status example
takes the system's positions first: `freeSlot_status_start_in_user_iff`.
-/

namespace Conversa.Dialogue
open Conversa.Language

/-! ## Cutting an utterance -/

/-- The token a character position is aligned with in a cut, if any. -/
def Cut.tokenAt (c : Cut) (x : Nat) : Option Int := (c.alignments.find? (·.1 == x)).map (·.2)

lemma exists_not_isSpace {s : String} (h : (Text.strip s).isEmpty = false) : ∃ c ∈ s.toList, Text.isSpace c = false := by
  by_contra hall
  simp only [not_exists, not_and, Bool.not_eq_false] at hall
  have : s.toList.dropWhile Text.isSpace = [] := List.dropWhile_eq_nil_iff.2 hall
  simp [Text.strip, this] at h

lemma cutPiece_blank (split : String → Result (List String)) (c : Cut) (pos : Nat) {p : String} (hb : (Text.strip p).isEmpty = true) :
    cutPiece split (c, pos) p = .ok (c, pos + p.length) := by
  simp only [cutPiece, hb, ↓reduceIte]
  rfl

lemma cutPiece_word (split : String → Result (List String)) (c : Cut) (pos : Nat) {p : String} {sw : List String}
    (hb : (Text.strip p).isEmpty = false) (hsw : split p = .ok sw) :
    cutPiece split (c, pos) p = .ok (⟨c.tokens ++ sw, putEntry (putEntry c.alignments pos c.tokens.length)
      (pos + p.length - 1) ((c.tokens ++ sw).length - 1 : Int), c.inverse ++ sw.map fun _ => (pos, pos + p.length - 1)⟩,
      pos + p.length) := by
  simp only [cutPiece, hb, Bool.false_eq_true, ↓reduceIte, hsw, Except.ok_bind]
  rfl

lemma length_pos_of_not_blank {p : String} (hp : (Text.strip p).isEmpty = false) : 0 < p.length := by
  obtain ⟨c, hc, -⟩ := exists_not_isSpace hp
  rw [← String.length_toList]
  exact List.length_pos_of_mem hc

/-- The words of pieces cut from `pos` on, each with its first and last character and the tokens
`tok` gives it; a blank piece is no word. -/
def pieceWords (tok : String → List String) : List String → Nat → List ((Nat × Nat) × List String)
  | [], _ => []
  | p :: ps, pos =>
    (if (Text.strip p).isEmpty then [] else [((pos, pos + p.length - 1), tok p)]) ++ pieceWords tok ps (pos + p.length)

/-- The last character of the word from `w.1` to `w.2`, whose tokens `sw` start at `o`, points at
its last token, and its first character, when it is another one, at its first. -/
def Cut.PointsAt (c : Cut) (o : Nat) (w : Nat × Nat) (sw : List String) : Prop :=
  c.tokenAt w.2 = some ((o + sw.length : Nat) - 1 : Int) ∧ (w.1 < w.2 → c.tokenAt w.1 = some o)

/-- The tokens of every word together, and the span of its word once for each token. -/
def wordTokens (W : List ((Nat × Nat) × List String)) : List String := W.flatMap (·.2)

def wordSpansOf (W : List ((Nat × Nat) × List String)) : List (Nat × Nat) := W.flatMap fun (w, sw) => sw.map fun _ => w

/-- After a word is cut, its last character points at the second put and its first at the first. -/
lemma tokenAt_putEntry₂ (c : Cut) (tokens : List String) (inverse : List (Nat × Nat)) (a b x : Nat) (n m : Int) :
    Cut.tokenAt ⟨tokens, putEntry (putEntry c.alignments a n) b m, inverse⟩ x =
      if x = b then some m else if x = a then some n else c.tokenAt x := by
  simp only [Cut.tokenAt, find_putEntry, beq_iff_eq]
  split_ifs <;> simp

/-- **Cutting pieces.**  From a cut `c` at `pos`, cutting pieces adds the tokens of their words in
order, the span of each word once for each of its tokens, keeps the alignments before `pos`, and
points both ends of every word at its tokens. -/
lemma foldlM_cutPiece_words (tok : String → List String) :
    ∀ (ps : List String) (c : Cut) (pos : Nat), ∃ c', ps.foldlM (cutPiece fun p => .ok (tok p)) (c, pos) =
      .ok (c', pos + (ps.map String.length).sum) ∧
      c'.tokens = c.tokens ++ wordTokens (pieceWords tok ps pos) ∧
      c'.inverse = c.inverse ++ wordSpansOf (pieceWords tok ps pos) ∧
      (∀ x < pos, c'.tokenAt x = c.tokenAt x) ∧
      ∀ pre w sw post, pieceWords tok ps pos = pre ++ (w, sw) :: post →
        c'.PointsAt (c.tokens.length + (wordTokens pre).length) w sw
  | [], c, pos => ⟨c, by simp [pieceWords, wordTokens, wordSpansOf]; rfl⟩
  | p :: ps, c, pos => by
    by_cases hb : (Text.strip p).isEmpty = true
    · obtain ⟨c', hfold, htok, hinv, hkeep, hpoint⟩ := foldlM_cutPiece_words tok ps c (pos + p.length)
      refine ⟨c', ?_, ?_, ?_, fun x hx => hkeep x (by omega), fun pre w sw post h => hpoint pre w sw post ?_⟩
      · rw [List.foldlM_cons, cutPiece_blank _ c pos hb, Except.ok_bind, hfold]; simp [Nat.add_assoc]
      · simpa [pieceWords, hb] using htok
      · simpa [pieceWords, hb] using hinv
      · simpa [pieceWords, hb] using h
    · have hb' : (Text.strip p).isEmpty = false := by simpa using hb
      have hp0 := length_pos_of_not_blank hb'
      obtain ⟨c', hfold, htok, hinv, hkeep, hpoint⟩ := foldlM_cutPiece_words tok ps
        ⟨c.tokens ++ tok p, putEntry (putEntry c.alignments pos c.tokens.length) (pos + p.length - 1)
          ((c.tokens ++ tok p).length - 1 : Int), c.inverse ++ (tok p).map fun _ => (pos, pos + p.length - 1)⟩
        (pos + p.length)
      -- the word's own positions lie before the rest of the pieces, which leave them alone
      have hown : ∀ x < pos + p.length, c'.tokenAt x = if x = pos + p.length - 1 then
          some ((c.tokens ++ tok p).length - 1 : Int) else if x = pos then some (c.tokens.length : Int)
          else c.tokenAt x := fun x hx => by rw [hkeep x hx, tokenAt_putEntry₂]
      refine ⟨c', ?_, ?_, ?_, fun x hx => ?_, fun pre w sw post h => ?_⟩
      · rw [List.foldlM_cons, cutPiece_word _ c pos hb' rfl, Except.ok_bind, hfold]; simp [Nat.add_assoc]
      · simp [htok, pieceWords, hb', wordTokens]
      · simp [hinv, pieceWords, hb', wordSpansOf]
      · rw [hown x (by omega), if_neg (by omega), if_neg (by omega)]
      · simp only [pieceWords, hb', Bool.false_eq_true, ↓reduceIte, List.singleton_append] at h
        cases pre with
        | nil =>
          obtain ⟨⟨rfl, rfl⟩, -⟩ := List.cons.inj h
          refine ⟨by rw [hown _ (by omega), if_pos rfl]; simp [wordTokens], fun hlt => ?_⟩
          rw [hown _ (by omega), if_neg (by omega), if_pos rfl]
          simp [wordTokens]
        | cons q pre =>
          rw [List.cons_append, List.cons.injEq] at h
          obtain ⟨rfl, h⟩ := h
          have := hpoint pre w sw post h
          simpa [wordTokens, Nat.add_assoc] using this


lemma join_naivePieces (u : String) : String.join (naivePieces u) = u := by
  have hjoin : ∀ l : List (List Char), String.join (l.map String.ofList) = String.ofList l.flatten := by
    intro l
    induction l with
    | nil => rfl
    | cons a l ih => simp [String.join_cons, ih, String.ofList_append]
  rw [naivePieces, hjoin, List.flatten_splitBy, String.ofList_toList]

/-- **Cutting an utterance.**  With a tokenizer that cannot fail, the pieces of an utterance join
back to it, the cut's tokens are its words' tokens in order, each word's span stands once for each
of its tokens, and every word points at its tokens. -/
theorem cutUtteranceBy_aligns (tok : String → List String) (u : String) :
    String.join (naivePieces u) = u ∧ ∃ c, cutUtteranceBy (fun p => .ok (tok p)) u = .ok c ∧
      c.tokens = wordTokens (pieceWords tok (naivePieces u) 0) ∧
      c.inverse = wordSpansOf (pieceWords tok (naivePieces u) 0) ∧ c.inverse.length = c.tokens.length ∧
      ∀ pre w sw post, pieceWords tok (naivePieces u) 0 = pre ++ (w, sw) :: post →
        c.PointsAt (wordTokens pre).length w sw := by
  obtain ⟨c, hfold, htok, hinv, -, hpoint⟩ := foldlM_cutPiece_words tok (naivePieces u) ⟨[], [], []⟩ 0
  refine ⟨join_naivePieces u, c, ?_, htok, hinv, ?_, fun pre w sw post h => ?_⟩
  · simp [cutUtteranceBy, hfold]
  · simp [htok, hinv, wordSpansOf, wordTokens, List.length_flatMap]
  · simpa using hpoint pre w sw post h

/-- A word of one character cut into two tokens: its one character points at the second. -/
theorem cutUtteranceBy_one_char_last :
    ∃ c, cutUtteranceBy (fun p => .ok ((ByteLevel.textToIds p).map toString)) "é" = .ok c ∧
      c.tokens = ["195", "169"] ∧ c.tokenAt 0 = some 1 := ⟨_, rfl, by decide +kernel, by decide +kernel⟩

/-! ## Spans of a frame -/

lemma same_str_iff {d : Data} {s : String} : Data.same d (.str s) = true ↔ d = .str s := by
  cases d <;> simp [Data.same, Data.scalar?]

/-- Where a span of a frame lies in an utterance, as slice bounds, when it is a span of `slot`. -/
def slotMark (utt slot : String) (span : Data) : Option (Int × Int) :=
  match span.key "slot", span.key "start", span.key "exclusive_end" with
  | .ok (.str s), .ok a, .ok e =>
    match sliceBound a 0, sliceBound e utt.length with
    | .ok a, .ok e => if s = slot then some (a, e) else none
    | _, _ => none
  | _, _, _ => none

/-- One span read: either nothing is found, or a span of the slot whose first token is among the
subwords gives its value its token positions. -/
lemma spanStep_ok {utt slot : String} {al : List (Nat × Int)} {n : Nat} {bias : Int}
    {found found' : List (String × Int × Int)} {span : Data}
    (h : spanStep utt al n bias slot found span = .ok found') :
    found' = found ∨ ∃ a e k1 k2, slotMark utt slot span = some (a, e) ∧ alignedToken al a = .ok k1 ∧
      alignedToken al (e - 1) = .ok k2 ∧ 0 ≤ k1 ∧ k1 < n ∧
      found' = putEntry found (Text.slice utt a e) (k1 + bias, min k2 ((n : Int) - 1) + bias) := by
  unfold spanStep at h
  simp only [Except.bind_eq_ok] at h
  obtain ⟨d, hd, h⟩ := h
  by_cases hsame : Data.same d (.str slot) = true
  · rw [same_str_iff] at hsame
    subst hsame
    simp only [Data.same, beq_self_eq_true, Bool.not_true, Bool.false_eq_true, ↓reduceIte, Except.bind_eq_ok] at h
    obtain ⟨ds, hds, a, ha, de, hde, e, he, k1, hk1, k2, hk2, h⟩ := h
    have hmark : slotMark utt slot span = some (a, e) := by simp [slotMark, hd, hds, hde, ha, he]
    split at h
    · rename_i hin
      simp only [Bool.and_eq_true, decide_eq_true_eq] at hin
      simp only [pure, Except.pure, Except.ok.injEq] at h
      exact .inr ⟨a, e, k1, k2, hmark, hk1, hk2, hin.1, hin.2, h.symm⟩
    · simp only [pure, Except.pure, Except.ok.injEq] at h
      exact .inl h.symm
  · simp only [hsame, Bool.not_false, ↓reduceIte, pure, Except.pure, Except.ok.injEq] at h
    exact .inl h.symm

section Boundaries

variable {utt : String} {spans : List Data} {al : List (Nat × Int)} {n : Nat} {bias : Int}

/-- One slot of a state update leaves the positions alone or sets its own to positions found
among the spans. -/
lemma slotBoundary_found {acc acc' : List (String × Int × Int)} {entry : String × Data}
    (h : slotBoundary utt spans al n bias acc entry = .ok acc') :
    ∃ found, spans.foldlM (spanStep utt al n bias entry.1) [] = .ok found ∧
      (acc' = acc ∨ ∃ x ∈ found, acc' = putEntry acc entry.1 x.2) := by
  obtain ⟨slot', values⟩ := entry
  simp only [slotBoundary, Except.bind_eq_ok] at h
  obtain ⟨found, hfound, vs, -, h⟩ := h
  refine ⟨found, hfound, ?_⟩
  split at h
  · split at h <;> simp only [pure, Except.pure, Except.ok.injEq] at h
    · rename_i hx
      exact .inr ⟨_, List.mem_of_find?_eq_some hx, h.symm⟩
    · exact .inl h.symm
  · simp only [pure, Except.pure, Except.ok.injEq] at h
    exact .inl h.symm

end Boundaries

/-! ## The span a status example takes -/

section StatusSpans

variable {utt slot : String} {spans : List Data} {al : List (Nat × Int)} {n : Nat} {bias : Int}

/-- Every position found starts among the `n` tokens from `bias` on. -/
def StartsWithin (bias : Int) (n : Nat) (found : List (String × Int × Int)) : Prop :=
  ∀ x ∈ found, bias ≤ x.2.1 ∧ x.2.1 < bias + n

lemma spanStep_within {found found' : List (String × Int × Int)} {span : Data}
    (h : spanStep utt al n bias slot found span = .ok found') (hf : StartsWithin bias n found) :
    StartsWithin bias n found' := by
  rcases spanStep_ok h with rfl | ⟨a, e, k1, k2, -, -, -, hk1, hk1n, rfl⟩
  · exact hf
  · intro x hx
    rcases mem_putEntry hx with hx | rfl
    · exact hf x hx
    · exact ⟨by simp; omega, by simp; omega⟩

/-- The positions found in an utterance of `n` tokens, shifted by `bias`, start among its
tokens. -/
lemma spanBoundaries_within {update : List (String × Data)} {found : List (String × Int × Int)}
    (h : spanBoundaries update utt spans al n bias = .ok found) : StartsWithin bias n found := by
  refine foldlM_ok_inv (StartsWithin bias n) (fun acc entry acc' _ hacc hstep => ?_) [] found
    (by simp [StartsWithin]) h
  obtain ⟨fs, hfs, rfl | ⟨x, hx, rfl⟩⟩ := slotBoundary_found hstep
  · exact hacc
  · have hfs' := foldlM_ok_inv (StartsWithin bias n) (fun _ _ _ _ hf hs => spanStep_within hs hf) [] fs
      (by simp [StartsWithin]) hfs
    intro y hy
    rcases mem_putEntry hy with hy | rfl
    · exact hacc y hy
    · exact hfs' x hx

/-- So do the positions found in the system utterance; without a system frame there are none. -/
lemma systemSpanBoundaries_within {cuts : TurnCuts} {s : ServiceTurn} {found : List (String × Int × Int)}
    (h : systemSpanBoundaries cuts s bias = .ok found) : StartsWithin bias cuts.system.tokens.length found := by
  unfold systemSpanBoundaries at h
  split at h
  · simp only [Except.bind_eq_ok] at h
    obtain ⟨_, -, _, -, h⟩ := h
    exact spanBoundaries_within h
  · simp only [pure, Except.pure, Except.ok.injEq] at h
    simp [← h, StartsWithin]

/-- A set free slot starts at the system utterance's position when one was found there, else
at the user utterance's, else at `0`. -/
lemma withFree_start {s : ServiceTurn} {sys usr : List (String × Int × Int)} {ex ex' : DialogueExample}
    {v : Option Data} (h : withFree s slot sys usr ex = .ok ex') (hset : statusOf s.update slot = .ok (.active, v)) :
    ex'.noncategoricalSlotStatus = .active ∧
      ex'.noncategoricalSlotValueStart = match sys.find? (·.1 == slot), usr.find? (·.1 == slot) with
        | some (_, span), _ => span.1
        | none, some (_, span) => span.1
        | none, none => 0 := by
  simp only [withFree, hset, Except.ok_bind, pure, Except.pure, Except.ok.injEq] at h
  subst h
  refine ⟨rfl, ?_⟩
  generalize sys.find? (·.1 == slot) = a
  generalize usr.find? (·.1 == slot) = a'
  rcases a with _ | ⟨_, span⟩ <;> rcases a' with _ | ⟨_, span'⟩ <;> rfl

/-- Where a set free slot starts, between positions found in the system utterance, which start
among its `n` tokens after `b > 0`, and in the user utterance, which start after those. -/
lemma pickedStart_in_user_iff {sys usr : List (String × Int × Int)} {b : Int} (hb : 0 < b)
    (hsys : StartsWithin b n sys) (husr : StartsWithin (b + n) m usr) :
    (b + n ≤ (match sys.find? (·.1 == slot), usr.find? (·.1 == slot) with
        | some (_, span), _ => span.1
        | none, some (_, span) => span.1
        | none, none => 0) ↔ slot ∉ sys.map (·.1) ∧ slot ∈ usr.map (·.1)) := by
  have hkey : ∀ found : List (String × Int × Int), slot ∈ found.map (·.1) ↔ (found.find? (·.1 == slot)).isSome := by
    intro found
    simp [List.find?_isSome]
  rw [hkey sys, hkey usr]
  rcases hs : sys.find? (·.1 == slot) with _ | ⟨k, p⟩
  · rcases hu : usr.find? (·.1 == slot) with _ | ⟨k', p'⟩
    · -- nothing found: the start is `0`, before the user utterance
      simp only [hs, hu, Option.isSome_none, Bool.false_eq_true, not_false_eq_true, true_and, iff_false, not_le]
      omega
    · have := husr _ (List.mem_of_find?_eq_some hu)
      dsimp only at this
      simp only [hs, hu, Option.isSome_none, Option.isSome_some, Bool.false_eq_true, not_false_eq_true, and_self, iff_true]
      omega
  · have := hsys _ (List.mem_of_find?_eq_some hs)
    dsimp only at this
    simp only [hs, Option.isSome_some, not_true_eq_false, false_and, iff_false, not_le]
    omega

end StatusSpans

/-- **A free slot's status example takes the system utterance's span first.**  For a free slot
the state update sets, its status example follows those built before it, and its value starts in
the user utterance, at or after `2 + d + |system tokens|` (`d` its description tokens), exactly
when the system utterance gives no position and the user utterance does. -/
theorem freeSlot_status_start_in_user_iff {t : Tokenizer} {c : ExampleConfig} {cuts : TurnCuts}
    {s : ServiceTurn} {training : Bool} {b b' : TurnBuild} {offs offs' : List DialogueExample}
    {slot : String} {i : Nat}
    (h : freeSlotExamples t c cuts s training (b, offs) (slot, i) = .ok (b', offs'))
    (hset : ∃ v, statusOf s.update slot = .ok (.active, v)) :
    ∃ ex rest, b'.examples = b.examples ++ ex :: rest ∧ ex.noncategoricalSlotStatus = .active ∧
      ∃ dc d su sys usr slots, cutUtterance t ex.systemUtterance = .ok dc ∧
        Features.truncatePair dc.tokens b.systemUserTokens (c.maxSeqLength - 3) = .ok (d, su) ∧
        systemSpanBoundaries cuts s (2 + d.length) = .ok sys ∧
        (s.userFrame.key "slots" >>= Data.elements) = .ok slots ∧
        spanBoundaries s.update cuts.userText slots cuts.user.alignments b.userTokens.length
          (2 + d.length + cuts.system.tokens.length) = .ok usr ∧
        ((2 + d.length + cuts.system.tokens.length : Int) ≤ ex.noncategoricalSlotValueStart ↔
          slot ∉ sys.map (·.1) ∧ slot ∈ usr.map (·.1)) := by
  obtain ⟨v, hset⟩ := hset
  simp only [freeSlotExamples, Except.bind_eq_ok] at h
  obtain ⟨desc, -, dc, hdc, ⟨e, d, su⟩, henc, hrest⟩ := h
  dsimp only at hrest
  obtain ⟨uf, huf, slots, hslots, usr, husr, sys, hsys, ex, hex, hrest⟩ := hrest
  obtain ⟨htr, hdesc, -, -⟩ := encode_spec henc e
  have hsame : ex.systemUtterance = desc := by
    have := withFree_encoding hex
    simp only [DialogueExample.encoding, Prod.mk.injEq] at this
    rw [this.2.1, hdesc]
  obtain ⟨hactive, hstart⟩ := withFree_start hex hset
  -- a set slot's example is kept at once, before the copy the value task reads
  have hoff : (SlotStatus.active == SlotStatus.off) = false := rfl
  have hon : (SlotStatus.active == SlotStatus.active) = true := rfl
  simp only [hactive, hoff, hon, Bool.false_eq_true, ite_false, Bool.or_true, ite_true, pure, Except.pure,
    Except.ok.injEq, Prod.mk.injEq] at hrest
  obtain ⟨rfl, -⟩ := hrest
  refine ⟨ex, _, List.append_assoc _ _ _, hactive, dc, d, su, sys, usr, slots, by rw [hsame]; exact hdc, htr,
    hsys, by rw [huf]; exact hslots, husr, ?_⟩
  rw [hstart]
  exact pickedStart_in_user_iff (by omega) (systemSpanBoundaries_within hsys) (spanBoundaries_within husr)

/-- A span of the slot `table` over the first four characters, `book`. -/
def bookSpans : Data :=
  .dict [("slots", .list [.dict [("slot", .str "table"), ("start", .int 0), ("exclusive_end", .int 4)]])]

/-- A turn whose system and user utterances are both `book`, each marked as the value of the free
slot `table`. -/
def bookTurn : ServiceTurn where
  schema :=
    { name := "Food", description := .null, json := .null, id := some 0, intents := [], intentDescriptions := [],
      slots := ["table"], slotDescriptions := [("table", .str "a")], categoricalSlots := [],
      nonCategoricalSlots := ["table"], categoricalValues := [] }
  baseId := "t"
  baseNum := []
  userFrame := bookSpans
  systemFrame := some bookSpans
  update := [("table", .list [.str "book"])]

/-- The cuts of `book`, of `book` again, and of the two together. -/
def bookCuts : TurnCuts :=
  ⟨⟨["book"], [(0, 0), (3, 0)], [(0, 3)]⟩, ⟨["book"], [(0, 0), (3, 0)], [(0, 3)]⟩,
    ⟨["book", "book"], [(0, 0), (3, 0), (5, 1), (8, 1)], [(0, 3), (5, 8)]⟩, "book", "book"⟩

/-- Both utterances of `bookTurn` mark the value of `table`. -/
theorem freeSlot_status_start_in_user_iff_book :
    ∃ r : TurnBuild × List DialogueExample,
      freeSlotExamples bookingTokenizer ⟨12, 6⟩ bookCuts bookTurn false (⟨[], ["book"], ["book", "book"]⟩, [])
        ("table", 0) = .ok r ∧ (∃ v, statusOf bookTurn.update "table" = .ok (.active, v)) ∧
      ∃ ex rest, r.1.examples = [] ++ ex :: rest ∧ ex.noncategoricalSlotStatus = .active ∧
        ∃ dc d su sys usr slots, cutUtterance bookingTokenizer ex.systemUtterance = .ok dc ∧
          Features.truncatePair dc.tokens ["book", "book"] (12 - 3) = .ok (d, su) ∧
          systemSpanBoundaries bookCuts bookTurn (2 + d.length) = .ok sys ∧
          (bookSpans.key "slots" >>= Data.elements) = .ok slots ∧
          spanBoundaries bookTurn.update "book" slots bookCuts.user.alignments 1 (2 + d.length + 1) = .ok usr ∧
          ((2 + d.length + 1 : Int) ≤ ex.noncategoricalSlotValueStart ↔
            "table" ∉ sys.map (·.1) ∧ "table" ∈ usr.map (·.1)) := by
  obtain ⟨r, hr⟩ : ∃ r, freeSlotExamples bookingTokenizer ⟨12, 6⟩ bookCuts bookTurn false
      (⟨[], ["book"], ["book", "book"]⟩, []) ("table", 0) = .ok r := ⟨_, rfl⟩
  have hset : ∃ v, statusOf bookTurn.update "table" = .ok (.active, v) := ⟨_, rfl⟩
  exact ⟨r, hr, hset, freeSlot_status_start_in_user_iff hr hset⟩

end Conversa.Dialogue
