import Conversa.Features.Sentence
import Conversa.Proofs.Monadic

/-!
# The rows of sentence features

A sentence is its class token, sub-tokens and separator; under a positive limit the sub-tokens
are cut to the limit less the class token (`sentenceTokens_eq`), so a cut sentence comes out one
token over the limit (`sentenceFeatures_rows`).
-/

namespace Conversa.Features

open Conversa.Language

/-- The sub-tokens a sentence keeps between its class and separator tokens under a positive
limit: all of them when the two fit beside them, else as many as the limit less the class token
leaves. -/
theorem sentenceTokens_eq {t : TokenizerOps} {maxLen : Int} (hpos : 0 < maxLen) (words : List String) :
    sentenceTokens t maxLen words = (do
      let cls ← t.special .cls
      let sub ← (words.mapM t.textToTokens).map List.flatten
      let sep ← t.special .sep
      pure (cls :: (if (sub.length : Int) + 2 ≤ maxLen then sub else sub.take (maxLen.toNat - 1))
        ++ [sep])) := by
  simp only [sentenceTokens]
  cases t.special .cls with
  | error e => rfl
  | ok cls =>
    cases words.mapM t.textToTokens with
    | error e => rfl
    | ok body =>
      simp only [Except.ok_bind, Except.map]
      congr 1
      funext sep
      simp only [List.length_cons, Int.natCast_add, Int.natCast_one, Bool.and_eq_true, decide_eq_true_eq,
        gt_iff_lt]
      by_cases hfit : ((body.flatten.length : Int) + 2 ≤ maxLen)
      · rw [if_neg (by omega), if_pos hfit]
      · have hk : maxLen.toNat = maxLen.toNat - 1 + 1 := by omega
        rw [if_pos ⟨hpos, by omega⟩, if_neg hfit, hk, List.take_succ_cons]
        rfl

/-- **The rows of a sentence exceed a positive limit by one whenever its sub-tokens do not all
fit.**  Whatever the tokenizer, every sentence gets one feature: the class token, the sub-tokens kept and the separator,
with segment and mask rows as long.  It keeps all sub-tokens when they fit beside the two special
tokens, else the first `maxLen - 1`, giving rows of `maxLen + 1`. -/
theorem sentenceFeatures_rows {t : TokenizerOps} {sents : List (List String)} {maxLen : Int}
    {labels : List Data} {verbose : Bool} {fs : List SentenceFeature} (hpos : 0 < maxLen)
    (h : sentenceFeatures t sents maxLen labels verbose = .ok fs) :
    fs.length = sents.length ∧ ∀ p ∈ sents.zip fs, ∃ cls sep sub,
      t.special .cls = .ok cls ∧ t.special .sep = .ok sep ∧
      (p.1.mapM t.textToTokens).map List.flatten = .ok sub ∧
      (cls :: (if (sub.length : Int) + 2 ≤ maxLen then sub else sub.take (maxLen.toNat - 1)) ++
        [sep]).mapM t.charIds = .ok p.2.inputIds ∧
      p.2.segmentIds.length = p.2.inputIds.length ∧ p.2.inputMask.length = p.2.inputIds.length ∧
      ((p.2.inputIds.length : Int) ≤ maxLen ↔ (sub.length : Int) + 2 ≤ maxLen) := by
  -- the check for an empty result only ever fails
  obtain ⟨fs', hmap, hfs⟩ := Except.bind_eq_ok.1 h
  have hfs : fs' = fs := by
    split at hfs
    · cases hfs
    · simpa [pure, Except.pure] using hfs
  subst hfs
  obtain ⟨hlen, hrows⟩ := mapM_zipIdx_ok hmap
  refine ⟨hlen, fun p hp => ?_⟩
  obtain ⟨i, hrow⟩ := hrows p hp
  obtain ⟨toks, htoks, hrow'⟩ := Except.bind_eq_ok.1 hrow
  obtain ⟨ids, hids, hlast⟩ := Except.bind_eq_ok.1 hrow'
  clear hrow hrow' hrows hp
  rw [sentenceTokens_eq hpos] at htoks
  obtain ⟨cls, hcls, htoks⟩ := Except.bind_eq_ok.1 htoks
  obtain ⟨sub, hsub, htoks⟩ := Except.bind_eq_ok.1 htoks
  obtain ⟨sep, hsep, htoks⟩ := Except.bind_eq_ok.1 htoks
  simp only [pure, Except.pure, Except.ok.injEq] at htoks
  subst htoks
  -- the label read last leaves the three rows as the token numbers give them
  have hlabel : ∀ {e : Except Failure Data}, (e >>= fun label => pure (⟨ids, ids.map fun _ => 0,
      ids.map fun _ => 1, label⟩ : SentenceFeature)) = .ok p.2 →
      p.2.segmentIds.length = ids.length ∧ p.2.inputMask.length = ids.length ∧ p.2.inputIds = ids := by
    intro e he
    obtain ⟨label, -, he⟩ := Except.bind_eq_ok.1 he
    simp only [pure, Except.pure, Except.ok.injEq] at he
    simp [← he]
  have hsame : p.2.segmentIds.length = ids.length ∧ p.2.inputMask.length = ids.length ∧
      p.2.inputIds = ids := by
    dsimp only at hlast
    -- the labels of the first sentences may be read once more before the label is
    split at hlast
    · obtain ⟨-, -, hlast⟩ := Except.bind_eq_ok.1 hlast
      split at hlast <;> exact hlabel hlast
    · split at hlast <;> exact hlabel hlast
  obtain ⟨hseg, hmask, rfl⟩ := hsame
  refine ⟨cls, sep, sub, hcls, hsep, hsub, hids, hseg, hmask, ?_⟩
  have hn := mapM_ok_length hids
  simp only [List.length_cons, List.length_append, List.length_nil] at hn
  split at hn
  · omega
  · simp only [List.length_take] at hn
    omega

/-- A two-character sentence under a limit of two keeps one of its characters and gets three
token numbers. -/
theorem sentenceFeatures_rows_limit_two :
    ∃ (t : TokenizerOps) (fs : List SentenceFeature),
      t = Tokenizer.ops ⟨.characters, [("a", 0), ("b", 1), ("^", 2), ("$", 3)], [(.cls, "^"), (.sep, "$")]⟩ ∧
      fs = [⟨[[2], [0], [3]], [0, 0, 0], [1, 1, 1], .int (-1)⟩] ∧ (0 : Int) < 2 ∧
      sentenceFeatures t [["ab"]] 2 [] false = .ok fs ∧
      fs.length = [["ab"]].length ∧ ∀ p ∈ [["ab"]].zip fs, ∃ cls sep sub,
        t.special .cls = .ok cls ∧ t.special .sep = .ok sep ∧
        (p.1.mapM t.textToTokens).map List.flatten = .ok sub ∧
        (cls :: (if (sub.length : Int) + 2 ≤ 2 then sub else sub.take ((2 : Int).toNat - 1)) ++
          [sep]).mapM t.charIds = .ok p.2.inputIds ∧
        p.2.segmentIds.length = p.2.inputIds.length ∧ p.2.inputMask.length = p.2.inputIds.length ∧
        ((p.2.inputIds.length : Int) ≤ 2 ↔ (sub.length : Int) + 2 ≤ 2) :=
  have h : sentenceFeatures (Tokenizer.ops ⟨.characters, [("a", 0), ("b", 1), ("^", 2), ("$", 3)],
      [(.cls, "^"), (.sep, "$")]⟩) [["ab"]] 2 [] false =
      .ok [⟨[[2], [0], [3]], [0, 0, 0], [1, 1, 1], .int (-1)⟩] := rfl
  ⟨_, _, rfl, rfl, by decide, h, sentenceFeatures_rows (by decide) h⟩

end Conversa.Features
