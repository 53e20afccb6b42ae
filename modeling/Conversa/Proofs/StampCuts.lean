import Mathlib
import Conversa.Speech.Diarization
import Conversa.Proofs.Monadic

/-!
# Where overlapping stamps are cut

`contiguousStamps` rewrites only the start of the stamp after a cut, so each comparison sees a
stamp's own end and the next stamp's own start, and every cut depends on its two stamps alone
(`contiguousStamps_cut_pairwise`).  A stamp inside its predecessor then starts after it ends.
-/

namespace Conversa.Speech

/-- The cut between a stamp and the next: the middle of the first's end and the second's start
when the first runs past that start. -/
def stampCut (a b : String × String × String) : Result (Option String) := do
  let stop ← readNumber a.2.1
  let start ← readNumber b.1
  pure (if stop > start then some (Numeric.floatText ((start + stop) / 2.0)) else none)

def stampCuts : List (String × String × String) → Result (List (Option String))
  | a :: b :: rest => do pure ((← stampCut a b) :: (← stampCuts (b :: rest)))
  | _ => pure []

/-- A stamp between the cuts before and after it, where there are any. -/
def cutStamp (p : String × String × String) (before after : Option String) : String :=
  stampText (before.getD p.1) (after.getD p.2.1) p.2.2

lemma contiguousStamps_go : ∀ (lines : List String) (p : String × String × String)
    (before : Option String) (qs : List (String × String × String)) (cuts : List (Option String))
    (acc : List String), lines.mapM stampFields = .ok qs → stampCuts (p :: qs) = .ok cuts →
      contiguousStamps.go (before.getD p.1, p.2.1, p.2.2) lines acc =
        .ok (acc ++ List.zipWith3 cutStamp (p :: qs) (before :: cuts) (cuts ++ [none]))
  | [], p, before, qs, cuts, acc, hqs, hcuts => by
    cases hqs
    cases hcuts
    rfl
  | l :: ls, p, before, qs, cuts, acc, hqs, hcuts => by
    simp only [List.mapM_cons, Except.bind_eq_ok, pure, Except.pure, Except.ok.injEq] at hqs
    obtain ⟨q, hq, qs', hqs', rfl⟩ := hqs
    simp only [stampCuts, stampCut, Except.bind_eq_ok, pure, Except.pure, Except.ok.injEq] at hcuts
    obtain ⟨c, ⟨stop, hstop, start, hstart, rfl⟩, cuts', hcuts', rfl⟩ := hcuts
    obtain ⟨ns, ne, nsp⟩ := q
    simp only [contiguousStamps.go, hq, hstop, hstart, Except.ok_bind]
    -- the stamp keeps its own end; the next one starts at the cut if there is one
    split
    · exact (contiguousStamps_go ls _ (some (Numeric.floatText ((start + stop) / 2.0))) qs' cuts'
        _ hqs' hcuts').trans (by simp [cutStamp, List.zipWith3])
    · exact (contiguousStamps_go ls _ none qs' cuts' _ hqs' hcuts').trans
        (by simp [cutStamp, List.zipWith3])

/-- **Each cut depends on its two stamps alone**: stamp `i` keeps its speaker, starts at the cut
between stamps `i - 1` and `i` and ends at the cut between stamps `i` and `i + 1`, its own times
standing where there is no cut. -/
theorem contiguousStamps_cut_pairwise (lines : List String) (ps : List (String × String × String))
    (hps : lines.mapM stampFields = .ok ps) (cuts : List (Option String))
    (hcuts : stampCuts ps = .ok cuts) (hne : lines ≠ []) :
    contiguousStamps lines = .ok (List.zipWith3 cutStamp ps (none :: cuts) (cuts ++ [none])) := by
  obtain ⟨l, ls, rfl⟩ := List.exists_cons_of_ne_nil hne
  simp only [List.mapM_cons, Except.bind_eq_ok, pure, Except.pure, Except.ok.injEq] at hps
  obtain ⟨p, hp, qs, hqs, rfl⟩ := hps
  simp only [contiguousStamps, hp, Except.ok_bind]
  exact contiguousStamps_go ls p none qs cuts [] hqs hcuts

theorem contiguousStamps_cut_pairwise_nested :
    ["0 2 a", "0.5 1 b"].mapM stampFields = .ok [("0", "2", "a"), ("0.5", "1", "b")] ∧
      stampCuts [("0", "2", "a"), ("0.5", "1", "b")] = .ok [some "1.25"] ∧
      contiguousStamps ["0 2 a", "0.5 1 b"] = .ok ["0 1.25 a", "1.25 1 b"] := by
  have hps : ["0 2 a", "0.5 1 b"].mapM stampFields = .ok [("0", "2", "a"), ("0.5", "1", "b")] :=
    rfl
  have hcuts : stampCuts [("0", "2", "a"), ("0.5", "1", "b")] = .ok [some "1.25"] := by
    decide +kernel
  exact ⟨hps, hcuts, by rw [contiguousStamps_cut_pairwise _ _ hps _ hcuts (by simp)]; rfl⟩

end Conversa.Speech
