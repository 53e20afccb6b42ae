import Mathlib
import Conversa.Text.Bytes

/-!
# Where the lines of a byte text start

`contentLineStarts` indexes a byte text by the offsets of its lines: the pieces between line
feeds (`List.splitOn`), each taken with the feed that ends it.  **`contentLineStarts_eq`** gives
the offsets as those of the ended pieces that hold more than white space (`lineStarts`); the last
piece, which no line feed ends, is never indexed (`contentLineStarts_skips_unended_line`).
-/

namespace Conversa.Text

/-- Whether a line holds more than white space once the two-byte controls are blanked and it is
read as UTF-8. -/
def hasContent (line : List UInt8) : Bool := (decodeLossy (blankControls line)).any (!isSpace ·)

/-- The offsets of the lines `ls` that hold more than white space, the first starting at `k` and
each followed by its line feed. -/
def lineStarts : Nat → List (List UInt8) → List Nat
  | _, [] => []
  | k, l :: ls => (if hasContent l then [k] else []) ++ lineStarts (k + l.length + 1) ls

/-- The scan of `contentLineStarts`, in the middle of a line begun at `start` with the bytes
`line` (reversed), indexes the ended lines of what it has still to read. -/
lemma contentLineStarts_go (start : Nat) (line bs : List UInt8) (hl : 10 ∉ line) :
    contentLineStarts.go start line bs = lineStarts start ((line.reverse ++ bs).splitOn 10).dropLast := by
  induction bs generalizing start line with
  | nil =>
    have hfree : ∀ x ∈ line.reverse, (x == 10) = false := fun x hx => by
      simpa using ne_of_mem_of_not_mem (List.mem_reverse.1 hx) hl
    rw [List.append_nil, List.splitOn_eq_splitOnP, List.splitOnP_eq_singleton hfree]
    rfl
  | cons b r ih =>
    by_cases hb : b = 10
    · subst hb
      -- a line feed ends the line: its offset is indexed if it holds more than white space
      have hfree : ∀ x ∈ line.reverse, (x == 10) = false := fun x hx => by
        simpa using ne_of_mem_of_not_mem (List.mem_reverse.1 hx) hl
      have hsplit : (line.reverse ++ 10 :: r).splitOn 10 = line.reverse :: r.splitOn 10 := by
        simp only [List.splitOn_eq_splitOnP]
        exact List.splitOnP_append_cons_of_forall_mem hfree _ (by simp) _
      rw [hsplit, List.dropLast_cons_of_ne_nil (by simp [List.splitOn_eq_splitOnP, List.splitOnP_ne_nil]),
        lineStarts, List.length_reverse]
      have hrest := ih (start + line.length + 1) [] (by simp)
      simp only [List.reverse_nil, List.nil_append] at hrest
      rw [← hrest]
      simp [contentLineStarts.go, hasContent]
      split <;> rfl
    · -- any other byte goes on the line
      rw [contentLineStarts.go.eq_3 start line b r hb, ih start (b :: line) (List.not_mem_cons_of_ne_of_not_mem (Ne.symm hb) hl)]
      simp

/-- **The lines a byte text is indexed by**: the pieces between line feeds that a line feed ends,
at their offsets, when they hold more than white space. -/
theorem contentLineStarts_eq (bs : List UInt8) :
    contentLineStarts bs = lineStarts 0 (bs.splitOn 10).dropLast :=
  contentLineStarts_go 0 [] bs (by simp)

/-- A text of one line holding a letter and no line feed is indexed by no offset. -/
theorem contentLineStarts_skips_unended_line :
    ([0x61] : List UInt8).splitOn 10 = [[0x61]] ∧ hasContent [0x61] = true ∧
      contentLineStarts [0x61] = [] := by
  decide +kernel

end Conversa.Text
