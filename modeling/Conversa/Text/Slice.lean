

/-!
# Slices of texts and lists

A slice of a text or a list is given by a start and a stop position.  A negative position counts from the
end, and positions beyond either end are taken at that end; a stop before the start gives the
empty text.
-/

namespace Conversa.Text

/-- A position of a sequence of length `n`, counted from the end when negative and clamped to
`0 … n`. -/
def clampPosition (n : Nat) (i : Int) : Nat :=
  if i < 0 then (n + i).toNat else min i.toNat n

/-- The characters of `s` from `start` up to, not including, `stop`. -/
def slice (s : String) (start stop : Int) : String :=
  let n := s.length
  let a := clampPosition n start
  let b := clampPosition n stop
  String.ofList ((s.toList.drop a).take (b - a))

/-- The elements of a list from `start` up to, not including, `stop`. -/
def span {α : Type} (xs : List α) (start stop : Int) : List α :=
  let a := clampPosition xs.length start
  let b := clampPosition xs.length stop
  (xs.drop a).take (b - a)

/-- The position of the last occurrence of `x` in `xs`. -/
def lastPosition {α : Type} [BEq α] (xs : List α) (x : α) : Option Nat :=
  ((xs.zipIdx.filter (·.1 == x)).getLast?).map (·.2)

section LastPosition

variable {α : Type} [BEq α] [LawfulBEq α] {xs : List α} {x : α}

/-- The last position of an element holds it. -/
theorem lastPosition_eq_some {n : Nat} (h : lastPosition xs x = some n) : xs[n]? = some x := by
  obtain ⟨e, he, rfl⟩ := Option.map_eq_some_iff.1 h
  obtain ⟨hmem, hx⟩ := List.mem_filter.1 (List.mem_of_getLast? he)
  rw [List.mem_zipIdx_iff_getElem?.1 hmem, beq_iff_eq.1 hx]

/-- An element of a list has a last position. -/
theorem lastPosition_isSome (h : x ∈ xs) : (lastPosition xs x).isSome := by
  obtain ⟨i, hi, rfl⟩ := List.getElem_of_mem h
  have : (xs[i], i) ∈ xs.zipIdx.filter (·.1 == xs[i]) :=
    List.mem_filter.2 ⟨List.mem_zipIdx_iff_getElem?.2 (List.getElem?_eq_getElem hi), beq_self_eq_true _⟩
  simp only [lastPosition, Option.isSome_map]
  exact List.getLast?_isSome.2 (List.ne_nil_of_mem this)

/-- One more element is its own last position, and leaves the others' where they were. -/
theorem lastPosition_append_singleton (y : α) :
    lastPosition (xs ++ [y]) x = if x == y then some xs.length else lastPosition xs x := by
  by_cases h : x = y
  · simp [lastPosition, List.zipIdx_append, h]
  · simp [lastPosition, List.zipIdx_append, List.filter_append, Ne.symm h, h]

end LastPosition

/-- The position of the last occurrence of a character, or `-1`. -/
def lastIndexOf (s : String) (c : Char) : Int := ((lastPosition s.toList c).map Int.ofNat).getD (-1)

end Conversa.Text

/-!
## Letters without accents

A text is brought to plain lower-case ASCII for speech front ends by decomposing each character
canonically, dropping the nonspacing marks and lower-casing what is left.  Of a character beyond
ASCII only a plain letter or punctuation mark can be left; `foldRuns` lists the characters that
leave one, as runs of consecutive code points that all leave the same character.
-/

namespace Conversa.Text

/-- The characters beyond ASCII that fold to an ASCII character, as sorted runs
`(first, last, folded)`. -/
def foldRuns : Array (Nat × Nat × Char) := #[
  (0xC0, 0xC5, 'a'), (0xC7, 0xC7, 'c'), (0xC8, 0xCB, 'e'), (0xCC, 0xCF, 'i'), (0xD1, 0xD1, 'n'), (0xD2, 0xD6, 'o'),
  (0xD9, 0xDC, 'u'), (0xDD, 0xDD, 'y'), (0xE0, 0xE5, 'a'), (0xE7, 0xE7, 'c'), (0xE8, 0xEB, 'e'), (0xEC, 0xEF, 'i'),
  (0xF1, 0xF1, 'n'), (0xF2, 0xF6, 'o'), (0xF9, 0xFC, 'u'), (0xFD, 0xFD, 'y'), (0xFF, 0xFF, 'y'), (0x100, 0x105, 'a'),
  (0x106, 0x10D, 'c'), (0x10E, 0x10F, 'd'), (0x112, 0x11B, 'e'), (0x11C, 0x123, 'g'), (0x124, 0x125, 'h'), (0x128, 0x130, 'i'),
  (0x134, 0x135, 'j'), (0x136, 0x137, 'k'), (0x139, 0x13E, 'l'), (0x143, 0x148, 'n'), (0x14C, 0x151, 'o'), (0x154, 0x159, 'r'),
  (0x15A, 0x161, 's'), (0x162, 0x165, 't'), (0x168, 0x173, 'u'), (0x174, 0x175, 'w'), (0x176, 0x178, 'y'), (0x179, 0x17E, 'z'),
  (0x1A0, 0x1A1, 'o'), (0x1AF, 0x1B0, 'u'), (0x1CD, 0x1CE, 'a'), (0x1CF, 0x1D0, 'i'), (0x1D1, 0x1D2, 'o'), (0x1D3, 0x1DC, 'u'),
  (0x1DE, 0x1E1, 'a'), (0x1E6, 0x1E7, 'g'), (0x1E8, 0x1E9, 'k'), (0x1EA, 0x1ED, 'o'), (0x1F0, 0x1F0, 'j'), (0x1F4, 0x1F5, 'g'),
  (0x1F8, 0x1F9, 'n'), (0x1FA, 0x1FB, 'a'), (0x200, 0x203, 'a'), (0x204, 0x207, 'e'), (0x208, 0x20B, 'i'), (0x20C, 0x20F, 'o'),
  (0x210, 0x213, 'r'), (0x214, 0x217, 'u'), (0x218, 0x219, 's'), (0x21A, 0x21B, 't'), (0x21E, 0x21F, 'h'), (0x226, 0x227, 'a'),
  (0x228, 0x229, 'e'), (0x22A, 0x231, 'o'), (0x232, 0x233, 'y'), (0x37E, 0x37E, ';'), (0x1E00, 0x1E01, 'a'), (0x1E02, 0x1E07, 'b'),
  (0x1E08, 0x1E09, 'c'), (0x1E0A, 0x1E13, 'd'), (0x1E14, 0x1E1D, 'e'), (0x1E1E, 0x1E1F, 'f'), (0x1E20, 0x1E21, 'g'), (0x1E22, 0x1E2B, 'h'),
  (0x1E2C, 0x1E2F, 'i'), (0x1E30, 0x1E35, 'k'), (0x1E36, 0x1E3D, 'l'), (0x1E3E, 0x1E43, 'm'), (0x1E44, 0x1E4B, 'n'), (0x1E4C, 0x1E53, 'o'),
  (0x1E54, 0x1E57, 'p'), (0x1E58, 0x1E5F, 'r'), (0x1E60, 0x1E69, 's'), (0x1E6A, 0x1E71, 't'), (0x1E72, 0x1E7B, 'u'), (0x1E7C, 0x1E7F, 'v'),
  (0x1E80, 0x1E89, 'w'), (0x1E8A, 0x1E8D, 'x'), (0x1E8E, 0x1E8F, 'y'), (0x1E90, 0x1E95, 'z'), (0x1E96, 0x1E96, 'h'), (0x1E97, 0x1E97, 't'),
  (0x1E98, 0x1E98, 'w'), (0x1E99, 0x1E99, 'y'), (0x1EA0, 0x1EB7, 'a'), (0x1EB8, 0x1EC7, 'e'), (0x1EC8, 0x1ECB, 'i'), (0x1ECC, 0x1EE3, 'o'),
  (0x1EE4, 0x1EF1, 'u'), (0x1EF2, 0x1EF9, 'y'), (0x212A, 0x212A, 'k'), (0x212B, 0x212B, 'a')]

/-- The ASCII character a character beyond ASCII folds to, if any. -/
def foldChar? (c : Char) : Option Char :=
  let n := c.toNat
  (foldRuns.toList.find? fun (lo, hi, _) => lo ≤ n && n ≤ hi).map (·.2.2)

end Conversa.Text

/-!
## One-pass rewriting

Many clean-ups of text are one pass from the left: at each position a rule either matches,
giving its output and how many characters it consumes, or does not, and the character is kept.
The pass goes on after what a match consumed, so matches never overlap.  A rule may also look at
the character before the position, as word boundaries need.  Replacing a fixed text
and squeezing runs of characters are the two commonest such passes.
-/

namespace Conversa.Text

/-- A text rewritten in one pass from the left: where `rule` matches at the current position it
gives the output and how many characters it consumes (at least one), and the pass goes on after
them; elsewhere the character is kept. -/
def rewrite (rule : List Char → Option (List Char × Nat)) : List Char → List Char
  | [] => []
  | c :: rest =>
    match rule (c :: rest) with
    | some (out, n) => out ++ rewrite rule ((c :: rest).drop (max n 1))
    | none => c :: rewrite rule rest
termination_by cs => cs.length
decreasing_by
  all_goals simp only [List.length_drop, List.length_cons]
  all_goals omega

/-- A one-pass rewriting whose rule also sees the character before the current position in the
original text (none at the start), as a pattern that looks behind does. -/
def rewriteAfter (rule : Option Char → List Char → Option (List Char × Nat)) (prev : Option Char) :
    List Char → List Char
  | [] => []
  | c :: rest =>
    match rule prev (c :: rest) with
    | some (out, n) =>
      out ++ rewriteAfter rule (((c :: rest).take (max n 1)).getLast?) ((c :: rest).drop (max n 1))
    | none => c :: rewriteAfter rule (some c) rest
termination_by cs => cs.length
decreasing_by
  all_goals simp only [List.length_drop, List.length_cons]
  all_goals omega

/-- A one-pass rewriting whose rule may fail; the first failure in text order is the result. -/
def rewriteExcept {ε : Type} (rule : List Char → Except ε (Option (List Char × Nat))) :
    List Char → Except ε (List Char)
  | [] => .ok []
  | c :: rest => do
    match ← rule (c :: rest) with
    | some (out, n) => pure (out ++ (← rewriteExcept rule ((c :: rest).drop (max n 1))))
    | none => pure (c :: (← rewriteExcept rule rest))
termination_by cs => cs.length
decreasing_by
  all_goals simp only [List.length_drop, List.length_cons]
  all_goals omega

def literal (pat rep : List Char) (cs : List Char) : Option (List Char × Nat) :=
  if !pat.isEmpty && pat.isPrefixOf cs then some (rep, pat.length) else none

/-- Every occurrence of `pat` replaced by `rep`, from the left, without overlaps. -/
def replaceText (pat rep : String) (cs : List Char) : List Char := rewrite (literal pat.toList rep.toList) cs

/-- Every maximal run of characters with property `p` replaced by one space. -/
def squeeze (p : Char → Bool) (cs : List Char) : List Char :=
  (cs.splitBy fun a b => p a && p b).flatMap fun run =>
    match run with
    | c :: _ => if p c then [' '] else run
    | [] => []

end Conversa.Text
