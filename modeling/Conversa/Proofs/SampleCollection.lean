import Conversa.Speech.Collection
import Conversa.Proofs.Entries
import Conversa.Proofs.Monadic

/-!
# Which samples a dataset keeps

A dataset offers its samples one by one: it keeps each one within its duration limits that it
accepts, and stops once the number kept equals the greatest number.  The number is compared only
after a sample is kept, so a greatest number of zero or below keeps every admitted sample.

Main statement, `datasets_keep_first_admitted`: unsorted, a transcribed or labelled dataset
holds the first admitted samples, as many as a positive greatest number allows, and its index
gives each file id the position of the last kept sample with that id.
-/

namespace Conversa.Speech

variable {α β : Type}

/-- Whether a duration lies within a dataset's limits. -/
def SampleLimits.admits (limits : SampleLimits) (d : Float) : Bool :=
  !limits.minDuration.any (d < ·) && !limits.maxDuration.any (d > ·)

/-- The samples within the duration limits that `accept` keeps, in order, with what each becomes. -/
def admitted (limits : SampleLimits) (duration : α → Float) (accept : α → Option β) (items : List α) :
    List (α × β) :=
  items.filterMap fun x => if limits.admits (duration x) then (accept x).map (x, ·) else none

/-- The admitted samples still kept once `k` are: up to a greatest number above `k`, all of them
when there is none. -/
def keepAfter {γ : Type} (maxNumber : Option Int) (k : Nat) (xs : List γ) : List γ :=
  match maxNumber with
  | some n => if (k : Int) < n then xs.take (n.toNat - k) else xs
  | none => xs

/-- An index that maps each id to its last position, or an empty one when none is kept. -/
def IndexesLast (on : Bool) (ids : List String) (index : List (String × Nat)) : Prop :=
  ∀ k, index.lookup k = if on then Text.lastPosition ids k else none

lemma lookup_eq_find? {γ : Type} (l : List (String × γ)) (k : String) :
    l.lookup k = (l.find? (·.1 == k)).map (·.2) := by
  induction l with
  | nil => rfl
  | cons e l ih =>
    obtain ⟨a, b⟩ := e
    by_cases h : a = k
    · simp [List.lookup, h]
    · have hk : (k == a) = false := by simpa using Ne.symm h
      have ha : (a == k) = false := by simpa using h
      simp only [List.lookup_cons, hk, List.find?_cons, ha, ih]

lemma lookup_putIndex (m : List (String × Nat)) (f k : String) (n : Nat) :
    (putIndex m f n).lookup k = if k = f then some n else m.lookup k := by
  have hput : putIndex m f n = Dialogue.putEntry m f n := rfl
  rw [lookup_eq_find?, hput, Dialogue.find_putEntry, lookup_eq_find?]
  by_cases h : k = f <;> simp [h]

lemma IndexesLast.snoc {on : Bool} {ids : List String} {index : List (String × Nat)}
    (h : IndexesLast on ids index) (f : String) :
    IndexesLast on (ids ++ [f]) (if on then putIndex index f ids.length else index) := by
  intro k
  cases on with
  | false => simpa using h k
  | true =>
    rw [if_pos rfl, lookup_putIndex, h k, Text.lastPosition_append_singleton]
    simp only [beq_iff_eq, if_true]

lemma keepAfter_nil {γ : Type} (m : Option Int) (k : Nat) : keepAfter m k ([] : List γ) = [] := by
  unfold keepAfter
  split <;> simp

lemma keepAfter_last {γ : Type} (k : Nat) (a : γ) (xs : List γ) :
    keepAfter (some ((k + 1 : Nat) : Int)) k (a :: xs) = [a] := by
  simp [keepAfter]

lemma keepAfter_cons {γ : Type} {m : Option Int} {k : Nat} (hm : m ≠ some ((k + 1 : Nat) : Int))
    (a : γ) (xs : List γ) : keepAfter m k (a :: xs) = a :: keepAfter m (k + 1) xs := by
  cases m with
  | none => rfl
  | some n =>
    have hn : n ≠ ((k + 1 : Nat) : Int) := fun h => hm (congrArg some h)
    by_cases hk : (k : Int) < n
    · have hk' : ((k + 1 : Nat) : Int) < n := by omega
      have htake : n.toNat - k = (n.toNat - (k + 1)) + 1 := by omega
      simp only [keepAfter, if_pos hk, if_pos hk', htake, List.take_succ_cons]
    · have hk' : ¬ ((k + 1 : Nat) : Int) < n := by omega
      simp only [keepAfter, if_neg hk, if_neg hk']

section Step

variable (limits : SampleLimits) (duration : α → Float) (file : α → String)
  (accept' : α → Except Failure (Option β)) (accept : α → Option β)

lemma foldlM_collectStep_stopped (acc : List (α × β) × List (String × Nat)) (items : List α) :
    items.foldlM (collectStep limits duration file accept') (acc.1, acc.2, true) = .ok (acc.1, acc.2, true) := by
  induction items with
  | nil => rfl
  | cons x xs ih => simpa [collectStep] using ih

lemma admitted_cons (x : α) (xs : List α) :
    admitted limits duration accept (x :: xs) =
      ((if limits.admits (duration x) then accept x else none).map (x, ·)).toList ++
        admitted limits duration accept xs := by
  simp only [admitted, List.filterMap_cons]
  by_cases h : limits.admits (duration x) <;> cases accept x <;> simp [h]

/-- One sample offered before the walk stops: dropped unless admitted, else kept and indexed,
and the walk stops when the count reaches the greatest number. -/
lemma collectStep_open {x : α} (hx : accept' x = .ok (accept x)) (kept : List (α × β))
    (index : List (String × Nat)) :
    collectStep limits duration file accept' (kept, index, false) x =
      .ok (match if limits.admits (duration x) then accept x else none with
        | some y => (kept ++ [(x, y)],
            if limits.indexByFileId then putIndex index (fileId (file x)) kept.length else index,
            limits.maxNumber == some ((kept.length + 1 : Nat) : Int))
        | none => (kept, index, false)) := by
  by_cases hmin : limits.minDuration.any (duration x < ·) = true
  · simp [collectStep, SampleLimits.admits, hmin, pure, Except.pure]
  · by_cases hmax : limits.maxDuration.any (duration x > ·) = true
    · simp [collectStep, SampleLimits.admits, hmax, pure, Except.pure]
    · cases ha : accept x <;> simp_all [collectStep, SampleLimits.admits, pure, Except.pure, bind, Except.bind]

/-- The walk from `kept` samples, not yet stopped, keeps the admitted samples the greatest number
still allows, and its index stays the index of last positions. -/
lemma foldlM_collectStep_open (items : List α) (hacc : ∀ x ∈ items, accept' x = .ok (accept x)) :
    ∀ (kept : List (α × β)) (index : List (String × Nat)),
      IndexesLast limits.indexByFileId (kept.map (fileId ∘ file ∘ Prod.fst)) index →
      ∃ index' stopped, items.foldlM (collectStep limits duration file accept') (kept, index, false) =
          .ok (kept ++ keepAfter limits.maxNumber kept.length (admitted limits duration accept items),
            index', stopped) ∧
        IndexesLast limits.indexByFileId
          ((kept ++ keepAfter limits.maxNumber kept.length (admitted limits duration accept items)).map
            (fileId ∘ file ∘ Prod.fst)) index' := by
  induction items with
  | nil => intro kept index h; exact ⟨index, false, by simp [admitted, keepAfter_nil, pure, Except.pure],
    by simpa [admitted, keepAfter_nil] using h⟩
  | cons x xs ih =>
    intro kept index h
    have ih := ih fun y hy => hacc y (List.mem_cons_of_mem x hy)
    rw [List.foldlM_cons, collectStep_open limits duration file accept' accept (hacc x List.mem_cons_self),
      admitted_cons]
    cases hx : (if limits.admits (duration x) then accept x else none) with
    | none => simpa using ih kept index h
    | some y =>
      have hidx := h.snoc (fileId (file x))
      simp only [List.length_map] at hidx
      by_cases hstop : limits.maxNumber = some ((kept.length + 1 : Nat) : Int)
      · refine ⟨if limits.indexByFileId then putIndex index (fileId (file x)) kept.length else index,
          true, ?_, ?_⟩
        · simp only [Except.ok_bind, hstop, beq_self_eq_true, Option.map_some, Option.toList_some,
            List.singleton_append]
          rw [keepAfter_last]
          exact foldlM_collectStep_stopped limits duration file accept' (_, _) xs
        · simp only [Option.map_some, Option.toList_some, List.singleton_append, hstop, keepAfter_last]
          simpa using hidx
      · have hne : (limits.maxNumber == some ((kept.length + 1 : Nat) : Int)) = false := by
          simpa using hstop
        obtain ⟨index', stopped, hrun, hix⟩ := ih (kept ++ [(x, y)]) _ (by simpa using hidx)
        refine ⟨index', stopped, ?_, ?_⟩
        · simp only [Except.ok_bind, hne, Option.map_some, Option.toList_some, List.singleton_append,
            keepAfter_cons hstop]
          simpa using hrun
        · simpa [keepAfter_cons hstop] using hix

/-- Unsorted, `collect` keeps the first admitted samples a greatest number allows, with the index
of their last positions. -/
lemma collect_eq_keepAfter (hsort : limits.sortByDuration = false) (items : List α)
    (hacc : ∀ x ∈ items, accept' x = .ok (accept x)) :
    ∃ index, collect limits duration file accept' items =
        .ok (keepAfter limits.maxNumber 0 (admitted limits duration accept items), index) ∧
      IndexesLast limits.indexByFileId
        ((keepAfter limits.maxNumber 0 (admitted limits duration accept items)).map
          (fileId ∘ file ∘ Prod.fst)) index := by
  obtain ⟨index, stopped, hrun, hidx⟩ := foldlM_collectStep_open limits duration file accept' accept items
    hacc [] [] (fun k => by cases limits.indexByFileId <;> rfl)
  refine ⟨index, ?_, by simpa using hidx⟩
  simp only [collect, hrun, Except.ok_bind, hsort, Bool.false_and]
  simp [pure, Except.pure]

end Step

/-- Unsorted datasets keep their first admitted samples: a transcribed one those within the
limits whose text parses, a labelled one all within the limits, up to a positive greatest number
(a greatest number of zero or below keeps them all), and the index of either gives each file id
the position of the last kept sample with that id.  A labelled dataset also sorts the labels it
keeps, which fails on labels that cannot be compared. -/
theorem datasets_keep_first_admitted (limits : SampleLimits) (hsort : limits.sortByDuration = false)
    (parser : Language.CharParser) (us : List Utterance) (htext : ∀ u ∈ us, ∃ s, u.text = .str s)
    (ls : List LabelledUtterance) :
    (∃ kept index, transcribed limits parser us = .ok (kept, index) ∧
      kept = keepAfter limits.maxNumber 0
        (admitted limits (fun u => durationValue u.duration) (fun u => u.text.str?.bind parser.parse) us) ∧
      IndexesLast limits.indexByFileId (kept.map fun p => fileId p.1.audioFile.text) index) ∧
    (∃ kept index, labelled limits ls = (sortedLabels (kept.map (·.label))).map (kept, index, ·) ∧
      kept = (keepAfter limits.maxNumber 0
        (admitted limits (fun u => durationValue u.duration) (fun _ => some ()) ls)).map (·.1) ∧
      IndexesLast limits.indexByFileId (kept.map fun u => fileId u.audioFile.text) index) := by
  constructor
  · obtain ⟨index, hrun, hidx⟩ := collect_eq_keepAfter limits (fun u => durationValue u.duration)
      (fun u => u.audioFile.text) (fun u => transcriptIds parser u.text) (fun u => u.text.str?.bind parser.parse)
      hsort us (by
        intro u hu
        obtain ⟨s, hs⟩ := htext u hu
        simp [transcriptIds, hs, Data.str?])
    exact ⟨_, index, hrun, rfl, hidx⟩
  · obtain ⟨index, hrun, hidx⟩ := collect_eq_keepAfter limits (fun u => durationValue u.duration)
      (fun u => u.audioFile.text) (fun _ => pure (some ())) (fun _ => some ()) hsort ls (fun _ _ => rfl)
    refine ⟨_, index, ?_, rfl, by rw [List.map_map]; exact hidx⟩
    simp only [labelled, hrun, Except.ok_bind]
    cases sortedLabels _ <;> rfl

/-- Two recordings of one file id, each with a text. -/
def twoRecordings : List Utterance :=
  [⟨0, .str "x/a.wav", .float 1.0, .str "a", .null, .null, .null⟩,
   ⟨1, .str "y/a.wav", .float 2.0, .str "a", .null, .null, .null⟩]

/-- A greatest number of one keeps the first of two admitted recordings. -/
theorem datasets_keep_first_admitted_first_one :
    ∃ kept index, transcribed { maxNumber := some 1 } { labels := ["a"], normalize := false }
        twoRecordings = .ok (kept, index) ∧ kept.length = 1 := by
  obtain ⟨⟨kept, index, hrun, rfl, -⟩, -⟩ := datasets_keep_first_admitted { maxNumber := some 1 } rfl
    { labels := ["a"], normalize := false } twoRecordings (by simp [twoRecordings]) []
  exact ⟨_, index, hrun, by decide⟩

/-- The first none of two admitted recordings are not what a greatest number of zero keeps. -/
theorem transcribed_zero_limit_keeps_both :
    (transcribed { maxNumber := some 0 } { labels := ["a"], normalize := false } twoRecordings).map
      (·.1.length) = .ok 2 := by
  decide

end Conversa.Speech
