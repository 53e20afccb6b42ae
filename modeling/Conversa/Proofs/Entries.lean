import Mathlib
import Conversa.Dialogue.Schema

/-!
# Mappings kept as lists of entries

The model keeps small mappings as lists of key–value pairs, in order of first use, and sets an
entry with `putEntry`: in place when the key is there, at the end otherwise.  The lemmas here
say what a search or a membership test sees after a put, for any key type whose equality test is
lawful.
-/

namespace Conversa.Dialogue

variable {κ α : Type} [BEq κ] [LawfulBEq κ]

/-- Searching after a put finds the new entry for its key and the old entries for the others. -/
lemma find_putEntry (kvs : List (κ × α)) (k : κ) (v : α) (x : κ) :
    (putEntry kvs k v).find? (·.1 == x) = if x == k then some (k, v) else kvs.find? (·.1 == x) := by
  unfold putEntry
  split
  · rename_i hany
    -- replacing values keeps every key, so the search finds the same entry
    have hfind : List.find? ((fun w => w.1 == x) ∘ fun w : κ × α => if w.1 == k then (w.1, v) else w) kvs =
        kvs.find? (·.1 == x) := by
      congr 1
      funext w
      by_cases hk : w.1 = k <;> simp [hk]
    rw [List.find?_map, hfind]
    cases h : kvs.find? (·.1 == x) with
    | none =>
      have hx : x ≠ k := by
        rintro rfl
        obtain ⟨w, hw, hwk⟩ := List.any_eq_true.1 hany
        exact absurd (List.find?_eq_none.1 h w hw) (by simpa using hwk)
      simp [hx]
    | some w =>
      have := List.find?_some h
      simp only [beq_iff_eq] at this
      by_cases hx : x = k <;> simp [this, hx]
  · rename_i hany
    rw [List.find?_append]
    by_cases hx : x = k
    · subst hx
      have : kvs.find? (·.1 == x) = none := List.find?_eq_none.2 fun w hw => by simpa using fun h => hany (List.any_eq_true.2 ⟨w, hw, by simp [h]⟩)
      simp [this]
    · simp [hx, Ne.symm hx]

lemma mem_putEntry {kvs : List (κ × α)} {k : κ} {v : α} {e : κ × α}
    (h : e ∈ putEntry kvs k v) : e ∈ kvs ∨ e = (k, v) := by
  unfold putEntry at h
  split at h
  · obtain ⟨w, hw, rfl⟩ := List.mem_map.1 h
    by_cases hk : w.1 = k
    · right
      simp [hk]
    · left
      simpa [hk] using hw
  · simpa using h

lemma mem_putEntry_self (kvs : List (κ × α)) (k : κ) (v : α) :
    (k, v) ∈ putEntry kvs k v := by
  unfold putEntry
  split
  · rename_i hany
    obtain ⟨w, hw, hwk⟩ := List.any_eq_true.1 hany
    exact List.mem_map.2 ⟨w, hw, by simp_all⟩
  · simp

lemma map_fst_putEntry (kvs : List (κ × α)) (k : κ) (v : α) :
    (putEntry kvs k v).map Prod.fst =
      if k ∈ kvs.map Prod.fst then kvs.map Prod.fst else kvs.map Prod.fst ++ [k] := by
  unfold putEntry
  by_cases hk : k ∈ kvs.map Prod.fst
  · have hany : kvs.any (·.1 == k) = true := by simpa using hk
    rw [if_pos hany, if_pos hk, List.map_map]
    apply List.map_congr_left
    rintro ⟨k', v'⟩ -
    by_cases h : k' = k <;> simp [h]
  · have hany : ¬ kvs.any (·.1 == k) = true := by simpa using hk
    rw [if_neg hany, if_neg hk, List.map_append]
    rfl

end Conversa.Dialogue
