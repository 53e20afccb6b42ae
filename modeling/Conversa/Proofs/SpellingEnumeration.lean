import Conversa.Proofs.TokenSpellings

/-!
# Spellings enumerate the rearrangements, each once

For keys that are words, distinct in each group, `Token.spellings` writes every rearrangement
exactly once, `Field.entryOrders` of them.  Different entries write differently
(`Token.write_append_ne`), every permutation is an order (`exists_nthOrder`), and no text is
spelled twice (`concat_injective`, `concat_nthOrder_injective`): **`Token.spellings_enumerate`**.
-/

namespace Conversa.Normalization

mutual

/-- A value whose groups hold distinct keys of letters and underscores, at every depth, and no
empty quoted value. -/
def Field.Keyed : Field → Prop
  | .empty => False
  | .group es => (es.map (·.1)).Nodup ∧ Field.EntriesKeyed es
  | _ => True

/-- Entries with keys of letters and underscores and keyed values. -/
def Field.EntriesKeyed : List Token → Prop
  | [] => True
  | (k, v) :: es => KeyOk k ∧ v.Keyed ∧ Field.EntriesKeyed es

end

mutual

/-- The number of rearrangements of a value: a group without the order mark has its entries in
any order, and each entry rearranged. -/
def Field.orders : Field → Nat
  | .group es => (if es.any (·.1 == orderKey) then 1 else factorial es.length) * Field.entryOrders es
  | _ => 1

/-- The number of rearrangements of entries, each rearranged in place. -/
def Field.entryOrders : List Token → Nat
  | [] => 1
  | (_, v) :: es => v.orders * Field.entryOrders es

end

/-! ## Telling entries apart -/

lemma eq_of_append_cons_eq {c : Char} : ∀ {k₁ k₂ r₁ r₂ : List Char}, c ∉ k₁ → c ∉ k₂ →
    k₁ ++ c :: r₁ = k₂ ++ c :: r₂ → k₁ = k₂
  | [], [], _, _, _, _, _ => rfl
  | [], _ :: _, _, _, _, h₂, h => by
      simp only [List.nil_append, List.cons_append, List.cons.injEq] at h
      exact absurd (by simp [h.1]) h₂
  | _ :: _, [], _, _, h₁, _, h => by
      simp only [List.nil_append, List.cons_append, List.cons.injEq] at h
      exact absurd (by simp [h.1]) h₁
  | _ :: _, _ :: _, _, _, h₁, h₂, h => by
      simp only [List.cons_append, List.cons.injEq] at h
      rw [h.1, eq_of_append_cons_eq (fun hc => h₁ (.tail _ hc)) (fun hc => h₂ (.tail _ hc)) h.2]

lemma Token.write_toList (k : String) : ∀ v : Field,
    (v.lead = "" ∧ ∃ r, (Token.write (k, v)).toList = k.toList ++ ':' :: r) ∨
      (v.lead = " " ∧ ∃ r, (Token.write (k, v)).toList = ' ' :: (k.toList ++ ' ' :: r))
  | .group es => .inr ⟨rfl, '\x7b' :: ' ' :: ((writeTokens es).toList ++ [' ', '\x7d', ' ']),
      by simp [Token.write, Field.lead, Field.body]⟩
  | .text s => .inl ⟨rfl, ' ' :: '"' :: (s.toList ++ ['"', ' ']), by simp [Token.write, Field.lead, Field.body]⟩
  | .empty => .inl ⟨rfl, [' ', '"', '"', ' '], by simp [Token.write, Field.lead, Field.body]⟩
  | .mark => .inl ⟨rfl, " true ".toList, by simp [Token.write, Field.lead, Field.body]⟩

/-- **Entries with different keys are written differently**, whatever follows them: a key ends
at a character no key holds, and only a group's writing starts with a blank. -/
lemma Token.write_append_ne {k₁ k₂ : String} (v₁ v₂ : Field) (h₁ : KeyOk k₁) (h₂ : KeyOk k₂)
    (hne : k₁ ≠ k₂) (x y : String) : Token.write (k₁, v₁) ++ x ≠ Token.write (k₂, v₂) ++ y := by
  intro h
  replace h := congrArg String.toList h
  have notIn : ∀ {k : String} {c : Char}, KeyOk k → isKeyChar c = false → c ∉ k.toList :=
    fun hk hc hm => by simp [hk.all_isKeyChar _ hm] at hc
  -- a key starts with a key character, which is not a blank
  have noBlank : ∀ {k : String} {r s : List Char}, KeyOk k → k.toList ++ r ≠ ' ' :: s := by
    intro k r s hk he
    obtain ⟨c, cs, hc⟩ := List.exists_cons_of_ne_nil hk.1
    rw [hc, List.cons_append, List.cons.injEq] at he
    have := isBlank_of_isKeyChar (hk.all_isKeyChar c (by simp [hc]))
    rw [he.1] at this
    exact absurd this (by decide)
  rcases Token.write_toList k₁ v₁ with ⟨-, r₁, e₁⟩ | ⟨-, r₁, e₁⟩ <;>
    rcases Token.write_toList k₂ v₂ with ⟨-, r₂, e₂⟩ | ⟨-, r₂, e₂⟩ <;>
    simp only [String.toList_append, e₁, e₂, List.append_assoc, List.cons_append, List.cons.injEq,
      true_and] at h
  · exact hne (String.toList_inj.1 (eq_of_append_cons_eq (notIn h₁ rfl) (notIn h₂ rfl) h))
  · exact noBlank h₁ h
  · exact noBlank h₂ h.symm
  · exact hne (String.toList_inj.1 (eq_of_append_cons_eq (notIn h₁ rfl) (notIn h₂ rfl) h))

/-! ## Rearrangements are written as long -/

lemma length_writeTokens_cons (e : Token) (es : List Token) :
    (writeTokens (e :: es)).length = (Token.write e).length + (writeTokens es).length := by
  rw [writeTokens_cons, String.length_append]

lemma length_writeTokens_perm {ds es : List Token} (h : ds.Perm es) :
    (writeTokens ds).length = (writeTokens es).length := by
  induction h with
  | nil => rfl
  | cons e _ ih => rw [length_writeTokens_cons, length_writeTokens_cons, ih]
  | swap e d es => simp only [length_writeTokens_cons]; omega
  | trans _ _ ih₁ ih₂ => exact ih₁.trans ih₂

mutual

theorem Field.Rearranged.length_write {k : String} : ∀ {v v' : Field}, v.Rearranged v' →
    (Token.write (k, v')).length = (Token.write (k, v)).length
  | _, _, .text _ => rfl
  | _, _, .mark => rfl
  | _, _, .kept _ hes => by simp [Token.write_group, hes.length_writeTokens]
  | _, _, .reordered _ hperm hes => by
      simp [Token.write_group, hes.length_writeTokens, length_writeTokens_perm hperm]

theorem Field.EntriesRearranged.length_writeTokens : ∀ {es es' : List Token},
    Field.EntriesRearranged es es' → (writeTokens es').length = (writeTokens es).length
  | _, _, .nil => rfl
  | _, _, .cons hv hes => by
      rw [length_writeTokens_cons, length_writeTokens_cons, hv.length_write, hes.length_writeTokens]

end

/-! ## Every permutation is an order -/

section Orders

variable {α : Type}

lemma nthOrder_succ {n : Nat} {xs : List α} {p : Nat} (h : p / factorial n < xs.length) :
    nthOrder (n + 1) xs p =
      xs[p / factorial n] :: nthOrder n (xs.eraseIdx (p / factorial n)) (p % factorial n) := by
  simp [nthOrder, extractAt, h]

lemma factorial_pos' (n : Nat) : 0 < factorial n := by
  rw [factorial_eq]
  exact Nat.factorial_pos n

lemma pair_index {i q a c : Nat} (hi : i < a) (hq : q < c) :
    i * c + q < a * c ∧ (i * c + q) / c = i ∧ (i * c + q) % c = q := by
  have hc : 0 < c := by omega
  refine ⟨?_, ?_, ?_⟩
  · calc i * c + q < (i + 1) * c := by rw [Nat.succ_mul]; omega
      _ ≤ a * c := Nat.mul_le_mul_right _ hi
  · rw [Nat.add_comm, Nat.add_mul_div_right _ _ hc, Nat.div_eq_of_lt hq, Nat.zero_add]
  · rw [Nat.add_comm, Nat.add_mul_mod_self_right, Nat.mod_eq_of_lt hq]

/-- **Every permutation of a list is one of its orders**: its first element is the one at some
position `j`, and the rest is an order of the others. -/
lemma exists_nthOrder : ∀ (n : Nat) {xs ds : List α}, xs.length = n → ds.Perm xs →
    ∃ p < factorial n, nthOrder n xs p = ds
  | 0, _, _, h, hp => ⟨0, Nat.one_pos, by rw [List.eq_nil_of_length_eq_zero (hp.length_eq.trans h)]; rfl⟩
  | n + 1, xs, [], h, hp => absurd hp.length_eq (by simp [h])
  | n + 1, xs, d :: ds, h, hp => by
      obtain ⟨j, hj, rfl⟩ := List.getElem_of_mem (hp.subset List.mem_cons_self)
      have hrest : ds.Perm (xs.eraseIdx j) :=
        (List.perm_cons _).1 (hp.trans (List.getElem_cons_eraseIdx_perm hj).symm)
      obtain ⟨q, hq, hord⟩ := exists_nthOrder n (by rw [List.length_eraseIdx_of_lt hj]; omega) hrest
      obtain ⟨hlt, hdiv, hmod⟩ := pair_index (show j < n + 1 by omega) hq
      refine ⟨j * factorial n + q, hlt, ?_⟩
      rw [nthOrder_succ (by rw [hdiv]; exact hj)]
      simp only [hdiv, hmod, hord]

end Orders

/-! ## Spellings that enumerate -/

/-- Spellings at different indices below the count differ. -/
def Spellings.Injective (S : Spellings) : Prop :=
  ∀ i < S.count, ∀ j < S.count, S.spell i = S.spell j → i = j

/-- The spellings of an entry enumerate its rearrangements: each writes one, no two the same,
every rearrangement is written by one, and there are as many as its orders. -/
def EntryEnumerated (e : Token) (S : Spellings) : Prop :=
  EntryCovered e S ∧ S.Injective ∧
    (∀ v', e.2.Rearranged v' → ∃ i < S.count, S.spell i = Token.write (e.1, v')) ∧
    S.count = e.2.orders

lemma EntryCovered.length_spell {e : Token} {S : Spellings} (h : EntryCovered e S) {i : Nat}
    (hi : i < S.count) : (S.spell i).length = (Token.write e).length := by
  obtain ⟨v', hv', hs⟩ := h.2.2 i hi
  rw [hs, hv'.length_write]

lemma append_cancel_of_length_eq {a b c d : String} (h : a ++ b = c ++ d) (hl : a.length = c.length) :
    a = c ∧ b = d := by
  have h' : a.toList ++ b.toList = c.toList ++ d.toList := by simpa using congrArg String.toList h
  obtain ⟨h₁, h₂⟩ := List.append_inj h' (by simp only [String.length_toList]; exact hl)
  exact ⟨String.toList_inj.1 h₁, String.toList_inj.1 h₂⟩

/-- A spelling of a part at the leading digit of an index writes the part's entry rearranged. -/
lemma EntryEnumerated.spell_div {e : Token} {S : Spellings} (hS : EntryEnumerated e S) {c q : Nat}
    (hq : q < S.count * c) : q / c < S.count ∧ ∃ y, S.spell (q / c) = Token.write (e.1, y) := by
  have h : q / c < S.count := Nat.div_lt_of_lt_mul (by rwa [Nat.mul_comm] at hq)
  obtain ⟨y, -, hy⟩ := hS.1.2.2 _ h
  exact ⟨h, y, hy⟩

/-- Two spellings of parts one after the other, the first part's spellings enumerating an
entry: the first parts and the rest agree. -/
lemma spell_cons_inj {e : Token} {S : Spellings} (hS : EntryEnumerated e S) {c q₁ q₂ : Nat}
    {r₁ r₂ : String} (hq₁ : q₁ < S.count * c) (hq₂ : q₂ < S.count * c)
    (h : S.spell (q₁ / c) ++ r₁ = S.spell (q₂ / c) ++ r₂) : q₁ / c = q₂ / c ∧ r₁ = r₂ := by
  have h₁ := (hS.spell_div hq₁).1
  have h₂ := (hS.spell_div hq₂).1
  obtain ⟨hs, hr⟩ := append_cancel_of_length_eq h (by rw [hS.1.length_spell h₁, hS.1.length_spell h₂])
  exact ⟨hS.2.1 _ h₁ _ h₂ hs, hr⟩

lemma eq_of_div_mod_eq {a b c : Nat} (hd : a / c = b / c) (hm : a % c = b % c) : a = b := by
  rw [← Nat.div_add_mod a c, ← Nat.div_add_mod b c, hd, hm]

lemma concat_injective {es : List Token} {parts : List Spellings}
    (h : List.Forall₂ EntryEnumerated es parts) : (Spellings.concat parts).Injective := by
  induction h with
  | nil =>
      intro i hi j hj _
      simp only [Spellings.concat] at hi hj
      omega
  | @cons _ _ _ parts hS _ ih =>
      intro i hi j hj h
      simp only [Spellings.concat] at hi hj h
      obtain ⟨hd, hr⟩ := spell_cons_inj hS hi hj h
      have hc : 0 < (Spellings.concat parts).count := Nat.pos_of_ne_zero fun h0 => by simp [h0] at hi
      exact eq_of_div_mod_eq hd (ih _ (Nat.mod_lt _ hc) _ (Nat.mod_lt _ hc) hr)

lemma count_concat_eraseIdx (parts : List Spellings) {a : Nat} (ha : a < parts.length) :
    (Spellings.concat parts).count = parts[a].count * (Spellings.concat (parts.eraseIdx a)).count :=
  Spellings.count_concat_perm (List.getElem_cons_eraseIdx_perm ha).symm

/-- **Parts spelled in any order never spell one text twice**, when the parts enumerate entries
with distinct keys: by induction on the number of parts, two orders with different first parts
start with entries of different keys, and two with the same first part differ in the rest. -/
lemma concat_nthOrder_injective : ∀ (n : Nat) {es : List Token} {parts : List Spellings},
    List.Forall₂ EntryEnumerated es parts → es.length = n → (es.map (·.1)).Nodup →
    (∀ e ∈ es, KeyOk e.1) → ∀ p₁ < factorial n, ∀ p₂ < factorial n,
    ∀ q₁ < (Spellings.concat parts).count, ∀ q₂ < (Spellings.concat parts).count,
      (Spellings.concat (nthOrder n parts p₁)).spell q₁ =
        (Spellings.concat (nthOrder n parts p₂)).spell q₂ → p₁ = p₂ ∧ q₁ = q₂
  | 0, es, _, h, hlen, _, _ => by
      obtain rfl := List.eq_nil_of_length_eq_zero hlen
      cases h
      intro p₁ hp₁ p₂ hp₂ q₁ hq₁ q₂ hq₂ _
      simp only [factorial, Spellings.concat] at hp₁ hp₂ hq₁ hq₂
      omega
  | n + 1, es, parts, h, hlen, hnd, hkey => by
      intro p₁ hp₁ p₂ hp₂ q₁ hq₁ q₂ hq₂ heq
      have hpos := factorial_pos' n
      have hplen : parts.length = n + 1 := h.length_eq ▸ hlen
      have ha : ∀ p < factorial (n + 1), p / factorial n < parts.length := fun p hp =>
        (Nat.div_lt_iff_lt_mul hpos).2 (by rw [hplen]; simpa [factorial, Nat.mul_comm] using hp)
      have hea : ∀ p < factorial (n + 1), p / factorial n < es.length := fun p hp => hlen ▸ hplen ▸ ha p hp
      -- the count of the parts after the first, whichever order they are in
      have hcount : ∀ a p, a < parts.length → (Spellings.concat (nthOrder n (parts.eraseIdx a) p)).count =
          (Spellings.concat (parts.eraseIdx a)).count := fun a p ha =>
        Spellings.count_concat_perm (nthOrder_perm n _ p (by rw [List.length_eraseIdx_of_lt ha]; omega))
      rw [nthOrder_succ (ha p₁ hp₁), nthOrder_succ (ha p₂ hp₂)] at heq
      simp only [Spellings.concat, hcount _ _ (ha p₁ hp₁), hcount _ _ (ha p₂ hp₂)] at heq
      rw [count_concat_eraseIdx parts (ha p₁ hp₁)] at hq₁
      rw [count_concat_eraseIdx parts (ha p₂ hp₂)] at hq₂
      by_cases hsame : p₁ / factorial n = p₂ / factorial n
      · -- the same first part: its spellings agree, and so do the orders of the rest
        simp only [hsame] at heq hq₁
        set b := p₂ / factorial n
        set c := (Spellings.concat (parts.eraseIdx b)).count
        have hc : 0 < c := Nat.pos_of_ne_zero fun h0 => by simp [h0] at hq₁
        obtain ⟨hd, hr⟩ := spell_cons_inj (h.get (hea p₂ hp₂) (ha p₂ hp₂)) hq₁ hq₂ heq
        obtain ⟨hp, hq⟩ := concat_nthOrder_injective n (forall₂_eraseIdx h b)
          (by rw [List.length_eraseIdx_of_lt (hea p₂ hp₂)]; omega)
          (hnd.sublist ((List.eraseIdx_sublist es b).map _))
          (fun e he => hkey e (List.mem_of_mem_eraseIdx he)) _ (Nat.mod_lt p₁ hpos) _ (Nat.mod_lt p₂ hpos)
          _ (Nat.mod_lt q₁ hc) _ (Nat.mod_lt q₂ hc) hr
        exact ⟨eq_of_div_mod_eq hsame hp, eq_of_div_mod_eq hd hq⟩
      · -- different first parts: entries of different keys, whose writings differ
        exfalso
        have hb₁ := hea p₁ hp₁
        have hb₂ := hea p₂ hp₂
        obtain ⟨y₁, hy₁⟩ := ((h.get hb₁ (ha p₁ hp₁)).spell_div hq₁).2
        obtain ⟨y₂, hy₂⟩ := ((h.get hb₂ (ha p₂ hp₂)).spell_div hq₂).2
        simp only [List.get_eq_getElem] at hy₁ hy₂
        rw [hy₁, hy₂] at heq
        have hk : es[p₁ / factorial n].1 ≠ es[p₂ / factorial n].1 := fun he =>
          hsame ((hnd.of_map _).getElem_inj_iff.1
            (List.inj_on_of_nodup_map hnd (List.getElem_mem _) (List.getElem_mem _) he))
        exact Token.write_append_ne y₁ y₂ (hkey _ (List.getElem_mem _)) (hkey _ (List.getElem_mem _)) hk _ _ heq

lemma concat_complete {es es' : List Token} {parts : List Spellings}
    (h : List.Forall₂ EntryEnumerated es parts) (hr : Field.EntriesRearranged es es') :
    ∃ q < (Spellings.concat parts).count, (Spellings.concat parts).spell q = writeTokens es' := by
  induction h generalizing es' with
  | nil =>
      cases hr
      exact ⟨0, Nat.one_pos, rfl⟩
  | cons hS _ ih =>
      cases hr with
      | cons hv hes =>
          obtain ⟨i, hi, hsi⟩ := hS.2.2.1 _ hv
          obtain ⟨q, hq, hsq⟩ := ih hes
          obtain ⟨hlt, hdiv, hmod⟩ := pair_index hi hq
          exact ⟨_, hlt, by simp only [Spellings.concat, hdiv, hmod, hsi, hsq, writeTokens_cons]⟩

lemma count_concat : ∀ {es : List Token} {parts : List Spellings},
    List.Forall₂ EntryEnumerated es parts → (Spellings.concat parts).count = Field.entryOrders es
  | _, _, .nil => rfl
  | (_, _) :: _, _, .cons hS hrest => by
      rw [Spellings.count_concat_cons, hS.2.2.2, count_concat hrest]
      rfl

/-- The entries of a group in every order (or in the written one) never spell one text twice. -/
lemma arrange_injective {es : List Token} {parts : List Spellings}
    (h : List.Forall₂ EntryEnumerated es parts) (hnd : (es.map (·.1)).Nodup)
    (hkey : ∀ e ∈ es, KeyOk e.1) (keep : Bool) : (Spellings.arrange keep parts).Injective := by
  intro i hi j hj heq
  have hc : 0 < (Spellings.concat parts).count := (concat_covers (h.imp fun _ _ h => h.1)).1
  cases keep with
  | true =>
      simp only [Spellings.arrange, if_true, Nat.one_mul] at hi hj heq
      rw [Nat.mod_eq_of_lt hi, Nat.mod_eq_of_lt hj] at heq
      exact concat_injective h i hi j hj heq
  | false =>
      simp only [Spellings.arrange, Bool.false_eq_true, if_false] at hi hj heq
      rw [← h.length_eq] at hi hj heq
      obtain ⟨hp, hq⟩ := concat_nthOrder_injective es.length h rfl hnd hkey
        _ ((Nat.div_lt_iff_lt_mul hc).2 hi) _ ((Nat.div_lt_iff_lt_mul hc).2 hj)
        _ (Nat.mod_lt i hc) _ (Nat.mod_lt j hc) heq
      exact eq_of_div_mod_eq hp hq

lemma arrange_complete {es : List Token} {parts : List Spellings}
    (h : List.Forall₂ EntryEnumerated es parts) {v' : Field} (hr : (Field.group es).Rearranged v') :
    ∃ es', v' = .group es' ∧ ∃ i < (Spellings.arrange (es.any (·.1 == orderKey)) parts).count,
      (Spellings.arrange (es.any (·.1 == orderKey)) parts).spell i = writeTokens es' := by
  cases hr with
  | kept hkeep hes =>
      obtain ⟨q, hq, hs⟩ := concat_complete h hes
      exact ⟨_, rfl, q, by simpa [Spellings.arrange, hkeep] using hq,
        by simp [Spellings.arrange, hkeep, Nat.mod_eq_of_lt hq, hs]⟩
  | reordered hkeep hperm hes =>
      -- the rearrangement puts the entries in one of their orders, then rearranges each
      obtain ⟨p, hp, hord⟩ := exists_nthOrder es.length rfl hperm
      have hrel := forall₂_nthOrder es.length p h
      rw [hord, h.length_eq] at hrel
      obtain ⟨q, hq, hs⟩ := concat_complete hrel hes
      rw [Spellings.count_concat_perm (nthOrder_perm _ _ _ rfl)] at hq
      obtain ⟨hlt, hdiv, hmod⟩ := pair_index (h.length_eq ▸ hp) hq
      exact ⟨_, rfl, _, by simpa [Spellings.arrange, hkeep] using hlt,
        by simp [Spellings.arrange, hkeep, hdiv, hmod, hs]⟩

/-- A value with one writing, rearranged only into itself, is enumerated by that writing. -/
lemma fixed_enumerated {key : String} (f : Field) (hf : ∀ v', f.Rearranged v' → v' = f)
    (hrefl : f.Rearranged f) (ho : f.orders = 1) :
    EntryEnumerated (key, f) (.fixed (Token.write (key, f))) :=
  ⟨⟨Nat.one_pos, rfl, fun _ _ => ⟨f, hrefl, rfl⟩⟩,
    fun i hi j hj _ => by simp only [Spellings.fixed] at hi hj; omega,
    fun v' hv => ⟨0, Nat.one_pos, by rw [hf v' hv]; rfl⟩, ho.symm⟩

lemma Field.entriesKeyed_iff : ∀ (es : List Token),
    Field.EntriesKeyed es ↔ ∀ e ∈ es, KeyOk e.1 ∧ e.2.Keyed
  | [] => by simp [Field.EntriesKeyed]
  | (k, v) :: es => by simp [Field.EntriesKeyed, Field.entriesKeyed_iff es, and_assoc]

mutual

/-- The spellings of a keyed value enumerate its rearrangements, by structural recursion on the
value: a text or the mark has one, and a group has its entries' spellings in every order. -/
theorem Field.spellings_entryEnumerated : ∀ (f : Field) (key : String), f.Keyed →
    ∃ S, f.spellings key = .ok S ∧ EntryEnumerated (key, f) S
  | .text s, key, _ => ⟨_, by rw [Token.write_text]; rfl,
      fixed_enumerated (.text s) (fun _ hv => by cases hv; rfl) (.text s) rfl⟩
  | .empty, _, h => h.elim
  | .mark, key, _ => ⟨_, by rw [Token.write_mark]; rfl,
      fixed_enumerated .mark (fun _ hv => by cases hv; rfl) .mark rfl⟩
  | .group es, key, ⟨hnd, hkeyed⟩ => by
      obtain ⟨parts, hparts, hall⟩ := Field.entrySpellings_entryEnumerated es hkeyed
      have hkey : ∀ e ∈ es, KeyOk e.1 := fun e he => ((Field.entriesKeyed_iff es).1 hkeyed e he).1
      obtain ⟨hpos, hzero, hcov⟩ := arrange_covers (hall.imp fun _ _ h => h.1)
      let A := Spellings.arrange (es.any (·.1 == orderKey)) parts
      refine ⟨⟨A.count, fun i => " " ++ key ++ " \x7b " ++ A.spell i ++ " \x7d "⟩,
        by simp [Field.spellings, hparts, A], ⟨hpos, ?_, ?_⟩, ?_, ?_, ?_⟩
      · simp [A, hzero, Token.write_group]
      · intro i hi
        obtain ⟨es', hes', hspell⟩ := hcov i hi
        exact ⟨.group es', hes', by simp [A, hspell, Token.write_group]⟩
      · intro i hi j hj heq
        exact arrange_injective hall hnd hkey _ i hi j hj (by simpa using heq)
      · intro v' hv
        obtain ⟨es', rfl, i, hi, hs⟩ := arrange_complete hall hv
        exact ⟨i, hi, by simp [A, hs, Token.write_group]⟩
      · simp [A, Spellings.arrange, Field.orders, count_concat hall, hall.length_eq]

theorem Field.entrySpellings_entryEnumerated : ∀ (es : List Token), Field.EntriesKeyed es →
    ∃ parts, Field.entrySpellings es = .ok parts ∧ List.Forall₂ EntryEnumerated es parts
  | [], _ => ⟨[], rfl, .nil⟩
  | (k, v) :: es, ⟨_, hv, hes⟩ => by
      obtain ⟨S, hS, henum⟩ := Field.spellings_entryEnumerated v k hv
      obtain ⟨parts, hparts, hall⟩ := Field.entrySpellings_entryEnumerated es hes
      exact ⟨S :: parts, by simp [Field.entrySpellings, hS, hparts], .cons henum hall⟩

end

/-- **The spellings of tokens enumerate their rearrangements, each once**: for tokens with keys of
letters and underscores, distinct within each group, the spellings listed are the writings of
the rearrangements, none twice, and there are as many as the product over the groups without
the order mark of the factorial of their sizes. -/
theorem Token.spellings_enumerate (ts : List Token) (h : Field.EntriesKeyed ts) :
    ∃ S, Token.spellings ts = .ok S ∧ S.count = Field.entryOrders ts ∧ (S.firsts S.count).Nodup ∧
      ∀ s, s ∈ S.firsts S.count ↔ ∃ ts', Field.EntriesRearranged ts ts' ∧ s = writeTokens ts' := by
  obtain ⟨parts, hparts, hall⟩ := Field.entrySpellings_entryEnumerated ts h
  obtain ⟨-, -, hcov⟩ := concat_covers (hall.imp fun _ _ h => h.1)
  refine ⟨_, by simp [Token.spellings, mapM_spellings, hparts], count_concat hall, ?_, fun s => ?_⟩
  · simp only [Spellings.firsts, min_self]
    exact List.Nodup.map_on (fun i hi j hj heq => concat_injective hall i (List.mem_range.1 hi) j
      (List.mem_range.1 hj) heq) List.nodup_range
  · simp only [Spellings.firsts, min_self, List.mem_map, List.mem_range]
    constructor
    · rintro ⟨i, hi, rfl⟩
      obtain ⟨ts', hts', hs⟩ := hcov i hi
      exact ⟨ts', hts', hs⟩
    · rintro ⟨ts', hts', rfl⟩
      exact concat_complete hall hts'

/-- Two amounts of a money token, in either order. -/
theorem Token.spellings_enumerate_money :
    let ts : List Token := [("money", .group [("integer_part", .text "20"), ("currency", .text "dollars")])]
    ∃ S, Token.spellings ts = .ok S ∧ S.count = Field.entryOrders ts ∧ (S.firsts S.count).Nodup ∧
      ∀ s, s ∈ S.firsts S.count ↔ ∃ ts', Field.EntriesRearranged ts ts' ∧ s = writeTokens ts' :=
  Token.spellings_enumerate _ (by simp [Field.EntriesKeyed, Field.Keyed, KeyOk])

end Conversa.Normalization
