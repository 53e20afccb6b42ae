import Conversa.Normalization.Spelling
import Conversa.Proofs.TokenReading

/-!
# Every spelling of tokens reads back

`Token.spellings` spells tokens in every order of each group's entries, keeping a group with the
order mark as written.  Each spelling writes a rearrangement (`Field.EntriesRearranged`,
`concat_covers`, `arrange_covers`, `Field.spellings_covers`), which is well formed, so the reader
gives it back: **`Token.read_spellings`**; the empty list spells only the empty text.
-/

namespace Conversa.Normalization

/-! ## Rearranged tokens -/

mutual

/-- `f'` is `f` with the entries of its groups rearranged: a group with the order mark keeps the
order of its entries, any other group may have them in any order, and the same holds inside
every entry. -/
inductive Field.Rearranged : Field → Field → Prop
  | text (s : String) : Field.Rearranged (.text s) (.text s)
  | mark : Field.Rearranged .mark .mark
  | kept {es es' : List Token} : es.any (·.1 == orderKey) = true →
      Field.EntriesRearranged es es' → Field.Rearranged (.group es) (.group es')
  | reordered {es ds es' : List Token} : es.any (·.1 == orderKey) = false → ds.Perm es →
      Field.EntriesRearranged ds es' → Field.Rearranged (.group es) (.group es')

/-- Tokens rearranged one by one: the same keys in the same order, each value rearranged. -/
inductive Field.EntriesRearranged : List Token → List Token → Prop
  | nil : Field.EntriesRearranged [] []
  | cons {k : String} {v v' : Field} {es es' : List Token} : v.Rearranged v' →
      Field.EntriesRearranged es es' → Field.EntriesRearranged ((k, v) :: es) ((k, v') :: es')

end

lemma Field.EntriesRearranged.keys : ∀ {es es' : List Token}, Field.EntriesRearranged es es' →
    es.map (·.1) = es'.map (·.1)
  | _, _, .nil => rfl
  | _, _, .cons _ hes => by simp [hes.keys]

lemma Field.EntriesRearranged.ne_nil {es es' : List Token} (h : Field.EntriesRearranged es es')
    (hne : es ≠ []) : es' ≠ [] := by
  rintro rfl
  cases h
  exact hne rfl

lemma Field.entriesWellFormed_iff : ∀ (es : List Token),
    Field.EntriesWellFormed es ↔ ∀ e ∈ es, KeyOk e.1 ∧ e.2.WellFormed e.1
  | [] => by simp [Field.EntriesWellFormed]
  | (k, v) :: es => by simp [Field.EntriesWellFormed, Field.entriesWellFormed_iff es, and_assoc]

lemma Field.EntriesWellFormed.perm {es ds : List Token} (h : ds.Perm es)
    (hwf : Field.EntriesWellFormed es) : Field.EntriesWellFormed ds := by
  rw [Field.entriesWellFormed_iff] at hwf ⊢
  exact fun e he => hwf e (h.subset he)

mutual

/-- A rearranged well-formed value is well formed: its keys are those of the value, in another
order at most. -/
theorem Field.Rearranged.wellFormed {key : String} : ∀ {f f' : Field}, f.Rearranged f' →
    f.WellFormed key → f'.WellFormed key
  | _, _, .text _, h => h
  | _, _, .mark, h => h
  | _, _, .kept _ hes, ⟨hkey, hnd, hwf⟩ => by
      refine ⟨hkey, ?_, hes.wellFormed hwf⟩
      rw [← hes.keys]
      exact hnd
  | _, _, .reordered _ hperm hes, ⟨hkey, hnd, hwf⟩ => by
      refine ⟨hkey, ?_, hes.wellFormed (hwf.perm hperm)⟩
      rw [← hes.keys]
      exact (hperm.map _).nodup_iff.2 hnd

theorem Field.EntriesRearranged.wellFormed : ∀ {es es' : List Token},
    Field.EntriesRearranged es es' → Field.EntriesWellFormed es → Field.EntriesWellFormed es'
  | _, _, .nil, h => h
  | _, _, .cons hv hes, ⟨hk, hf, hwf⟩ => ⟨hk, hv.wellFormed hf, hes.wellFormed hwf⟩

end

/-! ## Orders of a list -/

section Orders

variable {α β : Type}

lemma factorial_eq (n : Nat) : factorial n = n.factorial := by
  induction n with
  | zero => rfl
  | succ n ih => simp [factorial, Nat.factorial, ih]

lemma extractAt_eq_some {xs : List α} {i : Nat} {x : α} {rest : List α}
    (h : extractAt xs i = some (x, rest)) : xs.Perm (x :: rest) ∧ rest.length + 1 = xs.length := by
  simp only [extractAt, Option.map_eq_some_iff, Prod.mk.injEq] at h
  obtain ⟨y, hy, rfl, rfl⟩ := h
  obtain ⟨hi, rfl⟩ := List.getElem?_eq_some_iff.1 hy
  exact ⟨(List.getElem_cons_eraseIdx_perm hi).symm, List.length_eraseIdx_add_one hi⟩

lemma nthOrder_perm : ∀ (n : Nat) (xs : List α) (p : Nat), xs.length = n → (nthOrder n xs p).Perm xs
  | 0, xs, _, h => by simp [nthOrder, List.length_eq_zero_iff.1 h]
  | n + 1, xs, p, h => by
      unfold nthOrder
      split
      · rename_i x rest hx
        obtain ⟨hperm, hlen⟩ := extractAt_eq_some hx
        exact ((nthOrder_perm n rest _ (by omega)).cons x).trans hperm.symm
      · exact List.Perm.refl xs

lemma nthOrder_zero : ∀ (xs : List α), nthOrder xs.length xs 0 = xs
  | [] => rfl
  | x :: xs => by simp [nthOrder, extractAt, nthOrder_zero xs]

lemma forall₂_eraseIdx {R : α → β → Prop} : ∀ {xs : List α} {ys : List β}, List.Forall₂ R xs ys →
    ∀ i, List.Forall₂ R (xs.eraseIdx i) (ys.eraseIdx i)
  | _, _, .nil, _ => .nil
  | _, _, .cons _ h, 0 => h
  | _, _, .cons hxy h, i + 1 => .cons hxy (forall₂_eraseIdx h i)

lemma forall₂_extractAt {R : α → β → Prop} {xs : List α} {ys : List β} (h : List.Forall₂ R xs ys)
    (i : Nat) : (extractAt xs i = none ∧ extractAt ys i = none) ∨
      ∃ x rest y rest', extractAt xs i = some (x, rest) ∧ extractAt ys i = some (y, rest') ∧
        R x y ∧ List.Forall₂ R rest rest' := by
  have hlen := h.length_eq
  by_cases hi : i < xs.length
  · have hj : i < ys.length := hlen ▸ hi
    exact Or.inr ⟨xs[i], _, ys[i], _, by simp [extractAt, hi], by simp [extractAt, hj],
      h.get hi hj, forall₂_eraseIdx h i⟩
  · have hj : ¬ i < ys.length := hlen ▸ hi
    exact Or.inl ⟨by simp [extractAt, hi], by simp [extractAt, hj]⟩

lemma forall₂_nthOrder {R : α → β → Prop} : ∀ (n : Nat) {xs : List α} {ys : List β} (p : Nat),
    List.Forall₂ R xs ys → List.Forall₂ R (nthOrder n xs p) (nthOrder n ys p)
  | 0, _, _, _, _ => .nil
  | n + 1, xs, ys, p, h => by
      rcases forall₂_extractAt h (p / factorial n) with ⟨hx, hy⟩ | ⟨x, rest, y, rest', hx, hy, hxy, hr⟩
      · simp only [nthOrder, hx, hy]
        exact h
      · simp only [nthOrder, hx, hy]
        exact .cons hxy (forall₂_nthOrder n _ hr)

end Orders

/-! ## Spellings that cover tokens -/

/-- The spellings `S` cover `x`: there is one, the first writes `x` itself, and each writes
something that `x` is related to by `R`. -/
def Spellings.Covers {γ : Type} (S : Spellings) (write : γ → String) (R : γ → γ → Prop) (x : γ) :
    Prop :=
  0 < S.count ∧ S.spell 0 = write x ∧ ∀ i < S.count, ∃ y, R x y ∧ S.spell i = write y

/-- A token as it stands in a sequence: its lead, its text and a space. -/
def Token.write (e : Token) : String := e.2.lead ++ e.2.body e.1 ++ " "

/-- The spellings of one entry cover its value, written under its key. -/
def EntryCovered (e : Token) (S : Spellings) : Prop :=
  S.Covers (fun v => Token.write (e.1, v)) Field.Rearranged e.2

lemma Token.write_text (key s : String) : Token.write (key, .text s) = key ++ ": \"" ++ s ++ "\" " := by
  rw [← String.toList_inj]
  simp [Token.write, Field.lead, Field.body]

lemma Token.write_mark (key : String) : Token.write (key, .mark) = key ++ ": true " := by
  rw [← String.toList_inj]
  simp [Token.write, Field.lead, Field.body]

lemma Token.write_group (key : String) (es : List Token) :
    Token.write (key, .group es) = " " ++ key ++ " \x7b " ++ writeTokens es ++ " \x7d " := by
  rw [← String.toList_inj]
  simp [Token.write, Field.lead, Field.body]

lemma writeTokens_cons (k : String) (v : Field) (es : List Token) :
    writeTokens ((k, v) :: es) = Token.write (k, v) ++ writeTokens es := rfl

lemma Spellings.count_concat_cons (p : Spellings) (ps : List Spellings) :
    (Spellings.concat (p :: ps)).count = p.count * (Spellings.concat ps).count := rfl

lemma Spellings.count_concat_perm {ps qs : List Spellings} (h : ps.Perm qs) :
    (Spellings.concat ps).count = (Spellings.concat qs).count := by
  induction h with
  | nil => rfl
  | cons p _ ih => simp only [count_concat_cons, ih]
  | swap p q ps => simp only [count_concat_cons, Nat.mul_left_comm]
  | trans _ _ ih1 ih2 => exact ih1.trans ih2

/-- Spellings of the entries one after the other cover the entries: the spelling at an index is
made of each entry's spelling at one digit of the index, the first entry's digit the most
significant. -/
lemma concat_covers : ∀ {es : List Token} {parts : List Spellings},
    List.Forall₂ EntryCovered es parts →
      (Spellings.concat parts).Covers writeTokens Field.EntriesRearranged es
  | _, _, .nil => ⟨Nat.one_pos, rfl, fun _ _ => ⟨[], .nil, rfl⟩⟩
  | (k, v) :: es, S :: parts, .cons hS hrest => by
      obtain ⟨hpos, hzero, hall⟩ := hS
      obtain ⟨hpos', hzero', hall'⟩ := concat_covers hrest
      refine ⟨Nat.mul_pos hpos hpos', ?_, ?_⟩
      · simp [Spellings.concat, hzero, hzero', writeTokens_cons]
      · intro i hi
        have hdiv : i / (Spellings.concat parts).count < S.count :=
          (Nat.div_lt_iff_lt_mul hpos').2 hi
        obtain ⟨v', hv', hspell⟩ := hall _ hdiv
        obtain ⟨es', hes', hspell'⟩ := hall' _ (Nat.mod_lt i hpos')
        exact ⟨(k, v') :: es', .cons hv' hes', by simp [Spellings.concat, hspell, hspell', writeTokens_cons]⟩

/-- The spellings of a group's entries in every order, or only in the written one under the
order mark, cover the group's entries. -/
lemma arrange_covers {es : List Token} {parts : List Spellings} (h : List.Forall₂ EntryCovered es parts) :
    (Spellings.arrange (es.any (·.1 == orderKey)) parts).Covers writeTokens
      (fun es es' => (Field.group es).Rearranged (.group es')) es := by
  obtain ⟨hpos, hzero, hall⟩ := concat_covers h
  have hlen : es.length = parts.length := h.length_eq
  cases hkeep : es.any (·.1 == orderKey) with
  | false =>
      -- every order of the entries, the order the most significant part of the index
      refine ⟨Nat.mul_pos (by rw [factorial_eq]; exact Nat.factorial_pos _) hpos, ?_, ?_⟩
      · simp [Spellings.arrange, nthOrder_zero, hzero]
      · intro i hi
        set c := (Spellings.concat parts).count
        have hord := forall₂_nthOrder parts.length (i / c) h
        have hcount := Spellings.count_concat_perm (nthOrder_perm parts.length parts (i / c) rfl)
        obtain ⟨-, -, hall'⟩ := concat_covers hord
        obtain ⟨es', hes', hspell⟩ := hall' (i % c) (by rw [hcount]; exact Nat.mod_lt i hpos)
        exact ⟨es', .reordered hkeep (nthOrder_perm _ es _ hlen) hes', by simpa [Spellings.arrange] using hspell⟩
  | true =>
      refine ⟨by simpa [Spellings.arrange] using hpos, by simp [Spellings.arrange, hzero], ?_⟩
      intro i hi
      simp only [Spellings.arrange, if_true, Nat.one_mul] at hi
      obtain ⟨es', hes', hspell⟩ := hall i hi
      exact ⟨es', .kept hkeep hes', by simp [Spellings.arrange, Nat.mod_eq_of_lt hi, hspell]⟩

/-! ## The spellings of tokens -/

mutual

/-- The spellings of a well-formed token cover it: its first spelling writes it as it is, and
every spelling writes a rearrangement of it. -/
theorem Field.spellings_covers : ∀ (f : Field) (key : String), f.WellFormed key →
    ∃ S, f.spellings key = .ok S ∧ S.Covers (fun v => Token.write (key, v)) Field.Rearranged f
  | .text s, key, _ =>
      ⟨_, rfl, Nat.one_pos, (Token.write_text key s).symm,
        fun _ _ => ⟨.text s, .text s, (Token.write_text key s).symm⟩⟩
  | .empty, _, h => h.elim
  | .mark, key, _ =>
      ⟨_, rfl, Nat.one_pos, (Token.write_mark key).symm,
        fun _ _ => ⟨.mark, .mark, (Token.write_mark key).symm⟩⟩
  | .group es, key, ⟨_, _, hwf⟩ => by
      obtain ⟨parts, hparts, hcov⟩ := Field.entrySpellings_covers es hwf
      obtain ⟨hpos, hzero, hall⟩ := arrange_covers hcov
      let A := Spellings.arrange (es.any (·.1 == orderKey)) parts
      refine ⟨⟨A.count, fun i => " " ++ key ++ " \x7b " ++ A.spell i ++ " \x7d "⟩,
        by simp [Field.spellings, hparts, A], hpos, ?_, ?_⟩
      · simp [A, hzero, Token.write_group]
      · intro i hi
        obtain ⟨es', hes', hspell⟩ := hall i hi
        exact ⟨.group es', hes', by simp [A, hspell, Token.write_group]⟩

theorem Field.entrySpellings_covers : ∀ (es : List Token), Field.EntriesWellFormed es →
    ∃ parts, Field.entrySpellings es = .ok parts ∧ List.Forall₂ EntryCovered es parts
  | [], _ => ⟨[], rfl, .nil⟩
  | (k, v) :: es, ⟨_, hv, hes⟩ => by
      obtain ⟨S, hS, hcov⟩ := Field.spellings_covers v k hv
      obtain ⟨parts, hparts, hall⟩ := Field.entrySpellings_covers es hes
      exact ⟨S :: parts, by simp [Field.entrySpellings, hS, hparts], .cons hcov hall⟩

end

lemma mapM_spellings : ∀ (ts : List Token),
    ts.mapM (fun (k, v) => v.spellings k) = Field.entrySpellings ts
  | [] => rfl
  | (k, v) :: ts => by simp [List.mapM_cons, Field.entrySpellings, mapM_spellings ts]

/-- **Every spelling of a non-empty well-formed token list reads back** as the tokens it writes,
a rearrangement of the list; the first spelling reads back as the list itself. -/
theorem Token.read_spellings (ts : List Token) (hne : ts ≠ []) (hwf : Field.EntriesWellFormed ts) :
    ∃ S, Token.spellings ts = .ok S ∧ 0 < S.count ∧ Token.read (S.spell 0) = .ok ts ∧
      ∀ i < S.count, ∃ ts', Field.EntriesRearranged ts ts' ∧ S.spell i = writeTokens ts' ∧
        Token.read (S.spell i) = .ok ts' := by
  obtain ⟨parts, hparts, hcov⟩ := Field.entrySpellings_covers ts hwf
  obtain ⟨hpos, hzero, hall⟩ := concat_covers hcov
  refine ⟨_, by simp [Token.spellings, mapM_spellings, hparts], hpos, ?_, ?_⟩
  · rw [hzero]
    exact Token.read_writeTokens ts hne hwf
  · intro i hi
    obtain ⟨ts', hts', hspell⟩ := hall i hi
    refine ⟨ts', hts', hspell, ?_⟩
    rw [hspell]
    exact Token.read_writeTokens ts' (hts'.ne_nil hne) (hts'.wellFormed hwf)

/-- A money token whose entries may come in either order. -/
theorem Token.read_spellings_money :
    ∃ S, Token.spellings [("money", .group [("integer_part", .text "20"), ("currency", .text "dollars")])] = .ok S ∧
      0 < S.count ∧
      Token.read (S.spell 0) = .ok [("money", .group [("integer_part", .text "20"), ("currency", .text "dollars")])] ∧
      ∀ i < S.count, ∃ ts', Field.EntriesRearranged
          [("money", .group [("integer_part", .text "20"), ("currency", .text "dollars")])] ts' ∧
        S.spell i = writeTokens ts' ∧ Token.read (S.spell i) = .ok ts' :=
  Token.read_spellings _ (by simp) (by
    simp [Field.EntriesWellFormed, Field.WellFormed, KeyOk, ValueOk, orderKey, isBlank]
    decide)

/-- **The empty token list is spelled as the empty text, which the reader refuses**: the text
has no first character. -/
theorem Token.read_spellings_nil :
    Field.EntriesWellFormed [] ∧
      ∃ S, Token.spellings [] = .ok S ∧ 0 < S.count ∧ Token.read (S.spell 0) = .error .pastEnd :=
  ⟨trivial, _, rfl, Nat.one_pos, rfl⟩

end Conversa.Normalization
