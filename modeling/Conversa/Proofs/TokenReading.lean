import Mathlib
import Conversa.Normalization.Token
import Conversa.Proofs.Monadic

/-!
# Reading back written tokens

`writeTokens` writes tokens as `key: "value" `, `preserve_order: true ` or ` key { entries } `.
For well-formed tokens (`Field.EntriesWellFormed`: word keys, non-empty quoted values without a
quote before a space, distinct keys in a group) the reader reads each kind back
(`readToken_text`, `readToken_mark`, `readToken_group`), and by recursion on the tokens the whole
writing (`readTokens_written`): **`Token.read_writeTokens`**.
-/

namespace Conversa.Normalization

/-! ## The cursor over a list of characters -/

/-- The cursor on the first of the characters `cs`, or at the end when there are none. -/
def Cursor.ofChars : List Char → Cursor
  | [] => ⟨none, []⟩
  | c :: r => ⟨some c, r⟩

@[simp] lemma Cursor.cur_ofChars_cons (c : Char) (r : List Char) :
    (Cursor.ofChars (c :: r)).cur = some c := rfl

@[simp] lemma Cursor.rest_ofChars_cons (c : Char) (r : List Char) :
    (Cursor.ofChars (c :: r)).rest = r := rfl

@[simp] lemma Cursor.next_ofChars_cons (c : Char) (r : List Char) :
    (Cursor.ofChars (c :: r)).next = Cursor.ofChars r := by
  cases r <;> rfl

@[simp] lemma Cursor.expect_ofChars_cons (x : Char) (r : List Char) :
    (Cursor.ofChars (x :: r)).expect x = .ok (Cursor.ofChars r) := by
  cases r <;> simp [Cursor.expect, Cursor.ofChars, Cursor.next]

lemma skipSpaces_of_ne {c : Char} (r : List Char) (h : c ≠ ' ') :
    skipSpaces (some c) r = (Cursor.ofChars (c :: r), true) := by
  simp [skipSpaces, Cursor.ofChars, h]

/-- Skipping spaces stops on the first character that is no space, and says whether there is
one. -/
lemma skipSpaces_ofChars (n : Nat) (cs : List Char) (h : cs.head? ≠ some ' ') :
    skipSpaces (Cursor.ofChars (List.replicate n ' ' ++ cs)).cur
        (Cursor.ofChars (List.replicate n ' ' ++ cs)).rest = (Cursor.ofChars cs, !cs.isEmpty) := by
  induction n with
  | zero =>
      match cs, h with
      | [], _ => rfl
      | c :: r, h =>
          have hc : c ≠ ' ' := by simpa using h
          simp [Cursor.ofChars, skipSpaces, hc]
  | succ n ih =>
      rw [List.replicate_succ, List.cons_append, ← ih]
      cases hl : List.replicate n ' ' ++ cs with
      | nil => rfl
      | cons c r => simp [Cursor.ofChars, skipSpaces]

/-! ## Keys and quoted values -/

lemma toNat_lt_of_isBlank {c : Char} (h : isBlank c = true) : c.toNat < 33 := by
  simp only [isBlank, Bool.or_eq_true, beq_iff_eq] at h
  rcases h with (((((rfl | rfl) | rfl) | rfl) | rfl) | rfl) <;> decide

lemma isBlank_of_isKeyChar {c : Char} (h : isKeyChar c = true) : isBlank c = false := by
  by_contra hb
  have hlt := toNat_lt_of_isBlank (by simpa using hb)
  simp only [isKeyChar, Bool.or_eq_true, Bool.and_eq_true, decide_eq_true_eq, beq_iff_eq] at h
  rcases h with ⟨-, h⟩ | rfl
  · -- a letter is at least `A`
    simp only [Char.isAlpha, Char.isUpper, Char.isLower, Bool.or_eq_true, Bool.and_eq_true,
      decide_eq_true_eq, UInt32.le_iff_toNat_le, ge_iff_le] at h
    have hA : 'A'.val.toNat = 65 := by decide
    have ha : 'a'.val.toNat = 97 := by decide
    simp only [Char.toNat] at hlt
    omega
  · exact absurd hlt (by decide)

lemma startChar_ofChars (c : Char) (r : List Char) (h : isBlank c = false) :
    startChar (Cursor.ofChars (c :: r)) = .ok c := by
  simp [startChar, Cursor.ofChars, h]

lemma readKeyFrom_stop (d : Char) (r acc : List Char) (hd : isKeyChar d = false) :
    readKeyFrom d r acc = .ok (acc.reverse, ⟨some d, r⟩) := by
  cases r <;> simp [readKeyFrom, hd]

lemma readKeyFrom_append (d : Char) (r : List Char) (hd : isKeyChar d = false) :
    ∀ (ks : List Char) (c : Char) (acc : List Char), isKeyChar c = true →
      (∀ x ∈ ks, isKeyChar x = true) →
        readKeyFrom c (ks ++ d :: r) acc = .ok (acc.reverse ++ c :: ks, Cursor.ofChars (d :: r))
  | [], c, acc, hc, _ => by
      rw [List.nil_append, readKeyFrom.eq_1, if_pos hc, readKeyFrom_stop d r _ hd]
      simp [Cursor.ofChars]
  | k :: ks, c, acc, hc, hks => by
      rw [List.cons_append, readKeyFrom.eq_1, if_pos hc,
        readKeyFrom_append d r hd ks k (c :: acc) (hks k (by simp)) (fun x hx => hks x (by simp [hx]))]
      simp

lemma readValueFrom_append (r : List Char) :
    ∀ (cs : List Char) (c : Char) (acc : List Char), ¬ ['"', ' '] <:+: c :: cs →
      readValueFrom c (cs ++ '"' :: ' ' :: r) acc =
        .ok (acc.reverse ++ c :: cs, Cursor.ofChars ('"' :: ' ' :: r))
  | [], c, acc, _ => by
      -- the value's last character is read even when it is a quote: no space follows it
      rw [List.nil_append, readValueFrom.eq_3 _ _ _ _ (fun _ h => absurd h (by decide)),
        readValueFrom.eq_1]
      simp [Cursor.ofChars]
  | k :: cs, c, acc, h => by
      have hck : c = '"' → k = ' ' → False := by
        rintro rfl rfl
        exact h (List.prefix_append ['"', ' '] cs).isInfix
      have hrest : ¬ ['"', ' '] <:+: k :: cs := fun hi => h (hi.trans (List.suffix_cons c _).isInfix)
      rw [List.cons_append, readValueFrom.eq_3 _ _ _ _ hck, readValueFrom_append r cs k (c :: acc) hrest]
      simp

/-! ## Writing tokens in a fixed order -/

/-- The blank written before a group's key. -/
def Field.lead : Field → String
  | .group _ => " "
  | _ => ""

mutual

/-- A token's text from its key on, its entries in the order they have: `key: "value"`,
`key: true`, or `key { entries }`. -/
def Field.body (key : String) : Field → String
  | .text s => key ++ ": \"" ++ s ++ "\""
  | .empty => key ++ ": \"\""
  | .mark => key ++ ": true"
  | .group es => key ++ " \x7b " ++ writeTokens es ++ " \x7d"

/-- Tokens written one after the other, each followed by a space. -/
def writeTokens : List Token → String
  | [] => ""
  | (k, v) :: es => v.lead ++ v.body k ++ " " ++ writeTokens es

end

lemma Field.lead_toList (f : Field) : f.lead.toList = List.replicate f.lead.length ' ' := by
  cases f with
  | group => simp [Field.lead, show " ".length = 1 from rfl]
  | _ => rfl

lemma Field.length_body_group (key : String) (es : List Token) :
    (Field.body key (.group es)).length = key.length + (writeTokens es).length + 5 := by
  simp only [Field.body, String.length_append]
  have h1 : " \x7b ".length = 3 := rfl
  have h2 : " \x7d".length = 2 := rfl
  omega

/-! ## Well-formed tokens -/

/-- A key both sides agree on: one or more ASCII letters and underscores. -/
def KeyOk (k : String) : Prop := k.toList ≠ [] ∧ ∀ c ∈ k.toList, c.isAlpha = true ∨ c = '_'

/-- A quoted value the reader gives back: it starts with a character that is not white space,
and no quote in it is followed by a space. -/
def ValueOk (s : String) : Prop :=
  s.toList.head?.map isBlank = some false ∧ ¬ ['"', ' '] <:+: s.toList

mutual

/-- A well-formed value of the key `key`: the order mark exactly under `preserve_order`, a
quoted value that reads back, or a group of well-formed entries with distinct keys. -/
def Field.WellFormed (key : String) : Field → Prop
  | .text s => key ≠ orderKey ∧ ValueOk s
  | .empty => False
  | .mark => key = orderKey
  | .group es => key ≠ orderKey ∧ (es.map (·.1)).Nodup ∧ Field.EntriesWellFormed es

/-- Well-formed tokens: each with a good key and a well-formed value. -/
def Field.EntriesWellFormed : List Token → Prop
  | [] => True
  | (k, v) :: es => KeyOk k ∧ v.WellFormed k ∧ Field.EntriesWellFormed es

end

lemma KeyOk.all_isKeyChar {k : String} (h : KeyOk k) : ∀ c ∈ k.toList, isKeyChar c = true := by
  intro c hc
  rcases h.2 c hc with h | rfl
  · -- an ASCII letter lies below 128
    have : c.toNat < 128 := by
      have h := h
      simp only [Char.isAlpha, Char.isUpper, Char.isLower, Bool.or_eq_true, Bool.and_eq_true,
        decide_eq_true_eq, UInt32.le_iff_toNat_le, ge_iff_le] at h
      have hZ : 'Z'.val.toNat = 90 := by decide
      have hz : 'z'.val.toNat = 122 := by decide
      simp only [Char.toNat]
      omega
    simp [isKeyChar, h, this]
  · rfl

lemma KeyOk.ne_empty {key : String} (hk : KeyOk key) : key ≠ "" := by
  rintro rfl
  exact hk.1 rfl

lemma KeyOk.read {key : String} (hk : KeyOk key) {d : Char} (hd : isKeyChar d = false)
    (r : List Char) : ∃ k0 ks, key.toList = k0 :: ks ∧
      startChar (Cursor.ofChars (key.toList ++ d :: r)) = .ok k0 ∧
      readKeyFrom k0 (ks ++ d :: r) [] = .ok (key.toList, Cursor.ofChars (d :: r)) := by
  obtain ⟨k0, ks, hks⟩ : ∃ k0 ks, key.toList = k0 :: ks := by
    cases h : key.toList with
    | nil => exact absurd h hk.1
    | cons k0 ks => exact ⟨k0, ks, rfl⟩
  have hkc := hk.all_isKeyChar
  rw [hks] at hkc
  refine ⟨k0, ks, hks, ?_, ?_⟩
  · rw [hks, List.cons_append]
    exact startChar_ofChars k0 _ (isBlank_of_isKeyChar (hkc k0 (by simp)))
  · rw [hks, readKeyFrom_append d r hd ks k0 [] (hkc k0 (by simp)) (fun x hx => hkc x (by simp [hx]))]
    rfl

/-- A token's text starts with its key, so not with a space. -/
lemma Field.head_body (f : Field) {key : String} (hk : KeyOk key) (r : List Char) :
    ((f.body key).toList ++ r).head? ≠ some ' ' := by
  obtain ⟨k0, ks, hks, -, -⟩ := hk.read (d := ' ') (by decide) []
  have hk0 : isKeyChar k0 = true := hk.all_isKeyChar k0 (by simp [hks])
  have hne : k0 ≠ ' ' := by
    rintro rfl
    exact absurd hk0 (by decide)
  cases f <;> simp [Field.body, hks, hne]

/-! ## Reading one token -/

lemma readToken_text (n : Nat) (key s : String) (rest : List Char) (hk : KeyOk key)
    (hkey : key ≠ orderKey) (hs : ValueOk s) :
    readToken (n + 1) (Cursor.ofChars ((Field.body key (.text s)).toList ++ ' ' :: rest)) =
      .ok (some (key, .text s), Cursor.ofChars (' ' :: rest)) := by
  obtain ⟨s0, ss, hss⟩ : ∃ s0 ss, s.toList = s0 :: ss := by
    cases h : s.toList with
    | nil => simp [ValueOk, h] at hs
    | cons s0 ss => exact ⟨s0, ss, rfl⟩
  have hs0 : isBlank s0 = false := by simpa [ValueOk, hss] using hs.1
  have hval := readValueFrom_append rest ss s0 [] (hss ▸ hs.2)
  obtain ⟨k0, ks, hks, hstart, hread⟩ :=
    hk.read (d := ':') (by decide) (' ' :: '"' :: s0 :: (ss ++ '"' :: ' ' :: rest))
  have hs_eq : String.ofList (s0 :: ss) = s := by rw [← hss, String.ofList_toList]
  simp only [Field.body, String.toList_append, hss,
    show ": \"".toList = [':', ' ', '"'] by simp, show "\"".toList = ['"'] by simp,
    List.cons_append, List.append_assoc, List.nil_append]
  rw [readToken.eq_2]
  simp only [hstart, Except.ok_bind]
  rw [hks]
  simp [hread, hkey, hk.ne_empty, skipSpaces.eq_1, skipSpaces_of_ne _ (show ':' ≠ ' ' by decide),
    skipSpaces_of_ne _ (show '"' ≠ ' ' by decide), startChar_ofChars s0 _ hs0, hval, hs_eq]

lemma readToken_mark (n : Nat) (key : String) (rest : List Char) (hk : KeyOk key)
    (hkey : key = orderKey) :
    readToken (n + 1) (Cursor.ofChars ((Field.body key .mark).toList ++ ' ' :: rest)) =
      .ok (some (key, .mark), Cursor.ofChars (' ' :: rest)) := by
  obtain ⟨k0, ks, hks, hstart, hread⟩ :=
    hk.read (d := ':') (by decide) (' ' :: 't' :: 'r' :: 'u' :: 'e' :: ' ' :: rest)
  subst hkey
  simp only [Field.body, String.toList_append, show ": true".toList = [':', ' ', 't', 'r', 'u', 'e'] by simp,
    List.cons_append, List.append_assoc, List.nil_append]
  rw [readToken.eq_2]
  simp only [hstart, Except.ok_bind]
  rw [hks]
  simp [hread, hk.ne_empty, skipSpaces.eq_1, skipSpaces_of_ne _ (show ':' ≠ ' ' by decide),
    skipSpaces_of_ne _ (show 't' ≠ ' ' by decide), Cursor.expectWord]

lemma foldl_putEntry_of_nodup : ∀ (es acc : List Token), ((acc ++ es).map (·.1)).Nodup →
    es.foldl (fun es (k, v) => putEntry es k v) acc = acc ++ es
  | [], acc, _ => by simp
  | (k, v) :: es, acc, h => by
      have hk : acc.any (·.1 == k) = false := by
        simp only [List.map_append, List.map_cons, List.nodup_append, List.nodup_cons,
          List.mem_cons, List.mem_map] at h
        simp only [List.any_eq_false, beq_iff_eq]
        intro x hx hxk
        exact h.2.2 x.1 ⟨x, hx, rfl⟩ k (Or.inl rfl) hxk
      have hput : putEntry acc k v = acc ++ [(k, v)] := by simp [putEntry, hk]
      simp only [List.foldl_cons]
      rw [hput, foldl_putEntry_of_nodup es (acc ++ [(k, v)]) (by simpa using h)]
      simp

lemma readToken_group (n : Nat) (key : String) (es : List Token) (rest : List Char)
    (hk : KeyOk key) (hkey : key ≠ orderKey) (hnd : (es.map (·.1)).Nodup)
    (hin : readTokens n (Cursor.ofChars (' ' :: ((writeTokens es).toList ++ ' ' :: '}' :: ' ' :: rest))) [] =
      .ok (es, Cursor.ofChars ('}' :: ' ' :: rest))) :
    readToken (n + 1) (Cursor.ofChars ((Field.body key (.group es)).toList ++ ' ' :: rest)) =
      .ok (some (key, .group es), Cursor.ofChars (' ' :: rest)) := by
  obtain ⟨k0, ks, hks, hstart, hread⟩ :=
    hk.read (d := ' ') (by decide) ('{' :: ' ' :: ((writeTokens es).toList ++ ' ' :: '}' :: ' ' :: rest))
  simp only [Field.body, String.toList_append, show " \x7b ".toList = [' ', '{', ' '] by simp,
    show " \x7d".toList = [' ', '}'] by simp, List.cons_append, List.append_assoc, List.nil_append]
  rw [readToken.eq_2]
  simp only [hstart, Except.ok_bind]
  rw [hks]
  simp [hread, hkey, hk.ne_empty, skipSpaces.eq_1, skipSpaces_of_ne _ (show '{' ≠ ' ' by decide), hin,
    foldl_putEntry_of_nodup es [] (by simpa using hnd)]

lemma readToken_close (n : Nat) (r : List Char) :
    readToken (n + 1) (Cursor.ofChars ('}' :: r)) = .ok (none, Cursor.ofChars ('}' :: r)) := by
  rw [readToken.eq_2]
  simp only [startChar_ofChars '}' r (by decide), Except.ok_bind, Cursor.rest_ofChars_cons,
    readKeyFrom_stop '}' r [] (by decide)]
  rfl

/-! ## Reading written tokens back -/

mutual

theorem readToken_written : ∀ (f : Field) (key : String) (N : Nat) (rest : List Char),
    KeyOk key → f.WellFormed key → (f.body key).length + 1 ≤ N →
      readToken N (Cursor.ofChars ((f.body key).toList ++ ' ' :: rest)) =
        .ok (some (key, f), Cursor.ofChars (' ' :: rest))
  | _, _, 0, _, _, _, hN => absurd hN (by omega)
  | .text s, key, n + 1, rest, hk, hf, _ => readToken_text n key s rest hk hf.1 hf.2
  | .empty, _, _ + 1, _, _, hf, _ => hf.elim
  | .mark, key, n + 1, rest, hk, hf, _ => readToken_mark n key rest hk hf
  | .group es, key, n + 1, rest, hk, hf, hN => by
      -- the entries stand between one space after the opening brace and one before the closing
      refine readToken_group n key es rest hk hf.1 hf.2.1 ?_
      have hlen := Field.length_body_group key es
      have := readTokens_written es n 1 1 ('}' :: ' ' :: rest) [] hf.2.2 (Or.inr rfl) (by omega)
      simpa using this

/-- Written tokens are read back up to the end of the text or a closing brace, whatever spaces
stand before and after them. -/
theorem readTokens_written : ∀ (es : List Token) (N sp k : Nat) (stop : List Char) (acc : List Token),
    Field.EntriesWellFormed es → (stop = [] ∨ stop.head? = some '}') → (writeTokens es).length + 2 ≤ N →
      readTokens N (Cursor.ofChars (List.replicate sp ' ' ++ (writeTokens es).toList ++
          List.replicate k ' ' ++ stop)) acc = .ok (acc.reverse ++ es, Cursor.ofChars stop)
  | _, 0, _, _, _, _, _, _, hN => absurd hN (by omega)
  | [], n + 1, sp, k, stop, acc, _, hstop, hN => by
      have hskip := skipSpaces_ofChars (sp + k) stop (by rcases hstop with rfl | h <;> simp [*])
      rw [readTokens.eq_2]
      simp only [writeTokens, String.toList_empty, List.append_nil, ← List.replicate_add, hskip]
      -- past the spaces: the end of the text, or a closing brace on which no key starts
      rcases hstop with rfl | hstop
      · simp
      · obtain ⟨r, rfl⟩ : ∃ r, stop = '}' :: r := by
          cases stop with
          | nil => simp at hstop
          | cons c r => simp at hstop; exact ⟨r, by rw [hstop]⟩
        obtain ⟨m, rfl⟩ : ∃ m, n = m + 1 := ⟨n - 1, by simp [writeTokens] at hN; omega⟩
        simp [readToken_close]
  | (key, f) :: es, n + 1, sp, k, stop, acc, hes, hstop, hN => by
      have hlen : (writeTokens ((key, f) :: es)).length =
          f.lead.length + (f.body key).length + 1 + (writeTokens es).length := by
        simp only [writeTokens, String.length_append]
        rfl
      have htext : List.replicate sp ' ' ++ (writeTokens ((key, f) :: es)).toList ++
          List.replicate k ' ' ++ stop = List.replicate (sp + f.lead.length) ' ' ++
            ((f.body key).toList ++ ' ' :: ((writeTokens es).toList ++ List.replicate k ' ' ++ stop)) := by
        rw [List.replicate_add]
        simp only [writeTokens, String.toList_append, Field.lead_toList, List.append_assoc,
          show " ".toList = [' '] by simp, List.cons_append, List.nil_append]
      -- the spaces before the token are skipped, the token is read, and the rest of the sequence
      -- follows one space after it
      rw [htext, readTokens.eq_2]
      simp only [skipSpaces_ofChars _ _ (Field.head_body f hes.1 _)]
      rw [readToken_written f key n _ hes.1 hes.2.1 (by omega)]
      have := readTokens_written es n 1 k stop ((key, f) :: acc) hes.2.2 hstop (by omega)
      simpa using this

end

/-- **The reader gives back every non-empty well-formed token list from its writing.** -/
theorem Token.read_writeTokens (ts : List Token) (hne : ts ≠ []) (hwf : Field.EntriesWellFormed ts) :
    Token.read (writeTokens ts) = .ok ts := by
  have hread := readTokens_written ts (2 * (writeTokens ts).length + 2) 0 0 [] [] hwf (Or.inl rfl)
    (by omega)
  simp only [List.replicate_zero, List.nil_append, List.append_nil, List.reverse_nil] at hread
  unfold Token.read
  cases hw : (writeTokens ts).toList with
  | nil =>
      obtain ⟨⟨key, f⟩, ts, rfl⟩ := List.exists_cons_of_ne_nil hne
      exact absurd hw (by simp [writeTokens])
  | cons c r =>
      rw [hw, show Cursor.ofChars (c :: r) = ⟨some c, r⟩ from rfl] at hread
      simp [hread]

end Conversa.Normalization
