import Mathlib
import Conversa.Proofs.TokenReading

/-!
# How far the token reader reads

Every cursor the reader passes stands on a tail of the characters it started from
(`Cursor.chars`), and a token takes at least one of them.  So `2 * m + 2` nested steps read a
text of `m` characters, and more give the same answer (`read_halts`).  The one look-ahead past a
quote fails only on a quote that ends the text, so on any other text the reader fails only by its
own checks (`read_fails_by_own_checks`).
-/

namespace Conversa.Normalization

/-- The characters a cursor has still to read, the one under it first. -/
def Cursor.chars (c : Cursor) : List Char := c.cur.toList ++ c.rest

/-! ## Each step reads on from where it stands -/

lemma Cursor.chars_of_cur {c : Cursor} {x : Char} (h : c.cur = some x) :
    c.chars = x :: c.next.chars := by
  rcases c with ⟨_, _ | ⟨y, r⟩⟩ <;> cases h <;> rfl

lemma Cursor.expect_suffix {c c' : Cursor} {x : Char} (h : c.expect x = .ok c') :
    c'.chars <:+ c.chars := by
  unfold Cursor.expect at h
  split at h
  · next hx =>
    cases h
    rw [Cursor.chars_of_cur (beq_iff_eq.mp hx)]
    exact List.suffix_cons _ _
  · cases h

lemma Cursor.expectWord_suffix : ∀ {w : List Char} {c c' : Cursor},
    Cursor.expectWord w c = .ok c' → c'.chars <:+ c.chars
  | [], _, _, h => by cases h; exact List.suffix_refl _
  | x :: w, c, c', h => by
    simp only [Cursor.expectWord, Except.bind_eq_ok] at h
    obtain ⟨c1, h1, h2⟩ := h
    exact (Cursor.expectWord_suffix h2).trans (Cursor.expect_suffix h1)

lemma skipSpaces_chars (x : Option Char) (r : List Char) :
    (skipSpaces x r).1.chars <:+ x.toList ++ r := by
  fun_induction skipSpaces x r with
  | case1 c r ih => exact ih.trans (List.suffix_cons _ _)
  | _ => simp [Cursor.chars]

lemma startChar_cur {c : Cursor} {x : Char} (h : startChar c = .ok x) : c.cur = some x := by
  unfold startChar at h
  split at h
  · split at h <;> cases h
    assumption
  · cases h

lemma readKeyFrom_chars : ∀ {ch : Char} {rest acc k : List Char} {c' : Cursor},
    readKeyFrom ch rest acc = .ok (k, c') →
      c'.chars <:+ ch :: rest ∧ c'.chars.length + k.length = rest.length + 1 + acc.length
  | ch, rest, acc, k, c', h => by
    unfold readKeyFrom at h
    split at h
    · split at h
      · obtain ⟨hs, hl⟩ := readKeyFrom_chars h
        exact ⟨hs.trans (List.suffix_cons _ _), by simp at hl ⊢; omega⟩
      · cases h
    · cases h
      simp [Cursor.chars]

lemma readValueFrom_chars (ch : Char) (rest acc : List Char) :
    (∀ v c', readValueFrom ch rest acc = .ok (v, c') → c'.chars <:+ ch :: rest) ∧
      (readValueFrom ch rest acc = .error .pastEnd → (ch :: rest).getLast? = some '"') := by
  fun_induction readValueFrom ch rest acc with
  | case1 => simp [Cursor.chars]
  | case2 => simp
  | case3 ch c r acc _ ih =>
    exact ⟨fun v c' h => (ih.1 v c' h).trans (List.suffix_cons _ _), fun h => by simpa using ih.2 h⟩
  | case4 => simp

/-- Reading a key, a word or a required character never runs past the end. -/
lemma startChar_ne_pastEnd (c : Cursor) : startChar c ≠ .error .pastEnd := by
  unfold startChar
  split
  · split <;> simp
  · simp

lemma Cursor.expect_ne_pastEnd (x : Char) (c : Cursor) : c.expect x ≠ .error .pastEnd := by
  unfold Cursor.expect
  split <;> simp

lemma Cursor.expectWord_ne_pastEnd :
    ∀ (w : List Char) (c : Cursor), Cursor.expectWord w c ≠ .error .pastEnd
  | [], _ => by simp [Cursor.expectWord]
  | x :: w, c => by
    simp only [Cursor.expectWord]
    cases hx : c.expect x with
    | error e => simpa [hx] using Cursor.expect_ne_pastEnd x c
    | ok c1 => simpa using Cursor.expectWord_ne_pastEnd w c1

lemma readKeyFrom_ne_pastEnd (ch : Char) (rest acc : List Char) :
    readKeyFrom ch rest acc ≠ .error .pastEnd := by
  induction rest generalizing ch acc with
  | nil => unfold readKeyFrom; split <;> simp
  | cons c r ih => unfold readKeyFrom; split <;> simp [ih]

lemma getLast?_of_suffix {l l' : List Char} {x : Char} (h : l <:+ l') (hl : l.getLast? = some x) :
    l'.getLast? = some x := by
  obtain ⟨t, rfl⟩ := h
  simp [List.getLast?_append, hl]

/-! ## Reading one token up to a group's entries -/

/-- What reading a token finds before it would read a group's entries: the token read (or none),
or the key of a group with the cursor on its opening brace. -/
inductive Head where
  | done (t : Option Token) (c : Cursor)
  | group (key : String) (c : Cursor)

/-- `readToken` up to the entries of a group (`readToken_succ`). -/
def readHead (c : Cursor) : Except ReadError Head := do
  let (key, c) ← readKeyFrom (← startChar c) c.rest []
  if key.isEmpty then return .done none c
  let key := String.ofList key
  let (c, _) := skipSpaces c.cur c.rest
  if key == orderKey then
    let c ← c.expect ':'
    let (c, _) := skipSpaces c.cur c.rest
    return .done (some (key, .mark)) (← Cursor.expectWord "true".toList c)
  match c.cur with
  | some ':' =>
    let (c, _) := skipSpaces c.next.cur c.next.rest
    let c ← c.expect '"'
    let (cs, c) ← readValueFrom (← startChar c) c.rest []
    let c ← c.expect '"'
    return .done (some (key, if cs.isEmpty then .empty else .text (String.ofList cs))) c
  | some '{' => return .group key c
  | _ => .error .malformed

/-- The rest of a token once its head is read: a group's entries and closing brace. -/
def finishToken (n : Nat) : Head → Except ReadError (Option Token × Cursor)
  | .done t c => .ok (t, c)
  | .group key c => do
    let (ts, c) ← readTokens n c.next []
    let c ← c.expect '}'
    return (some (key, .group (ts.foldl (fun es (k, v) => putEntry es k v) [])), c)

lemma readToken_succ (n : Nat) (c : Cursor) :
    readToken (n + 1) c = readHead c >>= finishToken n := by
  rw [readToken.eq_2, readHead]
  simp only [bind_assoc]
  congr 1; funext ch
  congr 1; funext kc
  split
  · rfl
  · split
    · simp only [bind_assoc, pure_bind, finishToken]; rfl
    · -- both sides look at the same character after the key; each branch is then the same step
      generalize (skipSpaces kc.2.cur kc.2.rest).1 = c2
      rcases c2 with ⟨_ | x, r⟩
      · rfl
      · by_cases h1 : x = ':'
        · subst h1; simp only [bind_assoc, pure_bind, finishToken]; rfl
        by_cases h2 : x = '{'
        · subst h2; rfl
        · split <;> simp_all

/-- What a reading from `c` may end in: a cursor on a tail of `c`'s characters, or a run past the
end only where they end with a quote. -/
def Within {α : Type} (c : Cursor) : Except ReadError (α × Cursor) → Prop
  | .ok (_, c') => c'.chars <:+ c.chars
  | .error e => e = .pastEnd → c.chars.getLast? = some '"'

lemma Within.mono {α : Type} {c d : Cursor} {r : Except ReadError (α × Cursor)} (hr : Within c r)
    (h : c.chars <:+ d.chars) : Within d r := by
  rcases r with e | ⟨_, c'⟩
  · exact fun he => getLast?_of_suffix h (hr he)
  · exact hr.trans h

/-- What a token's head may give, from the cursor `c` it starts on. -/
def HeadFrom (c : Cursor) : Except ReadError Head → Prop
  | .ok (.done t c') => c'.chars <:+ c.chars ∧ (t.isSome → c'.chars.length < c.chars.length)
  | .ok (.group _ c') =>
    c'.cur = some '{' ∧ c'.chars <:+ c.chars ∧ c'.chars.length < c.chars.length
  | .error e => e = .pastEnd → c.chars.getLast? = some '"'

/-- A step that never runs past the end leaves `HeadFrom` to the steps after it. -/
lemma HeadFrom.bind {α : Type} {c : Cursor} {x : Except ReadError α}
    {f : α → Except ReadError Head} (hx : x ≠ .error .pastEnd)
    (hf : ∀ a, x = .ok a → HeadFrom c (f a)) : HeadFrom c (x >>= f) := by
  cases h : x with
  | error e => rintro rfl; exact absurd h hx
  | ok a => exact hf a h

/-- **Everything a token's head can do**: it reads on from where it stands, takes a character
for a token it reads, stops a group's key on the opening brace, and runs past the end only at a
quote that ends the text. -/
lemma readHead_spec (c : Cursor) : HeadFrom c (readHead c) := by
  unfold readHead
  refine HeadFrom.bind (startChar_ne_pastEnd c) fun ch hs => ?_
  have hc : c.chars = ch :: c.rest := by simp [Cursor.chars, startChar_cur hs]
  refine HeadFrom.bind (readKeyFrom_ne_pastEnd _ _ _) fun kc hk => ?_
  obtain ⟨key, c1⟩ := kc
  obtain ⟨hs1, hl1⟩ := readKeyFrom_chars hk
  dsimp only
  rw [← hc] at hs1
  split
  · exact ⟨hs1, by simp⟩
  · next hkey =>
    -- the key took a character, so every token read from here ends nearer the end than `c`
    have hlt : c1.chars.length < c.chars.length := by
      have : key.length ≠ 0 := by simpa using hkey
      rw [hc]; simp only [List.length_cons, List.length_nil] at hl1 ⊢; omega
    set c2 := (skipSpaces c1.cur c1.rest).1
    have h2 : c2.chars <:+ c1.chars := skipSpaces_chars c1.cur c1.rest
    have done : ∀ t c', c'.chars <:+ c2.chars → HeadFrom c (.ok (.done t c')) := fun t c' h =>
      ⟨(h.trans h2).trans hs1, fun _ => lt_of_le_of_lt (h.trans h2).length_le hlt⟩
    split
    · refine HeadFrom.bind (Cursor.expect_ne_pastEnd _ _) fun c3 h3 => ?_
      refine HeadFrom.bind (Cursor.expectWord_ne_pastEnd _ _) fun c5 h5 => ?_
      exact done _ _ (((Cursor.expectWord_suffix h5).trans (skipSpaces_chars _ _)).trans
        (Cursor.expect_suffix h3))
    · split
      · next hcol =>
        -- past the colon and the spaces after it, the value between quotes
        have h3 : (skipSpaces c2.next.cur c2.next.rest).1.chars <:+ c2.chars :=
          (skipSpaces_chars _ _).trans (by rw [Cursor.chars_of_cur hcol]; exact List.suffix_cons _ _)
        refine HeadFrom.bind (Cursor.expect_ne_pastEnd _ _) fun c4 h4 => ?_
        refine HeadFrom.bind (startChar_ne_pastEnd _) fun ch4 h5 => ?_
        have hc4 : c4.chars = ch4 :: c4.rest := by simp [Cursor.chars, startChar_cur h5]
        have h44 : c4.chars <:+ c2.chars := (Cursor.expect_suffix h4).trans h3
        have hv := readValueFrom_chars ch4 c4.rest []
        cases h6 : readValueFrom ch4 c4.rest [] with
        | error e => rintro rfl; exact getLast?_of_suffix ((h44.trans h2).trans hs1) (hc4 ▸ hv.2 h6)
        | ok vc =>
          obtain ⟨cs, c5⟩ := vc
          simp only [Except.ok_bind]
          refine HeadFrom.bind (Cursor.expect_ne_pastEnd _ _) fun c6 h7 => ?_
          exact done _ _ ((Cursor.expect_suffix h7).trans ((hc4 ▸ hv.1 cs c5 h6).trans h44))
      · next hb => exact ⟨hb, h2.trans hs1, lt_of_le_of_lt h2.length_le hlt⟩
      · intro h; cases h

/-! ## Whole readings -/

/-- **The reader reads on from where it stands**, runs past the end only at a closing quote that
ends the text, and takes a character for every token it reads. -/
lemma reads_within : ∀ n : Nat, (∀ c acc, Within c (readTokens n c acc)) ∧
    ∀ c, Within c (readToken n c) ∧
      ∀ t c', readToken n c = .ok (some t, c') → c'.chars.length < c.chars.length
  | 0 => ⟨fun c acc => List.suffix_refl _, fun c => ⟨fun h => (by cases h), fun t c' h => by cases h⟩⟩
  | n + 1 => by
    obtain ⟨ihs, iht⟩ := reads_within n
    refine ⟨fun c acc => ?_, fun c => ?_⟩
    · rw [readTokens.eq_2]
      have h1 := skipSpaces_chars c.cur c.rest
      cases hs : skipSpaces c.cur c.rest with
      | mk c1 more =>
        rw [hs] at h1
        cases more
        · exact h1
        · have hr := (iht c1).1
          simp only [Bool.not_true]
          cases h : readToken n c1 with
          | error e => rw [h] at hr; exact hr.mono h1
          | ok p =>
            obtain ⟨t, c2⟩ := p
            rw [h] at hr
            cases t with
            | none => exact hr.trans h1
            | some t => exact (ihs c2 _).mono (hr.trans h1)
    · rw [readToken_succ]
      have hs := readHead_spec c
      cases hh : readHead c with
      | error e => rw [hh] at hs; exact ⟨hs, fun t c' h => by cases h⟩
      | ok hd =>
        rw [hh] at hs
        cases hd with
        | done t0 c0 => exact ⟨hs.1, fun t c' h => by cases h; exact hs.2 rfl⟩
        | group key c2 =>
          -- the entries start past the opening brace, and a closing brace ends the token
          have hc2 := Cursor.chars_of_cur hs.1
          have h2 : c2.next.chars <:+ c.chars := (List.suffix_cons _ _).trans (hc2 ▸ hs.2.1)
          have hlt : c2.next.chars.length < c.chars.length := by
            have := hs.2.2
            rw [hc2, List.length_cons] at this
            omega
          have hr := ihs c2.next []
          simp only [Except.ok_bind, finishToken]
          cases h : readTokens n c2.next [] with
          | error e => rw [h] at hr; exact ⟨hr.mono h2, fun t c' h => by cases h⟩
          | ok p =>
            obtain ⟨ts, c3⟩ := p
            rw [h] at hr
            replace hr : c3.chars <:+ c2.next.chars := hr
            simp only [Except.ok_bind]
            cases h4 : c3.expect '}' with
            | error e =>
              refine ⟨?_, fun t c' h => by cases h⟩
              rintro rfl
              exact absurd h4 (Cursor.expect_ne_pastEnd _ _)
            | ok c4 =>
              have h34 : c4.chars <:+ c2.next.chars := (Cursor.expect_suffix h4).trans hr
              exact ⟨h34.trans h2, fun t c' h => by cases h; exact lt_of_le_of_lt h34.length_le hlt⟩

/-- **Enough steps**: from a cursor with `m` characters left, `2 * m + 2` steps finish a reading
of tokens and `2 * m + 1` one of a token; more steps change nothing. -/
lemma fuel_stable : ∀ n : Nat,
    (∀ c acc k, 2 * c.chars.length + 2 ≤ n → readTokens (n + k) c acc = readTokens n c acc) ∧
    (∀ c k, 2 * c.chars.length + 1 ≤ n → readToken (n + k) c = readToken n c)
  | 0 => ⟨fun _ _ _ h => by omega, fun _ _ h => by omega⟩
  | n + 1 => by
    obtain ⟨ihs, iht⟩ := fuel_stable n
    refine ⟨fun c acc k hn => ?_, fun c k hn => ?_⟩
    · rw [show n + 1 + k = n + k + 1 by omega, readTokens.eq_2, readTokens.eq_2]
      have h1 : _ ≤ c.chars.length := (skipSpaces_chars c.cur c.rest).length_le
      cases hs : skipSpaces c.cur c.rest with
      | mk c1 more =>
        rw [hs] at h1
        cases more
        · rfl
        · simp only [Bool.not_true]
          simp only at h1
          rw [iht c1 k (by omega)]
          cases hr : readToken n c1 with
          | error => rfl
          | ok p =>
            obtain ⟨t, c2⟩ := p
            cases t with
            | none => rfl
            | some t =>
              -- the token took a character, so the rest of the reading needs two steps fewer
              have := (reads_within n).2 c1 |>.2 _ c2 hr
              exact ihs c2 _ k (by omega)
    · rw [show n + 1 + k = n + k + 1 by omega, readToken_succ, readToken_succ]
      have hs := readHead_spec c
      cases hh : readHead c with
      | error => rfl
      | ok hd =>
        rw [hh] at hs
        cases hd with
        | done => rfl
        | group key c2 =>
          -- the entries start two characters on at least: the key's and the brace
          have hlen := hs.2.2
          rw [Cursor.chars_of_cur hs.1, List.length_cons] at hlen
          simp only [Except.ok_bind, finishToken]
          rw [ihs c2.next [] k (by omega)]

lemma Cursor.chars_ofChars (l : List Char) : (Cursor.ofChars l).chars = l := by
  cases l <;> rfl

/-- **Reading a text ends**: every run of the reader of at least twice the text's length and two
steps gives the tokens reading gives. -/
theorem read_halts (s : String) (hs : s ≠ "") (n : Nat) (hn : 2 * s.length + 2 ≤ n) :
    Token.read s = (readTokens n (Cursor.ofChars s.toList) []).map Prod.fst := by
  have hfuel := (fuel_stable _).1 (Cursor.ofChars s.toList) [] (n - (2 * s.length + 2))
    (by rw [Cursor.chars_ofChars, String.length_toList])
  rw [show 2 * s.length + 2 + (n - (2 * s.length + 2)) = n by omega] at hfuel
  rw [hfuel]
  unfold Token.read
  split
  · next hl => exact absurd (by simpa using hl) hs
  · next c r hl =>
    simp only [hl, Cursor.ofChars]
    cases readTokens (2 * s.length + 2) ⟨some c, r⟩ [] <;> rfl

theorem read_halts_value : ("k: \"v\" " ≠ "" ∧ 2 * "k: \"v\" ".length + 2 ≤ 20) ∧
    Token.read "k: \"v\" " = (readTokens 20 (Cursor.ofChars "k: \"v\" ".toList) []).map Prod.fst :=
  ⟨⟨by decide, by decide⟩, read_halts _ (by decide) 20 (by decide)⟩

/-- **Reading fails only by its own checks** on a text that does not end with a quote: a key or a
value that runs to the end (`ValueError`) or a character other than the one required
(`AssertionError`).  Looking past the end (`IndexError`) needs a quote at the end. -/
theorem read_fails_by_own_checks (s : String) (hs : s ≠ "") (hq : s.toList.getLast? ≠ some '"')
    (e : ReadError) (h : Token.read s = .error e) :
    e.toFailure.kind = "ValueError" ∨ e.toFailure.kind = "AssertionError" := by
  cases e with
  | malformed => exact .inl rfl
  | unexpected => exact .inr rfl
  | pastEnd =>
    refine absurd ?_ hq
    unfold Token.read at h
    split at h
    · next hl => exact absurd (by simpa using hl) hs
    · next c r hl =>
      have hr := (reads_within (2 * s.length + 2)).1 ⟨some c, r⟩ []
      cases h' : readTokens (2 * s.length + 2) ⟨some c, r⟩ [] with
      | error e =>
        rw [h'] at h hr
        cases h
        rw [hl]
        exact hr rfl
      | ok p => rw [h'] at h; cases h

example : Token.read "a:\"x\"" = .error .pastEnd := rfl

theorem read_fails_by_own_checks_brace : Token.read "a:\"x\"\x7d" = .error .malformed ∧
    (ReadError.malformed.toFailure.kind = "ValueError" ∨
      ReadError.malformed.toFailure.kind = "AssertionError") :=
  ⟨rfl, read_fails_by_own_checks "a:\"x\"\x7d" (by decide) (by decide) _ rfl⟩

end Conversa.Normalization
