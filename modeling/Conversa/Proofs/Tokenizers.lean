import Conversa.Language.Tokenizer
import Conversa.Proofs.Entries
import Conversa.Proofs.Monadic
import Conversa.Proofs.Synthesis

/-!
# Tokenizers: reading numbers back as text

**Bytes.**  The decoder reads back the UTF-8 sequences the encoder writes
(`decodeLossy_utf8EncodeChar`), and special tokens drop out (**`ByteLevel.idsToText_textToIds`**).

**Vocabularies.**  Over a file of distinct trimmed lines every token is numbered by its place
(`Vocabulary.ofText_eq_zipIdx`); a repeated line leaves fewer tokens than lines
(`Vocabulary.length_ofText_lt`), so the promises hold exactly without one
(**`Tokenizer.make_faithful_iff`**).
-/

theorem ByteArray.toList_loop (bs : ByteArray) (i : Nat) (r : List UInt8) :
    ByteArray.toList.loop bs i r = r.reverse ++ bs.data.toList.drop i := by
  fun_induction ByteArray.toList.loop bs i r with
  | case1 i r h ih =>
    have hd : bs.data.toList.drop i = bs.get! i :: bs.data.toList.drop (i + 1) := by
      rw [List.drop_eq_getElem_cons (by simpa using h)]
      simp [ByteArray.get!, h]
    rw [ih, hd]
    simp
  | case2 i r h => simp [List.drop_eq_nil_of_le (show bs.data.toList.length ≤ i by simp; omega)]

theorem ByteArray.toList_eq (bs : ByteArray) : bs.toList = bs.data.toList := by
  simp [ByteArray.toList, ByteArray.toList_loop]

theorem String.toByteArray_toList (s : String) :
    s.toByteArray.toList = s.toList.flatMap String.utf8EncodeChar := by
  rw [ByteArray.toList_eq, ← String.utf8Encode_toList, List.utf8Encode, List.toList_data_toByteArray]

namespace Conversa.Text

lemma decodeLossy_one {b : UInt8} (r : List UInt8) (hb : b.toNat < 0x80) :
    decodeLossy (b :: r) = charOfBits b.toNat :: decodeLossy r := by
  rw [decodeLossy]
  simp [UInt8.lt_iff_toNat_lt, hb]

lemma secondRange_toNat (b : UInt8) :
    ((secondRange b).1.toNat, (secondRange b).2.toNat) =
      if b.toNat = 0xE0 then (0xA0, 0xBF) else if b.toNat = 0xED then (0x80, 0x9F)
      else if b.toNat = 0xF0 then (0x90, 0xBF) else if b.toNat = 0xF4 then (0x80, 0x8F)
      else (0x80, 0xBF) := by
  simp only [secondRange, beq_iff_eq, ← UInt8.toNat_inj]
  split_ifs <;> simp_all

lemma decodeLossy_two {b b₁ : UInt8} (r : List UInt8) (hb : 0xC2 ≤ b.toNat ∧ b.toNat ≤ 0xDF)
    (h₁ : 0x80 ≤ b₁.toNat ∧ b₁.toNat ≤ 0xBF) :
    decodeLossy (b :: b₁ :: r) = charOfBits ((b.toNat % 32) * 64 + b₁.toNat % 64) :: decodeLossy r := by
  have hr := secondRange_toNat b
  rw [decodeLossy]
  simp only [UInt8.lt_iff_toNat_lt, UInt8.le_iff_toNat_le, Bool.and_eq_true, decide_eq_true_eq, UInt8.reduceToNat]
  rw [if_neg (by simp; omega), if_neg ?_, if_pos hb]
  split_ifs at hr <;> simp_all [Prod.ext_iff]

lemma decodeLossy_three {b b₁ b₂ : UInt8} (r : List UInt8) (hb : 0xE0 ≤ b.toNat ∧ b.toNat ≤ 0xEF)
    (h₁ : 0x80 ≤ b₁.toNat ∧ b₁.toNat ≤ 0xBF ∧ (b.toNat = 0xE0 → 0xA0 ≤ b₁.toNat) ∧
      (b.toNat = 0xED → b₁.toNat ≤ 0x9F))
    (h₂ : 0x80 ≤ b₂.toNat ∧ b₂.toNat ≤ 0xBF) :
    decodeLossy (b :: b₁ :: b₂ :: r) =
      charOfBits ((b.toNat % 16) * 4096 + (b₁.toNat % 64) * 64 + b₂.toNat % 64) :: decodeLossy r := by
  have hr := secondRange_toNat b
  rw [decodeLossy]
  simp only [UInt8.lt_iff_toNat_lt, UInt8.le_iff_toNat_le, Bool.and_eq_true, decide_eq_true_eq,
    UInt8.reduceToNat, isContinuation, Bool.not_eq_true']
  rw [if_neg (by omega), if_neg ?_, if_neg (by omega)]
  · rw [if_neg (by simp; omega), if_pos hb]
  · split_ifs at hr <;> simp_all [Prod.ext_iff]

lemma decodeLossy_four {b b₁ b₂ b₃ : UInt8} (r : List UInt8) (hb : 0xF0 ≤ b.toNat ∧ b.toNat ≤ 0xF4)
    (h₁ : 0x80 ≤ b₁.toNat ∧ b₁.toNat ≤ 0xBF ∧ (b.toNat = 0xF0 → 0x90 ≤ b₁.toNat) ∧
      (b.toNat = 0xF4 → b₁.toNat ≤ 0x8F))
    (h₂ : 0x80 ≤ b₂.toNat ∧ b₂.toNat ≤ 0xBF) (h₃ : 0x80 ≤ b₃.toNat ∧ b₃.toNat ≤ 0xBF) :
    decodeLossy (b :: b₁ :: b₂ :: b₃ :: r) =
      charOfBits ((b.toNat % 8) * 262144 + (b₁.toNat % 64) * 4096 + (b₂.toNat % 64) * 64 +
        b₃.toNat % 64) :: decodeLossy r := by
  have hr := secondRange_toNat b
  rw [decodeLossy]
  simp only [UInt8.lt_iff_toNat_lt, UInt8.le_iff_toNat_le, Bool.and_eq_true, decide_eq_true_eq,
    UInt8.reduceToNat, isContinuation, Bool.not_eq_true']
  rw [if_neg (by omega), if_neg ?_, if_neg (by omega), if_neg (by simp; omega), if_neg (by omega),
    if_pos ⟨hb, h₃⟩]
  split_ifs at hr <;> simp_all [Prod.ext_iff]

lemma decodeLossy_utf8EncodeChar (c : Char) (rest : List UInt8) :
    decodeLossy (String.utf8EncodeChar c ++ rest) = c :: decodeLossy rest := by
  have hv : c.toNat < 0xD800 ∨ (0xDFFF < c.toNat ∧ c.toNat < 0x110000) := c.valid
  -- the decoder puts the character's own bits together
  have hc : ∀ n, n = c.toNat → charOfBits n = c := by
    rintro n rfl
    exact Char.ofNat_toNat c
  unfold String.utf8EncodeChar
  dsimp only
  rw [show c.val.toNat = c.toNat from rfl]
  split_ifs with h₁ h₂ h₃
  · rw [List.singleton_append, decodeLossy_one _ (by simp; omega), hc _ (by simp; omega)]
  · rw [List.cons_append, List.cons_append, List.nil_append,
      decodeLossy_two _ (by simp; omega) (by simp; omega), hc _ (by simp; omega)]
  · rw [List.cons_append, List.cons_append, List.cons_append, List.nil_append,
      decodeLossy_three _ (by simp; omega) (by simp; omega) (by simp; omega), hc _ (by simp; omega)]
  · rw [List.cons_append, List.cons_append, List.cons_append, List.cons_append, List.nil_append,
      decodeLossy_four _ (by simp; omega) (by simp; omega) (by simp; omega) (by simp; omega),
      hc _ (by simp; omega)]

theorem decodeLossy_flatMap_utf8EncodeChar (cs : List Char) :
    decodeLossy (cs.flatMap String.utf8EncodeChar) = cs := by
  induction cs with
  | nil => simp [decodeLossy]
  | cons c cs ih => rw [List.flatMap_cons, decodeLossy_utf8EncodeChar, ih]

theorem decodeLossy_toByteArray (s : String) : decodeLossy s.toByteArray.toList = s.toList := by
  rw [String.toByteArray_toList, decodeLossy_flatMap_utf8EncodeChar]

end Conversa.Text

namespace Conversa.Language.ByteLevel

theorem textToIds_lt (s : String) : ∀ i ∈ textToIds s, i < 256 := by
  intro i hi
  obtain ⟨b, -, rfl⟩ := List.mem_map.1 hi
  exact b.toNat_lt

/-- **Bytes read back.**  The numbers of a text are bytes, and with special tokens put anywhere
among them they read back as the text with its trailing white space trimmed.  The numbers `ids`
are the text's with special tokens put among them exactly when dropping the special ones leaves
the text's. -/
theorem idsToText_textToIds (s : String) (ids : List Int)
    (h : ids.filter (· ∉ specialIds.map Int.ofNat) = (textToIds s).map Int.ofNat) :
    (∀ i ∈ textToIds s, i < 256) ∧ idsToText ids = .ok (Text.stripEnd s) := by
  refine ⟨textToIds_lt s, ?_⟩
  -- the special tokens are the numbers from 256 on, so keeping the bytes drops exactly them
  have hbytes : ids.filter (· < 256) = (textToIds s).map Int.ofNat := by
    rw [← h]
    apply List.filter_congr
    intro x hx
    by_cases hs : x ∈ specialIds.map Int.ofNat
    · simp [specialIds, padId, bosId, eosId] at hs
      rcases hs with rfl | rfl | rfl <;> simp [specialIds, padId, bosId, eosId]
    · have : x ∈ (textToIds s).map Int.ofNat := h ▸ List.mem_filter.2 ⟨hx, by simpa using hs⟩
      obtain ⟨n, hn, rfl⟩ := List.mem_map.1 this
      simpa [textToIds_lt s n hn] using fun h' => hs (List.mem_map_of_mem h')
  simp [idsToText, hbytes, textToIds, Function.comp_def, Text.decodeLossy_toByteArray, pure, Except.pure]

/-- Two to three byte characters and white space, between the beginning and end tokens, with the
padding token inside. -/
theorem idsToText_textToIds_with_markers :
    ([257, 195, 169, 32, 256, 230, 151, 165, 9, 258] : List Int).filter
        (· ∉ specialIds.map Int.ofNat) = (textToIds "é 日\t").map Int.ofNat ∧
      (∀ i ∈ textToIds "é 日\t", i < 256) ∧
      idsToText [257, 195, 169, 32, 256, 230, 151, 165, 9, 258] = .ok (Text.stripEnd "é 日\t") :=
  ⟨by decide +kernel, idsToText_textToIds _ _ (by decide +kernel)⟩

end Conversa.Language.ByteLevel

namespace Conversa.Language

/-- The tokens a vocabulary file lists, one a line, white space trimmed. -/
def vocabLines (text : String) : List String :=
  (Text.fileLines text).map fun line => Text.strip (String.ofList line)

/-- A text as its pieces, joined back, read: the text itself for characters, its words joined by
single blanks for words. -/
def Splitting.rejoined : Splitting → String → String
  | .characters, s => s
  | .words, s => " ".intercalate (Text.words s)

namespace Vocabulary

lemma put_eq_putEntry (v : Vocabulary) (t : String) (n : Nat) :
    v.put t n = Dialogue.putEntry v t n := by
  simp only [put, Dialogue.putEntry]
  split_ifs
  · apply List.map_congr_left
    rintro ⟨k, m⟩ -
    by_cases h : k = t <;> simp [h]
  · rfl

lemma idOf?_isSome_iff (v : Vocabulary) (t : String) :
    (v.idOf? t).isSome ↔ t ∈ v.map Prod.fst := by
  simp [idOf?, List.find?_isSome]

lemma mem_of_idOf? {v : Vocabulary} {t : String} {n : Nat} (h : v.idOf? t = some n) :
    (t, n) ∈ v := by
  obtain ⟨e, he, rfl⟩ := Option.map_eq_some_iff.1 h
  have hkey : e.1 = t := by simpa using List.find?_some he
  exact hkey ▸ List.mem_of_find?_eq_some he

lemma find?_key_of_nodup {α β : Type} [BEq β] [LawfulBEq β] {f : α → β} {l : List α} {a : α}
    (hl : (l.map f).Nodup) (ha : a ∈ l) : l.find? (fun x => f x == f a) = some a := by
  obtain ⟨b, hb⟩ := Option.isSome_iff_exists.1
    (List.find?_isSome.2 ⟨a, ha, by simp⟩ : (l.find? (fun x => f x == f a)).isSome)
  have hkey : f b = f a := by simpa using List.find?_some hb
  rw [hb, List.inj_on_of_nodup_map hl (List.mem_of_find?_eq_some hb) ha hkey]

lemma idOf?_of_mem {v : Vocabulary} {t : String} {n : Nat} (hkeys : (v.map Prod.fst).Nodup)
    (h : (t, n) ∈ v) : v.idOf? t = some n := by
  simp [idOf?, find?_key_of_nodup hkeys h]

lemma tokenOf?_of_mem {v : Vocabulary} {t : String} {n : Nat} (hids : (v.map Prod.snd).Nodup)
    (h : (t, n) ∈ v) : v.tokenOf? n = some t := by
  have hrev : (v.reverse.map Prod.snd).Nodup := by rwa [List.map_reverse, List.nodup_reverse]
  simp [tokenOf?, find?_key_of_nodup hrev (List.mem_reverse.2 h)]

lemma put_of_not_mem {v : Vocabulary} {t : String} (n : Nat) (h : t ∉ v.map Prod.fst) :
    v.put t n = v ++ [(t, n)] := by
  rw [put, if_neg (by simpa using h)]

/-- Numbered tokens put in turn. -/
def putAll (v : Vocabulary) (ps : List (String × Nat)) : Vocabulary :=
  ps.foldl (fun v p => v.put p.1 p.2) v

@[simp] lemma putAll_cons (v : Vocabulary) (p : String × Nat) (ps : List (String × Nat)) :
    putAll v (p :: ps) = putAll (v.put p.1 p.2) ps := rfl

lemma ofText_eq_putAll (s : String) : ofText s = putAll [] (vocabLines s).zipIdx := by
  simp only [ofText, putAll, vocabLines, List.zipIdx_map, List.foldl_map]
  rfl

lemma keys_putAll (v : Vocabulary) (ps : List (String × Nat)) (hv : (v.map Prod.fst).Nodup) :
    ((putAll v ps).map Prod.fst).Nodup ∧
      ∀ t ∈ (putAll v ps).map Prod.fst, t ∈ v.map Prod.fst ∨ t ∈ ps.map Prod.fst := by
  induction ps generalizing v with
  | nil => simpa [putAll] using hv
  | cons p ps ih =>
    have hkeys := Dialogue.map_fst_putEntry v p.1 p.2
    rw [← put_eq_putEntry] at hkeys
    have hv' : ((v.put p.1 p.2).map Prod.fst).Nodup := by
      rw [hkeys]
      split_ifs with h
      · exact hv
      · rw [← List.concat_eq_append]
        exact hv.concat h
    obtain ⟨hnd, hsub⟩ := ih (v.put p.1 p.2) hv'
    refine ⟨hnd, fun t ht => ?_⟩
    rcases hsub t ht with h | h
    · rw [hkeys] at h
      split_ifs at h
      · exact .inl h
      · rcases List.mem_append.1 h with h | h
        · exact .inl h
        · exact .inr (by simp_all)
    · exact .inr (List.mem_cons_of_mem _ h)

lemma putAll_of_nodup (v : Vocabulary) (ps : List (String × Nat))
    (h : (v.map Prod.fst ++ ps.map Prod.fst).Nodup) : putAll v ps = v ++ ps := by
  induction ps generalizing v with
  | nil => simp [putAll]
  | cons p ps ih =>
    have hp : p.1 ∉ v.map Prod.fst := by
      simp only [List.map_cons, List.nodup_append] at h
      exact fun hv => h.2.2 _ hv _ List.mem_cons_self rfl
    rw [putAll_cons, put_of_not_mem _ hp, ih _ (by simpa using h)]
    simp

lemma mem_putAll_last (v : Vocabulary) (ps : List (String × Nat)) (t : String) (n : Nat) :
    (t, n) ∈ putAll v (ps ++ [(t, n)]) := by
  rw [putAll, List.foldl_append, List.foldl_cons, List.foldl_nil, put_eq_putEntry]
  exact Dialogue.mem_putEntry_self _ t n

lemma keys_ofText (s : String) :
    ((ofText s).map Prod.fst).Nodup ∧ ∀ t ∈ (ofText s).map Prod.fst, t ∈ vocabLines s := by
  obtain ⟨hnd, hsub⟩ := keys_putAll [] (vocabLines s).zipIdx List.nodup_nil
  rw [← ofText_eq_putAll] at hnd hsub
  exact ⟨hnd, fun t ht => by simpa [List.zipIdx_map_fst] using hsub t ht⟩

lemma ofText_eq_zipIdx {s : String} (h : (vocabLines s).Nodup) : ofText s = (vocabLines s).zipIdx := by
  rw [ofText_eq_putAll, putAll_of_nodup _ _ (by simpa [List.zipIdx_map_fst] using h),
    List.nil_append]

lemma lastLine_mem_ofText (s : String) (h : vocabLines s ≠ []) :
    ((vocabLines s).getLast h, (vocabLines s).length - 1) ∈ ofText s := by
  have hsplit : (vocabLines s).zipIdx = (vocabLines s).dropLast.zipIdx ++
      [((vocabLines s).getLast h, (vocabLines s).length - 1)] := by
    conv_lhs => rw [← List.dropLast_append_getLast h]
    simp [List.zipIdx_append]
  rw [ofText_eq_putAll, hsplit]
  exact mem_putAll_last _ _ _ _

lemma length_ofText_lt {s : String} (h : ¬ (vocabLines s).Nodup) :
    (ofText s).length < (vocabLines s).length := by
  obtain ⟨hnd, hsub⟩ := keys_ofText s
  have hle : (ofText s).length ≤ (vocabLines s).dedup.length := by
    simpa using (hnd.subperm fun t ht => List.subset_dedup _ (hsub t ht)).length_le
  have hlt : (vocabLines s).dedup.length < (vocabLines s).length := by
    refine lt_of_le_of_ne (List.dedup_sublist _).length_le fun heq => h ?_
    rw [← (List.dedup_sublist _).eq_of_length heq]
    exact List.nodup_dedup _
  omega

end Vocabulary

namespace Tokenizer

/-- Registering special tokens appends the new ones, numbered on from the vocabulary's size, and
keeps the tokens distinct. -/
lemma foldl_register (specs : List (Role × String)) (v : Vocabulary) (hv : (v.map Prod.fst).Nodup) :
    ∃ ks : List String,
      specs.foldl (fun v (r : Role × String) =>
          if (v.idOf? r.2).isSome then v else v.put r.2 v.length) v = v ++ ks.zipIdx v.length ∧
        ((v ++ ks.zipIdx v.length).map Prod.fst).Nodup ∧
        ∀ r ∈ specs, r.2 ∈ (v ++ ks.zipIdx v.length).map Prod.fst := by
  induction specs generalizing v with
  | nil => exact ⟨[], by simp, by simpa using hv, by simp⟩
  | cons r specs ih =>
    rw [List.foldl_cons]
    by_cases hr : r.2 ∈ v.map Prod.fst
    · rw [if_pos ((Vocabulary.idOf?_isSome_iff v r.2).2 hr)]
      obtain ⟨ks, heq, hnd, hmem⟩ := ih v hv
      refine ⟨ks, heq, hnd, ?_⟩
      rintro q (_ | ⟨_, hq⟩)
      · simp_all
      · exact hmem q hq
    · rw [if_neg (by rwa [Vocabulary.idOf?_isSome_iff]), Vocabulary.put_of_not_mem _ hr]
      have hv' : ((v ++ [(r.2, v.length)]).map Prod.fst).Nodup := by
        rw [List.map_append, List.map_singleton, ← List.concat_eq_append]
        exact hv.concat hr
      obtain ⟨ks, heq, hnd, hmem⟩ := ih _ hv'
      have hshape : v ++ [(r.2, v.length)] ++ ks.zipIdx (v ++ [(r.2, v.length)]).length =
          v ++ (r.2 :: ks).zipIdx v.length := by
        simp [List.zipIdx_cons]
      rw [hshape] at heq hnd hmem
      refine ⟨r.2 :: ks, heq, hnd, ?_⟩
      rintro q (_ | ⟨_, hq⟩)
      · simp [List.zipIdx_cons]
      · exact hmem q hq

/-- A tokenizer's vocabulary: the file's, then the special tokens it does not list, numbered on
from its size; the tokens are distinct, and every special token is among them. -/
lemma make_vocab (splitting : Splitting) (text : String) (specials : List (Role × String)) :
    ∃ ks : List String,
      (make splitting text specials).vocab =
          Vocabulary.ofText text ++ ks.zipIdx (Vocabulary.ofText text).length ∧
        ((make splitting text specials).vocab.map Prod.fst).Nodup ∧
        ∀ r ∈ (make splitting text specials).specials,
          r.2 ∈ (make splitting text specials).vocab.map Prod.fst := by
  obtain ⟨ks, heq, hnd, hmem⟩ :=
    foldl_register (make splitting text specials).specials _ (Vocabulary.keys_ofText text).1
  have hvocab : (make splitting text specials).vocab =
      Vocabulary.ofText text ++ ks.zipIdx (Vocabulary.ofText text).length := heq
  exact ⟨ks, hvocab, hvocab ▸ hnd, fun r hr => hvocab ▸ hmem r hr⟩

/-- What a tokenizer promises of its vocabulary: distinct tokens have distinct numbers, every
number is below its size, and the numbers of a text whose pieces are listed and none special
read back as the text, its pieces joined as they were cut. -/
def Faithful (t : Tokenizer) : Prop :=
  (∀ a ∈ t.vocab.map Prod.fst, ∀ b ∈ t.vocab.map Prod.fst, t.tokenToId a = t.tokenToId b → a = b) ∧
    (∀ e ∈ t.vocab, e.2 < t.size) ∧
    ∀ s : String, (∀ p ∈ t.pieces s, p ∈ t.vocab.map Prod.fst ∧ p ∉ t.specials.map Prod.snd) →
      (t.textToIds s).bind (fun ids => t.idsToText (ids.map Int.ofNat)) =
        .ok (t.splitting.rejoined s)

lemma tokenToId_of_mem {t : Tokenizer} (hkeys : (t.vocab.map Prod.fst).Nodup) {a : String}
    {n : Nat} (h : (a, n) ∈ t.vocab) : t.tokenToId a = .ok n := by
  simp [tokenToId, Vocabulary.idOf?_of_mem hkeys h]

/-- Over a vocabulary whose tokens and numbers are both distinct, the numbers of a text whose
pieces are listed and none special read back as the text. -/
lemma idsToText_textToIds_of_nodup {t : Tokenizer} (hkeys : (t.vocab.map Prod.fst).Nodup)
    (hids : (t.vocab.map Prod.snd).Nodup) {s : String}
    (hs : ∀ p ∈ t.pieces s, p ∈ t.vocab.map Prod.fst ∧ p ∉ t.specials.map Prod.snd) :
    (t.textToIds s).bind (fun ids => t.idsToText (ids.map Int.ofNat)) =
      .ok (t.splitting.rejoined s) := by
  set num : String → Nat := fun p => (t.vocab.idOf? p).getD 0 with hnum_def
  have hnum : ∀ p ∈ t.vocab.map Prod.fst, (p, num p) ∈ t.vocab := by
    intro p hp
    obtain ⟨e, he, rfl⟩ := List.mem_map.1 hp
    simpa [hnum_def, Vocabulary.idOf?_of_mem hkeys he] using he
  have htokens : t.textToTokens s = .ok (t.pieces s) := by
    rw [textToTokens]
    simpa using mapM_ok_of_forall id fun p (hp : p ∈ t.pieces s) =>
      show (if (t.vocab.idOf? p).isSome then .ok p else t.special .unk) = .ok (id p) by
        rw [if_pos ((Vocabulary.idOf?_isSome_iff _ _).2 (hs p hp).1)]; rfl
  have hnums : t.tokensToIds (t.pieces s) = .ok ((t.pieces s).map num) :=
    mapM_ok_of_forall num fun p hp => tokenToId_of_mem hkeys (hnum p (hs p hp).1)
  -- no piece shares its number with a special token, so none is dropped
  have hkept : (((t.pieces s).map num).map Int.ofNat).filter
      (fun n => !t.specialIds.any fun m => (m : Int) == n) = ((t.pieces s).map num).map Int.ofNat := by
    refine List.filter_eq_self.2 fun n hn => ?_
    obtain ⟨p, hp, rfl⟩ : ∃ p ∈ t.pieces s, (num p : Int) = n := by simpa using hn
    simp only [Bool.not_eq_true', List.any_eq_false, beq_iff_eq, Nat.cast_inj]
    rintro m hm rfl
    obtain ⟨⟨r, q⟩, hq, hqm⟩ := List.mem_filterMap.1 hm
    have hqm' : t.vocab.idOf? q = some (num p) := hqm
    have := List.inj_on_of_nodup_map hids (Vocabulary.mem_of_idOf? hqm') (hnum p (hs p hp).1) rfl
    exact (hs p hp).2 (List.mem_map.2 ⟨(r, q), hq, by simpa using congrArg Prod.fst this⟩)
  have hback : t.idsToTokens (((t.pieces s).map num).map Int.ofNat) = .ok (t.pieces s) := by
    rw [idsToTokens, List.map_map, List.mapM_map]
    have h := mapM_ok_of_forall id fun p (hp : p ∈ t.pieces s) =>
      show (t.idToToken ∘ Int.ofNat ∘ num) p = .ok (id p) by
        have hnn : ¬ ((num p : Int) < 0) := by omega
        simp [idToToken, hnn, Vocabulary.tokenOf?_of_mem hids (hnum p (hs p hp).1)]
    rwa [List.map_id] at h
  simp only [textToIds, htokens, Except.ok_bind, hnums]
  show t.idsToText (((t.pieces s).map num).map Int.ofNat) = _
  simp only [idsToText, hkept, hback, Except.ok_bind, pure, Except.pure]
  cases h : t.splitting with
  | characters => simp only [pieces, h, Splitting.rejoined, String.join_map_singleton, String.ofList_toList]
  | words => simp only [pieces, h, Splitting.rejoined]

section Make

variable {splitting : Splitting} {text : String} {specials : List (Role × String)}

/-- Over a file whose lines are distinct the promises hold: every token is numbered by its place,
the special tokens after the lines. -/
theorem faithful_of_nodup (h : (vocabLines text).Nodup) : (make splitting text specials).Faithful := by
  obtain ⟨ks, hv, hkeys, -⟩ := make_vocab splitting text specials
  have hzip : (make splitting text specials).vocab = (vocabLines text ++ ks).zipIdx := by
    rw [hv, Vocabulary.ofText_eq_zipIdx h, List.length_zipIdx, List.zipIdx_append, Nat.zero_add]
  have hids : ((make splitting text specials).vocab.map Prod.snd).Nodup := by
    rw [hzip, List.zipIdx_map_snd]
    exact List.nodup_range' 1
  refine ⟨fun a ha b hb hab => ?_, fun e he => ?_,
    fun s hs => idsToText_textToIds_of_nodup hkeys hids hs⟩
  · -- tokens of one number are one entry's
    obtain ⟨⟨a, i⟩, hai, rfl⟩ := List.mem_map.1 ha
    obtain ⟨⟨b, j⟩, hbj, rfl⟩ := List.mem_map.1 hb
    rw [tokenToId_of_mem hkeys hai, tokenToId_of_mem hkeys hbj, Except.ok.injEq] at hab
    subst hab
    exact congrArg Prod.fst (List.inj_on_of_nodup_map hids hai hbj rfl)
  · rw [hzip] at he
    simpa [size, hzip] using (List.mem_zipIdx (show (e.1, e.2) ∈ _ from he)).2.1

/-- A file with a repeated line breaks the promises: it lists fewer tokens than it has lines, so
its last line is numbered past them, where a special token, or nothing, is numbered too. -/
theorem nodup_of_faithful (hf : (make splitting text specials).Faithful) : (vocabLines text).Nodup := by
  by_contra hdup
  obtain ⟨hinj, hlt, -⟩ := hf
  obtain ⟨ks, hv, hkeys, -⟩ := make_vocab splitting text specials
  have hne : vocabLines text ≠ [] := by
    rintro hL
    exact hdup (hL ▸ List.nodup_nil)
  have hshort := Vocabulary.length_ofText_lt hdup
  have hfile := Vocabulary.lastLine_mem_ofText text hne
  have hlast : ((vocabLines text).getLast hne, (vocabLines text).length - 1) ∈
      (make splitting text specials).vocab := by
    rw [hv]
    exact List.mem_append_left _ hfile
  have hk : (vocabLines text).length - 1 - (Vocabulary.ofText text).length < ks.length := by
    have := hlt _ hlast
    simp only [size, hv, List.length_append, List.length_zipIdx] at this
    omega
  have hspecial : (ks[(vocabLines text).length - 1 - (Vocabulary.ofText text).length],
      (vocabLines text).length - 1) ∈ (make splitting text specials).vocab := by
    have hmem := List.getElem_mem (show _ < (ks.zipIdx (Vocabulary.ofText text).length).length by
      simpa using hk)
    rw [List.getElem_zipIdx, Nat.add_sub_cancel' (by omega)] at hmem
    rw [hv]
    exact List.mem_append_right _ hmem
  have heq : (vocabLines text).getLast hne =
      ks[(vocabLines text).length - 1 - (Vocabulary.ofText text).length] :=
    hinj _ (List.mem_map_of_mem hlast) _ (List.mem_map_of_mem hspecial)
      (by rw [tokenToId_of_mem hkeys hlast, tokenToId_of_mem hkeys hspecial])
  -- yet the special tokens added are none of the file's
  rw [hv, List.map_append, List.zipIdx_map_fst] at hkeys
  exact List.disjoint_of_nodup_append hkeys (List.mem_map_of_mem hfile) (heq ▸ List.getElem_mem hk)

/-- **A tokenizer keeps its promises exactly when its file lists no token twice.**  Distinct
tokens have distinct numbers, numbers stay below the size, and texts of listed tokens read back,
for every splitting and every choice of special tokens, exactly when the file's trimmed lines
are distinct. -/
theorem make_faithful_iff (splitting : Splitting) (text : String) (specials : List (Role × String)) :
    (make splitting text specials).Faithful ↔ (vocabLines text).Nodup :=
  ⟨nodup_of_faithful, faithful_of_nodup⟩

end Make

end Tokenizer
end Conversa.Language
