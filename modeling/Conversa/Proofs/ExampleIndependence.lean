import Mathlib
import Conversa.Dialogue.Examples
import Conversa.Proofs.Monadic

/-!
# The examples of a turn, encoded each on its own

Every example of a user turn is encoded against token lists the turn cuts once, and each
encoding hands its list back as it truncated it, so an example is encoded afresh only while
nothing before it was truncated (`turnExamples_fresh_of_fits`).  `Extends` says a step keeps the
examples built and, should all fit, the build `Sound`; every builder of a turn extends the build,
and so does a fold of them (`foldlM_extends`).
-/

namespace Conversa.Dialogue
open Conversa.Language

/-! ## Fresh encodings -/

/-- The features an encoding sets: token numbers, segments, mask and the character spans. -/
def DialogueExample.features (ex : DialogueExample) :
    List Nat × List Nat × List Nat × List Int × List Int :=
  (ex.utteranceIds, ex.utteranceSegment, ex.utteranceMask, ex.startCharIdx, ex.endCharIdx)

/-- What an encoding sets: the features and the two texts. -/
def DialogueExample.encoding (ex : DialogueExample) :
    (List Nat × List Nat × List Nat × List Int × List Int) × String × String :=
  (ex.features, ex.systemUtterance, ex.userUtterance)

/-- The features of an example encoded afresh: its description and utterance cut anew. -/
def DialogueExample.freshFeatures (t : Tokenizer) (c : ExampleConfig) (ex : DialogueExample) :
    Except Failure (List Nat × List Nat × List Nat × List Int × List Int) := do
  let dc ← cutUtterance t ex.systemUtterance
  let uc ← cutUtterance t ex.userUtterance
  let (e, _) ← ex.encode t c dc.tokens dc.inverse uc.tokens uc.inverse ex.systemUtterance ex.userUtterance
  pure e.features

/-- An example fits when the fresh tokens of its two texts leave room for the three special
tokens. -/
def DialogueExample.fits (t : Tokenizer) (c : ExampleConfig) (ex : DialogueExample) : Bool :=
  match cutUtterance t ex.systemUtterance, cutUtterance t ex.userUtterance with
  | .ok dc, .ok uc => decide (((dc.tokens.length + uc.tokens.length : Nat) : Int) ≤ c.maxSeqLength - 3)
  | _, _ => true

lemma truncatePair_of_le {α : Type} {a b : List α} {n : Int} (h : ((a.length + b.length : Nat) : Int) ≤ n) :
    Features.truncatePair a b n = .ok (a, b) := by
  have h0 : ((a.length + b.length : Int) - n).toNat = 0 := by omega
  simp only [Features.truncatePair, h0, Features.popLonger]

/-- An encoding truncates its token lists, records its two texts, and gives every other example
the same features. -/
lemma encode_spec {t : Tokenizer} {c : ExampleConfig} {ex e : DialogueExample}
    {dT uT d u : List String} {dI uI : List (Nat × Nat)} {dS uS : String}
    (h : ex.encode t c dT dI uT uI dS uS = .ok (e, d, u)) (ex' : DialogueExample) :
    Features.truncatePair dT uT (c.maxSeqLength - 3) = .ok (d, u) ∧ e.systemUtterance = dS ∧
      e.userUtterance = uS ∧ ∃ e', ex'.encode t c dT dI uT uI dS uS = .ok (e', d, u) ∧ e'.features = e.features := by
  unfold DialogueExample.encode at h ⊢
  cases htr : Features.truncatePair dT uT (c.maxSeqLength - 3) with
  | error err => simp only [htr, Except.error_bind, reduceCtorEq] at h
  | ok p =>
    obtain ⟨d0, u0⟩ := p
    simp only [htr, Except.ok_bind] at h ⊢
    cases hcls : t.special .cls with
    | error err => simp only [hcls, Except.error_bind, reduceCtorEq] at h
    | ok cls =>
      cases hsep : t.special .sep with
      | error err => simp only [hcls, hsep, Except.ok_bind, Except.error_bind, reduceCtorEq] at h
      | ok sep =>
        simp only [hcls, hsep, Except.ok_bind] at h ⊢
        cases hids : t.tokensToIds ([cls] ++ d0 ++ [sep] ++ u0 ++ [sep]) with
        | error err => simp only [hids, Except.error_bind, reduceCtorEq] at h
        | ok ids =>
          simp only [hids, Except.ok_bind] at h ⊢
          simp only [pure, Except.pure, Except.ok.injEq, Prod.mk.injEq] at h
          obtain ⟨rfl, rfl, rfl⟩ := h
          exact ⟨rfl, rfl, rfl, _, rfl, rfl⟩

lemma encode_untruncated {t : Tokenizer} {c : ExampleConfig} {ex e : DialogueExample} {dc uc : Cut}
    {dS uS : String} {d u : List String} (hd : cutUtterance t dS = .ok dc) (hu : cutUtterance t uS = .ok uc)
    (henc : ex.encode t c dc.tokens dc.inverse uc.tokens uc.inverse dS uS = .ok (e, d, u)) (hfit : e.fits t c) :
    d = dc.tokens ∧ u = uc.tokens := by
  obtain ⟨htr, hdS, huS, -⟩ := encode_spec henc ex
  have hle : ((dc.tokens.length + uc.tokens.length : Nat) : Int) ≤ c.maxSeqLength - 3 := by
    simpa only [DialogueExample.fits, hdS, hd, huS, hu, decide_eq_true_eq] using hfit
  rw [truncatePair_of_le hle, Except.ok.injEq, Prod.mk.injEq] at htr
  exact ⟨htr.1.symm, htr.2.symm⟩

lemma fits_of_encoding {t : Tokenizer} {c : ExampleConfig} {ex ex' : DialogueExample}
    (h : ex'.encoding = ex.encoding) (hfit : ex'.fits t c) : ex.fits t c := by
  simp only [DialogueExample.encoding, Prod.mk.injEq] at h
  simpa only [DialogueExample.fits, h.2.1, h.2.2] using hfit

/-- An example encoded from texts that fit keeps the utterance's tokens whole, and its features
are those a fresh encoding gives, whatever is set on it afterwards beside them. -/
lemma fresh_of_encode {t : Tokenizer} {c : ExampleConfig} {ex e e' : DialogueExample}
    {dc uc : Cut} {dS uS : String} {d su : List String}
    (hd : cutUtterance t dS = .ok dc) (hu : cutUtterance t uS = .ok uc)
    (henc : ex.encode t c dc.tokens dc.inverse uc.tokens uc.inverse dS uS = .ok (e, d, su))
    (he : e'.encoding = e.encoding) (hfit : e'.fits t c) :
    su = uc.tokens ∧ e'.freshFeatures t c = .ok e'.features := by
  refine ⟨(encode_untruncated hd hu henc (fits_of_encoding he hfit)).2, ?_⟩
  simp only [DialogueExample.encoding, Prod.mk.injEq] at he
  obtain ⟨hf, hs, hus⟩ := he
  obtain ⟨-, hdS, huS, e'', henc', hf''⟩ := encode_spec henc e'
  simp only [DialogueExample.freshFeatures, hs, hdS, hus, huS, hd, hu, Except.ok_bind, henc', hf'', hf]
  rfl

/-! ## Extending a build -/

section Extension

variable (t : Tokenizer) (c : ExampleConfig)

/-- A step from `s` to `s'` keeps every example and, if every example at the end fits, keeps
the invariant `S`. -/
def Extends {σ : Type} (view : σ → List DialogueExample) (S : σ → Prop) (s s' : σ) : Prop :=
  (∀ ex ∈ view s, ex ∈ view s') ∧ (S s → (∀ ex ∈ view s', ex.fits t c) → S s')

variable {t c}

lemma Extends.refl {σ : Type} {view : σ → List DialogueExample} {S : σ → Prop} (s : σ) :
    Extends t c view S s s :=
  ⟨fun _ h => h, fun h _ => h⟩

lemma Extends.trans {σ : Type} {view : σ → List DialogueExample} {S : σ → Prop} {s₁ s₂ s₃ : σ}
    (h₁ : Extends t c view S s₁ s₂) (h₂ : Extends t c view S s₂ s₃) : Extends t c view S s₁ s₃ :=
  ⟨fun ex h => h₂.1 ex (h₁.1 ex h), fun hS hfit =>
    h₂.2 (h₁.2 hS fun ex h => hfit ex (h₂.1 ex h)) hfit⟩

lemma foldlM_extends {σ α : Type} {view : σ → List DialogueExample} {S : σ → Prop}
    {f : σ → α → Except Failure σ} (step : ∀ s x s', f s x = .ok s' → Extends t c view S s s') :
    ∀ (xs : List α) (s r : σ), xs.foldlM f s = .ok r → Extends t c view S s r
  | [], s, r, h => by
      simp only [List.foldlM_nil, pure, Except.pure, Except.ok.injEq] at h
      subst h
      exact .refl s
  | x :: xs, s, r, h => by
      rw [List.foldlM_cons, Except.bind_eq_ok] at h
      obtain ⟨s', hs', hrest⟩ := h
      exact (step s x s' hs').trans (foldlM_extends step xs s' r hrest)

end Extension

/-! ## The examples of a turn -/

section Turn

variable (t : Tokenizer) (c : ExampleConfig) (cuts : TurnCuts)

/-- The cuts of a turn are those of its texts. -/
def TurnCuts.Valid : Prop :=
  cutUtterance t cuts.userText = .ok cuts.user ∧ cutUtterance t cuts.systemUserText = .ok cuts.systemUser

/-- A build is sound when its shared lists are still the fresh cuts and its examples fresh. -/
def TurnBuild.Sound (b : TurnBuild) : Prop :=
  b.userTokens = cuts.user.tokens ∧ b.systemUserTokens = cuts.systemUser.tokens ∧
    ∀ ex ∈ b.examples, ex.freshFeatures t c = .ok ex.features

variable {t c cuts}

/-- An example encoded against the shared tokens of both utterances, from texts that fit, leaves
them whole and has fresh features. -/
lemma sound_encode_systemUser (hv : cuts.Valid t) {b : TurnBuild} (hS : b.Sound t c cuts)
    {ex e e' : DialogueExample} {desc : String} {dc : Cut} {d su : List String}
    (hdc : cutUtterance t desc = .ok dc)
    (henc : ex.encode t c dc.tokens dc.inverse b.systemUserTokens cuts.systemUser.inverse desc
      cuts.systemUserText = .ok (e, d, su))
    (he : e'.encoding = e.encoding) (hfit : e'.fits t c) :
    ({ b with systemUserTokens := su } : TurnBuild).Sound t c cuts ∧ e'.freshFeatures t c = .ok e'.features := by
  rw [hS.2.1] at henc
  obtain ⟨hsu, hgood⟩ := fresh_of_encode hdc hv.2 henc he hfit
  exact ⟨⟨hS.1, hsu, hS.2.2⟩, hgood⟩

lemma sound_encode_user (hv : cuts.Valid t) {b : TurnBuild} (hS : b.Sound t c cuts)
    {ex e e' : DialogueExample} {desc : String} {dc : Cut} {d u : List String}
    (hdc : cutUtterance t desc = .ok dc)
    (henc : ex.encode t c dc.tokens dc.inverse b.userTokens cuts.user.inverse desc
      cuts.userText = .ok (e, d, u))
    (he : e'.encoding = e.encoding) (hfit : e'.fits t c) :
    ({ b with userTokens := u } : TurnBuild).Sound t c cuts ∧ e'.freshFeatures t c = .ok e'.features := by
  rw [hS.1] at henc
  obtain ⟨hu, hgood⟩ := fresh_of_encode hdc hv.1 henc he hfit
  exact ⟨⟨hu, hS.2.1, hS.2.2⟩, hgood⟩

lemma TurnBuild.Sound.append {b : TurnBuild} (hS : b.Sound t c cuts) {exs : List DialogueExample}
    (h : ∀ ex ∈ exs, ex.freshFeatures t c = .ok ex.features) :
    ({ b with examples := b.examples ++ exs } : TurnBuild).Sound t c cuts :=
  ⟨hS.1, hS.2.1, fun ex hex => (List.mem_append.1 hex).elim (hS.2.2 ex) (h ex)⟩

variable (t c cuts) in
abbrev BuildExtends (b b' : TurnBuild) : Prop := Extends t c TurnBuild.examples (TurnBuild.Sound t c cuts) b b'

lemma intentExamples_extends (hv : cuts.Valid t) (s : ServiceTurn) (b b' : TurnBuild)
    (h : intentExamples t c cuts s b = .ok b') : BuildExtends t c cuts b b' := by
  refine foldlM_extends (fun b x b' hstep => ?_) _ b b' h
  obtain ⟨intent, i⟩ := x
  simp only [Except.bind_eq_ok] at hstep
  obtain ⟨desc, -, dc, hdc, ⟨e, d, su⟩, henc, hrest⟩ := hstep
  simp only [pure, Except.pure, Except.ok.injEq] at hrest
  obtain ⟨-, -, active, -, rfl⟩ := hrest
  refine ⟨fun ex hex => List.mem_append_left _ hex, fun hS hfit => ?_⟩
  have hfit' := hfit _ (List.mem_append_right _ (List.mem_singleton_self _))
  obtain ⟨hS', hgood⟩ := sound_encode_systemUser hv hS hdc henc (by split <;> rfl) hfit'
  exact TurnBuild.Sound.append hS' (by simpa using hgood)

lemma requestExamples_extends (hv : cuts.Valid t) (s : ServiceTurn) (b b' : TurnBuild)
    (h : requestExamples t c cuts s b = .ok b') : BuildExtends t c cuts b b' := by
  refine foldlM_extends (fun b x b' hstep => ?_) _ b b' h
  obtain ⟨slot, i⟩ := x
  simp only [Except.bind_eq_ok] at hstep
  obtain ⟨desc, -, dc, hdc, ⟨e, d, u⟩, henc, hrest⟩ := hstep
  simp only [pure, Except.pure, Except.ok.injEq] at hrest
  obtain ⟨-, -, -, -, requested, -, rfl⟩ := hrest
  refine ⟨fun ex hex => List.mem_append_left _ hex, fun hS hfit => ?_⟩
  have hfit' := hfit _ (List.mem_append_right _ (List.mem_singleton_self _))
  obtain ⟨hS', hgood⟩ := sound_encode_user hv hS hdc henc (by split <;> rfl) hfit'
  exact TurnBuild.Sound.append hS' (by simpa using hgood)

lemma withCategorical_encoding {s : ServiceTurn} {ex ex' : DialogueExample}
    (h : withCategorical s ex = .ok ex') : ex'.encoding = ex.encoding := by
  unfold withCategorical at h
  split at h
  · cases h
    rfl
  · simp only [Except.bind_eq_ok] at h
    obtain ⟨slot, -, st, -, h⟩ := h
    split at h
    · simp only [Except.bind_eq_ok, pure, Except.pure, Except.ok.injEq] at h
      obtain ⟨id, -, rfl⟩ := h
      rfl
    · simp only [pure, Except.pure, Except.ok.injEq] at h
      subst h
      rfl

/-- A slot's example goes either with the examples or, when the slot is off, among those set
aside for the end of the task. -/
lemma setAside_spec (cond : Bool) (b : TurnBuild) (offs : List DialogueExample) (ex : DialogueExample)
    (su : List String) :
    let q : TurnBuild × List DialogueExample := if cond = true then
        ({ examples := b.examples, userTokens := b.userTokens, systemUserTokens := su }, offs ++ [ex])
      else ({ examples := b.examples ++ [ex], userTokens := b.userTokens, systemUserTokens := su }, offs)
    q.1.userTokens = b.userTokens ∧ q.1.systemUserTokens = su ∧
      (∀ y, y ∈ q.1.examples ++ q.2 ↔ y ∈ b.examples ++ offs ∨ y = ex) ∧
      (∀ y ∈ q.1.examples, y ∈ b.examples ∨ y = ex) ∧ (∀ y ∈ q.2, y ∈ offs ∨ y = ex) := by
  cases cond with
  | false =>
      refine ⟨rfl, rfl, fun y => ?_, fun y hy => by simpa using hy, fun y hy => .inl hy⟩
      simp only [Bool.false_eq_true, ↓reduceIte, List.mem_append, List.mem_singleton]
      tauto
  | true =>
      refine ⟨rfl, rfl, fun y => ?_, fun y hy => .inl hy, fun y hy => by simpa using hy⟩
      simp only [↓reduceIte, List.mem_append, List.mem_singleton]
      tauto

/-- The view of a build with the examples set aside for the end of a task. -/
abbrev Pending := TurnBuild × List DialogueExample

variable (t c cuts) in
abbrev PendingExtends (p p' : Pending) : Prop :=
  Extends t c (fun p : Pending => p.1.examples ++ p.2)
    (fun p => p.1.Sound t c cuts ∧ ∀ ex ∈ p.2, ex.freshFeatures t c = .ok ex.features) p p'

lemma pending_extends (hv : cuts.Valid t) {b : TurnBuild} {offs : List DialogueExample} {desc : String}
    {dc : Cut} {x e : DialogueExample} {d su : List String} (hdc : cutUtterance t desc = .ok dc)
    (henc : x.encode t c dc.tokens dc.inverse b.systemUserTokens cuts.systemUser.inverse desc
      cuts.systemUserText = .ok (e, d, su))
    (cond : Bool) {ex : DialogueExample} (hex : ex.encoding = e.encoding) {b3 : TurnBuild}
    (q : TurnBuild × List DialogueExample)
    (hq : q = if cond = true then
        ({ examples := b.examples, userTokens := b.userTokens, systemUserTokens := su }, offs ++ [ex])
      else ({ examples := b.examples ++ [ex], userTokens := b.userTokens, systemUserTokens := su }, offs))
    (hgrow : ∀ y ∈ q.1.examples, y ∈ b3.examples)
    (hsound : q.1.Sound t c cuts → ex.freshFeatures t c = .ok ex.features →
      (∀ y ∈ b3.examples, y.fits t c) → b3.Sound t c cuts) :
    PendingExtends t c cuts (b, offs) (b3, q.2) := by
  obtain ⟨hqu, hqsu, hqmem, hqex, hqoffs⟩ := hq ▸ setAside_spec cond b offs ex su
  refine ⟨fun y hy => ?_, fun ⟨hS, hoffs⟩ hfit => ?_⟩
  · rcases List.mem_append.1 ((hqmem y).2 (.inl hy)) with h | h
    · exact List.mem_append_left _ (hgrow y h)
    · exact List.mem_append_right _ h
  · have hfitq : ∀ y ∈ q.1.examples ++ q.2, y.fits t c := fun y hy => by
      rcases List.mem_append.1 hy with h | h
      · exact hfit y (List.mem_append_left _ (hgrow y h))
      · exact hfit y (List.mem_append_right _ h)
    obtain ⟨hS1, hgood⟩ := sound_encode_systemUser hv hS hdc henc hex (hfitq ex ((hqmem ex).2 (.inr rfl)))
    have hSq : q.1.Sound t c cuts :=
      ⟨hqu.trans hS.1, hqsu.trans hS1.2.1, fun y hy => (hqex y hy).elim (hS.2.2 y) (· ▸ hgood)⟩
    exact ⟨hsound hSq hgood fun y hy => hfit y (List.mem_append_left _ hy),
      fun y hy => (hqoffs y hy).elim (hoffs y) (· ▸ hgood)⟩

lemma fresh_of_encoding {ex ex' : DialogueExample} (hgood : ex.freshFeatures t c = .ok ex.features)
    (h : ex'.encoding = ex.encoding) : ex'.freshFeatures t c = .ok ex'.features := by
  simp only [DialogueExample.encoding, Prod.mk.injEq] at h
  obtain ⟨hf, hs, hu⟩ := h
  unfold DialogueExample.freshFeatures at hgood ⊢
  rw [hs, hu, hf]
  simp only [Except.bind_eq_ok] at hgood
  obtain ⟨dc, hd, uc, hu', ⟨e, r⟩, henc, hpure⟩ := hgood
  obtain ⟨-, -, -, e', henc', hf'⟩ := encode_spec henc ex'
  simp only [hd, hu', Except.ok_bind, henc', hf']
  exact hpure

lemma pending_extends_copy (hv : cuts.Valid t) {b : TurnBuild} {offs : List DialogueExample}
    {desc : String} {dc : Cut} {x e : DialogueExample} {d su : List String}
    (hdc : cutUtterance t desc = .ok dc)
    (henc : x.encode t c dc.tokens dc.inverse b.systemUserTokens cuts.systemUser.inverse desc
      cuts.systemUserText = .ok (e, d, su))
    (cond : Bool) {ex : DialogueExample} (hex : ex.encoding = e.encoding)
    (q : TurnBuild × List DialogueExample)
    (hq : q = if cond = true then
        ({ examples := b.examples, userTokens := b.userTokens, systemUserTokens := su }, offs ++ [ex])
      else ({ examples := b.examples ++ [ex], userTokens := b.userTokens, systemUserTokens := su }, offs))
    (keep : Bool) (copy : DialogueExample) (hcopy : copy.encoding = ex.encoding) :
    PendingExtends t c cuts (b, offs) (if keep = true then
      { examples := q.1.examples ++ [copy], userTokens := q.1.userTokens,
        systemUserTokens := q.1.systemUserTokens } else q.1, q.2) := by
  refine pending_extends hv hdc henc cond hex q hq (fun y hy => ?_) fun hSq hgood _ => ?_
  · split
    · exact List.mem_append_left _ hy
    · exact hy
  · split
    · exact TurnBuild.Sound.append hSq (by simpa using fresh_of_encoding hgood hcopy)
    · exact hSq

/-- The examples set aside come back at the end of a task, fresh like the others. -/
lemma PendingExtends.close {b b1 : TurnBuild} {offs : List DialogueExample}
    (hext : PendingExtends t c cuts (b, []) (b1, offs)) :
    BuildExtends t c cuts b { b1 with examples := b1.examples ++ offs } := by
  refine ⟨fun y hy => hext.1 y (by simpa using hy), fun hS hfit => ?_⟩
  obtain ⟨hS1, hoffs⟩ := hext.2 ⟨hS, by simp⟩ hfit
  exact TurnBuild.Sound.append hS1 hoffs

/-- The categorical builder extends the build: the examples of slots that are off come back at
the end of the task, with fresh features all the same. -/
lemma categoricalExamples_extends (hv : cuts.Valid t) (s : ServiceTurn) (training : Bool)
    (b b' : TurnBuild) (h : categoricalExamples t c cuts s training b = .ok b') :
    BuildExtends t c cuts b b' := by
  unfold categoricalExamples at h
  rw [Except.bind_eq_ok] at h
  obtain ⟨⟨b1, offs⟩, hfold, h⟩ := h
  simp only [pure, Except.pure, Except.ok.injEq] at h
  subst h
  have hext : PendingExtends t c cuts (b, []) (b1, offs) := by
    refine foldlM_extends (fun p x p' hstep => ?_) _ _ _ hfold
    obtain ⟨b, offs⟩ := p
    obtain ⟨slot, i⟩ := x
    simp only [Except.bind_eq_ok] at hstep
    obtain ⟨desc, -, dc, hdc, ⟨e, d, su⟩, henc, ex, hcat, values, -, hrest⟩ := hstep
    dsimp only at hcat hrest
    have hex := withCategorical_encoding hcat
    generalize hq : (if (ex.categoricalSlotStatus == SlotStatus.off) = true then
        ({ examples := b.examples, userTokens := b.userTokens, systemUserTokens := su }, offs ++ [ex])
      else ({ examples := b.examples ++ [ex], userTokens := b.userTokens, systemUserTokens := su }, offs) :
        TurnBuild × List DialogueExample) = q at hrest
    -- the values of the slot, when asked about, extend the build further
    obtain ⟨b3, hinner, rfl⟩ : ∃ b3, BuildExtends t c cuts q.1 b3 ∧ p' = (b3, q.2) := by
      split at hrest
      · rw [Except.bind_eq_ok] at hrest
        obtain ⟨b3, hfold', hp⟩ := hrest
        simp only [pure, Except.pure, Except.ok.injEq] at hp
        refine ⟨b3, foldlM_extends (fun b x b' hstep => ?_) _ _ _ hfold', hp.symm⟩
        obtain ⟨value, j⟩ := x
        simp only [Except.bind_eq_ok] at hstep
        obtain ⟨vc, hvc, ⟨e, d, su⟩, henc, vex, hcat, hrest⟩ := hstep
        dsimp only at hcat hrest
        split at hrest
        · simp only [throw, throwThe, MonadExceptOf.throw, Except.bind_eq_ok, reduceCtorEq, false_and,
            exists_false] at hrest
        simp only [pure, Except.pure, Except.ok.injEq] at hrest
        subst hrest
        refine ⟨fun ex hex => List.mem_append_left _ hex, fun hS hfit => ?_⟩
        have hfit' := hfit _ (List.mem_append_right _ (List.mem_singleton_self _))
        obtain ⟨hS', hgood⟩ := sound_encode_systemUser hv hS hvc henc (withCategorical_encoding hcat) hfit'
        exact TurnBuild.Sound.append hS' (by simpa using hgood)
      · simp only [pure, Except.pure, Except.ok.injEq, Except.ok_bind] at hrest
        exact ⟨_, .refl _, hrest.symm⟩
    exact pending_extends hv hdc henc _ hex q hq.symm hinner.1 fun hSq _ hfit => hinner.2 hSq hfit
  exact hext.close

lemma withFree_encoding {s : ServiceTurn} {slot : String} {sys usr : List (String × Int × Int)}
    {ex ex' : DialogueExample} (h : withFree s slot sys usr ex = .ok ex') : ex'.encoding = ex.encoding := by
  simp only [withFree, Except.bind_eq_ok] at h
  obtain ⟨st, -, h⟩ := h
  split at h <;>
  · simp only [pure, Except.pure, Except.ok.injEq] at h
    subst h
    rfl

lemma freeSlotExamples_extends (hv : cuts.Valid t) (s : ServiceTurn) (training : Bool) (p : Pending)
    (x : String × Nat) (p' : Pending) (h : freeSlotExamples t c cuts s training p x = .ok p') :
    PendingExtends t c cuts p p' := by
  obtain ⟨b, offs⟩ := p
  obtain ⟨slot, i⟩ := x
  simp only [freeSlotExamples, Except.bind_eq_ok] at h
  obtain ⟨desc, -, dc, hdc, ⟨e, d, su⟩, henc, hrest⟩ := h
  dsimp only at hrest
  obtain ⟨-, -, -, -, _, -, _, -, ex, hex, hrest⟩ := hrest
  simp only [pure, Except.pure, Except.ok.injEq] at hrest
  subst hrest
  exact pending_extends_copy hv hdc henc _ (withFree_encoding hex) _ rfl _ _ rfl

lemma freeExamples_extends (hv : cuts.Valid t) (s : ServiceTurn) (training : Bool)
    (b b' : TurnBuild) (h : freeExamples t c cuts s training b = .ok b') :
    BuildExtends t c cuts b b' := by
  unfold freeExamples at h
  rw [Except.bind_eq_ok] at h
  obtain ⟨⟨b1, offs⟩, hfold, h⟩ := h
  simp only [pure, Except.pure, Except.ok.injEq] at h
  subst h
  exact PendingExtends.close (foldlM_extends (freeSlotExamples_extends hv s training) _ _ _ hfold)

lemma taskExamples_extends (hv : cuts.Valid t) (s : ServiceTurn) (training : Bool) (b : TurnBuild)
    (task : Nat) (b' : TurnBuild) (h : taskExamples t c cuts s training b task = .ok b') :
    BuildExtends t c cuts b b' := by
  unfold taskExamples at h
  split at h
  · exact intentExamples_extends hv s b b' h
  · exact requestExamples_extends hv s b b' h
  · exact categoricalExamples_extends hv s training b b' h
  · exact freeExamples_extends hv s training b b' h
  · simp only [pure, Except.pure, Except.ok.injEq] at h
    subst h
    exact .refl b

lemma serviceExamples_extends (hv : cuts.Valid t) (s : ServiceTurn) (training : Bool)
    (b b' : TurnBuild) (h : serviceExamples t c cuts s training b = .ok b') :
    BuildExtends t c cuts b b' :=
  foldlM_extends (taskExamples_extends hv s training) _ b b' h

/-- The view of a build with the states of the services and the values they share. -/
abbrev TurnState := TurnBuild × List (String × Data) × SharedValues

/-- The state update a user frame makes to its service, against the service's previous state. -/
def frameUpdate (prevStates : List (String × Data)) (service : String) (frame : Data) :
    Except Failure (List (String × Data)) := do
  stateUpdate (← (← frame.key "state").key "slot_values") (((prevStates.find? (·.1 == service)).map (·.2)).getD (.dict []))

/-- The frame of a service in the system turn before, if there is one. -/
def systemFrameOf (systemFrames : List (String × Data)) (service : String) : Option Data :=
  (systemFrames.find? (·.1 == service)).map (·.2)

/-- One service of a turn adds the examples of its schema, its frame and its state update to the
build; what it records of states and shared values does not touch the build. -/
lemma frameExamples_spec {schemas : Schema} {split turnId : String} {systemFrames prevStates : List (String × Data)}
    {p p' : TurnState} {service : String} {frame : Data}
    (h : frameExamples t c schemas split turnId cuts systemFrames prevStates p (service, frame) = .ok p') :
    ∃ sch update num, schemas.service service = .ok sch ∧ frameUpdate prevStates service frame = .ok update ∧
      serviceExamples t c cuts ⟨sch, s!"{turnId}-{service}", num, frame, systemFrameOf systemFrames service, update⟩
        (split == "train") p.1 = .ok p'.1 := by
  obtain ⟨b, states, shared⟩ := p
  obtain ⟨b1, rest⟩ := p'
  simp only [frameExamples, Except.bind_eq_ok] at h
  obtain ⟨sch, hsch, st, hst, state, hstate, update, hupd, _, -, _, -, _, -, _, -, _, -, _, -, b', hserv, _, -, hrest⟩ := h
  -- whether or not the service is new, the build is the one its examples extended
  have hb1 : b1 = b' := by
    split at hrest
    · simp only [Except.bind_eq_ok, pure, Except.pure, Except.ok.injEq, Prod.mk.injEq] at hrest
      obtain ⟨_, -, _, -, h, -⟩ := hrest
      exact h.symm
    · simp only [pure, Except.pure, Except.ok_bind, Except.ok.injEq, Prod.mk.injEq] at hrest
      exact hrest.1.symm
  subst hb1
  exact ⟨sch, update, _, hsch, by simp [frameUpdate, hst, hstate, hupd], hserv⟩

/-- One service of a turn extends the build, whatever it records of states and shared values. -/
lemma frameExamples_extends {schemas : Schema} {split turnId : String} {systemFrames prevStates : List (String × Data)}
    (hv : cuts.Valid t) (p : TurnState) (x : String × Data) (p' : TurnState)
    (h : frameExamples t c schemas split turnId cuts systemFrames prevStates p x = .ok p') :
    Extends t c (fun p : TurnState => p.1.examples) (fun p => p.1.Sound t c cuts) p p' := by
  obtain ⟨service, frame⟩ := x
  obtain ⟨sch, update, num, -, -, hserv⟩ := frameExamples_spec h
  exact serviceExamples_extends hv _ _ p.1 p'.1 hserv

end Turn

/-! ## A whole turn -/

/-- When every example of a turn fits, every example has the features a fresh encoding of its
own description and utterance gives, whatever examples came before it. -/
theorem turnExamples_fresh_of_fits {t : Tokenizer} {c : ExampleConfig} {schemas : Schema}
    {split turnId systemText userText : String} {systemFrames userFrames prevStates : List (String × Data)}
    {r : TurnResult}
    (h : turnExamples t c schemas split turnId systemText userText systemFrames userFrames prevStates = .ok r)
    (hfit : ∀ ex ∈ r.examples, ex.fits t c) : ∀ ex ∈ r.examples, ex.freshFeatures t c = .ok ex.features := by
  unfold turnExamples at h
  simp only [Except.bind_eq_ok] at h
  obtain ⟨user, huser, system, -, systemUser, hsu, ⟨b, states, shared⟩, hfold, h⟩ := h
  simp only [pure, Except.pure, Except.ok.injEq] at h
  subst h
  let cuts : TurnCuts := ⟨user, system, systemUser, userText, systemText⟩
  have hv : cuts.Valid t := ⟨huser, hsu⟩
  have hext := foldlM_extends (frameExamples_extends hv) _ _ _ hfold
  exact (hext.2 ⟨rfl, rfl, by simp⟩ hfit).2.2

/-- A word tokenizer for a turn that books a table. -/
def bookingTokenizer : Tokenizer :=
  ⟨.words, [("[CLS]", 0), ("[SEP]", 1), ("book", 2), ("a", 3), ("table", 4), ("Book", 5), ("NONE", 6),
    ("none", 7)], [(.sep, "[SEP]"), (.cls, "[CLS]")]⟩

/-- A service with one intent beside `NONE` and no slots. -/
def bookingSchema : Schema :=
  let food : ServiceSchema :=
    { name := "Food", description := .null, json := .null, id := some 0, intents := ["NONE", "Book"]
      intentDescriptions := [("Book", .str "book a table"), ("NONE", .str "none")], slots := []
      slotDescriptions := [], categoricalSlots := [], nonCategoricalSlots := [], categoricalValues := [] }
  ⟨["Food"], [("Food", food)], []⟩

/-- The user asks for a table: two intent examples, both fresh. -/
theorem turnExamples_fresh_booking :
    ∃ r, turnExamples bookingTokenizer ⟨12, 6⟩ bookingSchema "train" "train-1_00000-00" "" "book a table" []
        [("Food", .dict [("state", .dict [("active_intent", .str "Book"), ("slot_values", .dict [])])])] [] =
      .ok r ∧ r.examples.length = 2 ∧
      r.examples.Forall fun ex => ex.freshFeatures bookingTokenizer ⟨12, 6⟩ = .ok ex.features := by
  have hrun : (turnExamples bookingTokenizer ⟨12, 6⟩ bookingSchema "train" "train-1_00000-00" "" "book a table" []
      [("Food", .dict [("state", .dict [("active_intent", .str "Book"), ("slot_values", .dict [])])])]
      []).toOption.map (fun r => (r.examples.length, r.examples.all (·.fits bookingTokenizer ⟨12, 6⟩))) =
      some (2, true) := by
    decide
  cases hr : turnExamples bookingTokenizer ⟨12, 6⟩ bookingSchema "train" "train-1_00000-00" "" "book a table" []
      [("Food", .dict [("state", .dict [("active_intent", .str "Book"), ("slot_values", .dict [])])])] [] with
  | error e => simp [hr, Except.toOption] at hrun
  | ok r =>
    simp only [hr, Except.toOption, Option.map_some, Option.some.injEq, Prod.mk.injEq, List.all_eq_true] at hrun
    exact ⟨r, rfl, hrun.1, List.forall_iff_forall_mem.2 (turnExamples_fresh_of_fits hr hrun.2)⟩

end Conversa.Dialogue
