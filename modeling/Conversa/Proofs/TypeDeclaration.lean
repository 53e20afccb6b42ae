import Conversa.Proofs.AxisComparison
import Conversa.Proofs.Monadic

/-!
# Declaring a neural type

Axes are declared as short labels (`"B"`, `"T"`) or as axis values, list axes first.
**`NType.make_rejects_iff`** is the exact rule: a `ValueError` for a label after a part that is
no label, an unknown label among labels only, or a list axis after a tensor axis among axis
values only; any other declaration not built fails on a missing list mark.  A type built accepts
itself (**`NType.make_accepts_self`**).
-/

namespace Conversa

/-- A data value that equals itself: no float (which may be NaN), list or mapping. -/
def Data.Plain : Data → Prop
  | .null | .bool _ | .int _ | .str _ => True
  | _ => False

theorem Data.same_self_of_plain {d : Data} (h : d.Plain) : Data.same d d = true := by
  cases d with
  | null | bool | int =>
    simp [Data.same, Data.scalar?, Numeric.Scalar.eq, Numeric.Scalar.compareWith, Numeric.Scalar.asInt?]
  | str => simp [Data.same]
  | _ => simp [Data.Plain] at h

theorem find?_name_of_nodup {ps : Entries} (hk : (ps.map (·.1)).Nodup) {k : String} {v : Data}
    (h : (k, v) ∈ ps) : ps.find? (·.1 == k) = some (k, v) := by
  induction ps with
  | nil => simp at h
  | cons p rest ih =>
    rw [List.map_cons, List.nodup_cons] at hk
    rcases List.mem_cons.1 h with rfl | h
    · simp
    · have hne : p.1 ≠ k := fun he => hk.1 (he ▸ List.mem_map_of_mem h)
      simp [hne, ih hk.2 h]

namespace NeuralType

/-! ## Which declarations are refused -/

/-- Whether a declared axis is a short label. -/
def AxisSpec.isLabel : AxisSpec → Bool
  | .label _ => true
  | _ => false

/-- Whether a declared axis is an axis value. -/
def AxisSpec.isAxis : AxisSpec → Bool
  | .axis _ => true
  | _ => false

theorem AxisSpec.isLabel_iff {s : AxisSpec} : s.isLabel = true ↔ ∃ l, s = .label l := by
  cases s <;> simp [AxisSpec.isLabel]

theorem AxisSpec.isAxis_iff {s : AxisSpec} : s.isAxis = true ↔ ∃ a, s = .axis a := by
  cases s <;> simp [AxisSpec.isAxis]

/-- Some label stands after a part that is no label. -/
def LabelAfterOther (specs : List AxisSpec) : Prop :=
  ∃ x y, [x, y].Sublist specs ∧ x.isLabel = false ∧ y.isLabel = true

/-- Some list axis stands after a tensor axis. -/
def ListAfterTensor (specs : List AxisSpec) : Prop :=
  ∃ a b, [AxisSpec.axis a, .axis b].Sublist specs ∧ a.isList.truthy = false ∧ b.isList.truthy = true

theorem pair_sublist_cons {α : Type} {x y a : α} {l : List α} :
    [x, y].Sublist (a :: l) ↔ [x, y].Sublist l ∨ x = a ∧ y ∈ l := by
  simp [List.sublist_cons_iff]

theorem labelAfterOther_cons {x : AxisSpec} {l : List AxisSpec} :
    LabelAfterOther (x :: l) ↔ (∃ y ∈ l, x.isLabel = false ∧ y.isLabel = true) ∨ LabelAfterOther l := by
  simp [LabelAfterOther, pair_sublist_cons, or_and_right, exists_or, and_assoc, or_comm]

theorem listAfterTensor_cons {x : AxisSpec} {l : List AxisSpec} :
    ListAfterTensor (x :: l) ↔ (∃ a, .axis a = x ∧ ∃ b, AxisSpec.axis b ∈ l ∧ a.isList.truthy = false ∧
      b.isList.truthy = true) ∨ ListAfterTensor l := by
  simp [ListAfterTensor, pair_sublist_cons, or_and_right, exists_or, and_assoc, or_comm]

section Shapes

variable {specs : List AxisSpec}

theorem LabelAfterOther.exists_label (h : LabelAfterOther specs) : ∃ y ∈ specs, y.isLabel = true := by
  obtain ⟨x, y, hs, -, hy⟩ := h
  exact ⟨y, hs.subset (by simp), hy⟩

theorem LabelAfterOther.not_labels (h : LabelAfterOther specs) : ¬ ∀ s ∈ specs, s.isLabel = true := by
  obtain ⟨x, y, hs, hx, -⟩ := h
  intro hl
  simp [hl x (hs.subset (by simp))] at hx

theorem LabelAfterOther.not_axes (h : LabelAfterOther specs) : ¬ ∀ s ∈ specs, s.isAxis = true := by
  obtain ⟨y, hy, hyl⟩ := h.exists_label
  obtain ⟨l, rfl⟩ := AxisSpec.isLabel_iff.1 hyl
  intro ha
  simpa [AxisSpec.isAxis] using ha _ hy

theorem ListAfterTensor.not_labels (h : ListAfterTensor specs) : ¬ ∀ s ∈ specs, s.isLabel = true := by
  obtain ⟨a, b, hs, -, -⟩ := h
  intro hl
  simpa [AxisSpec.isLabel] using hl _ (hs.subset List.mem_cons_self)

theorem eq_nil_of_labels_axes (hl : ∀ s ∈ specs, s.isLabel = true) (ha : ∀ s ∈ specs, s.isAxis = true) :
    specs = [] :=
  List.eq_nil_iff_forall_not_mem.2 fun s hs => by
    obtain ⟨l, rfl⟩ := AxisSpec.isLabel_iff.1 (hl s hs)
    simpa [AxisSpec.isAxis] using ha _ hs

end Shapes

theorem foldlM_labelStep_false (specs : List AxisSpec) :
    specs.foldlM labelStep false =
      if specs.any (·.isLabel) then .error (.value "Either use full class names or all strings") else .ok false := by
  induction specs with
  | nil => rfl
  | cons x rest ih =>
    cases x <;> simp [labelStep, AxisSpec.isLabel, ih]
    rfl

open Classical in
/-- The label check passes, saying whether all parts are labels, unless a label follows another
part. -/
theorem foldlM_labelStep_true (specs : List AxisSpec) :
    specs.foldlM labelStep true =
      if LabelAfterOther specs then .error (.value "Either use full class names or all strings")
      else .ok (specs.all (·.isLabel)) := by
  induction specs with
  | nil => simp [LabelAfterOther]; rfl
  | cons x rest ih =>
    rw [labelAfterOther_cons, List.foldlM_cons]
    cases hx : x.isLabel
    · -- the first part that is no label: every label after it is refused
      have hstep : labelStep true x = .ok false := by cases x <;> first | rfl | simp [AxisSpec.isLabel] at hx
      rw [hstep, Except.ok_bind, foldlM_labelStep_false]
      by_cases hl : ∃ y ∈ rest, y.isLabel = true
      · simp [List.any_eq_true.2 hl, hl]
      · simp [hx, hl, mt LabelAfterOther.exists_label hl]
    · have hstep : labelStep true x = .ok true := by cases x <;> first | rfl | simp [AxisSpec.isLabel] at hx
      simp [hstep, ih, hx]

/-- Over axis values only, the list check passes exactly when no list axis follows a tensor axis,
one seen before counting too. -/
theorem foldlM_listStep_axes {specs : List AxisSpec} (hax : ∀ s ∈ specs, s.isAxis = true) (saw pass : Bool) :
    ∃ saw' pass', specs.foldlM listStep (saw, pass) = .ok (saw', pass') ∧
      (pass' = true ↔ pass = true ∧ ¬ (saw = true ∧ ∃ b, AxisSpec.axis b ∈ specs ∧ b.isList.truthy = true) ∧
        ¬ ListAfterTensor specs) := by
  induction specs generalizing saw pass with
  | nil => exact ⟨saw, pass, rfl, by simp [ListAfterTensor]⟩
  | cons x rest ih =>
    obtain ⟨a, rfl⟩ := AxisSpec.isAxis_iff.1 (hax x List.mem_cons_self)
    have hrest : ∀ s ∈ rest, s.isAxis = true := fun s hs => hax s (List.mem_cons_of_mem _ hs)
    rw [List.foldlM_cons, listAfterTensor_cons]
    cases hl : a.isList.truthy
    · -- a tensor axis: every later list axis now follows one
      obtain ⟨saw', pass', h, hiff⟩ := ih hrest true pass
      refine ⟨saw', pass', by simpa [listStep, hl] using h, ?_⟩
      rw [hiff]
      simp [hl]
      tauto
    · obtain ⟨saw', pass', h, hiff⟩ := ih hrest saw (pass && !saw)
      refine ⟨saw', pass', by simpa [listStep, hl] using h, ?_⟩
      rw [hiff]
      cases saw <;> simp [hl]

theorem foldlM_listStep_error {specs : List AxisSpec} (h : ∃ s ∈ specs, s.isAxis = false) (acc : Bool × Bool) :
    ∃ f, specs.foldlM listStep acc = .error f ∧ f.kind = "AttributeError" := by
  induction specs generalizing acc with
  | nil => simp at h
  | cons x rest ih =>
    cases x with
    | label l => exact ⟨_, rfl, rfl⟩
    | other d => exact ⟨_, rfl, rfl⟩
    | axis a =>
      have hrest : ∃ s ∈ rest, s.isAxis = false := by simpa [AxisSpec.isAxis] using h
      rw [List.foldlM_cons, listStep]
      split_ifs <;> exact ih hrest _

section CheckAxes

variable {specs : List AxisSpec}

theorem checkAxes_of_labelAfterOther (h : LabelAfterOther specs) :
    checkAxes specs = .error (.value "Either use full class names or all strings") := by
  simp [checkAxes, foldlM_labelStep_true, h]

theorem checkAxes_of_labels (h : ¬ LabelAfterOther specs) (hl : ∀ s ∈ specs, s.isLabel = true) :
    checkAxes specs = .ok () := by
  rw [checkAxes, foldlM_labelStep_true, if_neg h, List.all_eq_true.2 hl]
  rfl

open Classical in
theorem checkAxes_of_axes (hl : ¬ ∀ s ∈ specs, s.isLabel = true) (ha : ∀ s ∈ specs, s.isAxis = true) :
    checkAxes specs = if ListAfterTensor specs then .error (.value
      "You have list dimension after Tensor dimension. All list dimensions must preceed Tensor dimensions")
      else .ok () := by
  have hno : ¬ LabelAfterOther specs := fun h => h.not_axes ha
  obtain ⟨saw, pass, hfold, hpass⟩ := foldlM_listStep_axes ha false true
  simp only [true_and, Bool.false_eq_true, false_and, not_false_eq_true] at hpass
  by_cases hlat : ListAfterTensor specs
  · have : pass = false := by simpa [hlat] using hpass
    simp [checkAxes, foldlM_labelStep_true, hno, hl, hfold, this, hlat]
    rfl
  · simp [checkAxes, foldlM_labelStep_true, hno, hfold, hpass.2 hlat, hlat]

theorem checkAxes_attribute (hno : ¬ LabelAfterOther specs) (hl : ¬ ∀ s ∈ specs, s.isLabel = true)
    (ha : ¬ ∀ s ∈ specs, s.isAxis = true) : ∃ f, checkAxes specs = .error f ∧ f.kind = "AttributeError" := by
  obtain ⟨f, hf, hk⟩ := foldlM_listStep_error (by simpa using ha) (false, true)
  exact ⟨f, by simp [checkAxes, foldlM_labelStep_true, hno, hl, hf], hk⟩

end CheckAxes

theorem AxisSpec.resolve_label (l : String) :
    (AxisSpec.label l).resolve = (AxisKind.ofLabel l).map (⟨·, .null, .bool false⟩) := by
  simp only [AxisSpec.resolve]
  cases AxisKind.ofLabel l <;> rfl

theorem AxisKind.ofLabel_error {l : String} {f : Failure} (h : AxisKind.ofLabel l = .error f) :
    ∃ msg, f = .value msg := by
  unfold AxisKind.ofLabel at h
  split at h <;> cases h
  exact ⟨_, rfl⟩

theorem valueError_iff {α : Type} {r : Result α} {f : Failure} (h : r = .error f) :
    (∃ msg, r = .error (.value msg)) ↔ f.kind = "ValueError" := by
  subst h
  cases f
  simp [Failure.value]

/-- **When a declaration is refused.**  A declaration is refused with a `ValueError` exactly when
a label follows a part that is no label, when its parts are labels and one is unknown, or when
they are axis values and a list axis follows a tensor axis.  It gives a type exactly when its
parts are known labels, or axis values with list axes first. -/
theorem NType.make_rejects_iff (specs : List AxisSpec) (e : ElementValue) (opt : Data) :
    ((∃ msg, NType.make (some specs) (some e) opt = .error (.value msg)) ↔
      LabelAfterOther specs ∨ ((∀ s ∈ specs, s.isLabel) ∧ ∃ l f, .label l ∈ specs ∧ AxisKind.ofLabel l = .error f) ∨
        ((∀ s ∈ specs, s.isAxis) ∧ ListAfterTensor specs)) ∧
    ((∃ t, NType.make (some specs) (some e) opt = .ok t) ↔
      ((∀ s ∈ specs, s.isLabel) ∧ ∀ l, .label l ∈ specs → ∃ k, AxisKind.ofLabel l = .ok k) ∨
        ((∀ s ∈ specs, s.isAxis) ∧ ¬ ListAfterTensor specs)) := by
  have hmake : NType.make (some specs) (some e) opt =
      checkAxes specs >>= fun _ => specs.mapM AxisSpec.resolve >>= fun bs => pure ⟨some bs, e, opt⟩ := rfl
  rw [hmake]
  by_cases hno : LabelAfterOther specs
  · -- refused by the label check first
    rw [checkAxes_of_labelAfterOther hno]
    refine ⟨iff_of_true ⟨_, rfl⟩ (.inl hno), iff_of_false (by simp) ?_⟩
    rintro (⟨h, -⟩ | ⟨h, -⟩)
    exacts [hno.not_labels h, hno.not_axes h]
  by_cases hl : ∀ s ∈ specs, s.isLabel = true
  · -- labels only: each is read, and the first unknown one is refused
    rw [checkAxes_of_labels hno hl, Except.ok_bind]
    have hna : ¬ ((∀ s ∈ specs, s.isAxis = true) ∧ ListAfterTensor specs) := fun h => h.2.not_labels hl
    cases hm : specs.mapM AxisSpec.resolve with
    | error f =>
      obtain ⟨s, hs, hsf⟩ := mapM_error_mem hm
      obtain ⟨l, rfl⟩ := AxisSpec.isLabel_iff.1 (hl s hs)
      obtain ⟨g, hg, rfl⟩ : ∃ g, AxisKind.ofLabel l = .error g ∧ g = f := by
        rw [AxisSpec.resolve_label] at hsf
        cases hk : AxisKind.ofLabel l <;> simp_all [Functor.map, Except.map]
      obtain ⟨msg, rfl⟩ := AxisKind.ofLabel_error hg
      refine ⟨iff_of_true ⟨msg, rfl⟩ (.inr (.inl ⟨hl, l, _, hs, hg⟩)), iff_of_false (by simp) ?_⟩
      rintro (⟨-, h⟩ | ⟨ha, -⟩)
      · obtain ⟨k, hk⟩ := h l hs
        simp [hk] at hg
      · simp [eq_nil_of_labels_axes hl ha] at hs
    | ok bs =>
      have hall := exists_mapM_ok_iff.1 ⟨bs, hm⟩
      have hknown : ∀ l, .label l ∈ specs → ∃ k, AxisKind.ofLabel l = .ok k := fun l hs => by
        obtain ⟨a, ha⟩ := hall _ hs
        rw [AxisSpec.resolve_label] at ha
        cases hk : AxisKind.ofLabel l <;> simp_all [Functor.map, Except.map]
      refine ⟨iff_of_false (by simp) ?_, iff_of_true ⟨_, rfl⟩ (.inl ⟨hl, hknown⟩)⟩
      rintro (h | ⟨-, l, g, hs, hg⟩ | h)
      · exact hno h
      · obtain ⟨k, hk⟩ := hknown l hs
        simp [hk] at hg
      · exact hna h
  by_cases ha : ∀ s ∈ specs, s.isAxis = true
  · -- axis values only: refused when a list axis follows a tensor axis
    obtain ⟨bs, hbs⟩ : ∃ bs, specs.mapM AxisSpec.resolve = .ok bs := by
      refine exists_mapM_ok_iff.2 fun s hs => ?_
      obtain ⟨a, rfl⟩ := AxisSpec.isAxis_iff.1 (ha s hs)
      exact ⟨a, rfl⟩
    rw [checkAxes_of_axes hl ha]
    by_cases hlat : ListAfterTensor specs
    · rw [if_pos hlat]
      refine ⟨iff_of_true ⟨_, rfl⟩ (.inr (.inr ⟨ha, hlat⟩)), iff_of_false (by simp) ?_⟩
      rintro (⟨h, -⟩ | ⟨-, h⟩)
      exacts [hl h, h hlat]
    · rw [if_neg hlat, Except.ok_bind, hbs]
      refine ⟨iff_of_false (by simp) ?_, iff_of_true ⟨_, rfl⟩ (.inr ⟨ha, hlat⟩)⟩
      rintro (h | ⟨h, -⟩ | ⟨-, h⟩)
      exacts [hno h, hl h, hlat h]
  · -- a part that is neither, or axis values before labels: no list mark
    obtain ⟨f, hf, hk⟩ := checkAxes_attribute hno hl ha
    rw [hf]
    refine ⟨(valueError_iff rfl).trans (iff_of_false (by simp [hk]) ?_), iff_of_false (by simp) ?_⟩
    · rintro (h | ⟨h, -⟩ | ⟨h, -⟩)
      exacts [hno h, hl h, ha h]
    · rintro (⟨h, -⟩ | ⟨h, -⟩)
      exacts [hl h, ha h]

/-! ## A declared type accepts itself -/

theorem ElementValue.paramsMatch_self {ps : Entries} (hk : (ps.map (·.1)).Nodup)
    (hv : ∀ kv ∈ ps, kv.2.Plain) : ElementValue.paramsMatch ps ps = true := by
  simp only [ElementValue.paramsMatch, List.all_eq_true, List.contains_iff_mem, Bool.and_eq_true,
    imp_self, implies_true, true_and]
  rintro ⟨k, v⟩ hkv
  simp [find?_name_of_nodup hk hkv, Data.same_self_of_plain (hv _ hkv)]

theorem Axis.accepts_self {a : Axis} (hs : a.size.Plain) (hl : a.isList.Plain) : a.accepts a = true := by
  simp [Axis.accepts, Data.same_self_of_plain hs, Data.same_self_of_plain hl]

/-- A declared axis resolves to itself, or, for a label, to an axis of no size that is no list. -/
theorem AxisSpec.resolve_ok {s : AxisSpec} {a : Axis} (h : s.resolve = .ok a) :
    s = .axis a ∨ ∃ l, s = .label l ∧ a.size = .null ∧ a.isList = .bool false := by
  cases s with
  | label l =>
    simp only [AxisSpec.resolve, Except.bind_eq_ok, pure, Except.pure, Except.ok.injEq] at h
    obtain ⟨k, -, rfl⟩ := h
    exact .inr ⟨l, rfl, rfl, rfl⟩
  | axis b =>
    cases h
    exact .inl rfl
  | other d => cases h

theorem NType.make_ok {axes : Option (List AxisSpec)} {e : ElementValue} {opt : Data} {t : NType}
    (h : NType.make axes (some e) opt = .ok t) :
    t.element = e ∧ ∀ bs, t.axes = some bs → ∃ specs, axes = some specs ∧ specs.mapM AxisSpec.resolve = .ok bs := by
  cases axes with
  | none =>
    simp only [NType.make, pure, Except.pure, Except.ok.injEq] at h
    simp [← h]
  | some specs =>
    simp only [NType.make, Except.bind_eq_ok, pure, Except.pure, Except.ok.injEq] at h
    obtain ⟨-, -, bs, hbs, rfl⟩ := h
    simp [hbs]

/-- A type whose element parameters have distinct names and plain values, and whose axes have
plain sizes and list marks, compares `SAME` with itself. -/
theorem NType.compare_self {t : NType} (hk : (t.element.params.map (·.1)).Nodup)
    (hv : ∀ kv ∈ t.element.params, kv.2.Plain)
    (ha : ∀ as, t.axes = some as → ∀ a ∈ as, a.size.Plain ∧ a.isList.Plain) : t.compare t = .same := by
  have he : t.element.compare t.element = .same := by
    simp [ElementValue.compare, ElementValue.paramsMatch_self hk hv]
  cases hax : t.axes with
  | none => simp [NType.compare, hax, he]
  | some as =>
    refine NType.compare_eq_same_of_positionwise hax hax he ⟨rfl, fun i hi _ => .inr ?_⟩
    obtain ⟨hs, hl⟩ := ha as hax as[i] (List.getElem_mem hi)
    exact Axis.accepts_self hs hl

/-- **A declared type accepts itself.**  Whatever axes a declaration gives (none, labels, or axis
values with plain sizes and list marks) and whatever element (its parameters a mapping of plain
values), the type built compares `SAME` with itself, and its check passes every tensor typed with
the same axes and element. -/
theorem NType.make_accepts_self {axes : Option (List AxisSpec)} {e : ElementValue} {opt : Data} {t : NType}
    (h : NType.make axes (some e) opt = .ok t) (hk : (e.params.map (·.1)).Nodup)
    (hv : ∀ kv ∈ e.params, kv.2.Plain)
    (ha : ∀ a, AxisSpec.axis a ∈ axes.getD [] → a.size.Plain ∧ a.isList.Plain) :
    t.compare t = .same ∧
      ∀ (x : NType) (parent port : String), x.axes = t.axes → x.element = t.element → t.checkFeed parent port x = .ok () := by
  obtain ⟨rfl, hres⟩ := NType.make_ok h
  have hself : t.compare t = .same := by
    refine NType.compare_self hk hv fun bs hbs b hb => ?_
    obtain ⟨specs, rfl, hmap⟩ := hres bs hbs
    obtain ⟨s, hs, hsb⟩ := mapM_ok_mem hmap b hb
    rcases AxisSpec.resolve_ok hsb with rfl | ⟨l, -, hsize, hlist⟩
    · exact ha b hs
    · simp [hsize, hlist, Data.Plain]
  refine ⟨hself, fun x parent port hxa hxe => ?_⟩
  -- the check reads only the tensor's axes and element
  have hx : t.compare x = t.compare t := by simp [NType.compare, hxa, hxe]
  simp [NType.checkFeed, hx, hself]

/-- An audio signal at 16 kHz over a batch list axis and a tensor axis of size 3. -/
theorem NType.make_accepts_self_signal :
    ∃ t, NType.make (some [.axis ⟨.batch, .null, .bool true⟩, .axis ⟨.any, .int 3, .bool false⟩])
      (some ⟨.audioSignal, [("freq", .int 16000)]⟩) (.bool false) = .ok t ∧ t.compare t = .same := by
  obtain ⟨t, ht⟩ : ∃ t, NType.make (some [.axis ⟨.batch, .null, .bool true⟩, .axis ⟨.any, .int 3, .bool false⟩])
      (some ⟨.audioSignal, [("freq", .int 16000)]⟩) (.bool false) = .ok t := ⟨_, rfl⟩
  exact ⟨t, ht, (NType.make_accepts_self ht (by decide) (by simp [Data.Plain]) (by simp [Data.Plain])).1⟩

end NeuralType
end Conversa
