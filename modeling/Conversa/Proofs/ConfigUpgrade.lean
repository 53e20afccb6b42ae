import Conversa.Config.Upgrade
import Conversa.Proofs.Entries
import Conversa.Proofs.Monadic

/-!
# Upgrading configurations to the current layout

`upgrade` renames `cls`, lifts the entries of `params` and upgrades the values of each mapping
it reaches through mapping values; sequences are not entered (`upgrade_leaves_older_layouts`).

Main statement, `upgrade_current_layout`: when every `params` reached can be lifted, the result
is in the current layout, holds each lifted entry with its value upgraded, and is its own
upgrade.
-/

namespace Conversa.Config

/-- A value reached from a configuration through mapping values, the configuration included. -/
inductive Reaches : Data → Data → Prop
  | refl (d : Data) : Reaches d d
  | entry {kvs : Entries} {e : String × Data} {d : Data} :
      e ∈ kvs → Reaches e.2 d → Reaches (.dict kvs) d

/-- A mapping in the current layout: no `params` key, and no `cls` key without `_target_`. -/
def CurrentEntries (kvs : Entries) : Prop :=
  "params" ∉ kvs.map Prod.fst ∧ ("cls" ∈ kvs.map Prod.fst → "_target_" ∈ kvs.map Prod.fst)

/-- Every mapping reached is in the current layout. -/
def Current (d : Data) : Prop := ∀ kvs, Reaches d (.dict kvs) → CurrentEntries kvs

/-- A mapping whose `params`, if any, is a mapping with distinct keys, none `cls` or `params`. -/
def LiftableEntries (kvs : Entries) : Prop :=
  ∀ p, (Data.dict kvs).get? "params" = some p →
    ∃ ps, p = .dict ps ∧ (ps.map Prod.fst).Nodup ∧ "cls" ∉ ps.map Prod.fst ∧ "params" ∉ ps.map Prod.fst

/-- Every mapping reached has a `params` that can be lifted. -/
def Liftable (d : Data) : Prop := ∀ kvs, Reaches d (.dict kvs) → LiftableEntries kvs

lemma depth_lt_of_mem {kvs : Entries} {e : String × Data} (he : e ∈ kvs) :
    e.2.depth < (Data.dict kvs).depth := by
  have hle : ∀ l : Entries, e ∈ l → e.2.depth ≤ Data.depthEntries l := by
    intro l hl
    induction l with
    | nil => cases hl
    | cons x xs ih =>
      rcases List.mem_cons.1 hl with rfl | hx
      · simp [Data.depthEntries]
      · simp only [Data.depthEntries]
        exact le_max_of_le_right (ih hx)
  have := hle kvs he
  simp only [Data.depth]
  omega

lemma mem_of_get? {kvs : Entries} {k : String} {v : Data}
    (h : (Data.dict kvs).get? k = some v) : ∃ e ∈ kvs, e.1 = k ∧ e.2 = v := by
  simp only [Data.get?, Option.map_eq_some_iff] at h
  obtain ⟨e, he, rfl⟩ := h
  exact ⟨e, List.mem_of_find?_eq_some he, by simpa using List.find?_some he, rfl⟩

lemma any_key_iff (kvs : Entries) (k : String) :
    kvs.any (·.1 == k) = true ↔ k ∈ kvs.map Prod.fst := by
  simp

namespace Reaches

lemma trans {a b c : Data} (hab : Reaches a b) (hbc : Reaches b c) : Reaches a c := by
  induction hab with
  | refl => exact hbc
  | entry he _ ih => exact .entry he (ih hbc)

lemma of_mem {kvs : Entries} {e : String × Data} (he : e ∈ kvs) : Reaches (.dict kvs) e.2 :=
  .entry he (.refl _)

lemma dict_inv {kvs : Entries} {d : Data} (h : Reaches (.dict kvs) d) :
    d = .dict kvs ∨ ∃ e ∈ kvs, Reaches e.2 d := by
  cases h with
  | refl => exact .inl rfl
  | entry he h => exact .inr ⟨_, he, h⟩

lemma not_dict {d : Data} (hd : ∀ kvs, d ≠ .dict kvs) {kvs : Entries}
    (h : Reaches d (.dict kvs)) : False := by
  cases h with
  | refl => exact hd _ rfl
  | entry => exact hd _ rfl

lemma depth_le {a b : Data} (h : Reaches a b) : b.depth ≤ a.depth := by
  induction h with
  | refl => exact le_refl _
  | entry he _ ih => exact ih.trans (depth_lt_of_mem he).le

end Reaches

lemma Liftable.reach {d x : Data} (h : Liftable d) (hx : Reaches d x) : Liftable x :=
  fun kvs hk => h kvs (hx.trans hk)

lemma Current.reach {d x : Data} (h : Current d) (hx : Reaches d x) : Current x :=
  fun kvs hk => h kvs (hx.trans hk)

/-! ## Lifting the entries of `params` -/

lemma setEntry_eq_putEntry (kvs : Entries) (k : String) (v : Data) :
    setEntry kvs k v = Dialogue.putEntry kvs k v := by
  unfold setEntry Dialogue.putEntry
  split
  · congr 1
    funext e
    by_cases h : e.1 = k <;> simp [h]
  · rfl

lemma liftFold_eq (ps rest : Entries) :
    ps.foldl (fun acc (k, v) => setEntry acc k v) rest =
      ps.foldl (fun acc e => Dialogue.putEntry acc e.1 e.2) rest := by
  congr 1
  funext acc e
  exact setEntry_eq_putEntry acc e.1 e.2

section Lift

variable (ps : Entries)

lemma keys_lift (rest : Entries) (k : String) :
    k ∈ (ps.foldl (fun acc e => Dialogue.putEntry acc e.1 e.2) rest).map Prod.fst ↔
      k ∈ rest.map Prod.fst ∨ k ∈ ps.map Prod.fst := by
  induction ps generalizing rest with
  | nil => simp
  | cons e ps ih =>
    rw [List.foldl_cons, ih, Dialogue.map_fst_putEntry, List.map_cons, List.mem_cons]
    split
    · rename_i he
      constructor
      · tauto
      · rintro (h | rfl | h)
        exacts [.inl h, .inl he, .inr h]
    · simp only [List.mem_append, List.mem_singleton]
      tauto

lemma mem_lift (rest : Entries) {e : String × Data}
    (he : e ∈ ps.foldl (fun acc e => Dialogue.putEntry acc e.1 e.2) rest) : e ∈ rest ∨ e ∈ ps := by
  induction ps generalizing rest with
  | nil => exact .inl he
  | cons x ps ih =>
    rcases ih _ he with h | h
    · rcases Dialogue.mem_putEntry h with h | rfl
      · exact .inl h
      · exact .inr List.mem_cons_self
    · exact .inr (List.mem_cons_of_mem _ h)

lemma find_lift_of_not_mem (rest : Entries) {k : String} (hk : k ∉ ps.map Prod.fst) :
    (ps.foldl (fun acc e => Dialogue.putEntry acc e.1 e.2) rest).find? (·.1 == k) = rest.find? (·.1 == k) := by
  induction ps generalizing rest with
  | nil => rfl
  | cons x ps ih =>
    simp only [List.map_cons, List.mem_cons, not_or] at hk
    rw [List.foldl_cons, ih _ hk.2, Dialogue.find_putEntry]
    simp [hk.1]

lemma find_lift (hnd : (ps.map Prod.fst).Nodup) (rest : Entries) {e : String × Data}
    (he : e ∈ ps) : (ps.foldl (fun acc e => Dialogue.putEntry acc e.1 e.2) rest).find? (·.1 == e.1) = some e := by
  induction ps generalizing rest with
  | nil => cases he
  | cons x ps ih =>
    simp only [List.map_cons, List.nodup_cons] at hnd
    rcases List.mem_cons.1 he with rfl | he
    · rw [List.foldl_cons, find_lift_of_not_mem _ _ hnd.1, Dialogue.find_putEntry]
      simp
    · exact ih hnd.2 _ he

end Lift

/-! ## One mapping -/

section Mapping

variable (kvs : Entries)

lemma renameCls_below : ∀ e ∈ renameCls kvs, ∃ e' ∈ kvs, Reaches e'.2 e.2 := by
  unfold renameCls
  split
  · rename_i h
    intro e he
    rcases List.mem_append.1 he with he | he
    · exact ⟨e, (List.mem_filter.1 he).1, .refl _⟩
    · rw [List.mem_singleton.1 he]
      cases hf : kvs.find? (·.1 == "cls") with
      | none =>
        -- the rename happens only when there is a `cls`
        simp only [Bool.and_eq_true, List.any_eq_true] at h
        obtain ⟨c, hc, hcn⟩ := h.1
        exact absurd hcn (List.find?_eq_none.1 hf c hc)
      | some f => exact ⟨f, List.mem_of_find?_eq_some hf, .refl _⟩
  · exact fun e he => ⟨e, he, .refl _⟩

lemma renameCls_target : "cls" ∈ (renameCls kvs).map Prod.fst → "_target_" ∈ (renameCls kvs).map Prod.fst := by
  unfold renameCls
  split
  · simp
  · rename_i h
    rw [Bool.and_eq_true, any_key_iff, Bool.not_eq_true', ← Bool.not_eq_true, any_key_iff] at h
    tauto

lemma find_params_renameCls : (renameCls kvs).find? (·.1 == "params") = kvs.find? (·.1 == "params") := by
  unfold renameCls
  split
  · simp only [List.find?_append, List.find?_filter]
    simp
    congr 1
    funext x
    by_cases h : x.1 = "params" <;> simp [h]
  · rfl

variable {kvs}

lemma renameCls_of_target (h : "cls" ∈ kvs.map Prod.fst → "_target_" ∈ kvs.map Prod.fst) :
    renameCls kvs = kvs := by
  unfold renameCls
  rw [if_neg]
  rw [Bool.and_eq_true, any_key_iff, Bool.not_eq_true', ← Bool.not_eq_true, any_key_iff]
  tauto

lemma liftParams_of_not_mem (h : "params" ∉ kvs.map Prod.fst) : liftParams kvs = .ok kvs := by
  unfold liftParams
  rw [if_neg (by rwa [any_key_iff])]
  rfl

lemma liftParams_below {out : Entries} (h : liftParams kvs = .ok out) :
    ∀ e ∈ out, ∃ e' ∈ kvs, Reaches e'.2 e.2 := by
  unfold liftParams at h
  split at h
  · cases hf : kvs.find? (·.1 == "params") with
    | none => simp [hf] at h
    | some p =>
      simp only [hf, Option.map_some, Option.getD_some] at h
      split at h
      · rename_i ps hps
        intro e he
        rw [← Except.ok.inj h, liftFold_eq] at he
        rcases mem_lift ps _ he with he | he
        · exact ⟨e, (List.mem_filter.1 he).1, .refl _⟩
        · exact ⟨p, List.mem_of_find?_eq_some hf, hps ▸ Reaches.of_mem he⟩
      · cases h
  · cases h
    exact fun e he => ⟨e, he, .refl _⟩

/-- A liftable `params` leaves the mapping in the current layout, with each of its entries found
under its key. -/
lemma liftParams_current (hl : LiftableEntries kvs)
    (ht : "cls" ∈ kvs.map Prod.fst → "_target_" ∈ kvs.map Prod.fst) :
    ∃ out, liftParams kvs = .ok out ∧ CurrentEntries out ∧
      ∀ ps, (Data.dict kvs).get? "params" = some (.dict ps) → ∀ e ∈ ps, out.find? (·.1 == e.1) = some e := by
  by_cases hp : "params" ∈ kvs.map Prod.fst
  · obtain ⟨p, hf⟩ : ∃ p, kvs.find? (·.1 == "params") = some p :=
      Option.isSome_iff_exists.1 (by simpa using hp)
    have hget : (Data.dict kvs).get? "params" = some p.2 := by simp [Data.get?, hf]
    obtain ⟨ps, hps, hnd, hcls, hpar⟩ := hl p.2 hget
    unfold liftParams
    rw [if_pos ((any_key_iff kvs "params").2 hp), hf, Option.map_some, Option.getD_some, hps]
    refine ⟨_, rfl, ⟨?_, ?_⟩, ?_⟩
    · rw [liftFold_eq, keys_lift]
      simp [hpar]
    · rw [liftFold_eq, keys_lift, keys_lift]
      simp only [List.mem_map, List.mem_filter] at ht ⊢
      intro hc
      rcases hc with ⟨c, ⟨hc, -⟩, hc1⟩ | hc
      · obtain ⟨t, ht, ht1⟩ := ht ⟨c, hc, hc1⟩
        exact .inl ⟨t, ⟨ht, by simp [ht1]⟩, ht1⟩
      · exact absurd (by simpa using hc) hcls
    · intro ps' hps' e he
      rw [hget, hps, Option.some.injEq, Data.dict.injEq] at hps'
      subst hps'
      rw [liftFold_eq]
      exact find_lift ps hnd _ he
  · refine ⟨kvs, liftParams_of_not_mem hp, ⟨hp, ht⟩, fun ps h => ?_⟩
    obtain ⟨e, he, he1, -⟩ := mem_of_get? h
    exact absurd (List.mem_map.2 ⟨e, he, he1⟩) hp

lemma upgradeEntries_below {out : Entries} (h : upgradeEntries kvs = .ok out) :
    ∀ e ∈ out, ∃ e' ∈ kvs, Reaches e'.2 e.2 := by
  intro e he
  obtain ⟨e1, he1, hr1⟩ := liftParams_below h e he
  obtain ⟨e2, he2, hr2⟩ := renameCls_below kvs e1 he1
  exact ⟨e2, he2, hr2.trans hr1⟩

lemma upgradeEntries_current (hl : LiftableEntries kvs) :
    ∃ out, upgradeEntries kvs = .ok out ∧ CurrentEntries out ∧
      ∀ ps, (Data.dict kvs).get? "params" = some (.dict ps) → ∀ e ∈ ps, out.find? (·.1 == e.1) = some e := by
  have hget : (Data.dict (renameCls kvs)).get? "params" = (Data.dict kvs).get? "params" := by
    simp only [Data.get?, find_params_renameCls]
  obtain ⟨out, h, hcur, hlift⟩ := liftParams_current (fun p hp => hl p (hget ▸ hp)) (renameCls_target kvs)
  exact ⟨out, h, hcur, fun ps hp => hlift ps (hget ▸ hp)⟩

lemma upgradeEntries_of_current (h : CurrentEntries kvs) : upgradeEntries kvs = .ok kvs := by
  rw [upgradeEntries, renameCls_of_target h.2]
  exact liftParams_of_not_mem h.1

lemma upgradeEntries_depth {out : Entries} (h : upgradeEntries kvs = .ok out) {e : String × Data}
    (he : e ∈ out) : e.2.depth < (Data.dict kvs).depth := by
  obtain ⟨e', he', hr⟩ := upgradeEntries_below h e he
  exact lt_of_le_of_lt hr.depth_le (depth_lt_of_mem he')

/-- The values an upgrade keeps lie below the mapping, so their `params` can be lifted too. -/
lemma upgradeEntries_values {out : Entries} (h : upgradeEntries kvs = .ok out)
    (hl : Liftable (.dict kvs)) {e : String × Data} (he : e ∈ out) :
    e.2.depth < (Data.dict kvs).depth ∧ Liftable e.2 := by
  obtain ⟨e', he', hr⟩ := upgradeEntries_below h e he
  exact ⟨upgradeEntries_depth h he, hl.reach ((Reaches.of_mem he').trans hr)⟩

end Mapping

/-! ## Whole configurations -/

/-- An entry with its value upgraded within `fuel` levels, kept as it is when that fails. -/
def upgradedEntry (fuel : Nat) (e : String × Data) : String × Data :=
  (e.1, ((upgradeWithin fuel e.2).toOption).getD e.2)

lemma upgradedEntry_of_ok {fuel : Nat} {e : String × Data} {r : Data} (h : upgradeWithin fuel e.2 = .ok r) :
    upgradedEntry fuel e = (e.1, r) := by
  simp [upgradedEntry, h, Except.toOption]

lemma upgradeWithin_of_not_dict (fuel : Nat) {d : Data} (hd : ∀ kvs, d ≠ .dict kvs) :
    upgradeWithin fuel d = .ok d := by
  cases fuel with
  | zero => rfl
  | succ fuel => cases d <;> first | rfl | exact absurd rfl (hd _)

lemma upgradeWithin_dict {fuel : Nat} {kvs out : Entries} (h : upgradeEntries kvs = .ok out)
    (hv : ∀ e ∈ out, ∃ r, upgradeWithin fuel e.2 = .ok r) :
    upgradeWithin (fuel + 1) (.dict kvs) = .ok (.dict (out.map (upgradedEntry fuel))) := by
  have hm : out.mapM (fun e => do pure (e.1, ← upgradeWithin fuel e.2)) = .ok (out.map (upgradedEntry fuel)) := by
    apply mapM_ok_of_forall
    intro e he
    obtain ⟨r, hr⟩ := hv e he
    simp [upgradedEntry_of_ok hr, hr, pure, Except.pure, bind, Except.bind]
  simp only [upgradeWithin, h, Except.ok_bind, hm]
  rfl

lemma mapM_congr_mem {α β ε : Type} {f g : α → Except ε β} {xs : List α} (h : ∀ x ∈ xs, f x = g x) :
    xs.mapM f = xs.mapM g := by
  induction xs with
  | nil => rfl
  | cons x xs ih =>
    simp only [List.mapM_cons, h x List.mem_cons_self, ih fun y hy => h y (List.mem_cons_of_mem x hy)]

lemma upgradeWithin_fuel (n : Nat) : ∀ (m : Nat) (d : Data), d.depth < n → d.depth < m →
    upgradeWithin n d = upgradeWithin m d := by
  induction n with
  | zero => intro m d h; omega
  | succ n ih =>
    intro m d hn hm
    obtain ⟨m, rfl⟩ : ∃ m', m = m' + 1 := ⟨m - 1, by omega⟩
    by_cases hd : ∃ kvs, d = .dict kvs
    · obtain ⟨kvs, rfl⟩ := hd
      simp only [upgradeWithin]
      cases h : upgradeEntries kvs with
      | error => rfl
      | ok out =>
        -- each kept value lies below the mapping, within both fuels
        have := mapM_congr_mem (f := fun e : String × Data => do pure (e.1, ← upgradeWithin n e.2))
          (g := fun e : String × Data => do pure (e.1, ← upgradeWithin m e.2)) fun e he => by
            have := upgradeEntries_depth h he
            rw [ih m e.2 (by omega) (by omega)]
        simp only [Except.ok_bind, this]
    · rw [upgradeWithin_of_not_dict _ (not_exists.1 hd), upgradeWithin_of_not_dict _ (not_exists.1 hd)]

/-- With fuel beyond its depth, a configuration whose every `params` can be lifted upgrades to one
in the current layout. -/
lemma upgradeWithin_current (fuel : Nat) : ∀ d : Data, d.depth < fuel → Liftable d →
    ∃ r, upgradeWithin fuel d = .ok r ∧ Current r := by
  induction fuel with
  | zero => intro d h; omega
  | succ fuel ih =>
    intro d hdep hl
    by_cases hd : ∃ kvs, d = .dict kvs
    · obtain ⟨kvs, rfl⟩ := hd
      obtain ⟨out, hout, hcur, -⟩ := upgradeEntries_current (hl kvs (.refl _))
      have hv : ∀ e ∈ out, ∃ r, upgradeWithin fuel e.2 = .ok r ∧ Current r := fun e he => by
        obtain ⟨hlt, hle⟩ := upgradeEntries_values hout hl he
        exact ih e.2 (by omega) hle
      refine ⟨_, upgradeWithin_dict hout fun e he => (hv e he).imp fun _ h => h.1, ?_⟩
      intro kvs' hr
      rcases hr.dict_inv with h | ⟨e, he, hr⟩
      · -- the mapping itself keeps the keys of its upgraded entries
        rw [Data.dict.injEq] at h
        have hkeys : (out.map (upgradedEntry fuel)).map Prod.fst = out.map Prod.fst := by
          simp [upgradedEntry, Function.comp_def]
        rw [h, CurrentEntries, hkeys]
        exact hcur
      · obtain ⟨x, hx, rfl⟩ := List.mem_map.1 he
        obtain ⟨r, hr', hc⟩ := hv x hx
        rw [upgradedEntry_of_ok hr'] at hr
        exact hc kvs' hr
    · exact ⟨d, upgradeWithin_of_not_dict _ (not_exists.1 hd),
        fun kvs h => (Reaches.not_dict (not_exists.1 hd) h).elim⟩

lemma upgradeWithin_of_current (fuel : Nat) : ∀ d : Data, Current d → upgradeWithin fuel d = .ok d := by
  induction fuel with
  | zero => intro d _; rfl
  | succ fuel ih =>
    intro d h
    by_cases hd : ∃ kvs, d = .dict kvs
    · obtain ⟨kvs, rfl⟩ := hd
      have hv : ∀ e ∈ kvs, upgradeWithin fuel e.2 = .ok e.2 :=
        fun e he => ih e.2 (h.reach (.of_mem he))
      rw [upgradeWithin_dict (upgradeEntries_of_current (h kvs (.refl _))) fun e he => ⟨_, hv e he⟩]
      congr 2
      exact (List.map_congr_left fun e he => by rw [upgradedEntry_of_ok (hv e he)]; rfl).trans (List.map_id kvs)
    · exact upgradeWithin_of_not_dict _ (not_exists.1 hd)

/-- Upgrading a mapping whose `params` can be lifted finds each `params` entry under its key,
its value upgraded. -/
lemma upgradeWithin_lifts (fuel : Nat) {kvs ps : Entries} (hdep : (Data.dict kvs).depth < fuel + 1)
    (hl : Liftable (.dict kvs)) (hp : (Data.dict kvs).get? "params" = some (.dict ps)) :
    ∃ out, upgradeWithin (fuel + 1) (.dict kvs) = .ok (.dict out) ∧
      ∀ e ∈ ps, (Data.dict out).get? e.1 = some (upgradedEntry fuel e).2 := by
  obtain ⟨out, hout, -, hfind⟩ := upgradeEntries_current (hl kvs (.refl _))
  have hv : ∀ e ∈ out, ∃ r, upgradeWithin fuel e.2 = .ok r := fun e he => by
    obtain ⟨hlt, hle⟩ := upgradeEntries_values hout hl he
    obtain ⟨r, hr, -⟩ := upgradeWithin_current fuel e.2 (by omega) hle
    exact ⟨r, hr⟩
  refine ⟨_, upgradeWithin_dict hout hv, fun e he => ?_⟩
  simp [Data.get?, List.find?_map, Function.comp_def, upgradedEntry, hfind ps hp e he]

/-- Where every `params` reached is a mapping with distinct keys, none of them `cls` or `params`,
the upgrade succeeds; every mapping the result reaches through mapping values has no `params` and
no `cls` without `_target_`; each `params` entry stands in its upgraded mapping with its value
upgraded; and upgrading the result again changes nothing. -/
theorem upgrade_current_layout (d : Data) (hd : Liftable d) :
    ∃ r, upgrade d = .ok r ∧ Current r ∧ upgrade r = .ok r ∧
      ∀ kvs ps, Reaches d (.dict kvs) → (Data.dict kvs).get? "params" = some (.dict ps) →
        ∃ out, upgrade (.dict kvs) = .ok (.dict out) ∧
          ∀ e ∈ ps, ∃ v, upgrade e.2 = .ok v ∧ (Data.dict out).get? e.1 = some v := by
  obtain ⟨r, hr, hcur⟩ := upgradeWithin_current (d.depth + 1) d (by omega) hd
  refine ⟨r, hr, hcur, upgradeWithin_of_current _ r hcur, fun kvs ps hreach hp => ?_⟩
  have hl := hd.reach hreach
  obtain ⟨out, hup, hget⟩ := upgradeWithin_lifts (Data.dict kvs).depth (by omega) hl hp
  refine ⟨out, hup, fun e he => ?_⟩
  -- the entry lies two levels below the mapping, whose depth is fuel enough for it
  obtain ⟨q, hq, -, hq2⟩ := mem_of_get? hp
  have hps : Reaches (.dict kvs) e.2 := (Reaches.of_mem hq).trans (hq2 ▸ Reaches.of_mem he)
  have hlt : e.2.depth < (Data.dict kvs).depth :=
    lt_of_lt_of_le (depth_lt_of_mem he) (hq2 ▸ depth_lt_of_mem hq).le
  obtain ⟨v, hv, -⟩ := upgradeWithin_current (Data.dict kvs).depth e.2 hlt (hl.reach hps)
  refine ⟨v, ?_, by rw [hget e he, upgradedEntry_of_ok hv]⟩
  rw [upgrade, upgradeWithin_fuel _ _ e.2 (by omega) hlt, hv]

/-- A model section in the older layout: a class under `cls` and one setting under `params`. -/
def oldSection : Data := .dict [("cls", .str "a.B"), ("params", .dict [("x", .int 1)])]

/-- The older section upgrades to the class under `_target_` beside its setting, and stays so. -/
theorem upgrade_current_layout_oldSection :
    upgrade oldSection = .ok (.dict [("_target_", .str "a.B"), ("x", .int 1)]) ∧
      Current (.dict [("_target_", .str "a.B"), ("x", .int 1)]) := by
  obtain ⟨r, hr, hcur, -⟩ := upgrade_current_layout oldSection (by
    intro kvs h
    rcases h.dict_inv with h | ⟨e, he, h⟩
    · -- the section itself: its `params` holds one setting
      cases h
      intro p hp
      simp only [Data.get?, List.find?] at hp
      cases hp
      exact ⟨_, rfl, by simp, by simp, by simp⟩
    · simp only [List.mem_cons, List.not_mem_nil, or_false] at he
      rcases he with rfl | rfl
      · exact (h.not_dict (by simp)).elim
      · rcases h.dict_inv with h | ⟨e, he, h⟩
        · cases h
          intro p hp
          simp [Data.get?] at hp
        · simp only [List.mem_singleton] at he
          subst he
          exact (h.not_dict (by simp)).elim)
  have : r = .dict [("_target_", .str "a.B"), ("x", .int 1)] := by
    rw [show upgrade oldSection = .ok (.dict [("_target_", .str "a.B"), ("x", .int 1)]) from rfl] at hr
    exact (Except.ok.inj hr).symm
  subst this
  exact ⟨hr, hcur⟩

/-- Each condition of the upgrade's statement is needed: a mapping inside a sequence keeps its
older layout, a `params` that is no mapping fails, and a `cls` or `params` inside `params` comes
out in the older layout. -/
theorem upgrade_leaves_older_layouts :
    upgrade (.dict [("a", .list [.dict [("cls", .str "x")]])]) =
        .ok (.dict [("a", .list [.dict [("cls", .str "x")]])]) ∧
      upgrade (.dict [("params", .int 1)]) =
        .error ⟨"AttributeError", "'int' object has no attribute 'items'"⟩ ∧
      upgrade (.dict [("params", .dict [("cls", .str "x")])]) = .ok (.dict [("cls", .str "x")]) ∧
      upgrade (.dict [("params", .dict [("params", .dict [])])]) =
        .ok (.dict [("params", .dict [])]) :=
  ⟨rfl, rfl, rfl, rfl⟩

end Conversa.Config
