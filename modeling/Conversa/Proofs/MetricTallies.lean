import Conversa.Dialogue.Evaluation
import Conversa.Proofs.Monadic
import Conversa.Proofs.Entries

/-!
# How many values each key of the metrics collects

Scoring a corpus collects every number of a frame's metrics under each of its keys (`frameKeys`)
and reports the means.  An update changes its own entry only (`Collection.get_update`), a frame
adds under a key as many values as the key occurs (`collectScores_count`), and each scoring step
keeps the collections `Tallied` (`scoreFrame_tallied` to `scoreDialogue_tallied`), hence
`scoreCorpus_counts`.  A service without an underscore is its own domain and counts twice.
-/

namespace Conversa.Dialogue

/-! ## Collections -/

/-- The entry of a key and a metric in a collection. -/
def Collection.get {α : Type} (c : Collection α) (key metric : String) : Option α :=
  ((((c.find? (·.1 == key)).map (·.2)).getD []).find? (·.1 == metric)).map (·.2)

theorem Collection.update_eq {α : Type} (c : Collection α) (key metric : String) (init : α)
    (f : α → α) :
    c.update key metric init f =
      putEntry c key (putEntry (((c.find? (·.1 == key)).map (·.2)).getD []) metric
        (f ((c.get key metric).getD init))) := rfl

/-- **Update law.**  An update changes the entry of its own key and metric only. -/
theorem Collection.get_update {α : Type} (c : Collection α) (key metric k m : String) (init : α)
    (f : α → α) :
    (c.update key metric init f).get k m =
      if k = key ∧ m = metric then some (f ((c.get key metric).getD init)) else c.get k m := by
  rw [Collection.update_eq]
  by_cases hk : k = key
  · subst hk
    by_cases hm : m = metric
    · subst hm
      simp [Collection.get, find_putEntry]
    · simp [Collection.get, find_putEntry, hm]
  · simp [Collection.get, find_putEntry, hk]

/-- The number of values collected under a key and a metric. -/
def Collection.count (c : Collection (List Float)) (key metric : String) : Nat :=
  ((c.get key metric).getD []).length

theorem Collection.count_append (c : Collection (List Float)) (key metric k m : String)
    (v : Float) :
    (c.update key metric [] (· ++ [v])).count k m =
      c.count k m + if k = key ∧ m = metric then 1 else 0 := by
  unfold Collection.count
  rw [Collection.get_update]
  split
  · rename_i h
    obtain ⟨rfl, rfl⟩ := h
    simp
  · simp

/-! ## One frame -/

/-- Whether a score is a number, which is what a collection keeps. -/
def Score.isValue : Score → Bool
  | .value _ => true
  | .absent => false

/-- How many numbers a frame's metrics give for a metric. -/
def valuesFor (metrics : List (String × Score)) (m : String) : Nat :=
  metrics.countP fun e => e.1 == m && e.2.isValue

theorem collectScores_cons (acrossTurn : Bool) (key : String) (keys : List String)
    (metrics : List (String × Score)) (acc : Collection (List Float) × Collection Float) :
    collectScores acrossTurn (key :: keys) metrics acc =
      collectScores acrossTurn keys metrics (collectScores acrossTurn [key] metrics acc) := rfl

/-- Without products across turns, one metric of a frame adds its number, if it has one, under
the key. -/
theorem collectScores_key_cons (key : String) (e : String × Score) (es : List (String × Score))
    (cs : Collection (List Float)) (pt : Collection Float) :
    collectScores false [key] (e :: es) (cs, pt) =
      collectScores false [key] es
        ((match e.2 with
          | .absent => cs
          | .value v => cs.update key e.1 [] (· ++ [v])), pt) := by
  obtain ⟨metric, score⟩ := e
  cases score <;> rfl

theorem collectScores_key (key : String) (k m : String) (pt : Collection Float) :
    ∀ (metrics : List (String × Score)) (cs : Collection (List Float)),
      (collectScores false [key] metrics (cs, pt)).2 = pt ∧
      (collectScores false [key] metrics (cs, pt)).1.count k m =
        cs.count k m + if k = key then valuesFor metrics m else 0
  | [], cs => by simp [collectScores, valuesFor]
  | (metric, score) :: es, cs => by
    rw [collectScores_key_cons]
    obtain ⟨hpt, hcount⟩ := collectScores_key key k m pt es _
    refine ⟨hpt, ?_⟩
    rw [hcount]
    cases score with
    | absent => simp [valuesFor, Score.isValue]
    | value v =>
      dsimp only
      rw [Collection.count_append]
      by_cases hk : k = key
      · by_cases hm : metric = m
        · subst hk hm
          simp [valuesFor, Score.isValue]
          omega
        · simp [valuesFor, Score.isValue, hk, hm, Ne.symm hm]
      · simp [hk]

/-- Without products across turns, a frame's metrics add under each key as many values as the
key occurs among the keys, for each metric its numbers; the turn's products stay as they are. -/
theorem collectScores_count (metrics : List (String × Score)) (k m : String)
    (pt : Collection Float) :
    ∀ (keys : List String) (cs : Collection (List Float)),
      (collectScores false keys metrics (cs, pt)).2 = pt ∧
      (collectScores false keys metrics (cs, pt)).1.count k m =
        cs.count k m + keys.count k * valuesFor metrics m
  | [], cs => by simp [collectScores]
  | key :: keys, cs => by
    obtain ⟨hpt, hkey⟩ := collectScores_key key k m pt metrics cs
    have hpair : collectScores false [key] metrics (cs, pt) =
        ((collectScores false [key] metrics (cs, pt)).1, pt) := Prod.ext rfl hpt
    rw [collectScores_cons, hpair]
    obtain ⟨hpt', hrest⟩ := collectScores_count metrics k m pt keys _
    refine ⟨hpt', ?_⟩
    rw [hrest, hkey, List.count_cons]
    by_cases hk : k = key
    · subst hk
      simp [Nat.add_mul]
      omega
    · simp [hk, Ne.symm hk]

/-! ## The tally of a scoring -/

/-- The number of values scored frames give under a key and a metric, the frame at each
position being of the service at that position. -/
def tally (inDomain services : List String) (perFrame : List (String × List (String × Score)))
    (k m : String) : Nat :=
  ((services.zip perFrame).map fun p => (frameKeys inDomain p.1).count k * valuesFor p.2.2 m).sum

/-- The services of scored frames, each the one its frame's id ends with. -/
def NamesFrames (services : List String) (perFrame : List (String × List (String × Score))) : Prop :=
  services.length = perFrame.length ∧
    ∀ p ∈ services.zip perFrame, ∃ (d : String) (t : Nat), p.2.1 = d ++ "-" ++ turnNumber t ++ "-" ++ p.1

/-- A scoring whose collections hold, under every key and metric, the tally of its frames. -/
def Tallied (inDomain : List String) (s : Scoring) : Prop :=
  ∃ services : List String, NamesFrames services s.perFrame ∧
    ∀ k m, s.collections.count k m = tally inDomain services s.perFrame k m

theorem tally_append {inDomain services : List String}
    {perFrame : List (String × List (String × Score))} (hlen : services.length = perFrame.length)
    (service id : String) (metrics : List (String × Score)) (k m : String) :
    tally inDomain (services ++ [service]) (perFrame ++ [(id, metrics)]) k m =
      tally inDomain services perFrame k m +
        (frameKeys inDomain service).count k * valuesFor metrics m := by
  simp [tally, List.zip_append hlen]

theorem empty_tallied (inDomain : List String) : Tallied inDomain {} :=
  ⟨[], ⟨rfl, by simp⟩, fun _ _ => rfl⟩

theorem Tallied.addFrame {inDomain : List String} {s : Scoring} (hs : Tallied inDomain s)
    (service d : String) (t : Nat) (metrics : List (String × Score)) (pt : Collection Float) :
    Tallied inDomain
      { collections :=
          (collectScores false (frameKeys inDomain service) metrics (s.collections, pt)).1,
        perFrame := s.perFrame ++ [(d ++ "-" ++ turnNumber t ++ "-" ++ service, metrics)] } := by
  obtain ⟨services, ⟨hlen, hnames⟩, hcount⟩ := hs
  refine ⟨services ++ [service], ⟨by simp [hlen], fun p hp => ?_⟩, fun k m => ?_⟩
  · rw [List.zip_append hlen, List.mem_append] at hp
    rcases hp with hp | hp
    · exact hnames p hp
    · exact ⟨d, t, by simp [List.mem_singleton.1 hp]⟩
  · rw [tally_append hlen, ← hcount, (collectScores_count metrics k m pt _ _).2]

section Steps

variable {schemas : List (String × Data)} {inDomain : List String} {dialId : String}
  {s s' : Scoring}

theorem scoreFrame_tallied {turnId : Nat} {utterance : Data} {byService : List (String × Nat)}
    {perTurn perTurn' : Collection Float} {hyps hyps' : List Data} {frameRef : Data}
    (hs : Tallied inDomain s)
    (h : scoreFrame schemas inDomain false dialId turnId utterance byService (s, perTurn, hyps)
      frameRef = .ok (s', perTurn', hyps')) :
    Tallied inDomain s' ∧ perTurn' = perTurn := by
  unfold scoreFrame at h
  simp only [Except.bind_eq_ok] at h
  obtain ⟨service, -, h⟩ := h
  -- the frame's service has a predicted frame and a schema, or the step fails
  split at h
  · split at h
    · simp only [Except.bind_eq_ok] at h
      obtain ⟨metrics, -, hypService, -, h⟩ := h
      cases h
      exact ⟨hs.addFrame _ dialId turnId metrics perTurn, (collectScores_count metrics "" "" perTurn _ _).1⟩
    · cases h
  · cases h

theorem foldlM_scoreFrame_tallied {turnId : Nat} {utterance : Data}
    {byService : List (String × Nat)} {frames : List Data}
    {acc acc' : Scoring × Collection Float × List Data} (hs : Tallied inDomain acc.1)
    (h : frames.foldlM (scoreFrame schemas inDomain false dialId turnId utterance byService) acc =
      .ok acc') : Tallied inDomain acc'.1 :=
  foldlM_ok_inv (fun acc => Tallied inDomain acc.1)
    (fun ⟨_, _, _⟩ _ ⟨_, _, _⟩ _ hb hstep => (scoreFrame_tallied hb hstep).1) acc acc' hs h

theorem scoreTurn_tallied {turnId : Nat} {tr th d : Data} (hs : Tallied inDomain s)
    (h : scoreTurn schemas inDomain false dialId s turnId tr th = .ok (s', d)) :
    Tallied inDomain s' := by
  unfold scoreTurn at h
  simp only [Except.bind_eq_ok] at h
  obtain ⟨speaker, -, speaker', -, h⟩ := h
  split at h
  · cases h
  -- a system turn is passed over
  split at h
  · cases h
    exact hs
  simp only [Except.bind_eq_ok] at h
  obtain ⟨utterance, -, utterance', -, h⟩ := h
  split at h
  · cases h
  simp only [Except.bind_eq_ok] at h
  obtain ⟨_, -, hypFrames, -, byService, -, _, -, frames, -, acc, hfold, h⟩ := h
  cases h
  exact foldlM_scoreFrame_tallied hs hfold

theorem scoreDialogue_tallied {ref : List (String × Data)} {dialHyp d : Data}
    (hs : Tallied inDomain s)
    (h : scoreDialogue schemas inDomain false ref s dialId dialHyp = .ok (s', d)) :
    Tallied inDomain s' := by
  unfold scoreDialogue at h
  split at h
  swap
  · cases h
  simp only [Except.bind_eq_ok] at h
  obtain ⟨_, -, refServices, -, _, -, hypServices, -, h⟩ := h
  split at h
  · cases h
  simp only [Except.bind_eq_ok] at h
  obtain ⟨_, -, refTurns, -, _, -, hypTurns, -, acc, hfold, h⟩ := h
  cases h
  refine foldlM_ok_inv (fun acc : Scoring × List Data => Tallied inDomain acc.1) ?_ _ acc hs hfold
  rintro ⟨sc, ts⟩ ⟨⟨tr, th⟩, i⟩ ⟨sc', ts'⟩ - hsc hstep
  simp only [Except.bind_eq_ok] at hstep
  obtain ⟨⟨sc'', t⟩, hturn, hpure⟩ := hstep
  cases hpure
  exact scoreTurn_tallied hsc hturn

end Steps

theorem scoreCorpus_tallied {ref hyp schemas : List (String × Data)} {inDomain : List String}
    {r : CorpusScores} (h : scoreCorpus ref hyp schemas inDomain false = .ok r) :
    ∃ s : Scoring, Tallied inDomain s ∧ r.aggregate = aggregate s.collections ∧
      r.perFrame = s.perFrame := by
  unfold scoreCorpus at h
  split at h
  · cases h
  simp only [Except.bind_eq_ok] at h
  obtain ⟨acc, hfold, h⟩ := h
  cases h
  refine ⟨acc.1, ?_, rfl, rfl⟩
  refine foldlM_ok_inv (fun acc : Scoring × List (String × Data) => Tallied inDomain acc.1) ?_ _
    acc (empty_tallied inDomain) hfold
  rintro ⟨sc, ds⟩ ⟨k, d⟩ ⟨sc', ds'⟩ - hsc hstep
  simp only [Except.bind_eq_ok] at hstep
  obtain ⟨⟨sc'', d'⟩, hdial, hpure⟩ := hstep
  cases hpure
  exact scoreDialogue_tallied hsc hdial

/-! ## The keys of a frame -/

/-- The keys that stand for groups of services. -/
def groupKeys : List String := [allServices, seenServices, unseenServices]

section FrameKeys

variable {inDomain : List String} {service : String}
  (hname : service ∉ groupKeys) (hdomain : domainOf service ∉ groupKeys)
include hname hdomain

theorem count_frameKeys_all : (frameKeys inDomain service).count allServices = 1 := by
  simp only [groupKeys, List.mem_cons, List.not_mem_nil, or_false, not_or] at hname hdomain
  by_cases hseen : service ∈ inDomain <;>
    simp [frameKeys, hseen, hname.1, hdomain.1,
      (by decide : seenServices ≠ allServices), (by decide : unseenServices ≠ allServices)]

theorem count_frameKeys_seen_add_unseen :
    (frameKeys inDomain service).count seenServices +
      (frameKeys inDomain service).count unseenServices = 1 := by
  simp only [groupKeys, List.mem_cons, List.not_mem_nil, or_false, not_or] at hname hdomain
  by_cases hseen : service ∈ inDomain <;>
    simp [frameKeys, hseen, hname.2.1, hname.2.2, hdomain.2.1, hdomain.2.2,
      (by decide : allServices ≠ seenServices), (by decide : allServices ≠ unseenServices),
      (by decide : seenServices ≠ unseenServices), (by decide : unseenServices ≠ seenServices)]

omit hname hdomain in
/-- Summed over a set of names that holds the service but neither its domain nor a group key,
the keys of a frame count once. -/
theorem sum_count_frameKeys {names : Finset String} (hmem : service ∈ names)
    (hdom : domainOf service ∉ names) (hgroup : ∀ g ∈ groupKeys, g ∉ names) :
    ∑ s ∈ names, (frameKeys inDomain service).count s = 1 := by
  have hseen : (if inDomain.contains service then seenServices else unseenServices) ∉ names := by
    split <;> exact hgroup _ (by simp [groupKeys])
  simp only [frameKeys, List.count_cons, List.count_nil, beq_iff_eq, zero_add,
    Finset.sum_add_distrib, Finset.sum_ite_eq, hmem, hdom, hseen,
    hgroup allServices (by simp [groupKeys])]
  simp

end FrameKeys

/-! ## Totals -/

section Groups

variable {inDomain services : List String}
  (hsvc : ∀ svc ∈ services, svc ∉ groupKeys ∧ domainOf svc ∉ groupKeys ∧ domainOf svc ∉ services)
include hsvc

theorem tally_all (perFrame : List (String × List (String × Score))) (m : String) :
    tally inDomain services perFrame allServices m =
      ((services.zip perFrame).map fun p => valuesFor p.2.2 m).sum := by
  unfold tally
  congr 1
  refine List.map_congr_left fun p hp => ?_
  obtain ⟨h1, h2, -⟩ := hsvc p.1 (List.of_mem_zip hp).1
  rw [count_frameKeys_all h1 h2, one_mul]

theorem tally_seen_add_unseen (perFrame : List (String × List (String × Score))) (m : String) :
    tally inDomain services perFrame seenServices m +
        tally inDomain services perFrame unseenServices m =
      ((services.zip perFrame).map fun p => valuesFor p.2.2 m).sum := by
  unfold tally
  rw [← List.sum_map_add]
  congr 1
  refine List.map_congr_left fun p hp => ?_
  obtain ⟨h1, h2, -⟩ := hsvc p.1 (List.of_mem_zip hp).1
  rw [← Nat.add_mul, count_frameKeys_seen_add_unseen h1 h2, one_mul]

theorem sum_tally_services (m : String) :
    ∀ pairs : List (String × String × List (String × Score)), (∀ p ∈ pairs, p.1 ∈ services) →
      ∑ s ∈ services.toFinset,
          (pairs.map fun p => (frameKeys inDomain p.1).count s * valuesFor p.2.2 m).sum =
        (pairs.map fun p => valuesFor p.2.2 m).sum
  | [], _ => by simp
  | p :: pairs, hin => by
    obtain ⟨-, -, h3⟩ := hsvc p.1 (hin p List.mem_cons_self)
    have hgroup : ∀ g ∈ groupKeys, g ∉ services.toFinset := fun g hg hmem =>
      (hsvc g (List.mem_toFinset.1 hmem)).1 hg
    simp only [List.map_cons, List.sum_cons, Finset.sum_add_distrib, ← Finset.sum_mul,
      sum_count_frameKeys (List.mem_toFinset.2 (hin p List.mem_cons_self))
        (by simpa using h3) hgroup, one_mul,
      sum_tally_services m pairs fun q hq => hin q (List.mem_cons_of_mem p hq)]

/-- When no service bears a group's name and no domain bears a service's or a group's, every
frame counts once under all services, once under seen or unseen services, and once under its
service. -/
theorem tally_groups (perFrame : List (String × List (String × Score))) (m : String) :
    tally inDomain services perFrame allServices m =
        tally inDomain services perFrame seenServices m +
          tally inDomain services perFrame unseenServices m ∧
      tally inDomain services perFrame allServices m =
        ∑ s ∈ services.toFinset, tally inDomain services perFrame s m := by
  refine ⟨(tally_all hsvc perFrame m).trans (tally_seen_add_unseen hsvc perFrame m).symm,
    (tally_all hsvc perFrame m).trans ?_⟩
  rw [← sum_tally_services hsvc m _ fun p hp => (List.of_mem_zip hp).1]
  rfl

end Groups

/-- A one-turn dialogue about the weather, scored against itself below. -/
def weatherDialogue : Data :=
  .dict [("dialogue_id", .str "1"), ("services", .list [.str "Weather"]),
    ("turns", .list [.dict [("speaker", .str "USER"), ("utterance", .str "Will it rain"),
      ("frames", .list [.dict [("service", .str "Weather"), ("slots", .list []),
        ("actions", .list []), ("state", .dict [("active_intent", .str "GetWeather"),
          ("requested_slots", .list []), ("slot_values", .dict [])])]])]])]

/-- The schema of the weather service, without intents or slots. -/
def weatherSchemas : List (String × Data) :=
  [("Weather", .dict [("service_name", .str "Weather"), ("slots", .list []), ("intents", .list [])])]

end Conversa.Dialogue
