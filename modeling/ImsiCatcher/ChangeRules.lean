import ImsiCatcher.Machine
import ImsiCatcher.RuleMemories
import ImsiCatcher.SightingList
import Mathlib.Data.List.Chain

/-!
# The change rules over a session

Sightings and evaluations come in any order, and each evaluation has its own choice of
active rules. What a change rule remembers of an ARFCN is the result it returned last, the
number of sightings at that time, and a value to compare with; for the LAC change rule the
value is the LAC of its first check.
-/

namespace ImsiCatcher
namespace Rule

/-- The two rules that remember. -/
def IsChange (rule : Rule) : Prop := rule = lacChange ∨ rule = rxChange

def remembered (rule : Rule) (memory : RuleMemory) (arfcn : ℤ) : Option Remembered :=
  if rule = lacChange then memory.oldLac arfcn else memory.oldRx arfcn

def change (rule : Rule) (settings : RuleSettings) (item : BaseStationInformation) :
    Option Remembered → Remembered :=
  if rule = lacChange then ImsiCatcher.lacChange item else ImsiCatcher.rxChange settings item

end Rule

section
variable {base : RuleBase} {arfcn : ℤ} {stations : List BaseStationInformation}
  {item : BaseStationInformation}

theorem RuleMemory.AgreeAt.remembered {m m' : RuleMemory} (h : m.AgreeAt arfcn m') (rule : Rule) :
    rule.remembered m arfcn = rule.remembered m' arfcn := by
  rw [Rule.remembered, Rule.remembered, h.1, h.2]

/-- Of a listed ARFCN every rule returns a result, if the share of discovered neighbours is
not asked for. -/
theorem Rule.check_isSome (hitem : recordOf arfcn stations = some item)
    (hthreshold : base.settings.neighboursThreshold < 0) (rule : Rule) (memory : RuleMemory) :
    (rule.check base arfcn stations memory).isSome := by
  have hneighbours : extractNeighbours arfcn stations = some item.neighbours := by
    rw [extractNeighbours, hitem, Option.map_some]
  cases rule with
  | provider | countryMapping | arfcnMapping | lacMapping | uniqueCellID | lacMedian => rfl
  | neighbourhoodStructure =>
    rw [check, Option.isSome_map, neighbourhoodStructureRule, hneighbours]
    dsimp only
    split_ifs <;> rfl
  | pureNeighbourhood =>
    rw [check, Option.isSome_map, pureNeighbourhoodRule, hneighbours]
    dsimp only
    split_ifs <;> rfl
  | discoveredNeighbours =>
    rw [check, Option.isSome_map, discoveredNeighboursRule, hneighbours]
    dsimp only
    rw [if_pos hthreshold]
    rfl
  | cellIDDatabase =>
    rw [check, Option.isSome_map, cellIDDatabaseRule, Option.isSome_map]
    exact Option.isSome_of_eq_some hitem
  | locationAreaDatabase =>
    rw [check, Option.isSome_map]
    cases base.database with
    | none => rfl
    | some cache => rw [locationAreaDatabaseRule, hitem, Option.map_some, Option.isSome_some]
  | lacChange => rw [check, lacChangeRule, hitem, Option.map_some, Option.isSome_some]
  | rxChange => rw [check, rxChangeRule, hitem, Option.map_some, Option.isSome_some]
  | pch => rw [check, pchRule, hitem, Option.map_some, Option.map_some, Option.isSome_some]

theorem Rule.check_change {rule : Rule} (hrule : rule.IsChange)
    (hitem : recordOf arfcn stations = some item) (memory : RuleMemory) :
    ∃ after, rule.check base arfcn stations memory =
        some ((rule.change base.settings item (rule.remembered memory arfcn)).result, after) ∧
      rule.remembered after arfcn =
        some (rule.change base.settings item (rule.remembered memory arfcn)) := by
  rcases hrule with rfl | rfl
  · refine ⟨_, by rw [check, lacChangeRule, hitem]; rfl, ?_⟩
    exact Function.update_self _ _ _
  · refine ⟨_, by rw [check, rxChangeRule, hitem]; rfl, ?_⟩
    exact Function.update_self _ _ _

theorem Rule.check_of_ne {rule other : Rule} (hrule : rule.IsChange) (hne : other ≠ rule)
    {memory : RuleMemory} {r : RuleResult × RuleMemory}
    (h : other.check base arfcn stations memory = some r) (a : ℤ) :
    rule.remembered r.2 a = rule.remembered memory a := by
  rcases other.check_cases base arfcn stations with ⟨-, -, result, hresult⟩ | rfl | rfl
  · rw [hresult] at h
    obtain ⟨x, -, rfl⟩ := Option.map_eq_some_iff.1 h
    rfl
  · obtain ⟨item, -, rfl⟩ := Option.map_eq_some_iff.1 h
    rcases hrule with rfl | rfl
    · exact absurd rfl hne
    · rfl
  · obtain ⟨item, -, rfl⟩ := Option.map_eq_some_iff.1 h
    rcases hrule with rfl | rfl
    · rfl
    · exact absurd rfl hne

/-- Checks among which a change rule is not leave what it remembers. -/
theorem checkAll_of_notMem {rule : Rule} (hrule : rule.IsChange) {rules : List Rule}
    (hnot : base.active rule = true → rule ∉ rules) {memory : RuleMemory}
    {r : RuleResults × RuleMemory} (h : checkAll base stations arfcn rules memory = some r) :
    r.1.lookup rule.identifier = none ∧
      rule.remembered r.2 arfcn = rule.remembered memory arfcn := by
  induction rules generalizing memory r with
  | nil =>
    rw [checkAll, Option.some_inj] at h
    subst h
    exact ⟨rfl, rfl⟩
  | cons other rest ih =>
    have hrest : base.active rule = true → rule ∉ rest := fun hactive hmem =>
      hnot hactive (List.mem_cons_of_mem _ hmem)
    rcases checkAll_cons_cases h with ⟨hactive, checked, r', hchecked, hr', rfl⟩ | ⟨-, h⟩
    · have hne : other ≠ rule := fun heq => hnot (heq ▸ hactive) (heq ▸ List.mem_cons_self)
      have hid : (rule.identifier == other.identifier) = false :=
        beq_false_of_ne fun heq => hne (Rule.identifier_injective heq).symm
      obtain ⟨hlookup, hmemory⟩ := ih hrest hr'
      rw [List.lookup_cons, hid]
      exact ⟨hlookup, hmemory.trans (Rule.check_of_ne hrule hne hchecked arfcn)⟩
    · exact ih hrest h

/-- What the checks of an ARFCN return and leave where an active change rule is among them. -/
theorem checkAll_change {rule : Rule} (hrule : rule.IsChange) (hactive : base.active rule = true)
    (hitem : recordOf arfcn stations = some item) {rules : List Rule} (hmem : rule ∈ rules)
    (hnodup : rules.Nodup) {memory : RuleMemory} {r : RuleResults × RuleMemory}
    (h : checkAll base stations arfcn rules memory = some r) :
    r.1.lookup rule.identifier =
        some (rule.change base.settings item (rule.remembered memory arfcn)).result ∧
      rule.remembered r.2 arfcn =
        some (rule.change base.settings item (rule.remembered memory arfcn)) := by
  induction rules generalizing memory r with
  | nil => exact absurd hmem List.not_mem_nil
  | cons other rest ih =>
    rw [List.nodup_cons] at hnodup
    rcases checkAll_cons_cases h with ⟨-, checked, r', hchecked, hr', rfl⟩ | ⟨hother, h⟩
    · by_cases heq : other = rule
      · subst heq
        obtain ⟨after, hafter, hremembered⟩ := Rule.check_change hrule hitem memory
        obtain rfl := Option.some_inj.1 (hafter.symm.trans hchecked)
        rw [List.lookup_cons_self]
        exact ⟨rfl, (checkAll_of_notMem hrule (fun _ => hnodup.1) hr').2.trans hremembered⟩
      have hrest : rule ∈ rest := (List.mem_cons.1 hmem).resolve_left (Ne.symm heq)
      have hid : (rule.identifier == other.identifier) = false :=
        beq_false_of_ne fun h => heq (Rule.identifier_injective h).symm
      have hkeep := Rule.check_of_ne hrule heq hchecked arfcn
      rw [List.lookup_cons, hid, ← hkeep]
      exact ih hrest hnodup.2 hr'
    · have heq : rule ≠ other := fun heq => hother (heq ▸ hactive)
      exact ih ((List.mem_cons.1 hmem).resolve_left heq) hnodup.2 h

theorem checkAll_isSome (hitem : recordOf arfcn stations = some item)
    (hthreshold : base.settings.neighboursThreshold < 0) (rules : List Rule)
    (memory : RuleMemory) : (checkAll base stations arfcn rules memory).isSome := by
  induction rules generalizing memory with
  | nil => rfl
  | cons rule rest ih =>
    rw [checkAll]
    by_cases hactive : base.active rule = true
    · obtain ⟨checked, hchecked⟩ :=
        Option.isSome_iff_exists.1 (Rule.check_isSome hitem hthreshold rule memory)
      rw [if_pos hactive, hchecked, Option.bind_some, Option.isSome_map]
      exact ih checked.2
    · rw [if_neg hactive]
      exact ih memory

theorem evaluate_isSome (hnodup : (stations.map (·.arfcn)).Nodup)
    (hthreshold : base.settings.neighboursThreshold < 0) (evaluator : Evaluator)
    (order : DictOrder) (memory : RuleMemory) :
    (evaluate base evaluator order stations memory).isSome := by
  rw [evaluate_eq hnodup, if_pos, Option.isSome_some]
  intro s hs
  exact checkAll_isSome (recordOf_of_mem hnodup hs) hthreshold _ memory

/-- Nothing new was sighted and the result stays, or the record was sighted again and is
compared. -/
theorem Rule.change_cases {rule : Rule} (hrule : rule.IsChange) (settings : RuleSettings)
    {value : ℤ} {n : ℕ} {result : RuleResult} (hpos : 1 ≤ n) (hle : n ≤ item.timesScanned) :
    (n = item.timesScanned ∧
      rule.change settings item (some ⟨value, n, result⟩) = ⟨value, n, result⟩) ∨
    (n < item.timesScanned ∧ ∃ value' result',
      rule.change settings item (some ⟨value, n, result⟩) = ⟨value', item.timesScanned, result'⟩ ∧
        (rule = .lacChange → value' = value ∧ (result' = .ok ↔ item.lac = value))) := by
  rcases Nat.lt_or_ge n item.timesScanned with hlt | hge
  · right
    refine ⟨hlt, ?_⟩
    have hscan : 1 < item.timesScanned ∧ n < item.timesScanned := ⟨by omega, hlt⟩
    rcases hrule with rfl | rfl
    · by_cases hlac : item.lac = value
      · refine ⟨item.lac, .ok, ?_, fun _ => ⟨hlac, by simp [hlac]⟩⟩
        simp [change, ImsiCatcher.lacChange, changeRule, hscan, hlac]
      · refine ⟨value, .critical, ?_, fun _ => ⟨rfl, by simp [hlac]⟩⟩
        simp [change, ImsiCatcher.lacChange, changeRule, hscan, hlac]
    · refine ⟨item.rxlev, if (value : ℚ) - |value * settings.chRxThreshold| ≤ item.rxlev ∧
        (item.rxlev : ℚ) ≤ value + |value * settings.chRxThreshold| then .ok else .critical, ?_,
        fun h => absurd h (by decide)⟩
      simp only [change, ImsiCatcher.rxChange, changeRule, hscan, and_self, if_true,
        decide_eq_true_eq, reduceCtorEq, if_false]
      split_ifs <;> rfl
  · left
    have heq : n = item.timesScanned := by omega
    refine ⟨heq, ?_⟩
    have hscan : ¬ (1 < item.timesScanned ∧ n < item.timesScanned) := by omega
    rcases hrule with rfl | rfl
    · simp [change, ImsiCatcher.lacChange, changeRule, hscan]
    · simp [change, ImsiCatcher.rxChange, changeRule, hscan]

end

/-- An evaluation as it is shown, with the sightings that went before. -/
structure Shown where
  assessed : List Assessed
  sighted : List ParsedStation

/-- The stations and the memories of a session; no operation reads the sightings. -/
structure Watch where
  stations : List BaseStationInformation := []
  memory : RuleMemory := {}
  sighted : List ParsedStation := []

inductive WatchEvent where
  | sighting (p : ParsedStation)
  | evaluation (database : Option (List LACDBEntry)) (active : Rule → Bool)
      (evaluator : Evaluator) (order : DictOrder)

def Watch.step (s : Watch) : WatchEvent → Watch × List Shown
  | .sighting p =>
    ({ s with stations := addStation s.stations p.station, sighted := s.sighted ++ [p] }, [])
  | .evaluation database active evaluator order =>
    match evaluate { database := database, active := active } evaluator order s.stations s.memory with
    | none => (s, [])
    | some r => ({ s with stations := r.1.map (·.station), memory := r.2 }, [⟨r.1, s.sighted⟩])

def watching : Machine Watch WatchEvent Shown := ⟨Watch.step⟩

/-- With the settings as they are no evaluation raises an exception. -/
theorem step_evaluation {s : Watch} (hnodup : (s.stations.map (·.arfcn)).Nodup)
    (database : Option (List LACDBEntry)) (active : Rule → Bool) (evaluator : Evaluator)
    (order : DictOrder) :
    ∃ r, evaluate { database := database, active := active } evaluator order s.stations s.memory =
        some r ∧
      watching.step s (.evaluation database active evaluator order) =
        ({ s with stations := r.1.map (·.station), memory := r.2 }, [⟨r.1, s.sighted⟩]) := by
  have hthreshold : ({} : RuleSettings).neighboursThreshold < 0 := by decide
  have hsome := @evaluate_isSome { database := database, active := active } s.stations hnodup
    hthreshold evaluator order s.memory
  obtain ⟨r, hr⟩ := Option.isSome_iff_exists.1 hsome
  refine ⟨r, hr, ?_⟩
  simp only [watching, Watch.step, hr]

/-- One check of an ARFCN: the LAC it shows, its sightings so far, and the result. -/
structure Judged where
  lac : ℤ
  sightings : ℕ
  result : RuleResult
  deriving DecidableEq

def Shown.judged (rule : Rule) (arfcn : ℤ) (shown : Shown) : Option Judged :=
  (shown.assessed.find? fun item => item.station.arfcn = arfcn).bind fun item =>
    (item.rulesReport.lookup rule.identifier).map fun result =>
      ⟨item.station.lac, (sightingsOf shown.sighted arfcn).length, result⟩

def judged (rule : Rule) (arfcn : ℤ) (history : List Shown) : List Judged :=
  history.filterMap (·.judged rule arfcn)

def Judged.Follows (rule : Rule) (first last j : Judged) : Prop :=
  last.sightings ≤ j.sightings ∧ (last.sightings = j.sightings → j.result = last.result) ∧
    (rule = .lacChange → last.sightings < j.sightings → (j.result = .ok ↔ j.lac = first.lac))

structure Counted (arfcn : ℤ) (s : Watch) : Prop where
  nodup : (s.stations.map (·.arfcn)).Nodup
  listed : ∀ item, recordOf arfcn s.stations = some item →
    item.timesScanned = (sightingsOf s.sighted arfcn).length ∧ 1 ≤ item.timesScanned
  unlisted : recordOf arfcn s.stations = none → sightingsOf s.sighted arfcn = []

structure Recalls (rule : Rule) (arfcn : ℤ) (s : Watch) (history : List Shown) : Prop where
  fresh : judged rule arfcn history = [] → rule.remembered s.memory arfcn = none
  kept : ∀ first ∈ (judged rule arfcn history).head?,
    ∀ last ∈ (judged rule arfcn history).getLast?,
      last.sightings ≤ (sightingsOf s.sighted arfcn).length ∧ 1 ≤ last.sightings ∧
      ∃ value, rule.remembered s.memory arfcn = some ⟨value, last.sightings, last.result⟩ ∧
        (rule = .lacChange → value = first.lac)
  sound : ∀ first ∈ (judged rule arfcn history).head?, first.result = .ignore ∧
    (judged rule arfcn history).IsChain (Judged.Follows rule first)

theorem recordOf_map {f : BaseStationInformation → BaseStationInformation}
    (hf : ∀ s, (f s).arfcn = s.arfcn) (arfcn : ℤ) (stations : List BaseStationInformation) :
    recordOf arfcn (stations.map f) = (recordOf arfcn stations).map f := by
  rw [recordOf, List.find?_map, recordOf]
  congr 2
  funext s
  rw [Function.comp_apply, hf]

theorem counted_sighting {arfcn : ℤ} {s : Watch} (h : Counted arfcn s) (p : ParsedStation) :
    Counted arfcn { s with
      stations := addStation s.stations p.station
      sighted := s.sighted ++ [p] } := by
  refine ⟨nodup_addStation h.nodup p.station, ?_, ?_⟩
  · intro item hitem
    dsimp only at hitem ⊢
    rw [recordOf_addStation] at hitem
    rw [sightingsOf_concat]
    by_cases hp : p.station.arfcn = arfcn
    · rw [if_pos hp, Option.some_inj] at hitem
      rw [if_pos hp, List.length_append, List.length_singleton]
      cases hrecord : recordOf arfcn s.stations with
      | none =>
        rw [hrecord] at hitem
        subst hitem
        rw [h.unlisted hrecord]
        exact ⟨p.timesScanned, p.timesScanned.ge⟩
      | some old =>
        rw [hrecord] at hitem
        subst hitem
        exact ⟨congrArg (· + 1) (h.listed old hrecord).1, Nat.le_add_left 1 _⟩
    · rw [if_neg hp] at hitem
      rw [if_neg hp, List.append_nil]
      exact h.listed item hitem
  · intro hnone
    dsimp only at hnone ⊢
    rw [recordOf_addStation] at hnone
    by_cases hp : p.station.arfcn = arfcn
    · rw [if_pos hp] at hnone
      exact absurd hnone (by simp)
    · rw [if_neg hp] at hnone
      rw [sightingsOf_concat, if_neg hp, List.append_nil]
      exact h.unlisted hnone

theorem counted_evaluation {base : RuleBase} {evaluator : Evaluator} {order : DictOrder}
    {arfcn : ℤ} {s : Watch} (h : Counted arfcn s) {r : List Assessed × RuleMemory}
    (hr : evaluate base evaluator order s.stations s.memory = some r) :
    Counted arfcn { s with stations := r.1.map (·.station), memory := r.2 } := by
  obtain ⟨f, harfcn, htimes, hmap⟩ : ∃ f : BaseStationInformation → BaseStationInformation,
      (∀ station, (f station).arfcn = station.arfcn) ∧
      (∀ station, (f station).timesScanned = station.timesScanned) ∧
      r.1.map (·.station) = s.stations.map f := by
    obtain ⟨verdict, hstations⟩ := evaluate_controller (c := { stations := s.stations }) h.nodup hr
    exact ⟨fun station => { station with evaluation := some (verdict station.arfcn) },
      fun _ => rfl, fun _ => rfl, hstations⟩
  refine ⟨?_, ?_, ?_⟩
  · dsimp only
    rw [hmap, List.map_map, show (·.arfcn) ∘ f = (·.arfcn) from funext harfcn]
    exact h.nodup
  · intro item hitem
    dsimp only at hitem ⊢
    rw [hmap, recordOf_map harfcn] at hitem
    obtain ⟨old, hold, rfl⟩ := Option.map_eq_some_iff.1 hitem
    rw [htimes]
    exact h.listed old hold
  · intro hnone
    dsimp only at hnone ⊢
    rw [hmap, recordOf_map harfcn, Option.map_eq_none_iff] at hnone
    exact h.unlisted hnone

/-- What is to be said where no check is shown and nothing is sighted. -/
theorem Recalls.keep {rule : Rule} {arfcn : ℤ} {s s' : Watch} {history history' : List Shown}
    (h : Recalls rule arfcn s history)
    (hjudged : judged rule arfcn history' = judged rule arfcn history)
    (hremembered : rule.remembered s'.memory arfcn = rule.remembered s.memory arfcn)
    (hsame : s'.sighted = s.sighted) : Recalls rule arfcn s' history' := by
  refine ⟨?_, ?_, ?_⟩
  · rw [hjudged, hremembered]
    exact h.fresh
  · rw [hjudged, hremembered, hsame]
    exact h.kept
  · rw [hjudged]
    exact h.sound

section
variable {rule : Rule} {arfcn : ℤ} {s s' : Watch} {history history' : List Shown}
  {item : BaseStationInformation} {settings : RuleSettings} {new : Remembered}

theorem Recalls.check_first (hrule : rule.IsChange)
    (hcount : item.timesScanned = (sightingsOf s'.sighted arfcn).length)
    (hpos : 1 ≤ item.timesScanned) (hnew : new = rule.change settings item none)
    (hjudged : judged rule arfcn history' = [⟨item.lac, item.timesScanned, new.result⟩])
    (hremembered : rule.remembered s'.memory arfcn = some new) :
    Recalls rule arfcn s' history' := by
  have hfresh : new.result = .ignore ∧ new.timesScanned = item.timesScanned ∧
      (rule = .lacChange → new.value = item.lac) := by
    rw [hnew]
    rcases hrule with rfl | rfl
    · exact ⟨rfl, rfl, fun _ => rfl⟩
    · exact ⟨rfl, rfl, fun h => absurd h (by decide)⟩
  refine ⟨fun h => ?_, ?_, ?_⟩
  · rw [hjudged] at h
    exact absurd h (by simp)
  · intro first hfirst last hlast
    rw [hjudged, List.head?_cons, Option.mem_some_iff] at hfirst
    rw [hjudged, List.getLast?_singleton, Option.mem_some_iff] at hlast
    subst hfirst hlast
    refine ⟨hcount.le, hpos, new.value, ?_, hfresh.2.2⟩
    rw [hremembered, ← hfresh.2.1]
  · intro first hfirst
    rw [hjudged, List.head?_cons, Option.mem_some_iff] at hfirst
    rw [hjudged]
    subst hfirst
    exact ⟨hfresh.1, List.IsChain.singleton _⟩

theorem Recalls.check_again (hrule : rule.IsChange) (h : Recalls rule arfcn s history)
    (hcount : item.timesScanned = (sightingsOf s.sighted arfcn).length)
    (hpos : 1 ≤ item.timesScanned) {last : Judged}
    (hlast : (judged rule arfcn history).getLast? = some last)
    (hnew : new = rule.change settings item (rule.remembered s.memory arfcn))
    (hjudged : judged rule arfcn history' = judged rule arfcn history ++
      [⟨item.lac, item.timesScanned, new.result⟩])
    (hremembered : rule.remembered s'.memory arfcn = some new)
    (hsame : s'.sighted = s.sighted) : Recalls rule arfcn s' history' := by
  have hne : judged rule arfcn history ≠ [] := by
    intro hnil
    rw [hnil] at hlast
    exact absurd hlast (by simp)
  obtain ⟨first, hfirst⟩ := Option.isSome_iff_exists.1 (List.isSome_head?.2 hne)
  obtain ⟨hle, hlow, value, hvalue, hlac⟩ := h.kept first hfirst last hlast
  obtain ⟨hignore, hchain⟩ := h.sound first hfirst
  have hhead : (judged rule arfcn history').head? = some first := by
    rw [hjudged, List.head?_append, hfirst, Option.some_or]
  have htail : (judged rule arfcn history').getLast? =
      some ⟨item.lac, item.timesScanned, new.result⟩ := by
    rw [hjudged, List.getLast?_concat]
  rw [hvalue] at hnew
  rw [← hcount] at hle
  have hstep : new.timesScanned = item.timesScanned ∧
      (rule = .lacChange → new.value = first.lac) ∧
      Judged.Follows rule first last ⟨item.lac, item.timesScanned, new.result⟩ := by
    rcases Rule.change_cases hrule settings hlow hle with ⟨heq, hkeep⟩ | ⟨hlt, v, x, hx, hchange⟩
    · rw [hnew, hkeep]
      exact ⟨heq, hlac, hle, fun _ => rfl, fun _ hlt => absurd heq (Nat.ne_of_lt hlt)⟩
    · rw [hnew, hx]
      refine ⟨rfl, fun h => (hchange h).1.trans (hlac h), hle, fun heq => ?_, fun h _ => ?_⟩
      · exact absurd heq (Nat.ne_of_lt hlt)
      · rw [← hlac h]
        exact (hchange h).2
  refine ⟨fun h => ?_, ?_, ?_⟩
  · rw [h] at hhead
    exact absurd hhead (by simp)
  · intro first' hfirst' last' hlast'
    rw [hhead, Option.mem_some_iff] at hfirst'
    rw [htail, Option.mem_some_iff] at hlast'
    subst hfirst' hlast'
    refine ⟨by rw [hsame, ← hcount], hpos, new.value, ?_, hstep.2.1⟩
    rw [hremembered, ← hstep.1]
  · intro first' hfirst'
    rw [hhead, Option.mem_some_iff] at hfirst'
    subst hfirst'
    refine ⟨hignore, ?_⟩
    rw [hjudged, List.isChain_append]
    refine ⟨hchain, List.IsChain.singleton _, ?_⟩
    intro last' hlast' j hj
    rw [hlast, Option.mem_some_iff] at hlast'
    rw [List.head?_cons, Option.mem_some_iff] at hj
    subst hlast' hj
    exact hstep.2.2

/-- An active rule has checked a listed ARFCN once more. -/
theorem Recalls.check (hrule : rule.IsChange) (hc : Counted arfcn s)
    (h : Recalls rule arfcn s history) (hitem : recordOf arfcn s.stations = some item)
    (hnew : new = rule.change settings item (rule.remembered s.memory arfcn))
    (hjudged : judged rule arfcn history' = judged rule arfcn history ++
      [⟨item.lac, (sightingsOf s.sighted arfcn).length, new.result⟩])
    (hremembered : rule.remembered s'.memory arfcn = some new)
    (hsame : s'.sighted = s.sighted) : Recalls rule arfcn s' history' := by
  obtain ⟨hcount, hpos⟩ := hc.listed item hitem
  rw [← hcount] at hjudged
  cases hlast : (judged rule arfcn history).getLast? with
  | none =>
    have hnil := List.getLast?_eq_none_iff.1 hlast
    rw [h.fresh hnil] at hnew
    rw [hnil, List.nil_append] at hjudged
    exact Recalls.check_first hrule (hsame ▸ hcount) hpos hnew hjudged hremembered
  | some last => exact h.check_again hrule hcount hpos hlast hnew hjudged hremembered hsame

end

theorem judged_append (rule : Rule) (arfcn : ℤ) (history : List Shown) (shown : Shown) :
    judged rule arfcn (history ++ [shown]) =
      judged rule arfcn history ++ (shown.judged rule arfcn).toList := by
  rw [judged, List.filterMap_append, judged]
  cases h : shown.judged rule arfcn <;> simp [h]

theorem recalls_evaluation {rule : Rule} (hrule : rule.IsChange) {base : RuleBase}
    {evaluator : Evaluator} {order : DictOrder} {arfcn : ℤ} {s : Watch} {history : List Shown}
    (hc : Counted arfcn s) (h : Recalls rule arfcn s history) {r : List Assessed × RuleMemory}
    (hr : evaluate base evaluator order s.stations s.memory = some r) :
    Recalls rule arfcn { s with stations := r.1.map (·.station), memory := r.2 }
      (history ++ [⟨r.1, s.sighted⟩]) := by
  rcases evaluate_at hc.nodup hr arfcn with
    ⟨-, hfind, hagree⟩ | ⟨item, c, hitem, hchecked, hfind, hagree⟩
  · apply h.keep
    · rw [judged_append, Shown.judged, hfind, Option.bind_none, Option.toList_none, List.append_nil]
    · exact hagree.remembered rule
    · rfl
  have hjudged : judged rule arfcn (history ++ [⟨r.1, s.sighted⟩]) = judged rule arfcn history ++
      ((c.1.lookup rule.identifier).map fun result => (⟨item.lac,
        (sightingsOf s.sighted arfcn).length, result⟩ : Judged)).toList := by
    rw [judged_append, Shown.judged, hfind, Option.bind_some]
    rfl
  by_cases hactive : base.active rule = true
  · have hmem : rule ∈ controllerRules := by rcases hrule with rfl | rfl <;> decide
    obtain ⟨hlookup, hremembered⟩ :=
      checkAll_change hrule hactive hitem hmem (by decide) hchecked
    rw [hlookup, Option.map_some, Option.toList_some] at hjudged
    exact Recalls.check hrule hc h hitem rfl hjudged
      ((hagree.remembered rule).trans hremembered) rfl
  · obtain ⟨hlookup, hremembered⟩ :=
      checkAll_of_notMem hrule (fun h => absurd h hactive) hchecked
    rw [hlookup, Option.map_none, Option.toList_none, List.append_nil] at hjudged
    exact h.keep hjudged ((hagree.remembered rule).trans hremembered) rfl

theorem recalls_step {rule : Rule} (hrule : rule.IsChange) {arfcn : ℤ} {s : Watch}
    {history : List Shown} (hc : Counted arfcn s) (h : Recalls rule arfcn s history)
    (e : WatchEvent) :
    Recalls rule arfcn (watching.step s e).1 (history ++ (watching.step s e).2) := by
  cases e with
  | sighting p =>
    rw [show (watching.step s (.sighting p)).2 = [] from rfl, List.append_nil]
    refine ⟨h.fresh, ?_, h.sound⟩
    intro first hfirst last hlast
    obtain ⟨hle, hkept⟩ := h.kept first hfirst last hlast
    refine ⟨hle.trans ?_, hkept⟩
    change _ ≤ (sightingsOf (s.sighted ++ [p]) arfcn).length
    rw [sightingsOf_concat, List.length_append]
    exact Nat.le_add_right _ _
  | evaluation database active evaluator order =>
    obtain ⟨r, hr, hstep⟩ := step_evaluation hc.nodup database active evaluator order
    rw [hstep]
    exact recalls_evaluation hrule hc h hr

theorem counted_step {arfcn : ℤ} {s : Watch} (h : Counted arfcn s) (e : WatchEvent) :
    Counted arfcn (watching.step s e).1 := by
  cases e with
  | sighting p => exact counted_sighting h p
  | evaluation database active evaluator order =>
    obtain ⟨r, hr, hstep⟩ := step_evaluation h.nodup database active evaluator order
    rw [hstep]
    exact counted_evaluation h hr

theorem recalls_run {rule : Rule} (hrule : rule.IsChange) (arfcn : ℤ) (es : List WatchEvent) :
    Recalls rule arfcn (watching.run {} es).1 (watching.run {} es).2 := by
  have hinit : Counted arfcn {} ∧ Recalls rule arfcn {} [] :=
    ⟨⟨List.nodup_nil, by simp [recordOf], fun _ => rfl⟩,
      ⟨fun _ => by simp [Rule.remembered], by simp [judged], by simp [judged]⟩⟩
  have hrun := watching.history_run
    (J := fun s history => Counted arfcn s ∧ Recalls rule arfcn s history)
    (fun s history e h => ⟨counted_step h.1 e, recalls_step hrule h.1 h.2 e⟩) hinit es
  exact hrun.2

theorem lacChange_not_laundered (es : List WatchEvent) (arfcn : ℤ) :
    (∀ first ∈ (judged .lacChange arfcn (watching.run {} es).2).head?,
      first.result = .ignore ∧ ∀ before last j after,
        judged .lacChange arfcn (watching.run {} es).2 = before ++ last :: j :: after →
        last.sightings < j.sightings → (j.result = .ok ↔ j.lac = first.lac)) ∧
    ∀ rule : Rule, rule.IsChange → ∀ before last j after,
      judged rule arfcn (watching.run {} es).2 = before ++ last :: j :: after →
      last.sightings = j.sightings → j.result = last.result := by
  have follows : ∀ {rule : Rule}, rule.IsChange → ∀ {first before last j after},
      first ∈ (judged rule arfcn (watching.run {} es).2).head? →
      judged rule arfcn (watching.run {} es).2 = before ++ last :: j :: after →
      Judged.Follows rule first last j := by
    intro rule hrule first before last j after hfirst hsplit
    have hchain := ((recalls_run hrule arfcn es).sound first hfirst).2
    exact List.isChain_iff_forall_rel_of_append_cons_cons.1 hchain hsplit
  refine ⟨?_, ?_⟩
  · intro first hfirst
    refine ⟨((recalls_run (Or.inl rfl) arfcn es).sound first hfirst).1, ?_⟩
    intro before last j after hsplit
    exact (follows (Or.inl rfl) hfirst hsplit).2.2 rfl
  · intro rule hrule before last j after hsplit
    have hne : judged rule arfcn (watching.run {} es).2 ≠ [] := by rw [hsplit]; simp
    obtain ⟨first, hfirst⟩ := Option.isSome_iff_exists.1 (List.isSome_head?.2 hne)
    exact (follows hrule hfirst hsplit).2.1

/-- The LAC leaves its first value, and comes back to it. -/
example :
    let check := WatchEvent.evaluation none (fun rule => rule = .lacChange) .conservative .inserted
    let es := [.sighting cellOne, check, check, .sighting cellTwo, check, .sighting cellTwo, check,
      .sighting cellOne, check]
    (judged .lacChange 20 (watching.run {} es).2).map (·.result) =
      [.ignore, .ignore, .critical, .critical, .ok] := by decide

end ImsiCatcher
