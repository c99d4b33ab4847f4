import ImsiCatcher.Evaluation

/-!
# What the checks read and write of the rule memories

A check of an ARFCN reads and writes the memories at that ARFCN only. An evaluation of
stations with distinct ARFCNs therefore asks each of them as if it were the first, and what
it leaves at an ARFCN is what the checks of this ARFCN leave.
-/

namespace ImsiCatcher

def RuleMemory.AgreeAt (arfcn : ℤ) (m m' : RuleMemory) : Prop :=
  m.oldLac arfcn = m'.oldLac arfcn ∧ m.oldRx arfcn = m'.oldRx arfcn

namespace RuleMemory

theorem AgreeAt.refl (arfcn : ℤ) (m : RuleMemory) : AgreeAt arfcn m m := ⟨rfl, rfl⟩

theorem AgreeAt.symm {arfcn : ℤ} {m m' : RuleMemory} (h : AgreeAt arfcn m m') :
    AgreeAt arfcn m' m := ⟨h.1.symm, h.2.symm⟩

theorem AgreeAt.trans {arfcn : ℤ} {m m' m'' : RuleMemory} (h : AgreeAt arfcn m m')
    (h' : AgreeAt arfcn m' m'') : AgreeAt arfcn m m'' := ⟨h.1.trans h'.1, h.2.trans h'.2⟩

theorem ext_of_agreeAt {m m' : RuleMemory} (h : ∀ arfcn, AgreeAt arfcn m m') : m = m' := by
  cases m
  cases m'
  congr 1
  · exact funext fun arfcn => (h arfcn).1
  · exact funext fun arfcn => (h arfcn).2

end RuleMemory

section
variable {base : RuleBase} {arfcn : ℤ} {stations : List BaseStationInformation}

/-- All rules but two leave the memories alone and do not read them. -/
theorem Rule.check_cases (rule : Rule) (base : RuleBase) (arfcn : ℤ)
    (stations : List BaseStationInformation) :
    (rule ≠ .lacChange ∧ rule ≠ .rxChange ∧ ∃ result : Option RuleResult, ∀ memory,
      rule.check base arfcn stations memory = result.map fun r => (r, memory)) ∨
    rule = .lacChange ∨ rule = .rxChange := by
  cases rule
  case lacChange => exact Or.inr (Or.inl rfl)
  case rxChange => exact Or.inr (Or.inr rfl)
  all_goals refine Or.inl ⟨by decide, by decide, ?_⟩
  case provider | countryMapping | arfcnMapping | lacMapping | uniqueCellID | lacMedian =>
    exact ⟨some _, fun _ => rfl⟩
  all_goals exact ⟨_, fun _ => rfl⟩

theorem Rule.check_other {rule : Rule} {memory : RuleMemory} {r : RuleResult × RuleMemory}
    (h : rule.check base arfcn stations memory = some r) {a : ℤ} (ha : a ≠ arfcn) :
    r.2.AgreeAt a memory := by
  rcases rule.check_cases base arfcn stations with ⟨-, -, result, hresult⟩ | rfl | rfl
  · rw [hresult] at h
    obtain ⟨x, -, rfl⟩ := Option.map_eq_some_iff.1 h
    exact RuleMemory.AgreeAt.refl a memory
  · obtain ⟨item, -, rfl⟩ := Option.map_eq_some_iff.1 h
    exact ⟨Function.update_of_ne ha _ _, rfl⟩
  · obtain ⟨item, -, rfl⟩ := Option.map_eq_some_iff.1 h
    exact ⟨rfl, Function.update_of_ne ha _ _⟩

/-- From memories that agree at the ARFCN a check returns the same, and they still agree. -/
theorem Rule.check_congr {rule : Rule} {m m' : RuleMemory} (hm : m.AgreeAt arfcn m')
    {r : RuleResult × RuleMemory} (h : rule.check base arfcn stations m = some r) :
    ∃ r', rule.check base arfcn stations m' = some r' ∧ r'.1 = r.1 ∧ r.2.AgreeAt arfcn r'.2 := by
  rcases rule.check_cases base arfcn stations with ⟨-, -, result, hresult⟩ | rfl | rfl
  · rw [hresult] at h
    obtain ⟨x, hx, rfl⟩ := Option.map_eq_some_iff.1 h
    exact ⟨(x, m'), by rw [hresult, hx]; rfl, rfl, hm⟩
  · obtain ⟨item, hitem, rfl⟩ := Option.map_eq_some_iff.1 h
    refine ⟨_, by rw [check, lacChangeRule, hitem]; rfl, by rw [hm.1], ?_⟩
    exact ⟨by simp [hm.1], hm.2⟩
  · obtain ⟨item, hitem, rfl⟩ := Option.map_eq_some_iff.1 h
    refine ⟨_, by rw [check, rxChangeRule, hitem]; rfl, by rw [hm.2], ?_⟩
    exact ⟨hm.1, by simp [hm.2]⟩

theorem checkAll_other {rules : List Rule} {memory : RuleMemory} {r : RuleResults × RuleMemory}
    (h : checkAll base stations arfcn rules memory = some r) {a : ℤ} (ha : a ≠ arfcn) :
    r.2.AgreeAt a memory := by
  induction rules generalizing memory r with
  | nil =>
    rw [checkAll, Option.some_inj] at h
    rw [← h]
    exact RuleMemory.AgreeAt.refl a memory
  | cons rule rest ih =>
    rcases checkAll_cons_cases h with ⟨-, checked, r', hchecked, hr', rfl⟩ | ⟨-, h⟩
    · exact (ih hr').trans (Rule.check_other hchecked ha)
    · exact ih h

theorem checkAll_congr {rules : List Rule} {m m' : RuleMemory} (hm : m.AgreeAt arfcn m')
    {r : RuleResults × RuleMemory} (h : checkAll base stations arfcn rules m = some r) :
    ∃ r', checkAll base stations arfcn rules m' = some r' ∧ r'.1 = r.1 ∧
      r.2.AgreeAt arfcn r'.2 := by
  induction rules generalizing m m' r with
  | nil =>
    rw [checkAll, Option.some_inj] at h
    rw [← h]
    exact ⟨_, rfl, rfl, hm⟩
  | cons rule rest ih =>
    rw [checkAll]
    rcases checkAll_cons_cases h with ⟨hactive, checked, r₁, hchecked, hr₁, rfl⟩ | ⟨hactive, h⟩
    · rw [if_pos hactive]
      obtain ⟨checked', hchecked', hresult, hagree⟩ := Rule.check_congr hm hchecked
      obtain ⟨r₂, hr₂, hresults, hagree'⟩ := ih hagree hr₁
      refine ⟨((rule.identifier, checked'.1) :: r₂.1, r₂.2), ?_, ?_, hagree'⟩
      · rw [hchecked', Option.bind_some, hr₂, Option.map_some]
      · rw [hresult, hresults]
    · rw [if_neg hactive]
      exact ih hm h

end

section
variable (base : RuleBase) (stations : List BaseStationInformation) (memory : RuleMemory)

/-- What the checks of an ARFCN return and leave, where it is the only one to be asked. -/
def checkedAt (arfcn : ℤ) : Option (RuleResults × RuleMemory) :=
  checkAll base stations arfcn controllerRules memory

def reportAt (arfcn : ℤ) : RuleResults :=
  ((checkedAt base stations memory arfcn).map (·.1)).getD []

def leftAt (arfcn : ℤ) : RuleMemory :=
  ((checkedAt base stations memory arfcn).map (·.2)).getD memory

def memoryAfter (arfcns : List ℤ) : RuleMemory where
  oldLac a := if a ∈ arfcns then (leftAt base stations memory a).oldLac a else memory.oldLac a
  oldRx a := if a ∈ arfcns then (leftAt base stations memory a).oldRx a else memory.oldRx a

end

section
variable {base : RuleBase} {evaluator : Evaluator} {order : DictOrder}
  {stations : List BaseStationInformation} {memory : RuleMemory}

theorem memoryAfter_of_mem {arfcns : List ℤ} {a : ℤ} (ha : a ∈ arfcns) :
    (memoryAfter base stations memory arfcns).AgreeAt a (leftAt base stations memory a) :=
  ⟨if_pos ha, if_pos ha⟩

theorem memoryAfter_of_notMem {arfcns : List ℤ} {a : ℤ} (ha : a ∉ arfcns) :
    (memoryAfter base stations memory arfcns).AgreeAt a memory :=
  ⟨if_neg ha, if_neg ha⟩

theorem checkedAt_congr {m : RuleMemory} {arfcn : ℤ} (hm : m.AgreeAt arfcn memory) :
    (checkedAt base stations m arfcn = none ∧ checkedAt base stations memory arfcn = none) ∨
    ∃ r r', checkedAt base stations m arfcn = some r ∧
      checkedAt base stations memory arfcn = some r' ∧ r'.1 = r.1 ∧ r.2.AgreeAt arfcn r'.2 := by
  cases h : checkedAt base stations m arfcn with
  | some r =>
    obtain ⟨r', hr', hresults, hagree⟩ := checkAll_congr hm h
    exact Or.inr ⟨r, r', rfl, hr', hresults, hagree⟩
  | none =>
    cases h' : checkedAt base stations memory arfcn with
    | none => exact Or.inl ⟨rfl, rfl⟩
    | some r' =>
      obtain ⟨r, hr, -⟩ := checkAll_congr hm.symm h'
      rw [checkedAt, hr] at h
      exact absurd h (by simp)

/-- The loop over stations whose memories are still what they were at the beginning. -/
theorem evaluateLoop_eq {rest : List BaseStationInformation} {m : RuleMemory}
    (hnodup : (rest.map (·.arfcn)).Nodup) (hm : ∀ a ∈ rest.map (·.arfcn), m.AgreeAt a memory) :
    (evaluateLoop base evaluator order stations rest m = none ∧
      ∃ s ∈ rest, checkedAt base stations memory s.arfcn = none) ∨
    ((∀ s ∈ rest, (checkedAt base stations memory s.arfcn).isSome) ∧
      ∃ m', evaluateLoop base evaluator order stations rest m =
          some (rest.map fun s =>
            assess base evaluator order s (reportAt base stations memory s.arfcn), m') ∧
        ∀ a, m'.AgreeAt a (if a ∈ rest.map (·.arfcn) then leftAt base stations memory a else m)) := by
  induction rest generalizing m with
  | nil => exact Or.inr ⟨by simp, m, rfl, fun a => by simp [RuleMemory.AgreeAt.refl]⟩
  | cons station rest ih =>
    rw [List.map_cons, List.nodup_cons] at hnodup
    have hcases := @checkedAt_congr base stations memory m _ (hm station.arfcn List.mem_cons_self)
    rcases hcases with ⟨hnone, hnone'⟩ | ⟨r, r', hr, hr', hresults, hagree⟩
    · refine Or.inl ⟨?_, station, List.mem_cons_self, hnone'⟩
      rw [checkedAt] at hnone
      rw [evaluateLoop, hnone, Option.bind_none]
    have hne : ∀ a ∈ rest.map (·.arfcn), a ≠ station.arfcn := fun a ha heq => hnodup.1 (heq ▸ ha)
    have hrest : ∀ a ∈ rest.map (·.arfcn), r.2.AgreeAt a memory := fun a ha =>
      (checkAll_other hr (hne a ha)).trans (hm a (List.mem_cons_of_mem _ ha))
    have hstep : evaluateLoop base evaluator order stations (station :: rest) m =
        (evaluateLoop base evaluator order stations rest r.2).map fun q =>
          (assess base evaluator order station r.1 :: q.1, q.2) := by
      rw [checkedAt] at hr
      rw [evaluateLoop, hr, Option.bind_some]
    rcases ih hnodup.2 hrest with ⟨hnone, s, hs, hsnone⟩ | ⟨hsome, m', hloop, hm'⟩
    · exact Or.inl ⟨by rw [hstep, hnone, Option.map_none], s, List.mem_cons_of_mem _ hs, hsnone⟩
    refine Or.inr ⟨?_, m', ?_, ?_⟩
    · intro s hs
      rcases List.mem_cons.1 hs with rfl | hs
      · rw [hr', Option.isSome_some]
      · exact hsome s hs
    · rw [hstep, hloop, Option.map_some, List.map_cons, reportAt, hr', Option.map_some,
        Option.getD_some, hresults]
    · intro a
      by_cases ha : a = station.arfcn
      · have hnot : a ∉ rest.map (·.arfcn) := fun h => hne a h ha
        have h := hm' a
        rw [if_neg hnot] at h
        rw [List.map_cons, if_pos (ha ▸ List.mem_cons_self), leftAt, ha, hr', Option.map_some,
          Option.getD_some]
        exact (ha ▸ h).trans hagree
      · have hcons : a ∈ (station :: rest).map (·.arfcn) ↔ a ∈ rest.map (·.arfcn) := by
          rw [List.map_cons, List.mem_cons, or_iff_right ha]
        have h := hm' a
        by_cases hmem : a ∈ rest.map (·.arfcn)
        · rw [if_pos hmem] at h
          rw [if_pos (hcons.2 hmem)]
          exact h
        · rw [if_neg hmem] at h
          rw [if_neg (hmem ∘ hcons.1)]
          exact h.trans (checkAll_other hr ha)

/-- An evaluation asks each ARFCN as if it were the only one. -/
theorem evaluate_eq (hnodup : (stations.map (·.arfcn)).Nodup) :
    evaluate base evaluator order stations memory =
      if ∀ s ∈ stations, (checkedAt base stations memory s.arfcn).isSome then
        some (stations.map fun s =>
          assess base evaluator order s (reportAt base stations memory s.arfcn),
          memoryAfter base stations memory (stations.map (·.arfcn)))
      else none := by
  rcases evaluateLoop_eq hnodup (fun a _ => RuleMemory.AgreeAt.refl a memory) with
    ⟨hnone, s, hs, hsnone⟩ | ⟨hsome, m', hloop, hm'⟩
  · rw [if_neg]
    · exact hnone
    · intro h
      have := h s hs
      rw [hsnone] at this
      exact absurd this (by decide)
  · have hmem : m' = memoryAfter base stations memory (stations.map (·.arfcn)) := by
      apply RuleMemory.ext_of_agreeAt
      intro a
      have h := hm' a
      by_cases ha : a ∈ stations.map (·.arfcn)
      · rw [if_pos ha] at h
        exact h.trans (memoryAfter_of_mem ha).symm
      · rw [if_neg ha] at h
        exact h.trans (memoryAfter_of_notMem ha).symm
    rw [if_pos hsome, ← hmem]
    exact hloop

/-- What an evaluation shows of an ARFCN, and what it leaves there. -/
theorem evaluate_at (hnodup : (stations.map (·.arfcn)).Nodup) {r : List Assessed × RuleMemory}
    (h : evaluate base evaluator order stations memory = some r) (arfcn : ℤ) :
    (recordOf arfcn stations = none ∧ (r.1.find? fun item => item.station.arfcn = arfcn) = none ∧
      r.2.AgreeAt arfcn memory) ∨
    ∃ item c, recordOf arfcn stations = some item ∧
      checkedAt base stations memory arfcn = some c ∧
      (r.1.find? fun item => item.station.arfcn = arfcn) =
        some (assess base evaluator order item c.1) ∧ r.2.AgreeAt arfcn c.2 := by
  rw [evaluate_eq hnodup] at h
  by_cases hall : ∀ s ∈ stations, (checkedAt base stations memory s.arfcn).isSome
  swap
  · rw [if_neg hall] at h
    exact absurd h (by simp)
  rw [if_pos hall, Option.some_inj] at h
  subst h
  have hfind : (stations.map fun s => assess base evaluator order s
      (reportAt base stations memory s.arfcn)).find? (fun item => item.station.arfcn = arfcn) =
        (recordOf arfcn stations).map fun s => assess base evaluator order s
          (reportAt base stations memory s.arfcn) := by
    rw [List.find?_map]
    rfl
  cases hitem : recordOf arfcn stations with
  | none =>
    rw [hitem, Option.map_none] at hfind
    exact Or.inl ⟨rfl, hfind, memoryAfter_of_notMem (recordOf_eq_none.1 hitem)⟩
  | some item =>
    obtain ⟨hmem, harfcn⟩ := (recordOf_eq_some hnodup).1 hitem
    obtain ⟨c, hc⟩ := Option.isSome_iff_exists.1 (hall item hmem)
    rw [harfcn] at hc
    rw [hitem, Option.map_some, harfcn, reportAt, hc, Option.map_some, Option.getD_some] at hfind
    refine Or.inr ⟨item, c, rfl, hc, hfind, ?_⟩
    have hlisted : arfcn ∈ stations.map (·.arfcn) := harfcn ▸ List.mem_map_of_mem hmem
    have hleft := @memoryAfter_of_mem base stations memory _ _ hlisted
    rw [leftAt, hc, Option.map_some, Option.getD_some] at hleft
    exact hleft

/-- The rules and the evaluator give the controller a verdict for each ARFCN. -/
theorem evaluate_controller {c : Controller} (hnodup : (c.stations.map (·.arfcn)).Nodup)
    {r : List Assessed × RuleMemory}
    (h : evaluate base evaluator order c.stations memory = some r) :
    ∃ verdict, r.1.map (·.station) = (c.evaluate verdict).stations := by
  rw [evaluate_eq hnodup] at h
  by_cases hall : ∀ s ∈ c.stations, (checkedAt base c.stations memory s.arfcn).isSome
  · rw [if_pos hall, Option.some_inj] at h
    refine ⟨fun arfcn =>
      (evaluator.evaluate base.settings order (reportAt base c.stations memory arfcn)).1, ?_⟩
    rw [← h, List.map_map]
    rfl
  · rw [if_neg hall] at h
    exact absurd h (by simp)

end
end ImsiCatcher
