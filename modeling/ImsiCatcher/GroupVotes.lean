import ImsiCatcher.Verdicts

/-!
# The votes of the groups

A group takes the result that most of its rules have, where a tie goes to the more severe
one, and the verdict is the worst result of a group. Where no group has a finding, there is
nothing to vote on and the verdict is `Critical`. A result that is made more severe takes
its vote from one class to another; the third class may win by that.
-/

namespace ImsiCatcher
open RuleResult

theorem lt_ok_iff {result : RuleResult} : result < .ok ↔ result = .ignore := by
  cases result <;> decide

theorem lt_warning_iff {result : RuleResult} :
    result < .warning ↔ result = .ok ∨ result = .ignore := by
  cases result <;> decide

theorem lt_critical_iff {result : RuleResult} : result < .critical ↔ result ≠ .critical := by
  cases result <;> decide

section Groups
variable (groups : List (List Text)) (results : RuleResults)

def groupResult (group : List Text) : RuleResult :=
  evaluateGroupResults (convertToGroupResultList group results)

def HasFinding : Prop :=
  ∃ group ∈ groups, ∃ result ∈ convertToGroupResultList group results, result ≠ .ignore

end Groups

/-! ### One group -/

section Vote
variable {results : List RuleResult} {result : RuleResult}

/-- The result has the majority of the votes, where a tie goes to the more severe one. -/
def WinsVote (results : List RuleResult) : RuleResult → Prop
  | .critical => results.count .ok ≤ results.count .critical ∧
      results.count .warning ≤ results.count .critical ∧ 0 < results.count .critical
  | .warning => results.count .ok ≤ results.count .warning ∧
      results.count .critical < results.count .warning
  | .ok => results.count .critical < results.count .ok ∧
      results.count .warning < results.count .ok
  | .ignore => results.count .ok = 0 ∧ results.count .warning = 0 ∧ results.count .critical = 0

theorem evaluateGroupResults_eq_iff :
    evaluateGroupResults results = result ↔ WinsVote results result := by
  simp only [evaluateGroupResults]
  cases result <;> simp only [WinsVote] <;> split_ifs <;> first
    | exact iff_of_true rfl (by omega)
    | exact iff_of_false (by decide) (by omega)

theorem WinsVote.mem (h : WinsVote results result) (hne : result ≠ .ignore) :
    result ∈ results := by
  cases result with
  | ignore => exact absurd rfl hne
  | ok => exact List.count_pos_iff.1 (Nat.zero_lt_of_lt h.1)
  | warning => exact List.count_pos_iff.1 (Nat.zero_lt_of_lt h.2)
  | critical => exact List.count_pos_iff.1 h.2.2

/-- The result of a group is one of its votes, unless there is none. -/
theorem evaluateGroupResults_mem (h : evaluateGroupResults results ≠ .ignore) :
    evaluateGroupResults results ∈ results :=
  (evaluateGroupResults_eq_iff.1 rfl).mem h

theorem evaluateGroupResults_eq_ignore_iff :
    evaluateGroupResults results = .ignore ↔ ∀ result ∈ results, result = .ignore := by
  rw [evaluateGroupResults_eq_iff, WinsVote, List.count_eq_zero, List.count_eq_zero,
    List.count_eq_zero]
  constructor
  · rintro ⟨hok, hwarning, hcritical⟩ result hresult
    cases result with
    | ignore => rfl
    | ok => exact absurd hresult hok
    | warning => exact absurd hresult hwarning
    | critical => exact absurd hresult hcritical
  · intro h
    exact ⟨fun hok => absurd (h _ hok) (by decide),
      fun hwarning => absurd (h _ hwarning) (by decide),
      fun hcritical => absurd (h _ hcritical) (by decide)⟩

end Vote

theorem mem_of_mem_convert {group : List Text} {results : RuleResults} {result : RuleResult}
    (h : result ∈ convertToGroupResultList group results) : result ∈ results.map (·.2) := by
  obtain ⟨rule, -, hlookup⟩ := List.mem_filterMap.1 h
  obtain ⟨before, after, rfl, -⟩ := List.lookup_eq_some_iff.1 hlookup
  exact List.mem_map.2 ⟨(rule, result), by simp, rfl⟩

/-! ### All groups -/

section Verdict
variable (groups : List (List Text)) (results : RuleResults)

theorem groupEvaluate_eq : (groupEvaluate groups results).1 =
    if worst (groups.map (groupResult results)) = .ignore then .critical
    else worst (groups.map (groupResult results)) := by
  rw [worst_eq]
  unfold groupEvaluate
  extract_lets groupResults criticals warnings oks
  have hresults : groups.map (groupResult results) = groupResults := rfl
  rw [hresults]
  simp only [criticals, warnings, oks, List.count_pos_iff]
  split_ifs <;> first | rfl | contradiction

theorem hasFinding_iff :
    HasFinding groups results ↔ worst (groups.map (groupResult results)) ≠ .ignore := by
  constructor
  · rintro ⟨group, hgroup, result, hresult, hne⟩ hworst
    have hle := le_worst (List.mem_map_of_mem (f := groupResult results) hgroup)
    rw [hworst] at hle
    have hignore : groupResult results group = .ignore := le_bot_iff.1 hle
    exact hne (evaluateGroupResults_eq_ignore_iff.1 hignore result hresult)
  · intro hworst
    obtain ⟨group, hgroup, hresult⟩ := List.mem_map.1 (mem_of_worst hworst)
    have hne : groupResult results group ≠ .ignore := hresult ▸ hworst
    exact ⟨group, hgroup, _, evaluateGroupResults_mem hne, hne⟩

/-- The group evaluator is no more severe than the conservative one just when there is something
to vote on, or a result that the conservative one takes for the worst. -/
theorem groupEvaluate_le_conservative_iff (order : DictOrder) (groups : List (List Text))
    (results : RuleResults) :
    (groupEvaluate groups results).1 ≤ (conservativeEvaluate order results).1 ↔
      HasFinding groups results ∨ .critical ∈ results.map (·.2) := by
  rw [conservativeEvaluate_eq, groupEvaluate_eq]
  by_cases hfinding : HasFinding groups results
  · have hworst := (hasFinding_iff groups results).1 hfinding
    rw [if_neg hworst]
    refine iff_of_true (le_worst (List.mem_cons_of_mem _ ?_)) (Or.inl hfinding)
    obtain ⟨group, -, hresult⟩ := List.mem_map.1 (mem_of_worst hworst)
    rw [← hresult] at hworst ⊢
    exact mem_of_mem_convert (evaluateGroupResults_mem hworst)
  · have hworst := not_not.1 (mt (hasFinding_iff groups results).2 hfinding)
    rw [if_pos hworst, or_iff_right hfinding]
    constructor
    · intro hle
      have htop : worst (.ok :: results.map (·.2)) = .critical := top_le_iff.1 hle
      have hmem : worst (.ok :: results.map (·.2)) ∈ .ok :: results.map (·.2) :=
        mem_of_worst (by rw [htop]; decide)
      rw [htop, List.mem_cons] at hmem
      exact hmem.resolve_left (by decide)
    · intro hmem
      exact le_worst (List.mem_cons_of_mem _ hmem)

end Verdict

/-- Where every rule says `Ignore`, the conservative evaluator stays at `Ok`, and the other one
refuses to evaluate. -/
theorem group_exceeds_conservative : ¬ ∀ (order : DictOrder) (groups : List (List Text))
    (results : RuleResults),
    (groupEvaluate groups results).1 ≤ (conservativeEvaluate order results).1 := by
  intro h
  have hle := h .inserted ({} : RuleSettings).ruleGroups
    [(Rule.pch.identifier, .ignore), (Rule.lacChange.identifier, .ignore)]
  exact absurd hle (by decide +kernel)

/-! ### A result that is made more severe -/

def replaceResult (key : Text) (new : RuleResult) (results : RuleResults) : RuleResults :=
  results.map fun entry => if entry.1 = key then (key, new) else entry

/-- The group loses its majority where a vote goes from `old` to `new`: `Critical` has won, and
the warnings come to outnumber it, or `Warning` has won, and the other votes for `Ok` outnumber
both. -/
def Outvoted (key : Text) (old new : RuleResult) (results : RuleResults) (group : List Text) :
    Prop :=
  let votes := convertToGroupResultList group results
  (old = .ok ∧ new = .warning ∧ groupResult results group = .critical ∧
    votes.count .critical < votes.count .warning + group.count key) ∨
  (old = .warning ∧ new = .critical ∧ groupResult results group = .warning ∧
    votes.count .critical + group.count key < votes.count .ok ∧
    votes.count .warning < votes.count .ok + group.count key)

section Replace
variable {results : RuleResults} {key : Text} {old new : RuleResult}

theorem lookup_replaceResult (results : RuleResults) (key : Text) (new : RuleResult)
    (rule : Text) : (replaceResult key new results).lookup rule =
      if rule = key then (results.lookup rule).map fun _ => new else results.lookup rule := by
  induction results with
  | nil => simp [replaceResult]
  | cons entry rest ih =>
    obtain ⟨name, result⟩ := entry
    rw [replaceResult] at ih
    rw [replaceResult, List.map_cons, List.lookup_cons]
    by_cases hname : name = key
    · subst hname
      rw [if_pos rfl, List.lookup_cons, ih]
      by_cases hrule : rule = name
      · simp [hrule]
      · have hbeq : (rule == name) = false := beq_eq_false_iff_ne.2 hrule
        rw [if_neg hrule, if_neg hrule, hbeq]
    · rw [if_neg hname, List.lookup_cons, ih]
      by_cases hrule : rule = name
      · simp [hrule, hname]
      · have hbeq : (rule == name) = false := beq_eq_false_iff_ne.2 hrule
        rw [hbeq]

/-- The votes of the key go over from one result to the other. -/
theorem count_replaceResult (h : results.lookup key = some old) (hne : old ≠ new)
    (group : List Text) (result : RuleResult) :
    (convertToGroupResultList group (replaceResult key new results)).count result +
        (if result = old then group.count key else 0) =
      (convertToGroupResultList group results).count result +
        if result = new then group.count key else 0 := by
  induction group with
  | nil => simp [convertToGroupResultList]
  | cons rule rest ih =>
    rw [convertToGroupResultList, convertToGroupResultList] at ih ⊢
    rw [List.filterMap_cons, List.filterMap_cons, lookup_replaceResult]
    by_cases hrule : rule = key
    · subst hrule
      rw [if_pos rfl, h, Option.map_some]
      dsimp only
      rw [List.count_cons_self, List.count_cons, List.count_cons]
      by_cases hold : result = old
      · subst hold
        have hnew : ¬new = result := fun heq => hne heq.symm
        simp only [hne, hnew, beq_self_eq_true, beq_iff_eq, if_true, if_false] at ih ⊢
        omega
      · have hold' : ¬old = result := fun heq => hold heq.symm
        by_cases hnew : result = new
        · subst hnew
          simp only [hold, hold', beq_self_eq_true, beq_iff_eq, if_true, if_false] at ih ⊢
          omega
        · have hnew' : ¬new = result := fun heq => hnew heq.symm
          simp only [hold, hold', hnew, hnew', beq_iff_eq, if_false] at ih ⊢
          omega
    · rw [if_neg hrule, List.count_cons_of_ne hrule]
      cases results.lookup rule with
      | none => exact ih
      | some other =>
        dsimp only
        rw [List.count_cons, List.count_cons]
        omega

theorem groupResult_replace_ignore_iff (h : results.lookup key = some old) (hold : old ≠ .ignore)
    (hlt : old < new) (group : List Text) :
    groupResult (replaceResult key new results) group = .ignore ↔
      groupResult results group = .ignore := by
  have hcount := count_replaceResult h hlt.ne group
  have hok := hcount .ok
  have hwarning := hcount .warning
  have hcritical := hcount .critical
  rw [groupResult, groupResult, evaluateGroupResults_eq_iff, evaluateGroupResults_eq_iff,
    WinsVote, WinsVote]
  cases old <;> cases new <;>
    simp only [reduceCtorEq, if_true, if_false] at hok hwarning hcritical <;>
    first
    | exact absurd rfl hold
    | exact absurd hlt (by decide)
    | omega

/-- A more severe vote leaves a group with a less severe result just when it is outvoted. -/
theorem groupResult_replace_lt_iff (h : results.lookup key = some old) (hold : old ≠ .ignore)
    (hlt : old < new) (group : List Text) :
    groupResult (replaceResult key new results) group < groupResult results group ↔
      Outvoted key old new results group := by
  have hcount := count_replaceResult h hlt.ne group
  have hok := hcount .ok
  have hwarning := hcount .warning
  have hcritical := hcount .critical
  have hignore := groupResult_replace_ignore_iff h hold hlt group
  rw [Outvoted]
  cases hresult : groupResult results group with
  | ignore =>
    rw [hresult] at hignore
    rw [hignore.2 rfl]
    exact iff_of_false (by decide) (by simp)
  | ok =>
    rw [hresult] at hignore
    have hnot : ¬groupResult (replaceResult key new results) group < .ok := fun hbelow =>
      absurd (hignore.1 (lt_ok_iff.1 hbelow)) (by decide)
    exact iff_of_false hnot (by simp)
  | warning =>
    have hwins := evaluateGroupResults_eq_iff.1 hresult
    rw [WinsVote] at hwins
    rw [lt_warning_iff, hignore, hresult, or_iff_left (by decide), groupResult,
      evaluateGroupResults_eq_iff, WinsVote]
    cases old <;> cases new <;>
      simp only [reduceCtorEq, eq_self, if_true, if_false, true_and, false_and, and_false, or_false,
        false_or, iff_false] at hok hwarning hcritical ⊢ <;> first
      | exact absurd rfl hold
      | exact absurd hlt (by decide)
      | omega
  | critical =>
    have hwins := evaluateGroupResults_eq_iff.1 hresult
    rw [WinsVote] at hwins
    rw [lt_critical_iff, groupResult, Ne, evaluateGroupResults_eq_iff, WinsVote]
    cases old <;> cases new <;>
      simp only [reduceCtorEq, eq_self, if_true, if_false, true_and, false_and, and_false, or_false,
        iff_false] at hok hwarning hcritical ⊢ <;> first
      | exact absurd rfl hold
      | exact absurd hlt (by decide)
      | omega

theorem hasFinding_replaceResult (h : results.lookup key = some old) (hold : old ≠ .ignore)
    (hlt : old < new) (groups : List (List Text)) :
    HasFinding groups (replaceResult key new results) ↔ HasFinding groups results := by
  apply exists_congr
  intro group
  apply and_congr_right
  intro _
  have hignore := groupResult_replace_ignore_iff h hold hlt group
  rw [groupResult, groupResult, evaluateGroupResults_eq_ignore_iff,
    evaluateGroupResults_eq_ignore_iff] at hignore
  simpa using not_congr hignore

end Replace

theorem groupEvaluate_of_hasFinding {groups : List (List Text)} {results : RuleResults}
    (h : HasFinding groups results) :
    (groupEvaluate groups results).1 = worst (groups.map (groupResult results)) := by
  rw [groupEvaluate_eq, if_neg ((hasFinding_iff groups results).1 h)]

theorem groupResult_le {groups : List (List Text)} {group : List Text} (h : group ∈ groups)
    (results : RuleResults) :
    groupResult results group ≤ worst (groups.map (groupResult results)) :=
  le_worst (List.mem_map_of_mem h)

/-- A result that is made more severe improves the verdict just when every group that decides it
is outvoted and no other group comes up to it. -/
theorem groupEvaluate_replace_lt_iff (groups : List (List Text)) (results : RuleResults)
    (key : Text) (old new : RuleResult) (h : results.lookup key = some old) (hold : old ≠ .ignore)
    (hlt : old < new) :
    (groupEvaluate groups (replaceResult key new results)).1 < (groupEvaluate groups results).1 ↔
      (∃ group ∈ groups, groupResult results group = (groupEvaluate groups results).1) ∧
      ∀ group ∈ groups,
        (groupResult results group = (groupEvaluate groups results).1 →
          Outvoted key old new results group) ∧
        (groupResult results group < (groupEvaluate groups results).1 →
          groupResult (replaceResult key new results) group <
            (groupEvaluate groups results).1) := by
  have hsame := hasFinding_replaceResult h hold hlt groups
  by_cases hfinding : HasFinding groups results
  · have hworst := (hasFinding_iff groups results).1 hfinding
    have hworst' := (hasFinding_iff groups _).1 (hsame.2 hfinding)
    rw [groupEvaluate_of_hasFinding hfinding, groupEvaluate_of_hasFinding (hsame.2 hfinding)]
    constructor
    · intro hbelow
      refine ⟨List.mem_map.1 (mem_of_worst hworst), ?_⟩
      intro group hgroup
      have hresult := (groupResult_le hgroup (replaceResult key new results)).trans_lt hbelow
      refine ⟨fun hdecides => ?_, fun _ => hresult⟩
      rw [← hdecides] at hresult
      exact (groupResult_replace_lt_iff h hold hlt group).1 hresult
    · rintro ⟨-, hall⟩
      obtain ⟨group, hgroup, hresult⟩ := List.mem_map.1 (mem_of_worst hworst')
      rw [← hresult]
      rcases (groupResult_le hgroup results).eq_or_lt with hdecides | hbelow
      · have houtvoted := (hall group hgroup).1 hdecides
        rw [← hdecides]
        exact (groupResult_replace_lt_iff h hold hlt group).2 houtvoted
      · exact (hall group hgroup).2 hbelow
  · have hworst := not_not.1 (mt (hasFinding_iff groups results).2 hfinding)
    have hworst' := not_not.1 (mt (hasFinding_iff groups _).2 (mt hsame.1 hfinding))
    rw [groupEvaluate_eq, groupEvaluate_eq, if_pos hworst, if_pos hworst']
    refine iff_of_false (lt_irrefl _) ?_
    rintro ⟨⟨group, hgroup, hdecides⟩, -⟩
    have hle := groupResult_le hgroup results
    rw [hworst, hdecides] at hle
    exact absurd hle (by decide)

/-- Three rules of one group differ in everything, and one of them turns from `Ok` to `Warning`. -/
def splitVote : RuleResults :=
  [("Provider Check".toList, .ok), ("ARFCN Mapping".toList, .warning),
    ("LAC Mapping".toList, .critical)]

def splitGroup : List Text := splitVote.map (·.1)

theorem groupEvaluate_replace_lt_iff_split :
    (groupEvaluate [splitGroup] (replaceResult "Provider Check".toList .warning splitVote)).1 <
      (groupEvaluate [splitGroup] splitVote).1 := by
  refine (groupEvaluate_replace_lt_iff [splitGroup] splitVote "Provider Check".toList .ok .warning
    (by decide) (by decide) (by decide)).2 ⟨⟨splitGroup, by decide, by decide⟩, ?_⟩
  intro group hgroup
  obtain rfl := List.mem_singleton.1 hgroup
  refine ⟨fun _ => Or.inl ⟨rfl, rfl, by decide, by decide⟩, fun hbelow => ?_⟩
  exact absurd hbelow (by decide)

theorem suspicion_improves_the_verdict : ¬ ∀ (groups : List (List Text)) (results : RuleResults)
    (key : Text) (old new : RuleResult), results.lookup key = some old → old ≠ .ignore →
    old < new →
    (groupEvaluate groups results).1 ≤
      (groupEvaluate groups (replaceResult key new results)).1 := by
  intro h
  have hle := h [splitGroup] splitVote "Provider Check".toList .ok .warning (by decide) (by decide)
    (by decide)
  exact absurd hle (by decide)

end ImsiCatcher
