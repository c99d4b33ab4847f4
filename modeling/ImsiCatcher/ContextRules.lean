import ImsiCatcher.DiscoveryOrder
import ImsiCatcher.OrderStatistics
import Mathlib.Data.Finset.Card

/-!
# The context rules

Three rules judge a station by the other ones of the list. A list carries with it that it
holds one record for each ARFCN, which is what `add_station` keeps. Asked about the ARFCN of
a listed station, a rule then reads the record of this station, and what it counts or looks
for are stations other than this one, as far as its loops leave the station itself out.
-/

namespace ImsiCatcher

structure BaseStationInformationList where
  stations : List BaseStationInformation
  nodup : (stations.map (·.arfcn)).Nodup

namespace BaseStationInformationList

def empty : BaseStationInformationList := ⟨[], List.nodup_nil⟩

def add (list : BaseStationInformationList) (station : BaseStationInformation) :
    BaseStationInformationList :=
  ⟨addStation list.stations station, nodup_addStation list.nodup station⟩

def ofProvider (list : BaseStationInformationList) (provider : Text) :
    List BaseStationInformation := list.stations.filter fun item => item.provider = provider

section
variable {list : BaseStationInformationList} {station : BaseStationInformation}

theorem extractNeighbours_eq (h : station ∈ list.stations) :
    extractNeighbours station.arfcn list.stations = some station.neighbours := by
  rw [extractNeighbours, recordOf_of_mem list.nodup h, Option.map_some]

theorem extractProvider_eq (h : station ∈ list.stations) :
    extractProvider station.arfcn list.stations = some station.provider := by
  rw [extractProvider, recordOf_of_mem list.nodup h, Option.map_some]

theorem lastValue_eq (h : station ∈ list.stations) (value : BaseStationInformation → ℤ) :
    lastValue station.arfcn list.stations value = value station := by
  have hrecord := recordOf_of_mem list.nodup h
  rw [recordOf] at hrecord
  rw [lastValue, Keyed.foldl_eq list.nodup, hrecord]
  rfl

theorem lacMedianList_eq (h : station ∈ list.stations) :
    lacMedianList station.arfcn list.stations =
      (list.ofProvider station.provider).map (·.lac) := by
  rw [lacMedianList, ofProvider, extractProvider_eq h]
  congr 2
  funext item
  simp only [Option.some_inj, eq_comm]

end

end BaseStationInformationList

open BaseStationInformationList

/-! ### The median of the LACs -/

theorem lacMedian_of_majority {lacs : List ℤ} {lac : ℤ}
    (h : lacs.length < 2 * lacs.count lac) : lacMedian lacs = lac := by
  have hperm := List.perm_insertionSort (· ≤ ·) lacs
  have hlength : (lacs.insertionSort (· ≤ ·)).length = lacs.length := hperm.length_eq
  have hcount : (lacs.insertionSort (· ≤ ·)).count lac = lacs.count lac := hperm.count_eq lac
  have hle := List.count_le_length (a := lac) (l := lacs)
  have hhalf : lacs.length / 2 < (lacs.insertionSort (· ≤ ·)).length := by omega
  rw [lacMedian, List.getD_eq_getElem _ _ hhalf]
  simp only [← hlength] at hhalf ⊢
  exact OrderStatistics.getElem_half_of_majority List.sortedLE_insertionSort hhalf (by omega)

/-- Where most stations of a provider have one LAC, each of them is compared with it. -/
theorem lacMedianRule_of_majority (settings : RuleSettings) (list : BaseStationInformationList)
    (provider : Text) (lac : ℤ) (htwo : 2 ≤ (list.ofProvider provider).length)
    (hmajority : (list.ofProvider provider).length <
      2 * (list.ofProvider provider).countP (·.lac = lac)) :
    ∀ station ∈ list.ofProvider provider, lacMedianRule settings station.arfcn list.stations =
      if |(station.lac : ℚ) - lac| ≤ settings.lacThreshold * lac then .ok else .critical := by
  intro station hstation
  obtain ⟨hmem, hprovider⟩ := List.mem_filter.1 hstation
  obtain rfl : station.provider = provider := of_decide_eq_true hprovider
  have hmedian : lacMedian ((list.ofProvider station.provider).map (·.lac)) = lac := by
    apply lacMedian_of_majority
    rw [List.length_map, List.count, List.countP_map]
    exact hmajority
  have hlength : ¬((list.ofProvider station.provider).map (·.lac)).length < 2 := by
    rw [List.length_map]
    omega
  rw [lacMedianRule, lacMedianList_eq hmem, if_neg hlength]
  dsimp only
  rw [hmedian, lastValue_eq hmem]
  apply if_congr _ rfl rfl
  rw [abs_sub_le_iff]
  constructor
  · rintro ⟨hlow, hhigh⟩
    exact ⟨by linarith, by linarith⟩
  · rintro ⟨hhigh, hlow⟩
    exact ⟨by linarith, by linarith⟩

/-- Three stations of a provider and one of another, sighted in this order. -/
def fourStations : BaseStationInformationList :=
  (((empty.add { provider := "O2".toList, arfcn := 3, lac := 50945 }).add
    { provider := "O2".toList, arfcn := 1, lac := 1 }).add
    { provider := "E-Plus".toList, arfcn := 4, lac := 138 }).add
    { provider := "O2".toList, arfcn := 2, lac := 50945 }

theorem lacMedianRule_of_majority_four :
    lacMedianRule {} 1 fourStations.stations = .critical := by
  have hmem : { provider := "O2".toList, arfcn := 1, lac := 1, found := true } ∈
      fourStations.ofProvider "O2".toList := by decide
  rw [lacMedianRule_of_majority {} fourStations "O2".toList 50945 (by decide) (by decide) _ hmem,
    if_neg]
  norm_num [abs_of_neg]

/-! ### The structure of the neighbourhood -/

namespace BaseStationInformationList
variable (list : BaseStationInformationList) (station : BaseStationInformation)

def Discovers : Prop :=
  ∃ other ∈ list.stations, other.arfcn ≠ station.arfcn ∧ other.arfcn ∈ station.neighbours

def Knows : Prop :=
  ∃ other ∈ list.stations, other.arfcn ≠ station.arfcn ∧ other.provider = station.provider ∧
    station.arfcn ∈ other.neighbours

def Shares : Prop :=
  ∃ other ∈ list.stations, other.arfcn ≠ station.arfcn ∧
    ∃ neighbour ∈ other.neighbours, neighbour ∈ station.neighbours

instance : Decidable (list.Discovers station) :=
  inferInstanceAs (Decidable (∃ other ∈ list.stations, _))

instance : Decidable (list.Knows station) :=
  inferInstanceAs (Decidable (∃ other ∈ list.stations, _))

instance : Decidable (list.Shares station) :=
  inferInstanceAs (Decidable (∃ other ∈ list.stations, _))

/-- The neighbourhood of a station is judged by the other stations alone. -/
structure JudgedByOthers : Prop where
  ok : neighbourhoodStructureRule station.arfcn list.stations = some .ok ↔
    list.Discovers station ∧ list.Knows station
  critical : neighbourhoodStructureRule station.arfcn list.stations = some .critical ↔
    station.neighbours = [] ∨ ¬list.Discovers station ∧ ¬list.Shares station
  warning : neighbourhoodStructureRule station.arfcn list.stations = some .warning ↔
    ¬(list.Discovers station ∧ list.Knows station) ∧
      ¬(station.neighbours = [] ∨ ¬list.Discovers station ∧ ¬list.Shares station)

end BaseStationInformationList

section
variable {list : BaseStationInformationList} {station : BaseStationInformation}

/-- The station itself is found among the stations, where it is its own neighbour. -/
theorem exists_neighbour_iff (h : station ∈ list.stations) :
    (∃ item ∈ list.stations, item.arfcn ∈ station.neighbours) ↔
      station.arfcn ∈ station.neighbours ∨ list.Discovers station := by
  constructor
  · rintro ⟨item, hitem, hmem⟩
    by_cases hself : item.arfcn = station.arfcn
    · exact Or.inl (hself ▸ hmem)
    · exact Or.inr ⟨item, hitem, hself, hmem⟩
  · rintro (hself | ⟨other, hother, -, hmem⟩)
    · exact ⟨station, h, hself⟩
    · exact ⟨other, hother, hmem⟩

theorem exists_incoming_iff (h : station ∈ list.stations) :
    (∃ item ∈ list.stations, some item.provider =
        extractProvider station.arfcn list.stations ∧ station.arfcn ∈ item.neighbours) ↔
      station.arfcn ∈ station.neighbours ∨ list.Knows station := by
  rw [extractProvider_eq h]
  simp only [Option.some_inj]
  constructor
  · rintro ⟨item, hitem, hprovider, hmem⟩
    by_cases hself : item.arfcn = station.arfcn
    · obtain rfl : item = station := List.inj_on_of_nodup_map list.nodup hitem h hself
      exact Or.inl hmem
    · exact Or.inr ⟨item, hitem, hself, hprovider, hmem⟩
  · rintro (hself | ⟨other, hother, -, hprovider, hmem⟩)
    · exact ⟨station, h, rfl, hself⟩
    · exact ⟨other, hother, hprovider, hmem⟩

/-- The verdict on a listed station, where its own ARFCN counts as a neighbour that is found
and as an edge that comes in. -/
theorem neighbourhoodStructureRule_listed (h : station ∈ list.stations) :
    (station.neighbours = [] ∧
      neighbourhoodStructureRule station.arfcn list.stations = some .critical) ∨
    (station.neighbours ≠ [] ∧ neighbourhoodStructureRule station.arfcn list.stations = some
      (if (station.arfcn ∈ station.neighbours ∨ list.Discovers station) ∧
          (station.arfcn ∈ station.neighbours ∨ list.Knows station) then .ok
        else if (station.arfcn ∈ station.neighbours ∨ list.Discovers station) ∨
          list.Shares station then .warning
        else .critical)) := by
  by_cases hnil : station.neighbours = []
  · refine Or.inl ⟨hnil, ?_⟩
    rw [neighbourhoodStructureRule, extractNeighbours_eq h, hnil]
    rfl
  · refine Or.inr ⟨hnil, ?_⟩
    rw [neighbourhoodStructureRule_eq (extractNeighbours_eq h) hnil]
    simp only [exists_neighbour_iff h, exists_incoming_iff h]
    rfl

theorem BaseStationInformationList.Discovers.neighbours_ne_nil (h : list.Discovers station) :
    station.neighbours ≠ [] := by
  obtain ⟨other, -, -, hmem⟩ := h
  exact List.ne_nil_of_mem hmem

/-- The neighbourhood is judged by the other stations just when the station does not list its
own ARFCN, or when the other ones vouch for it anyway. -/
theorem judgedByOthers_iff (list : BaseStationInformationList) (station : BaseStationInformation)
    (h : station ∈ list.stations) :
    list.JudgedByOthers station ↔ station.arfcn ∉ station.neighbours ∨
      list.Discovers station ∧ list.Knows station := by
  rcases neighbourhoodStructureRule_listed h with ⟨hnil, hrule⟩ | ⟨hne, hrule⟩
  · have hself : station.arfcn ∉ station.neighbours := by simp [hnil]
    have hnone : ¬list.Discovers station := fun hfound => hfound.neighbours_ne_nil hnil
    refine iff_of_true ⟨?_, ?_, ?_⟩ (Or.inl hself)
    · simp [hrule, hnone]
    · simp [hrule, hnil]
    · simp [hrule, hnil]
  by_cases hself : station.arfcn ∈ station.neighbours
  · simp only [hself, true_or, and_self, if_true] at hrule
    refine ⟨fun hjudged => Or.inr (hjudged.ok.1 hrule), ?_⟩
    intro hothers
    have hvouched : list.Discovers station ∧ list.Knows station :=
      hothers.resolve_left (not_not.2 hself)
    refine ⟨?_, ?_, ?_⟩
    · simp [hrule, hvouched]
    · simp [hrule, hne, hvouched.1]
    · simp [hrule, hvouched]
  · simp only [hself, false_or] at hrule
    refine iff_of_true ?_ (Or.inl hself)
    by_cases hvouched : list.Discovers station ∧ list.Knows station
    · rw [if_pos hvouched] at hrule
      exact ⟨by simp [hrule, hvouched], by simp [hrule, hne, hvouched.1],
        by simp [hrule, hvouched]⟩
    rw [if_neg hvouched] at hrule
    by_cases hseen : list.Discovers station ∨ list.Shares station
    · rw [if_pos hseen] at hrule
      have hnot : ¬(station.neighbours = [] ∨ ¬list.Discovers station ∧ ¬list.Shares station) := by
        tauto
      exact ⟨by simp [hrule, hvouched], by simp [hrule, hnot], by simp [hrule, hvouched, hnot]⟩
    · rw [if_neg hseen] at hrule
      have hunseen : ¬list.Discovers station ∧ ¬list.Shares station := not_or.1 hseen
      exact ⟨by simp [hrule, hvouched], by simp [hrule, hunseen], by simp [hrule, hunseen]⟩

end

/-- Two stations that know each other, and one that lists nothing but its own ARFCN. -/
def selfNeighbour : BaseStationInformationList :=
  ((empty.add { provider := "O2".toList, arfcn := 3, neighbours := [5] }).add
    { provider := "O2".toList, arfcn := 5, neighbours := [3] }).add
    { provider := "O2".toList, arfcn := 7, neighbours := [7] }

theorem judgedByOthers_iff_known :
    selfNeighbour.JudgedByOthers
      { provider := "O2".toList, arfcn := 5, neighbours := [3], found := true } := by
  refine (judgedByOthers_iff selfNeighbour _ ?_).2 (Or.inl ?_)
  · decide
  · decide

/-- A station that nobody knows is judged `Ok` on its own word. -/
theorem neighbourhood_vouches_for_itself : ¬ ∀ (list : BaseStationInformationList),
    ∀ station ∈ list.stations, list.JudgedByOthers station := by
  intro h
  have hjudged := h selfNeighbour
    { provider := "O2".toList, arfcn := 7, neighbours := [7], found := true } (by decide)
  exact absurd (hjudged.ok.1 (by decide)) (by decide)

/-! ### The discovered neighbours -/

namespace BaseStationInformationList
variable (settings : RuleSettings) (list : BaseStationInformationList)
  (station : BaseStationInformation)

def discovered : ℕ :=
  (station.neighbours.toFinset.filter (· ∈ list.stations.map (·.arfcn))).card

/-- The rule returns a result, which the threshold asks for: none of the neighbours where it is
negative, a share of them up to one, and a number of them above. -/
def JudgedByThreshold : Prop :=
  ∃ result, discoveredNeighboursRule settings station.arfcn list.stations = some result ∧
    (settings.neighboursThreshold < 0 → result = .ignore) ∧
    (0 ≤ settings.neighboursThreshold → result = .ok ∨ result = .critical) ∧
    (0 ≤ settings.neighboursThreshold → settings.neighboursThreshold ≤ 1 →
      station.neighbours ≠ [] → (result = .ok ↔
        settings.neighboursThreshold * station.neighbours.length ≤ list.discovered station)) ∧
    (1 < settings.neighboursThreshold → (result = .ok ↔
      ⌊settings.neighboursThreshold⌋ ≤ (list.discovered station : ℤ)))

end BaseStationInformationList

section
variable {list : BaseStationInformationList} {station : BaseStationInformation}

/-- Distinct ARFCNs make the count of the stations one of the neighbours. -/
theorem length_filter_neighbours (list : BaseStationInformationList) (neighbours : List ℤ) :
    (list.stations.filter fun item => item.arfcn ∈ neighbours).length =
      (neighbours.toFinset.filter (· ∈ list.stations.map (·.arfcn))).card := by
  have hnodup := list.nodup.filter fun arfcn => arfcn ∈ neighbours
  have hmap : (list.stations.filter fun item => item.arfcn ∈ neighbours).map (·.arfcn) =
      (list.stations.map (·.arfcn)).filter fun arfcn => arfcn ∈ neighbours := by
    rw [List.filter_map]
    rfl
  rw [← List.length_map (f := (·.arfcn)), hmap, ← List.toFinset_card_of_nodup hnodup]
  congr 1
  ext arfcn
  simp only [List.mem_toFinset, List.mem_filter, Finset.mem_filter, decide_eq_true_eq, and_comm]

theorem discoveredNeighboursRule_eq (settings : RuleSettings) (h : station ∈ list.stations) :
    discoveredNeighboursRule settings station.arfcn list.stations =
      if settings.neighboursThreshold < 0 then some .ignore
      else if settings.neighboursThreshold ≤ 1 then none
      else if ⌊settings.neighboursThreshold⌋ ≤ (list.discovered station : ℤ) then some .ok
      else some .critical := by
  rw [discoveredNeighboursRule, extractNeighbours_eq h]
  dsimp only
  rw [length_filter_neighbours]
  rfl

end

/-- The rule does what the threshold asks for where this is not a share of the neighbours. -/
theorem judgedByThreshold_iff (settings : RuleSettings) (list : BaseStationInformationList)
    (station : BaseStationInformation) (h : station ∈ list.stations) :
    list.JudgedByThreshold settings station ↔
      settings.neighboursThreshold < 0 ∨ 1 < settings.neighboursThreshold := by
  have hrule := discoveredNeighboursRule_eq settings h
  rw [JudgedByThreshold, hrule]
  rcases lt_or_ge settings.neighboursThreshold 0 with hoff | hon
  · refine iff_of_true ⟨.ignore, if_pos hoff, fun _ => rfl, ?_, ?_, ?_⟩ (Or.inl hoff)
    · exact fun h => absurd hoff (not_lt.2 h)
    · exact fun h => absurd hoff (not_lt.2 h)
    · exact fun h => absurd h (by linarith)
  rw [if_neg (not_lt.2 hon)]
  rcases le_or_gt settings.neighboursThreshold 1 with hshare | hnumber
  · rw [if_pos hshare]
    refine iff_of_false ?_ (not_or.2 ⟨not_lt.2 hon, not_lt.2 hshare⟩)
    rintro ⟨result, hnone, -⟩
    exact absurd hnone (by simp)
  · rw [if_neg (not_le.2 hnumber)]
    refine iff_of_true ?_ (Or.inr hnumber)
    by_cases hfound : ⌊settings.neighboursThreshold⌋ ≤ (list.discovered station : ℤ)
    · exact ⟨.ok, if_pos hfound, fun h => absurd h (not_lt.2 hon), fun _ => Or.inl rfl,
        fun _ h => absurd h (not_le.2 hnumber), fun _ => iff_of_true rfl hfound⟩
    · exact ⟨.critical, if_neg hfound, fun h => absurd h (not_lt.2 hon), fun _ => Or.inr rfl,
        fun _ h => absurd h (not_le.2 hnumber), fun _ => iff_of_false (by decide) hfound⟩

/-- No neighbour is found where two are asked for. -/
theorem judgedByThreshold_iff_two :
    fourStations.JudgedByThreshold { neighboursThreshold := 2 }
      { provider := "O2".toList, arfcn := 3, lac := 50945, found := true } :=
  (judgedByThreshold_iff { neighboursThreshold := 2 } fourStations _ (by decide)).2
    (Or.inr (by norm_num))

/-- Half of the neighbours are asked for, and no share can be computed. -/
theorem discoveredNeighbours_raises : ¬ ∀ (settings : RuleSettings)
    (list : BaseStationInformationList), ∀ station ∈ list.stations,
    list.JudgedByThreshold settings station := by
  intro h
  obtain ⟨result, hrule, -⟩ := h { neighboursThreshold := 1 / 2 } selfNeighbour
    { provider := "O2".toList, arfcn := 5, neighbours := [3], found := true } (by decide)
  rw [discoveredNeighboursRule_eq _ (by decide), if_neg (by norm_num), if_pos (by norm_num)]
    at hrule
  exact absurd hrule (by simp)

end ImsiCatcher
