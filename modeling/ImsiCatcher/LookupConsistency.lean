import ImsiCatcher.RecordChanges
import ImsiCatcher.Rules

/-!
# Whether a record stems from one lookup

Each source that is asked for a cell writes the status of its record, and only a source that
has found the cell writes the coordinates and its own name. The record then stems from one
lookup as long as no lookup follows one that has found the cell and does not find it itself,
and what an earlier run has left behind is not in the way.
-/

namespace ImsiCatcher
open Lookup

/-- The lookups for one station in `cellIDDatabase.py`: what each source answers, where it does
not raise an exception. The coordinates of the web services are arbitrary. -/
structure LookupSources where
  answer : CIDDatabases → Option LookupAnswer
  google : ∀ a, answer .google = some a → a.status = .confirmed ∨ a.status = .notInDb
  opencid : ∀ a, answer .opencid = some a →
    a.status = .confirmed ∨ a.status = .approximated ∨ a.status = .notInDb
  localDb : ∀ a, answer .localDb = some a →
    (a.status = .confirmed ∨ a.status = .error ∨ a.status = .notInDb) ∧
      a.latitude = 0 ∧ a.longitude = 0

def LookupAnswer.Found (a : LookupAnswer) : Prop :=
  a.status = .confirmed ∨ a.status = .approximated

instance LookupAnswer.decidableFound (a : LookupAnswer) : Decidable a.Found :=
  inferInstanceAs (Decidable (_ ∨ _))

structure StemsFrom (record : BaseStationInformation) (made : CIDDatabases × LookupAnswer) :
    Prop where
  dbStatus : record.dbStatus = made.2.status
  dbProvider : record.dbProvider = made.1
  latitude : record.latitude = made.2.latitude
  longitude : record.longitude = made.2.longitude

/-- The record stems from a lookup that has found the cell, if there is one, and else from no
source. -/
structure Consistent (made : List (CIDDatabases × LookupAnswer)) (record : BaseStationInformation) :
    Prop where
  found : (∃ m ∈ made, m.2.Found) → ∃ m ∈ made, m.2.Found ∧ StemsFrom record m
  notFound : (∀ m ∈ made, ¬m.2.Found) → record.dbProvider = .none

def LastFinds (made : List (CIDDatabases × LookupAnswer)) : Prop :=
  (∃ m ∈ made, m.2.Found) → ∃ m, made.getLast? = some m ∧ m.2.Found

section Written
variable {sources : LookupSources} {db : CIDDatabases} {a : LookupAnswer}

theorem written_of_found (h : sources.answer db = some a) (hdb : db ≠ .none) (hfound : a.Found)
    (station : BaseStationInformation) :
    written station (db, a) = { station with
      latitude := a.latitude
      longitude := a.longitude
      dbProvider := db
      dbStatus := a.status } := by
  cases db with
  | none => exact absurd rfl hdb
  | google =>
    have hconfirmed : a.status = .confirmed := by
      rcases hfound with hstatus | hstatus
      · exact hstatus
      · rcases sources.google a h with hs | hs <;> simp [hstatus] at hs
    simp [written, take, takeGoogle, hconfirmed, locate, say]
  | opencid =>
    rcases hfound with hstatus | hstatus
    · simp [written, take, takeOpenCellId, hstatus, locate, say]
    · simp [written, take, takeOpenCellId, hstatus, locate, say]
  | localDb =>
    obtain ⟨hstatus, hlatitude, hlongitude⟩ := sources.localDb a h
    have hconfirmed : a.status = .confirmed := by
      rcases hfound with hs | hs
      · exact hs
      · simp [hs] at hstatus
    simp [written, take, takeLocal, hconfirmed, hlatitude, hlongitude, locate, say]

theorem written_of_not_found (hnot : ¬a.Found) (db : CIDDatabases)
    (station : BaseStationInformation) :
    written station (db, a) = { station with dbStatus := a.status } := by
  obtain ⟨hconfirmed, happroximated⟩ := not_or.1 hnot
  cases db with
  | none => rfl
  | google => simp [written, take, takeGoogle, hconfirmed]
  | opencid => simp [written, take, takeOpenCellId, hconfirmed, happroximated]
  | localDb => simp [written, take, takeLocal, hconfirmed]

theorem stemsFrom_written (h : sources.answer db = some a) (hdb : db ≠ .none) (hfound : a.Found)
    (station : BaseStationInformation) : StemsFrom (written station (db, a)) (db, a) := by
  rw [written_of_found h hdb hfound]
  exact ⟨rfl, rfl, rfl, rfl⟩

theorem foldl_written_dbProvider {made : List (CIDDatabases × LookupAnswer)}
    (h : ∀ m ∈ made, ¬m.2.Found) (station : BaseStationInformation) :
    (made.foldl written station).dbProvider = station.dbProvider := by
  induction made generalizing station with
  | nil => rfl
  | cons m rest ih =>
    rw [List.foldl_cons, ih fun m' hm' => h m' (List.mem_cons_of_mem _ hm'),
      written_of_not_found (h m List.mem_cons_self)]

/-- Whatever lookups are made, the last of them settles the status. -/
theorem consistent_iff {made : List (CIDDatabases × LookupAnswer)}
    (hmade : ∀ m ∈ made, sources.answer m.1 = some m.2 ∧ m.1 ≠ .none)
    (station : BaseStationInformation) :
    Consistent made (made.foldl written station) ↔ LastFinds made ∧
      ((∀ m ∈ made, ¬m.2.Found) → station.dbProvider = .none) := by
  rcases List.eq_nil_or_concat made with rfl | ⟨before, m, rfl⟩
  · constructor
    · exact fun h => ⟨fun ⟨_, hm, _⟩ => absurd hm List.not_mem_nil, h.notFound⟩
    · exact fun h => ⟨fun ⟨_, hm, _⟩ => absurd hm List.not_mem_nil, h.2⟩
  rw [List.concat_eq_append] at hmade ⊢
  have hlast : m ∈ before ++ [m] := List.mem_append_right _ (List.mem_singleton_self m)
  rw [List.foldl_append, List.foldl_cons, List.foldl_nil]
  by_cases hfound : m.2.Found
  · obtain ⟨hanswer, hdb⟩ := hmade m hlast
    have hstems := stemsFrom_written hanswer hdb hfound (before.foldl written station)
    refine iff_of_true ⟨fun _ => ⟨m, hlast, hfound, hstems⟩, fun hnone => ?_⟩
      ⟨fun _ => ⟨m, List.getLast?_concat, hfound⟩, fun hnone => ?_⟩
    · exact absurd hfound (hnone m hlast)
    · exact absurd hfound (hnone m hlast)
  · have hwritten : written (before.foldl written station) m =
        { before.foldl written station with dbStatus := m.2.status } :=
      written_of_not_found hfound m.1 _
    have hprovider : (∀ m' ∈ before ++ [m], ¬m'.2.Found) →
        (written (before.foldl written station) m).dbProvider = station.dbProvider := by
      intro hnone
      rw [hwritten]
      exact foldl_written_dbProvider (fun m' hm' => hnone m' (List.mem_append_left _ hm')) station
    constructor
    · intro h
      refine ⟨fun hsome => ?_, fun hnone => (hprovider hnone).symm.trans (h.notFound hnone)⟩
      obtain ⟨m', -, hfound', hstems⟩ := h.found hsome
      have hstatus : m.2.status = m'.2.status := by
        rw [← hstems.dbStatus, hwritten]
      exact absurd (show m.2.Found by rwa [LookupAnswer.Found, hstatus]) hfound
    · rintro ⟨hfinds, hnone⟩
      refine ⟨fun hsome => ?_, fun hall => (hprovider hall).trans (hnone hall)⟩
      obtain ⟨m', hm', hfound'⟩ := hfinds hsome
      rw [List.getLast?_concat, Option.some_inj] at hm'
      exact absurd (hm' ▸ hfound') hfound

end Written

section Made
variable {sources : LookupSources}

theorem answer_of_mem_lookupsMade {answer : CIDDatabases → Option LookupAnswer}
    {dbs : List CIDDatabases} {m : CIDDatabases × LookupAnswer}
    (h : m ∈ lookupsMade answer dbs) : answer m.1 = some m.2 ∧ m.1 ∈ dbs := by
  induction dbs with
  | nil => exact absurd h List.not_mem_nil
  | cons db rest ih =>
    rw [lookupsMade] at h
    cases hanswer : answer db with
    | none =>
      rw [hanswer] at h
      exact absurd h List.not_mem_nil
    | some a =>
      rw [hanswer] at h
      rcases List.mem_cons.1 h with rfl | hrest
      · exact ⟨hanswer, List.mem_cons_self⟩
      · split at hrest
        · exact absurd hrest List.not_mem_nil
        · exact ⟨(ih hrest).1, List.mem_cons_of_mem _ (ih hrest).2⟩

theorem lastFinds_nil : LastFinds [] := fun ⟨_, hm, _⟩ => absurd hm List.not_mem_nil

theorem lastFinds_singleton (m : CIDDatabases × LookupAnswer) : LastFinds [m] := by
  rintro ⟨m', hm', hfound⟩
  obtain rfl := List.mem_singleton.1 hm'
  exact ⟨m', rfl, hfound⟩

theorem lastFinds_cons_of_not {m : CIDDatabases × LookupAnswer} (hnot : ¬m.2.Found)
    (rest : List (CIDDatabases × LookupAnswer)) : LastFinds (m :: rest) ↔ LastFinds rest := by
  rw [LastFinds, List.exists_mem_cons_iff, or_iff_right hnot]
  cases rest with
  | nil => exact iff_of_true (fun ⟨_, hm, _⟩ => absurd hm List.not_mem_nil) lastFinds_nil
  | cons m' rest => rw [List.getLast?_cons_cons, LastFinds]

theorem lastFinds_cons_of_found {m : CIDDatabases × LookupAnswer} (hfound : m.2.Found)
    (m' : CIDDatabases × LookupAnswer) : LastFinds [m, m'] ↔ m'.2.Found := by
  constructor
  · intro h
    obtain ⟨last, hlast, hfinds⟩ := h ⟨m, List.mem_cons_self, hfound⟩
    obtain rfl : m' = last := Option.some_inj.1 hlast
    exact hfinds
  · exact fun hfinds _ => ⟨m', rfl, hfinds⟩

theorem found_local_iff {b : LookupAnswer} (h : sources.answer .localDb = some b) :
    b.Found ↔ b.status = .confirmed := by
  refine ⟨fun hfound => ?_, Or.inl⟩
  rcases hfound with hs | hs
  · exact hs
  · rcases (sources.localDb b h).1 with hs' | hs' | hs' <;> simp [hs] at hs'

/-- The local database is the last one, and is asked once. -/
theorem lookupsMade_local (sources : LookupSources) (enabled : Bool) :
    lookupsMade sources.answer ((if enabled then [.localDb] else []) ++ []) =
      if enabled then (sources.answer .localDb).toList.map fun b => (.localDb, b) else [] := by
  cases enabled with
  | false => rfl
  | true =>
    simp only [if_true, List.append_nil, lookupsMade, ite_self]
    cases sources.answer .localDb <;> rfl

theorem lastFinds_local (sources : LookupSources) (enabled : Bool) :
    LastFinds (lookupsMade sources.answer ((if enabled then [.localDb] else []) ++ [])) := by
  rw [lookupsMade_local]
  cases enabled with
  | false => exact lastFinds_nil
  | true =>
    cases sources.answer .localDb with
    | none => exact lastFinds_nil
    | some b => exact lastFinds_singleton _

/-- No approximation is followed by a local lookup that does not find the cell. -/
def NotOverwritten (sources : LookupSources) (useLocal : Bool)
    (made : List (CIDDatabases × LookupAnswer)) : Prop :=
  useLocal = true → ∀ a, (.opencid, a) ∈ made → a.status = .approximated →
    ∀ b, sources.answer .localDb = some b → b.status = .confirmed

theorem notOverwritten_of_not_asked {useLocal : Bool}
    {made : List (CIDDatabases × LookupAnswer)} (h : ∀ a, (CIDDatabases.opencid, a) ∉ made) :
    NotOverwritten sources useLocal made := fun _ a ha => absurd ha (h a)

theorem opencid_not_local (sources : LookupSources) (useLocal : Bool) (a : LookupAnswer) :
    (CIDDatabases.opencid, a) ∉
      lookupsMade sources.answer ((if useLocal then [.localDb] else []) ++ []) := by
  intro h
  have hmem := (answer_of_mem_lookupsMade h).2
  cases useLocal <;> simp at hmem

/-- After an approximation everything hangs on the local database. -/
theorem lastFinds_approximated {a : LookupAnswer} (hs : a.status = .approximated)
    (sources : LookupSources) (useLocal : Bool) :
    LastFinds ((CIDDatabases.opencid, a) ::
        lookupsMade sources.answer ((if useLocal then [.localDb] else []) ++ [])) ↔
      (useLocal = true → ∀ b, sources.answer .localDb = some b → b.status = .confirmed) := by
  rw [lookupsMade_local]
  cases useLocal with
  | false => exact iff_of_true (lastFinds_singleton _) (fun h => absurd h (by decide))
  | true =>
    cases hlocal : sources.answer .localDb with
    | none => exact iff_of_true (lastFinds_singleton _) (fun _ _ h => absurd h (by simp))
    | some b =>
      refine (lastFinds_cons_of_found (Or.inr hs) _).trans ?_
      rw [found_local_iff hlocal]
      simp

theorem lastFinds_opencid (sources : LookupSources) (useOpenCellId useLocal : Bool) :
    LastFinds (lookupsMade sources.answer ((if useOpenCellId then [.opencid] else []) ++
        ((if useLocal then [.localDb] else []) ++ []))) ↔
      NotOverwritten sources useLocal (lookupsMade sources.answer
        ((if useOpenCellId then [.opencid] else []) ++
          ((if useLocal then [.localDb] else []) ++ []))) := by
  cases useOpenCellId with
  | false =>
    exact iff_of_true (lastFinds_local sources useLocal)
      (notOverwritten_of_not_asked (opencid_not_local sources useLocal))
  | true =>
    rw [if_pos rfl, List.singleton_append, lookupsMade]
    cases hanswer : sources.answer .opencid with
    | none =>
      exact iff_of_true lastFinds_nil (notOverwritten_of_not_asked fun _ => List.not_mem_nil)
    | some a =>
      dsimp only
      have hfirst : ∀ a' rest, (∀ a, (CIDDatabases.opencid, a) ∉ rest) →
          ((CIDDatabases.opencid, a') ∈ (CIDDatabases.opencid, a) :: rest ↔ a' = a) := by
        intro a' rest hrest
        rw [List.mem_cons, or_iff_left (hrest a'), Prod.mk.injEq, and_iff_right rfl]
      rcases sources.opencid a hanswer with hs | hs | hs
      · rw [if_pos hs]
        refine iff_of_true (lastFinds_singleton _) fun _ a' ha' happroximated => ?_
        rw [(hfirst a' [] fun _ => List.not_mem_nil).1 ha', hs] at happroximated
        exact absurd happroximated (by decide)
      · have hopen : ¬a.status = .confirmed := by simp [hs]
        rw [if_neg hopen, lastFinds_approximated hs]
        constructor
        · exact fun h huse _ _ _ => h huse
        · exact fun h huse => h huse a List.mem_cons_self hs
      · have hopen : ¬a.status = .confirmed := by simp [hs]
        have hnot : ¬a.Found := by simp [LookupAnswer.Found, hs]
        rw [if_neg hopen]
        refine iff_of_true ((lastFinds_cons_of_not hnot _).2 (lastFinds_local sources useLocal)) ?_
        intro _ a' ha' happroximated
        rw [(hfirst a' _ (opencid_not_local sources useLocal)).1 ha', hs] at happroximated
        exact absurd happroximated (by decide)

theorem lastFinds_enabled (c : Controller) (sources : LookupSources) :
    LastFinds (lookupsMade sources.answer c.enabledDatabases) ↔
      NotOverwritten sources c.useLocalDb (lookupsMade sources.answer c.enabledDatabases) := by
  have hopen := lastFinds_opencid sources c.useOpenCellId c.useLocalDb
  rw [Controller.enabledDatabases]
  cases c.useGoogle with
  | false => exact hopen
  | true =>
    rw [if_pos rfl, List.singleton_append, lookupsMade]
    cases hanswer : sources.answer .google with
    | none =>
      exact iff_of_true lastFinds_nil (notOverwritten_of_not_asked fun _ => List.not_mem_nil)
    | some a =>
      dsimp only
      rcases sources.google a hanswer with hs | hs
      · rw [if_pos hs]
        exact iff_of_true (lastFinds_singleton _) (notOverwritten_of_not_asked fun _ => by simp)
      · have hclosed : ¬a.status = .confirmed := by simp [hs]
        have hnot : ¬a.Found := by simp [LookupAnswer.Found, hs]
        rw [if_neg hclosed, lastFinds_cons_of_not hnot, hopen, NotOverwritten, NotOverwritten]
        simp only [List.mem_cons, Prod.mk.injEq, reduceCtorEq, false_and, false_or]

end Made

def Controller.made (c : Controller) (sources : ℤ → LookupSources)
    (station : BaseStationInformation) : List (CIDDatabases × LookupAnswer) :=
  lookupsMade (sources station.arfcn).answer c.enabledDatabases

theorem Located.arfcn {station station' : BaseStationInformation} (h : Located station station') :
    station'.arfcn = station.arfcn := by
  obtain ⟨_, _, _, _, rfl⟩ := h
  rfl

/-- The record that the run leaves for a station which it has reached. -/
theorem recordOf_updateWithWebServices (c : Controller) (hnodup : (c.stations.map (·.arfcn)).Nodup)
    (answers : ℤ → CIDDatabases → Option LookupAnswer) {station : BaseStationInformation}
    (hreached : station ∈ c.reached answers) :
    recordOf station.arfcn (c.updateWithWebServices answers).1.stations =
      some ((lookupsMade (answers station.arfcn) c.enabledDatabases).foldl written station) := by
  have hmem : station ∈ c.stations := List.mem_of_mem_take hreached
  have hlooked : c.lookedUp answers station =
      (lookupsMade (answers station.arfcn) c.enabledDatabases).foldl written station := by
    rw [Controller.lookedUp, if_pos hreached, Controller.lookUp_station]
  have hnodup' : ((c.updateWithWebServices answers).1.stations.map (·.arfcn)).Nodup := by
    rwa [Controller.updateWithWebServices_arfcns]
  rw [← hlooked]
  refine (recordOf_eq_some hnodup').2 ⟨?_, (c.lookedUp_located answers station).arfcn⟩
  rw [Controller.updateWithWebServices_map hnodup]
  exact List.mem_map_of_mem hmem

/-- A record stems from one lookup just when OpenCellID does not approximate its cell before the
local database fails to find it, and an earlier run has left no source where none finds it. -/
theorem consistent_lookup_iff (c : Controller) (hnodup : (c.stations.map (·.arfcn)).Nodup)
    (sources : ℤ → LookupSources) (station : BaseStationInformation)
    (hreached : station ∈ c.reached fun arfcn => (sources arfcn).answer) :
    (∃ record, recordOf station.arfcn
        (c.updateWithWebServices fun arfcn => (sources arfcn).answer).1.stations = some record ∧
      Consistent (c.made sources station) record) ↔
      NotOverwritten (sources station.arfcn) c.useLocalDb (c.made sources station) ∧
      ((∀ m ∈ c.made sources station, ¬m.2.Found) → station.dbProvider = .none) := by
  have hanswers : ∀ m ∈ c.made sources station,
      (sources station.arfcn).answer m.1 = some m.2 ∧ m.1 ≠ .none := by
    intro m hm
    obtain ⟨hanswer, hdb⟩ := answer_of_mem_lookupsMade hm
    refine ⟨hanswer, fun hnone => ?_⟩
    rw [hnone, Controller.enabledDatabases] at hdb
    simp at hdb
  rw [recordOf_updateWithWebServices c hnodup _ hreached]
  simp only [Option.some_inj, exists_eq_left']
  exact (consistent_iff hanswers station).trans
    (and_congr (lastFinds_enabled c (sources station.arfcn)) Iff.rfl)

/-- OpenCellID approximates the cell, and the local database, which is in use too, has no row of
it. -/
def approximated : LookupSources where
  answer
    | .opencid => some ⟨.approximated, 48, 8⟩
    | .localDb => some ⟨.notInDb, 0, 0⟩
    | _ => none
  google := fun _ h => absurd h (by simp)
  opencid := fun a h => Or.inr (Or.inl (by rw [← Option.some_inj.1 h]))
  localDb := fun a h => by
    obtain rfl := Option.some_inj.1 h
    exact ⟨Or.inr (Or.inr rfl), rfl, rfl⟩

def oneStation : Controller where
  stations := [{ arfcn := 20, cell := 7 }]
  useOpenCellId := true

theorem consistent_lookup_iff_approximated : ∃ record,
    recordOf 20 (oneStation.updateWithWebServices fun _ => approximated.answer).1.stations =
        some record ∧
      Consistent (oneStation.made (fun _ => approximated) { arfcn := 20, cell := 7 }) record := by
  refine (consistent_lookup_iff oneStation (by decide) (fun _ => approximated)
    { arfcn := 20, cell := 7 } (by decide)).2 ⟨?_, ?_⟩
  · exact fun huse => absurd huse (by decide)
  · exact fun _ => rfl

theorem lookup_mixes_sources : ¬ ∀ (c : Controller) (sources : ℤ → LookupSources),
    (c.stations.map (·.arfcn)).Nodup → c.enabledDatabases ≠ [] →
    ∀ station ∈ c.reached fun arfcn => (sources arfcn).answer, ∃ record,
      recordOf station.arfcn
          (c.updateWithWebServices fun arfcn => (sources arfcn).answer).1.stations = some record ∧
        Consistent (c.made sources station) record := by
  intro h
  obtain ⟨record, hrecord, hconsistent⟩ := h { oneStation with useLocalDb := true }
    (fun _ => approximated) (by decide) (by decide) { arfcn := 20, cell := 7 } (by decide)
  have hstatus : record.dbStatus = .notInDb := by
    have hmap := congrArg (Option.map (·.dbStatus)) hrecord
    exact Option.some_inj.1 (hmap.symm.trans (by decide))
  obtain ⟨m, -, hfound, hstems⟩ := hconsistent.found
    ⟨(.opencid, ⟨.approximated, 48, 8⟩), List.mem_cons_self, Or.inr rfl⟩
  rw [LookupAnswer.Found, ← hstems.dbStatus, hstatus] at hfound
  exact absurd hfound (by decide)

end ImsiCatcher
