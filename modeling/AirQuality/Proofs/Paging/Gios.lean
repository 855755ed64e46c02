import AirQuality.Json.Loose
import AirQuality.Proofs.Paging
import AirQuality.Source.Gios
import Mathlib.Data.List.ReduceOption

/-!
# The pages of GIOS stations

GIOS numbers the pages of its stations from zero, and each of them gives the number of pages.  Of
the records on a page those without an id are passed over.
-/

namespace AirQuality.Gios

open Outcome

variable {τ : Type}

/-! ### Stations of records -/

/-- A record without an id, or with a blank one. -/
def LacksId (record : Json) : Prop :=
  (record.get "Identyfikator stacji").kind = .null ∨
    Text.isAllBlank (record.get "Identyfikator stacji").display.toList

instance : DecidablePred LacksId := fun _ => inferInstanceAs (Decidable (_ ∨ _))

def stationOf (record : Json) : Station where
  id := (record.get "Identyfikator stacji").display
  displayName := record.get "Nazwa stacji"
  latitude := coordinateJson (record.get "WGS84 φ N")
  longitude := coordinateJson (record.get "WGS84 λ E")
  source := name

/-- The stations of records, in order. -/
def stationsOf (records : List Json) : List Station :=
  (records.filter fun record => ¬LacksId record).map stationOf

theorem station?_eq {record : Json} (hobject : record.IsObject) :
    station? record = .ok (if LacksId record then none else some (stationOf record)) := by
  simp only [station?, hobject.fieldOrNull_eq, ok_bind]
  by_cases hlacks : LacksId record
  · rw [if_pos hlacks]
    exact if_pos hlacks
  · rw [if_neg hlacks]
    exact if_neg hlacks

theorem mapM_station? {records : List Json} (hobjects : ∀ record ∈ records, record.IsObject) :
    records.mapM station? =
      .ok (records.map fun record => if LacksId record then none else some (stationOf record)) :=
  mapM_eq_ok_map fun record hrecord => station?_eq (hobjects record hrecord)

theorem reduceOption_map_eq_stationsOf (records : List Json) :
    (records.map fun record =>
        if LacksId record then none else some (stationOf record)).reduceOption =
      stationsOf records := by
  induction records with
  | nil => rfl
  | cons record rest ih =>
      by_cases hlacks : LacksId record
      · rw [List.map_cons, if_pos hlacks, List.reduceOption_cons_of_none, ih]
        simp [stationsOf, hlacks]
      · rw [List.map_cons, if_neg hlacks, List.reduceOption_cons_of_some, ih]
        simp [stationsOf, hlacks]

theorem stationsOf_flatten (pages : List (List Json)) :
    stationsOf pages.flatten = (pages.map stationsOf).flatten := by
  simp only [stationsOf, List.filter_flatten, List.map_flatten, List.map_map]
  rfl

/-! ### Pages -/

/-- The request for a page of the stations. -/
def stationsRequest (place : Nat) : Request :=
  ⟨s!"{base}/station/findAll", some [("page", .int place), ("size", .int pageSize)]⟩

/-- The records on a page. -/
def pageRecords (payload : Json) : Except Failure (List Json) := do
  (← payload.fieldOrNull stationsField).elementsOrNone

/-- The stations on a page, and whether it is the last one. -/
def readStationsPage (place : Nat) (payload : Json) : Except Failure (List Station × Bool) :=
  if !payload.isPresent then .ok ([], true)
  else do
    let found ← (← pageRecords payload).mapM station?
    let total ← payload.fieldOrNull "totalPages"
    .ok (found.reduceOption, isLastPage place total)

def paging : Paging Station := ⟨stationsRequest, readStationsPage⟩

/-- Reading records writes an entry for each that is passed over, and does nothing else. -/
theorem leads_readStations (records : List Json) :
    (readStations records).run.Leads
      (Work.lift (List.reduceOption <$> records.mapM station?)).run := by
  induction records with
  | nil => exact .here _
  | cons record rest ih =>
      unfold readStations
      rw [List.mapM_cons]
      cases hstation : station? record with
      | error failure => exact .here _
      | ok found =>
          cases found with
          | none =>
              refine .note (ih.trans ?_)
              cases rest.mapM station? with
              | error failure => exact .here _
              | ok others => exact .here _
          | some station =>
              refine (ih.bind _).trans ?_
              cases rest.mapM station? with
              | error failure => exact .here _
              | ok others => exact .here _

theorem governs_stationsFrom : paging.Governs fun most place => stationsFrom most place where
  zero _ := rfl
  succ most place := by
    refine ⟨_, rfl, fun payload => ?_⟩
    simp only [Paging.step, paging, readStationsPage]
    cases hpresent : payload.isPresent with
    | false => exact .here _
    | true =>
        simp only [Bool.not_true, Bool.false_eq_true, if_false, pageRecords, Work.lift_bind]
        refine Work.leads_lift_bind fun listed => Work.leads_lift_bind fun records => ?_
        refine (Work.leads_bind (leads_readStations records) _).trans ?_
        simp only [map_eq_pure_bind, Work.lift_bind]
        exact Work.leads_lift_bind fun found => Work.leads_lift_bind fun total => .here _

theorem isReadBy_stations (fetch : Request → Fetching τ Json) (most : Nat) :
    paging.IsReadBy fetch most (stations most) :=
  governs_stationsFrom.isReadBy (fun _ => .note (.here _)) most

/-! ### Well-formed pages -/

/-- A payload with records of stations, and with a number of pages. -/
structure ShowsStations (payload : Json) (records : List Json) (count : Nat) : Prop where
  records : payload.fieldOrNull stationsField = .ok (.list records)
  total : payload.fieldOrNull "totalPages" = .ok (.int count)

theorem ShowsStations.readStationsPage_eq {payload : Json} {records : List Json} {count : Nat}
    (hshows : ShowsStations payload records count)
    (hobjects : ∀ record ∈ records, record.IsObject) (place : Nat) :
    readStationsPage place payload =
      .ok (stationsOf records, decide (count ≤ place + 1)) := by
  have hpresent : payload.isPresent = true := by
    have htotal := hshows.total
    cases payload with
    | object fields =>
        cases fields with
        | nil => cases htotal
        | cons field rest => rfl
    | _ => cases htotal
  have hrecords : pageRecords payload = .ok records := by
    rw [pageRecords, hshows.records, ok_bind]
    cases records with
    | nil => rfl
    | cons record rest => rfl
  have hlast : isLastPage place (.int count) = decide (count ≤ place + 1) := by
    simp only [isLastPage]
    norm_cast
  simp only [readStationsPage, hpresent, hrecords, hshows.total, mapM_station? hobjects,
    reduceOption_map_eq_stationsOf, hlast, ok_bind, Bool.not_true, Bool.false_eq_true, if_false]

/-- GIOS goes on after a page only if it gives a number of pages that is larger. -/
theorem exists_total_of_goesOn {place : Nat} {item : Fetched} (hgoes : paging.GoesOn place item) :
    ∃ payload, item.reply = .ok payload ∧ ∃ total : Int,
      payload.fieldOrNull "totalPages" = .ok (.int total) ∧ (place : Int) + 1 < total := by
  obtain ⟨payload, items, hpayload, hread⟩ := hgoes
  refine ⟨payload, hpayload, ?_⟩
  simp only [paging, readStationsPage] at hread
  split at hread
  · cases hread
  · obtain ⟨records, -, hrest⟩ := bind_eq_ok hread
    obtain ⟨found, -, hrest⟩ := bind_eq_ok hrest
    obtain ⟨total, htotal, hrest⟩ := bind_eq_ok hrest
    obtain ⟨-, hmore⟩ := Prod.mk.inj (Except.ok.inj hrest)
    cases total with
    | int total =>
        exact ⟨total, htotal, by simpa [isLastPage] using hmore⟩
    | bool value =>
        have hsmall : (if value then 1 else 0 : Int) ≤ 1 := by cases value <;> decide
        simp only [isLastPage, decide_eq_false_iff_not] at hmore
        omega
    | _ => cases hmore

/-! ### Pages of any kind -/

/-- Every whole number of pages that a payload gives is so large at most. -/
def AdmitsPages (payload : Json) (total : Int) : Prop :=
  ∀ given : Int, payload.fieldOrNull "totalPages" = .ok (.int given) → given ≤ total

theorem endsWithin_stations {fetch : Request → Fetching τ Json} {most total : Nat}
    {session : Session τ}
    (hadmits : ∀ item ∈ (stations most).run.fetched fetch session, ∀ payload,
      item.reply = .ok payload → AdmitsPages payload total)
    (hmost : max 1 total ≤ most) :
    EndsWithin stationsRequest (max 1 total) ((stations most).run.fetched fetch session)
      ((stations most).perform fetch session).1 := by
  refine (isReadBy_stations fetch most).endsWithin session (fun place item hitem hgoes => ?_) hmost
  obtain ⟨payload, hpayload, given, hgiven, hmore⟩ := exists_total_of_goesOn hgoes
  have hsmall := hadmits item (List.mem_of_getElem? hitem) payload hpayload given hgiven
  omega

/-- A page that admits none after it is the last. -/
theorem length_of_admitsPages {fetch : Request → Fetching τ Json} {most place : Nat}
    {session : Session τ} {item : Fetched} {payload : Json}
    (hitem : ((stations most).run.fetched fetch session)[place]? = some item)
    (hpayload : item.reply = .ok payload) (hadmits : AdmitsPages payload (place + 1)) :
    ((stations most).run.fetched fetch session).length = place + 1 := by
  refine (isReadBy_stations fetch most).length_eq hitem fun hgoes => ?_
  obtain ⟨_, hsame, given, hgiven, hmore⟩ := exists_total_of_goesOn hgoes
  obtain rfl := Except.ok.inj (hpayload.symm.trans hsame)
  exact absurd (hadmits given hgiven) (Int.not_le.mpr hmore)

end AirQuality.Gios
