import AirQuality.Json.Loose
import AirQuality.Proofs.OpenAq.AllPages
import AirQuality.Proofs.OpenAq.NewestPages
import AirQuality.Proofs.Paging

/-!
# The pages of OpenAQ locations

OpenAQ numbers the pages of an endpoint from one, and each of them gives the number of results and
how many a page holds.  A page without results is the last one, and so is one whose number the
total does not exceed.
-/

namespace AirQuality.OpenAq

open Outcome

variable {τ β : Type}

/-! ### Pages of an endpoint -/

/-- What results are read as. -/
def readResults (read : Json → Except Failure β) (results : Json) : Except Failure (List β) := do
  (← results.elements).mapM read

/-- What a page holds, and whether it is the last one. -/
def readPage (read : Json → Except Failure β) (place : Nat) (payload : Json) :
    Except Failure (List β × Bool) := do
  let shown := payload.orElse (.object [])
  let results ← resultsOf shown
  if !results.isPresent then .ok ([], true)
  else do
    let items ← readResults read results
    let about ← objectField "meta" shown
    let found ← about.fieldOrNull "found"
    let limit ← about.fieldOrNull "limit"
    .ok (items, decide (lastPage found limit ≤ place + 1))

/-- The pages of an endpoint, each result of which is read at once. -/
def paging (endpoint : String) (parameters : List (String × Json))
    (read : Json → Except Failure β) : Paging β :=
  ⟨fun place => pageRequest endpoint parameters (place + 1), readPage read⟩

/-- Reading a count may write an entry, and does nothing else. -/
theorem leads_count (value : Json) (default : Int) :
    (count value default).run.Leads (Work.lift (.ok (readCount value default).1)).run := by
  unfold count
  cases readCount value default with
  | mk number entry =>
      cases entry with
      | none => exact .here _
      | some entry => exact .note (.here _)

theorem governs_pagesFrom (endpoint : String) (parameters : List (String × Json))
    (read : Json → Except Failure β) :
    (paging endpoint parameters read).Governs fun most place =>
      pagesFrom endpoint parameters read most (place + 1) where
  zero _ := rfl
  succ most place := by
    refine ⟨_, bind_assoc _ _ _, fun payload => ?_⟩
    rw [pure_bind]
    simp only [Paging.step, paging, readPage]
    generalize payload.orElse (.object []) = shown
    rw [Work.lift_bind]
    refine Work.leads_lift_bind fun results => ?_
    cases results.isPresent with
    | false => exact .here _
    | true =>
        simp only [Bool.not_true, Bool.false_eq_true, if_false, readResults, Work.lift_bind]
        refine Work.leads_lift_bind fun listed => Work.leads_lift_bind fun items => ?_
        refine Work.leads_lift_bind fun about => Work.leads_lift_bind fun found => ?_
        refine (Work.leads_bind (leads_count found 0) _).trans ?_
        rw [Work.lift_ok_bind]
        refine Work.leads_lift_bind fun limit => ?_
        refine (Work.leads_bind (leads_count limit pageLimit) _).trans (.note ?_)
        simp only [Work.lift_ok_bind, decide_eq_true_eq]
        exact .here _

/-- The loop goes on after a page only if the counts there admit a further one. -/
theorem exists_counts_of_goesOn {endpoint : String} {parameters : List (String × Json)}
    {read : Json → Except Failure β} {place : Nat} {item : Fetched}
    (hgoes : (paging endpoint parameters read).GoesOn place item) :
    ∃ payload about found limit, item.reply = .ok payload ∧
      objectField "meta" payload = .ok about ∧ about.fieldOrNull "found" = .ok found ∧
      about.fieldOrNull "limit" = .ok limit ∧ (place : Int) + 1 < lastPage found limit := by
  obtain ⟨payload, items, hpayload, hread⟩ := hgoes
  simp only [paging, readPage, Json.orElse] at hread
  split at hread
  case isFalse => cases hread
  case isTrue =>
    obtain ⟨results, -, hread⟩ := bind_eq_ok hread
    split at hread
    case isTrue => cases hread
    case isFalse =>
      obtain ⟨values, -, hread⟩ := bind_eq_ok hread
      obtain ⟨about, habout, hread⟩ := bind_eq_ok hread
      obtain ⟨found, hfound, hread⟩ := bind_eq_ok hread
      obtain ⟨limit, hlimit, hread⟩ := bind_eq_ok hread
      obtain ⟨-, hmore⟩ := Prod.mk.inj (Except.ok.inj hread)
      exact ⟨payload, about, found, limit, hpayload, habout, hfound, hlimit,
        Int.lt_of_not_ge (of_decide_eq_false hmore)⟩

/-! ### Counts -/

/-- A value that tells a number: the number itself, or a text of its digits. -/
def Tells (value : Json) (number : Nat) : Prop :=
  (value = .int number ∧ number < 10 ^ Decimal.maxIntegerDigits) ∨
    ∃ raw : String, value = .text raw ∧
      Decimal.permissiveStyle.readInt? raw.toList = some (number : Int)

theorem Tells.readCount_eq {value : Json} {number : Nat} (htells : Tells value number)
    {default : Int} (hzero : number = 0 → default = 0) :
    (readCount value default).1 = number := by
  rcases htells with ⟨rfl, hsize⟩ | ⟨raw, rfl, hread⟩
  · by_cases hnumber : number = 0
    · obtain rfl := hzero hnumber
      exact readCount_int hsize
    · exact readCount_int_of_ne_zero (by omega) (by rwa [Int.natAbs_natCast]) default
  · exact readCount_text hread default

/-- A value that is no count: nothing, or a text of something else than a number. -/
def IsNoCount (value : Json) : Prop :=
  value.isPresent = false ∨
    Decimal.permissiveStyle.readInt? (value.display.toList.dropWhile (· = '>')) = none

/-- A default takes the place of what is no count. -/
theorem IsNoCount.readCount_eq {value : Json} (hnone : IsNoCount value) (default : Int) :
    (readCount value default).1 = default := by
  unfold readCount
  split
  case isTrue => rfl
  case isFalse hpresent =>
    rcases hnone with hmissing | hunread
    · rw [hmissing] at hpresent
      exact absurd rfl hpresent
    · rw [hunread]

/-- At most so many results, with at least so many on a page, lie on no more pages than that. -/
theorem pageCount_le {total size : Int} {most least : Nat} (htotal : total ≤ most)
    (hleast : 0 < least) (hsize : size ≤ 0 ∨ (least : Int) ≤ size) :
    pageCount total size ≤ (max 1 (most ⌈/⌉ least) : Nat) := by
  unfold pageCount
  split
  case isFalse => omega
  case isTrue hpositive =>
    have hwide : (least : Int) ≤ size := hsize.resolve_left (by omega)
    have hfills : total ≤ size * (most ⌈/⌉ least : Nat) :=
      calc
        total ≤ (most : Int) := htotal
        _ ≤ (least * (most ⌈/⌉ least) : Nat) := by exact_mod_cast le_smul_ceilDiv hleast
        _ = (least : Int) * (most ⌈/⌉ least : Nat) := Int.natCast_mul ..
        _ ≤ size * (most ⌈/⌉ least : Nat) := Int.mul_le_mul_of_nonneg_right hwide (by omega)
    have hquotient : (total + size - 1) / size < (most ⌈/⌉ least : Nat) + 1 := by
      apply Int.ediv_lt_of_lt_mul hpositive
      rw [Int.add_mul, Int.one_mul, Int.mul_comm]
      omega
    omega

/-! ### Locations -/

/-- A record of a location, with an object as its coordinates unless it has none. -/
def IsLocation (record : Json) : Prop :=
  record.IsObject ∧ ((record.get "coordinates").orElse (.object [])).IsObject

def stationOf (record : Json) : Station where
  id := (record.get "id").display
  displayName := record.get "name"
  latitude := ((record.get "coordinates").orElse (.object [])).get "latitude"
  longitude := ((record.get "coordinates").orElse (.object [])).get "longitude"
  source := name

theorem location_eq {record : Json} (hlocation : IsLocation record) :
    location record = .ok (stationOf record) := by
  simp only [location, objectField, hlocation.1.fieldOrNull_eq, ok_bind, pure_eq_ok,
    hlocation.2.fieldOrNull_eq, stationOf]

def locationsRequest (place : Nat) : Request :=
  pageRequest "locations" [("iso", .text country)] (place + 1)

def locationsPaging : Paging Station := paging "locations" [("iso", .text country)] location

theorem isReadBy_stations (fetch : Request → Fetching τ Json) (most : Nat) :
    locationsPaging.IsReadBy fetch most (stations true most) :=
  (governs_pagesFrom "locations" [("iso", .text country)] location).isReadBy
    (fun _ => .note (.here _)) most

/-! ### Full pages of locations -/

theorem pageItems_succ {α : Type} (results : List α) (size place : Nat) :
    pageItems results size (place + 1) = (results.drop (place * size)).take size := by
  rw [pageItems, Int.add_sub_cancel, Int.toNat_natCast]

/-- How many pages are asked for: as many as the records fill, and one in any case. -/
def pagesFilled (records : List Json) (size : Nat) : Nat := max 1 (records.length ⌈/⌉ size)

/-- The records page by page, where pages are full. -/
def pagesOf (records : List Json) (size : Nat) : List (List Json) :=
  (List.range (pagesFilled records size)).map fun (place : Nat) =>
    pageItems records size (place + 1)

theorem length_pagesOf (records : List Json) (size : Nat) :
    (pagesOf records size).length = pagesFilled records size := by
  rw [pagesOf, List.length_map, List.length_range]

theorem flatten_pagesOf (records : List Json) {size : Nat} (hpositive : 0 < size) :
    (pagesOf records size).flatten = records := by
  have hfills : records.length ≤ pagesFilled records size * size := by
    rw [Nat.mul_comm, ← smul_eq_mul, ← ceilDiv_le_iff_le_smul hpositive]
    exact Nat.le_max_right ..
  have hflatten := flatten_pageItems records size 0 (pagesFilled records size)
  simp only [Nat.zero_add, Nat.zero_mul, List.drop_zero] at hflatten
  simp only [pagesOf, pageItems_succ]
  exact hflatten.trans (List.take_of_length_le hfills)

/-- A payload that shows a page of the records, and tells their number and the size of a page. -/
def ShowsLocations (payload : Json) (records : List Json) (size place : Nat) : Prop :=
  ∃ found limit, Shows payload (pageItems records size (place + 1)) found limit ∧
    Tells found records.length ∧ Tells limit size

theorem ShowsLocations.readPage_eq {payload : Json} {records : List Json} {size place : Nat}
    (hshows : ShowsLocations payload records size place) (hpositive : 0 < size)
    (hlocations : ∀ record ∈ records, IsLocation record) :
    readPage location place payload =
      .ok ((pageItems records size (place + 1)).map stationOf,
        decide (pagesFilled records size ≤ place + 1)) := by
  obtain ⟨found, limit, hpage, hfound, hlimit⟩ := hshows
  obtain ⟨about, habout, hfield, hlimitField⟩ := hpage.about
  have hitems : (pageItems records size (place + 1)).mapM location =
      .ok ((pageItems records size (place + 1)).map stationOf) :=
    mapM_eq_ok_map fun record hrecord =>
      location_eq (hlocations record (List.mem_of_mem_drop (List.mem_of_mem_take hrecord)))
  have hlast : lastPage found limit = (records.length ⌈/⌉ size : Nat) := by
    rw [lastPage, hfound.readCount_eq fun _ => rfl, hlimit.readCount_eq (by omega),
      pageCount_eq hpositive]
  simp only [readPage, hpage.orElse, hpage.resultsOf, ok_bind]
  cases hempty : pageItems records size (place + 1) with
  | nil =>
      have hnone : records.length ⌈/⌉ size ≤ place := by
        by_contra hmore
        have hless := (lt_ceilDiv_iff hpositive).mp (Nat.lt_of_not_le hmore)
        rw [pageItems_succ, List.take_eq_nil_iff, List.drop_eq_nil_iff] at hempty
        omega
      have hone : pagesFilled records size ≤ place + 1 := by
        unfold pagesFilled
        omega
      rw [decide_eq_true hone]
      rfl
  | cons record rest =>
      rw [hempty] at hitems
      have hsame : decide (lastPage found limit ≤ (place : Int) + 1) =
          decide (pagesFilled records size ≤ place + 1) := by
        rw [hlast, decide_eq_decide, pagesFilled]
        omega
      simp only [Json.isPresent, readResults, Json.elements, habout, hfield, hlimitField, hitems,
        hsame, ok_bind, List.isEmpty_cons, Bool.not_false, Bool.not_true, Bool.false_eq_true,
        if_false]

/-! ### Pages of any kind -/

/-- A payload gives a total and a size of a page, each of them a value of any kind. -/
def Gives (payload found limit : Json) : Prop :=
  ∃ about, objectField "meta" payload = .ok about ∧ about.fieldOrNull "found" = .ok found ∧
    about.fieldOrNull "limit" = .ok limit

theorem endsWithin_stations {fetch : Request → Fetching τ Json} {hasKey : Bool}
    {most total size : Nat} {session : Session τ} (hpositive : 0 < size)
    (hgives : ∀ item ∈ (stations hasKey most).run.fetched fetch session, ∀ payload,
      item.reply = .ok payload → ∀ found limit, Gives payload found limit →
        (readCount found 0).1 ≤ total ∧
          ((readCount limit pageLimit).1 ≤ 0 ∨ size ≤ (readCount limit pageLimit).1))
    (hmost : max 1 (total ⌈/⌉ size) ≤ most) :
    EndsWithin locationsRequest (max 1 (total ⌈/⌉ size))
      ((stations hasKey most).run.fetched fetch session)
      ((stations hasKey most).perform fetch session).1 := by
  cases hasKey with
  | false => exact ⟨rfl, Nat.zero_le _, nofun⟩
  | true =>
      refine (isReadBy_stations fetch most).endsWithin session (fun place item hitem hgoes => ?_)
        hmost
      obtain ⟨payload, about, found, limit, hpayload, habout, hfound, hlimit, hmore⟩ :=
        exists_counts_of_goesOn hgoes
      obtain ⟨htotal, hsize⟩ := hgives item (List.mem_of_getElem? hitem) payload hpayload found
        limit ⟨about, habout, hfound, hlimit⟩
      have hpages : lastPage found limit ≤ (max 1 (total ⌈/⌉ size) : Nat) :=
        pageCount_le htotal hpositive hsize
      omega

/-- A page whose total is no count or not positive, or whose size is not positive, is the last. -/
theorem length_of_gives {fetch : Request → Fetching τ Json} {hasKey : Bool}
    {most place : Nat} {session : Session τ} {item : Fetched} {payload : Json}
    (hitem : ((stations hasKey most).run.fetched fetch session)[place]? = some item)
    (hpayload : item.reply = .ok payload)
    (hgives : ∀ found limit, Gives payload found limit →
      IsNoCount found ∨ (readCount found 0).1 ≤ 0 ∨ (readCount limit pageLimit).1 ≤ 0) :
    ((stations hasKey most).run.fetched fetch session).length = place + 1 := by
  cases hasKey with
  | false => cases hitem
  | true =>
      refine (isReadBy_stations fetch most).length_eq hitem fun hgoes => ?_
      obtain ⟨_, about, found, limit, hsame, habout, hfound, hlimit, hmore⟩ :=
        exists_counts_of_goesOn hgoes
      obtain rfl := Except.ok.inj (hpayload.symm.trans hsame)
      have hpages : lastPage found limit ≤ 1 := by
        rcases hgives found limit ⟨about, habout, hfound, hlimit⟩ with hnone | hnone | hnone
        · exact pageCount_le (hnone.readCount_eq 0).le one_pos (by omega)
        · exact pageCount_le hnone one_pos (by omega)
        · exact (if_neg (Int.not_lt.mpr hnone)).le
      omega

end AirQuality.OpenAq
