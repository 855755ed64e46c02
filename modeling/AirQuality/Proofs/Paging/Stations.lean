import AirQuality.Proofs.Fetch.ExactTime
import AirQuality.Proofs.Fetch.Stateless
import AirQuality.Proofs.Paging.Gios
import AirQuality.Proofs.Paging.OpenAq

/-!
# Listing the stations of a provider

The stations of GIOS and of OpenAQ come in pages.  Well-formed pages are listed as a whole or not at
all.  Whatever the pages say, a listing ends: it asks for no more of them than the largest totals
admit that any of them gives.
-/

namespace AirQuality

open Outcome

variable {τ : Type} [Add τ] [Sub τ] [OfNat τ 0] [LT τ] [LE τ] [DecidableLT τ] [DecidableLE τ]
  [TimeText τ]

/-! ### Well-formed pages -/

namespace Gios

/-- A provider that brings well-formed pages of stations, wherever it brings one. -/
def ServesStations (remote : Remote τ) (pages : List (List Json)) : Prop :=
  ∀ place records, pages[place]? = some records →
    (∀ record ∈ records, record.IsObject) ∧
      ∀ payload, remote.Brings (stationsRequest place) payload →
        ShowsStations payload records pages.length

theorem isAllOrNothing_stations (fetcher : Fetcher τ) {remote : Remote τ}
    {pages : List (List Json)} (hpages : pages ≠ []) (hserves : ServesStations remote pages)
    {most : Nat} (hmost : pages.length ≤ most) (session : Session τ) :
    IsAllOrNothing stationsRequest pages.length (stationsOf pages.flatten)
      ((stations most).run.fetched (fetcher.fetch remote) session)
      ((stations most).perform (fetcher.fetch remote) session).1 := by
  rw [stationsOf_flatten, ← List.length_map stationsOf]
  refine (isReadBy_stations (fetcher.fetch remote) most).isAllOrNothing (by simpa using hpages) ?_
    (by simpa using hmost) session
  intro place found hplace payload hbrings
  rw [List.getElem?_map, Option.map_eq_some_iff] at hplace
  obtain ⟨records, hrecords, rfl⟩ := hplace
  obtain ⟨hobjects, hshows⟩ := hserves place records hrecords
  rw [List.length_map]
  exact (hshows payload hbrings).readStationsPage_eq hobjects place

end Gios

namespace OpenAq

/-- A provider that brings well-formed full pages of locations, wherever it brings one. -/
structure ServesLocations (remote : Remote τ) (records : List Json) (size : Nat) : Prop where
  locations : ∀ record ∈ records, IsLocation record
  shows : ∀ place < pagesFilled records size, ∀ payload,
    remote.Brings (locationsRequest place) payload → ShowsLocations payload records size place

theorem isAllOrNothing_stations (fetcher : Fetcher τ) {remote : Remote τ} {records : List Json}
    {size : Nat} (hpositive : 0 < size) (hserves : ServesLocations remote records size)
    {most : Nat} (hmost : pagesFilled records size ≤ most) (session : Session τ) :
    IsAllOrNothing locationsRequest (pagesFilled records size) (records.map stationOf)
      ((stations true most).run.fetched (fetcher.fetch remote) session)
      ((stations true most).perform (fetcher.fetch remote) session).1 := by
  have hlength : ((pagesOf records size).map (List.map stationOf)).length =
      pagesFilled records size := by rw [List.length_map, length_pagesOf]
  have hflatten : ((pagesOf records size).map (List.map stationOf)).flatten =
      records.map stationOf := by rw [← List.map_flatten, flatten_pagesOf records hpositive]
  rw [← hlength, ← hflatten]
  refine (isReadBy_stations (fetcher.fetch remote) most).isAllOrNothing ?_ ?_
    (hlength.trans_le hmost) session
  · rw [← List.length_pos_iff, hlength]
    exact Nat.le_max_left ..
  · intro place found hplace payload hbrings
    have hless : place < pagesFilled records size := by
      rw [← hlength]
      exact (List.getElem?_eq_some_iff.mp hplace).1
    rw [pagesOf, List.map_map, List.getElem?_map, List.getElem?_range hless] at hplace
    obtain rfl := Option.some.inj hplace
    rw [hlength]
    exact (hserves.shows place hless payload hbrings).readPage_eq hpositive hserves.locations

end OpenAq

/-- Well-formed pages of stations are asked for in order and each once, and all their stations are
listed, those of GIOS without an id apart.  If a page is not brought after all attempts, none are
listed.  Each fetch makes its attempts after those of the fetches before it. -/
theorem stations_allOrNothing (fetcher : Fetcher τ) (remote : Remote τ) (session : Session τ)
    (most : Nat) :
    (∀ pages : List (List Json), pages ≠ [] → pages.length ≤ most →
      Gios.ServesStations remote pages →
        IsAllOrNothing Gios.stationsRequest pages.length (Gios.stationsOf pages.flatten)
          ((Gios.stations most).run.fetched (fetcher.fetch remote) session)
          ((Gios.stations most).perform (fetcher.fetch remote) session).1) ∧
      (∀ (records : List Json) (size : Nat), 0 < size → OpenAq.pagesFilled records size ≤ most →
        OpenAq.ServesLocations remote records size →
          IsAllOrNothing OpenAq.locationsRequest (OpenAq.pagesFilled records size)
            (records.map OpenAq.stationOf)
            ((OpenAq.stations true most).run.fetched (fetcher.fetch remote) session)
            ((OpenAq.stations true most).perform (fetcher.fetch remote) session).1) ∧
      ∀ stations ∈ [Gios.stations most, OpenAq.stations true most],
        (∀ item ∈ stations.run.fetched (fetcher.fetch remote) session, Uncancelled item.reply) →
          fetcher.ObtainsInTurn remote (stations.run.fetched (fetcher.fetch remote) session)
            session.requests (stations.perform (fetcher.fetch remote) session).2.requests := by
  refine ⟨fun pages hpages hmost hserves => ?_, fun records size hpositive hmost hserves => ?_,
    fun stations _ huncancelled => ?_⟩
  · exact Gios.isAllOrNothing_stations fetcher hpages hserves hmost session
  · exact OpenAq.isAllOrNothing_stations fetcher hpositive hserves hmost session
  · rw [Work.perform_snd]
    exact fetcher.obtainsInTurn_perform remote stations.run session huncancelled

/-- Two pages of GIOS stations, with a blank id on the first. -/
def giosPages : List (List Json) :=
  [[.object [("Identyfikator stacji", .int 1)], .object [("Identyfikator stacji", .text " ")]],
    [.object [("Identyfikator stacji", .int 2)]]]

/-- Three OpenAQ locations, on pages of two. -/
def openAqPages : List (List Json) :=
  [[.object [("id", .int 1)], .object [("id", .int 2)]], [.object [("id", .int 3)]]]

/-- Both providers on shelves, of which the pages of one number may be out of reach. -/
def shelves (down : Option Int) : Remote ℤ := .ofReplies fun request =>
  match (request.parameters.getD []).lookup "page" with
  | some (.int number) =>
    if down = some number then .answer 503 "Service Unavailable" (.text "")
    else if request.url = (Gios.stationsRequest 0).url then
      .answer 200 "OK" (.value (.object [("totalPages", .int 2),
        (Gios.stationsField, .list (giosPages.getD number.toNat []))]))
    else .answer 200 "OK" (.value (OpenAq.shelf openAqPages (.int 3) (.int 2) request))
  | _ => .answer 404 "Not Found" (.text "")

theorem servesStations_shelves (down : Option Int) :
    Gios.ServesStations (shelves down) giosPages := by
  intro place records hplace
  refine ⟨?_, ?_⟩
  · have hobjects : ∀ page ∈ giosPages, ∀ record ∈ page, record.IsObject := by
      simp [giosPages, Json.IsObject]
    exact hobjects records (List.mem_of_getElem? hplace)
  · rintro payload ⟨earlier, hpayload⟩
    have hpage : ((Gios.stationsRequest place).parameters.getD []).lookup "page" =
      some (.int place) := rfl
    have hurl : (Gios.stationsRequest place).url = (Gios.stationsRequest 0).url := rfl
    simp only [shelves, Remote.ofReplies, hpage] at hpayload
    split at hpayload
    · cases hpayload
    · rw [Int.toNat_natCast, List.getD_eq_getElem?_getD, hplace] at hpayload
      cases hpayload
      exact ⟨rfl, rfl⟩

theorem pagesFilled_openAqPages : OpenAq.pagesFilled openAqPages.flatten 2 = 2 :=
  congrArg (max 1) (Nat.ceilDiv_eq_add_pred_div 3 2)

theorem servesLocations_shelves (down : Option Int) :
    OpenAq.ServesLocations (shelves down) openAqPages.flatten 2 where
  locations record hrecord := by
    simp only [openAqPages, List.flatten_cons, List.flatten_nil, List.append_nil, List.cons_append,
      List.nil_append, List.mem_cons, List.not_mem_nil, or_false] at hrecord
    rcases hrecord with rfl | rfl | rfl
    · exact ⟨⟨_, rfl⟩, _, rfl⟩
    · exact ⟨⟨_, rfl⟩, _, rfl⟩
    · exact ⟨⟨_, rfl⟩, _, rfl⟩
  shows place hplace payload := by
    rintro ⟨earlier, hpayload⟩
    rw [pagesFilled_openAqPages] at hplace
    have hpage : ((OpenAq.locationsRequest place).parameters.getD []).lookup "page" =
      some (.int (place + 1)) := rfl
    have hurl : (OpenAq.locationsRequest place).url ≠ (Gios.stationsRequest 0).url :=
      (by decide : (OpenAq.locationsRequest 0).url ≠ (Gios.stationsRequest 0).url)
    simp only [shelves, Remote.ofReplies, hpage] at hpayload
    split at hpayload
    · cases hpayload
    · rw [OpenAq.locationsRequest, OpenAq.shelf_pageRequest _ _ _ _ rfl] at hpayload
      have hdigits (number : Nat) (hsmall : number < 10 ^ 1) : OpenAq.Tells (.int number) number :=
        .inl ⟨rfl, Nat.lt_of_lt_of_le hsmall (Nat.pow_le_pow_right (by decide) (by decide))⟩
      refine ⟨.int 3, .int 2, ?_, hdigits 3 (by decide), hdigits 2 (by decide)⟩
      obtain rfl | rfl : place = 0 ∨ place = 1 := by omega
      · cases hpayload
        exact ⟨rfl, _, rfl, rfl, rfl⟩
      · cases hpayload
        exact ⟨rfl, _, rfl, rfl, rfl⟩

/-- On the shelves all stations are listed, and none if the second page of GIOS, which is the first
of OpenAQ for its number, is out of reach. -/
theorem stations_allOrNothing_shelves :
    let fetcher : Fetcher ℤ := ⟨Gios.name, 0, 0, 0, .whole 10⟩
    ((Gios.stations 2).perform (fetcher.fetch (shelves none)) (Session.start 0)).1 =
        .ok (Gios.stationsOf giosPages.flatten) ∧
      ((OpenAq.stations true 2).perform (fetcher.fetch (shelves none)) (Session.start 0)).1 =
        .ok (openAqPages.flatten.map OpenAq.stationOf) ∧
      ((Gios.stations 2).perform (fetcher.fetch (shelves (some 1))) (Session.start 0)).1 = .ok [] ∧
      ((OpenAq.stations true 2).perform (fetcher.fetch (shelves (some 1))) (Session.start 0)).1 =
        .ok [] := by
  intro fetcher
  obtain ⟨hgios, hopenAq, -⟩ := stations_allOrNothing fetcher (shelves none) (Session.start 0) 2
  obtain ⟨hgiosDown, hopenAqDown, -⟩ :=
    stations_allOrNothing fetcher (shelves (some 1)) (Session.start 0) 2
  have hfilled : OpenAq.pagesFilled openAqPages.flatten 2 ≤ 2 := pagesFilled_openAqPages.le
  have hbrought (fetched : List Fetched)
      (hall : (fetched.all fun item => item.reply.toOption.isSome) = true) :
      ∀ item ∈ fetched, ∃ payload, item.reply = .ok payload := by
    intro item hitem
    have hsome := List.all_eq_true.mp hall item hitem
    cases hreply : item.reply with
    | ok payload => exact ⟨payload, rfl⟩
    | error failure =>
        rw [hreply] at hsome
        cases hsome
  refine ⟨?_, ?_, ?_, ?_⟩
  · exact ((hgios giosPages (by simp [giosPages]) le_rfl (servesStations_shelves none)).whole
      (hbrought _ rfl)).2
  · exact ((hopenAq openAqPages.flatten 2 (by decide) hfilled
      (servesLocations_shelves none)).whole (hbrought _ rfl)).2
  · exact (hgiosDown giosPages (by simp [giosPages]) le_rfl (servesStations_shelves _)).nothing
      ⟨Gios.stationsRequest 1, .error (.unavailable Gios.name (Gios.stationsRequest 1).url _)⟩
      (.tail _ (.head _)) _ rfl
  · exact (hopenAqDown openAqPages.flatten 2 (by decide) hfilled
      (servesLocations_shelves _)).nothing ⟨OpenAq.locationsRequest 0, .error _⟩ (.head _) _ rfl

/-! ### Pages of any kind -/

/-- Whatever the pages hold, a listing of stations ends, and asks for its pages in order.  There are
no more of them than the largest number of pages that is given, or than it takes for the largest
total at the least size of a page; and one page in any case.  A page without a positive total, or
without a positive size, is the last. -/
theorem stations_end (fetcher : Fetcher τ) (remote : Remote τ) (session : Session τ)
    (hasKey : Bool) (most : Nat) :
    let gios := (Gios.stations most).run.fetched (fetcher.fetch remote) session
    let openAq := (OpenAq.stations hasKey most).run.fetched (fetcher.fetch remote) session
    (∀ total : Nat,
      (∀ item ∈ gios, ∀ payload, item.reply = .ok payload → Gios.AdmitsPages payload total) →
        max 1 total ≤ most →
          EndsWithin Gios.stationsRequest (max 1 total) gios
            ((Gios.stations most).perform (fetcher.fetch remote) session).1) ∧
      (∀ (place : Nat) (item : Fetched) (payload : Json), gios[place]? = some item →
        item.reply = .ok payload → Gios.AdmitsPages payload 0 → gios.length = place + 1) ∧
      (∀ total size : Nat, 0 < size →
        (∀ item ∈ openAq, ∀ payload, item.reply = .ok payload → ∀ found limit,
          OpenAq.Gives payload found limit → (OpenAq.readCount found 0).1 ≤ total ∧
            ((OpenAq.readCount limit OpenAq.pageLimit).1 ≤ 0 ∨
              size ≤ (OpenAq.readCount limit OpenAq.pageLimit).1)) →
        max 1 (total ⌈/⌉ size) ≤ most →
          EndsWithin OpenAq.locationsRequest (max 1 (total ⌈/⌉ size)) openAq
            ((OpenAq.stations hasKey most).perform (fetcher.fetch remote) session).1) ∧
      ∀ (place : Nat) (item : Fetched) (payload : Json), openAq[place]? = some item →
        item.reply = .ok payload →
        (∀ found limit, OpenAq.Gives payload found limit → OpenAq.IsNoCount found ∨
          (OpenAq.readCount found 0).1 ≤ 0 ∨ (OpenAq.readCount limit OpenAq.pageLimit).1 ≤ 0) →
          openAq.length = place + 1 := by
  intro gios openAq
  refine ⟨fun total => Gios.endsWithin_stations,
    fun place item payload hitem hpayload hadmits => ?_,
    fun total size => OpenAq.endsWithin_stations, fun place item payload => OpenAq.length_of_gives⟩
  exact Gios.length_of_admitsPages hitem hpayload fun given hgiven =>
    (hadmits given hgiven).trans (by omega)

/-- Totals of GIOS, and totals and sizes of OpenAQ, that contradict each other from page to page. -/
def erraticCounts : List (Json × Json × Json) :=
  [(.int 5, .null, .null), (.int 3, .text ">3", .int 2), (.text "3", .text "many", .null)]

/-- A page of either provider with such counts. -/
def erraticPage (counts : Json × Json × Json) : Json :=
  .object [("totalPages", counts.1), ("results", .list [.object []]),
    ("meta", .object [("found", counts.2.1), ("limit", counts.2.2)])]

def erratic : Remote ℤ := .ofReplies fun request =>
  match (request.parameters.getD []).lookup "page" with
  | some (.int number) =>
    .answer 200 "OK" (.value (erraticPage (erraticCounts.getD number.toNat default)))
  | _ => .answer 404 "Not Found" (.text "")

/-- Of five pages of GIOS three are asked for, as the third has no number of pages, and of OpenAQ
two, as the second has no total. -/
theorem stations_end_erratic :
    let fetcher : Fetcher ℤ := ⟨Gios.name, 0, 0, 0, .whole 10⟩
    let session : Session ℤ := Session.start 0
    let gios := (Gios.stations 5).run.fetched (fetcher.fetch erratic) session
    let openAq := (OpenAq.stations true 5).run.fetched (fetcher.fetch erratic) session
    EndsWithin Gios.stationsRequest (max 1 5) gios
        ((Gios.stations 5).perform (fetcher.fetch erratic) session).1 ∧
      gios.length = 3 ∧
      EndsWithin OpenAq.locationsRequest (max 1 (3 ⌈/⌉ 2)) openAq
        ((OpenAq.stations true 5).perform (fetcher.fetch erratic) session).1 ∧
      openAq.length = 2 := by
  intro fetcher session gios openAq
  obtain ⟨hgios, hgiosLast, hopenAq, hopenAqLast⟩ := stations_end fetcher erratic session true 5
  have hgiosReplies : gios.map Fetched.reply =
      erraticCounts.map fun counts => .ok (erraticPage counts) := rfl
  have hopenAqReplies : openAq.map Fetched.reply =
      (erraticCounts.drop 1).map fun counts => .ok (erraticPage counts) := rfl
  refine ⟨hgios 5 (fun item hitem payload hpayload => ?_) (by decide),
    hgiosLast 2 _ _ rfl rfl nofun,
    hopenAq 3 2 (by decide) (fun item hitem payload hpayload found limit hgives => ?_) ?_,
    hopenAqLast 1 _ _ rfl rfl ?_⟩
  · have hreply := hgiosReplies ▸ List.mem_map_of_mem hitem
    rw [hpayload] at hreply
    simp only [erraticCounts, List.map_cons, List.map_nil, List.mem_cons, List.not_mem_nil,
      or_false, Except.ok.injEq] at hreply
    rcases hreply with rfl | rfl | rfl
    · rintro given ⟨⟩
      decide
    · rintro given ⟨⟩
      decide
    · rintro given ⟨⟩
  · have hreply := hopenAqReplies ▸ List.mem_map_of_mem hitem
    rw [hpayload] at hreply
    simp only [erraticCounts, List.drop_succ_cons, List.drop_zero, List.map_cons, List.map_nil,
      List.mem_cons, List.not_mem_nil, or_false, Except.ok.injEq] at hreply
    obtain ⟨about, habout, hfound, hlimit⟩ := hgives
    rcases hreply with rfl | rfl
    · cases habout
      cases hfound
      cases hlimit
      decide
    · cases habout
      cases hfound
      cases hlimit
      decide
  · exact max_le (by decide) ((ceilDiv_le_iff_le_smul (by decide)).mpr (by decide))
  · rintro found limit ⟨about, habout, hfound, hlimit⟩
    cases habout
    cases hfound
    exact .inl (.inr (by decide))

end AirQuality
