import AirQuality.Proofs.Fetch.Supply
import AirQuality.Proofs.Outcome
import AirQuality.Source.OpenAq

/-!
# Pages of an endpoint

An endpoint serves pages of results, oldest first, each with the same total and page size, and
nothing behind the last one.  Reading page by page stops where the total, as it is read there,
says so: with a total that is only a bound the digits of the bound stand for it, so that results
beyond the bound are never asked for.
-/

namespace AirQuality.OpenAq

open Outcome

variable {α β : Type}

/-! ### What an endpoint serves -/

/-- The request for a page of an endpoint. -/
def pageRequest (endpoint : String) (parameters : List (String × Json)) (number : Int) :
    Request :=
  ⟨s!"{base}/{endpoint}", some (parameters ++ [("page", .int number), ("limit", .int pageLimit)])⟩

/-- A payload that lists results and says how many there are and how many a page holds. -/
structure Shows (payload : Json) (items : List Json) (found limit : Json) : Prop where
  results : payload.fieldOrNull "results" = .ok (.list items)
  about : ∃ about, objectField "meta" payload = .ok about ∧
    about.fieldOrNull "found" = .ok found ∧ about.fieldOrNull "limit" = .ok limit

/-- A payload without results, such as none at all. -/
def IsBlank (payload : Json) : Prop :=
  resultsOf (payload.orElse (.object [])) = .ok (.list [])

/-- An endpoint that serves pages one after the other, each of them with results and with the
same total and page size, and nothing behind them. -/
structure Serves (upstream : Request → Json) (endpoint : String)
    (parameters : List (String × Json)) (pages : List (List Json)) (found limit : Json) :
    Prop where
  nonempty : ∀ items ∈ pages, items ≠ []
  shows : ∀ (place : Nat) (items : List Json), pages[place]? = some items →
    Shows (upstream (pageRequest endpoint parameters (place + 1))) items found limit
  blank : ∀ place : Nat, pages.length ≤ place →
    IsBlank (upstream (pageRequest endpoint parameters (place + 1)))

/-- An upstream that has pages on a shelf and nothing else. -/
def shelf (pages : List (List Json)) (found limit : Json) : Request → Json := fun request =>
  match (request.parameters.getD []).lookup "page" with
  | some (.int number) =>
    match pages[(number - 1).toNat]? with
    | some items =>
      .object [("meta", .object [("found", found), ("limit", limit)]), ("results", .list items)]
    | none => .null
  | _ => .null

theorem isBlank_null : IsBlank .null := rfl

theorem shelf_pageRequest (pages : List (List Json)) (found limit : Json) (endpoint : String)
    {parameters : List (String × Json)} (hparameters : parameters.lookup "page" = none)
    (place : Nat) :
    shelf pages found limit (pageRequest endpoint parameters (place + 1)) =
      match pages[place]? with
      | some items =>
        .object [("meta", .object [("found", found), ("limit", limit)]), ("results", .list items)]
      | none => .null := by
  simp [shelf, pageRequest, List.lookup_append, hparameters]

theorem serves_shelf {pages : List (List Json)} (hnonempty : ∀ items ∈ pages, items ≠ [])
    (found limit : Json) (endpoint : String) {parameters : List (String × Json)}
    (hparameters : parameters.lookup "page" = none) :
    Serves (shelf pages found limit) endpoint parameters pages found limit where
  nonempty := hnonempty
  shows place items hitems := by
    rw [shelf_pageRequest pages found limit endpoint hparameters, hitems]
    exact ⟨rfl, _, rfl, rfl, rfl⟩
  blank place hlength := by
    rw [shelf_pageRequest pages found limit endpoint hparameters,
      List.getElem?_eq_none_iff.mpr hlength]
    exact isBlank_null

theorem Shows.resultsOf {payload : Json} {items : List Json} {found limit : Json}
    (hshows : Shows payload items found limit) : resultsOf payload = .ok (.list items) := by
  simp only [OpenAq.resultsOf, hshows.results]
  cases items with
  | nil => rfl
  | cons item rest => rfl

theorem Shows.orElse {payload : Json} {items : List Json} {found limit : Json}
    (hshows : Shows payload items found limit) : payload.orElse (.object []) = payload := by
  have hresults := hshows.results
  cases payload with
  | object fields =>
      cases fields with
      | nil => rfl
      | cons field rest => rfl
  | _ => cases hresults

/-! ### Reading page by page -/

@[simp]
theorem answer_note (reply : Request → Except Failure Json) (level : Log.Level) (text : String) :
    Work.answer reply (note level text) = .ok () := rfl

@[simp]
theorem answer_count (reply : Request → Except Failure Json) (value : Json) (default : Int) :
    Work.answer reply (count value default) = .ok (readCount value default).1 := by
  unfold count
  cases readCount value default with
  | mk number entry =>
      cases entry with
      | none => rfl
      | some entry => rfl

section

variable {upstream : Request → Json} {endpoint : String} {parameters : List (String × Json)}

theorem answer_page (number : Int) :
    Work.answer (fun request => .ok (upstream request)) (page endpoint parameters number) =
      .ok ((upstream (pageRequest endpoint parameters number)).orElse (.object [])) := rfl

theorem answer_pagesFrom_of_isBlank (read : Json → Except Failure β) (fuel : Nat) {number : Int}
    (hblank : IsBlank (upstream (pageRequest endpoint parameters number))) :
    Work.answer (fun request => .ok (upstream request))
        (pagesFrom endpoint parameters read (fuel + 1) number) = .ok [] := by
  unfold IsBlank at hblank
  simp [pagesFrom, answer_page, hblank, Json.isPresent]

/-- The last page that the total of a payload admits, as reading page by page understands it. -/
def lastPage (found limit : Json) : Int :=
  pageCount (readCount found 0).1 (readCount limit pageLimit).1

theorem answer_pagesFrom_of_shows (read : Json → Except Failure β) (fuel : Nat) {number : Int}
    {items : List Json} {found limit : Json} (hitems : items ≠ [])
    (hshows : Shows (upstream (pageRequest endpoint parameters number)) items found limit) :
    Work.answer (fun request => .ok (upstream request))
        (pagesFrom endpoint parameters read (fuel + 1) number) =
      (do
        let values ← items.mapM read
        if lastPage found limit ≤ number then .ok values
        else
          let others ← Work.answer (fun request => .ok (upstream request))
            (pagesFrom endpoint parameters read fuel (number + 1))
          .ok (values ++ others)) := by
  obtain ⟨about, habout, hfound, hlimit⟩ := hshows.about
  have hpresent : (Json.list items).isPresent = true := by simp [Json.isPresent, hitems]
  simp only [pagesFrom, Work.answer_bind, answer_page, Work.answer_lift, answer_count, answer_note,
    ok_bind, hshows.orElse, hshows.resultsOf, hpresent, habout, hfound, hlimit, Bool.not_true,
    Bool.false_eq_true, if_false, Json.elements, lastPage]
  congr 1
  funext values
  by_cases hlast : lastPage found limit ≤ number
  · simp only [lastPage] at hlast
    simp only [hlast, if_true, Work.answer_pure]
  · simp only [lastPage] at hlast
    simp only [hlast, if_false, Work.answer_bind, Work.answer_pure]

/-- Reading from a page on brings the pages up to the last one that the total admits, but the
first of them in any case. -/
theorem answer_pagesFrom {pages : List (List Json)} {found limit : Json}
    (hserves : Serves upstream endpoint parameters pages found limit)
    (read : Json → Except Failure β) (fuel place : Nat) (hplace : place ≤ pages.length)
    (hfuel : pages.length + 1 ≤ place + fuel) :
    Work.answer (fun request => .ok (upstream request))
        (pagesFrom endpoint parameters read fuel (place + 1)) =
      ((pages.drop place).take
        (max 1 ((lastPage found limit).toNat - place))).flatten.mapM read := by
  induction fuel generalizing place with
  | zero => omega
  | succ fuel ih =>
      cases hitems : pages[place]? with
      | none =>
          have hlength := List.getElem?_eq_none_iff.mp hitems
          rw [answer_pagesFrom_of_isBlank read fuel (hserves.blank place hlength),
            List.drop_eq_nil_of_le hlength]
          simp
      | some items =>
          obtain ⟨hlt, hget⟩ := List.getElem?_eq_some_iff.mp hitems
          have hdrop : pages.drop place = items :: pages.drop (place + 1) := by
            rw [List.drop_eq_getElem_cons hlt, hget]
          rw [answer_pagesFrom_of_shows read fuel
            (hserves.nonempty items (List.mem_of_getElem? hitems))
            (hserves.shows place items hitems), hdrop]
          by_cases hlast : lastPage found limit ≤ (place : Int) + 1
          · have hone : max 1 ((lastPage found limit).toNat - place) = 1 := by omega
            simp only [hlast, if_true, hone, List.take_succ_cons, List.take_zero,
              List.flatten_cons, List.flatten_nil, List.append_nil]
            exact bind_pure _
          · have hmore : max 1 ((lastPage found limit).toNat - place) =
                max 1 ((lastPage found limit).toNat - (place + 1)) + 1 := by omega
            have hnext := ih (place + 1) (by omega) (by omega)
            push_cast at hnext
            simp only [hlast, if_false, hnext, hmore, List.take_succ_cons, List.flatten_cons,
              List.mapM_append, pure_eq_ok]

/-! ### Reading all pages -/

theorem answer_latestResults_of_shows (fuel : Nat) {items : List Json} {found limit total : Json}
    (hitems : items ≠ [])
    (hshows : Shows (upstream (pageRequest endpoint parameters 1)) items found limit)
    (htotal : exactTotal found = .ok total) (hpositive : 0 < (readCount limit pageLimit).1)
    {wanted : Option Int} (hplain : wanted = none ∨ totalValue? total = none) :
    Work.answer (fun request => .ok (upstream request))
        (latestResults fuel endpoint parameters wanted) =
      (do
        let more ← Work.answer (fun request => .ok (upstream request))
          (pagesFrom endpoint parameters .ok fuel 2)
        .ok (items ++ more)) := by
  obtain ⟨about, habout, hfound, hlimit⟩ := hshows.about
  have hpresent : (Json.list items).isPresent = true := by simp [Json.isPresent, hitems]
  have hproceed : ¬ ((!(Json.list items).isPresent) = true ∨
      (readCount limit pageLimit).1 ≤ 0) := by
    simp only [hpresent, Bool.not_true, Bool.false_eq_true, false_or]
    omega
  simp only [latestResults, Work.answer_bind, answer_page, Work.answer_lift, answer_count,
    ok_bind, hshows.orElse, hshows.resultsOf, habout, hfound, hlimit, htotal, hproceed, if_false]
  cases hvalue : totalValue? total with
  | none => simp [join]
  | some number =>
      have hwanted : wanted = none := by simpa [hvalue] using hplain
      subst hwanted
      simp [join]

/-- Without the shortcut of an exact total the results are those of the pages up to the last one
that the total admits, but of two pages in any case. -/
theorem answer_latestResults_plain {pages : List (List Json)} {found limit total : Json}
    (hserves : Serves upstream endpoint parameters pages found limit) (hne : pages ≠ [])
    (htotal : exactTotal found = .ok total) (hpositive : 0 < (readCount limit pageLimit).1)
    {wanted : Option Int} (hplain : wanted = none ∨ totalValue? total = none) {fuel : Nat}
    (hfuel : pages.length ≤ fuel) :
    Work.answer (fun request => .ok (upstream request))
        (latestResults fuel endpoint parameters wanted) =
      .ok (pages.take (max 2 (lastPage found limit).toNat)).flatten := by
  cases pages with
  | nil => exact absurd rfl hne
  | cons items rest =>
      have hmore := answer_pagesFrom hserves .ok fuel 1 (by simp) (by omega)
      have hcount : max 2 (lastPage found limit).toNat =
          max 1 ((lastPage found limit).toNat - 1) + 1 := by omega
      rw [answer_latestResults_of_shows fuel (hserves.nonempty items List.mem_cons_self)
        (hserves.shows 0 items rfl) htotal hpositive hplain]
      change (Work.answer _ (pagesFrom endpoint parameters .ok fuel 2) >>= _) = _
      change Work.answer _ (pagesFrom endpoint parameters .ok fuel 2) = _ at hmore
      rw [hmore, hcount, List.drop_one, List.tail_cons, List.take_succ_cons, List.flatten_cons]
      rw [mapM_ok (fun item => item)]
      simp only [ok_bind, List.map_id']

end

/-! ### Full pages -/

/-- Pages that all hold as many results as a page can, the last one perhaps fewer. -/
def FillsPages (size : Nat) : List (List α) → Prop
  | [] => True
  | [last] => last.length ≤ size
  | page :: next :: rest => page.length = size ∧ FillsPages size (next :: rest)

theorem FillsPages.length_flatten_le {size : Nat} {pages : List (List α)}
    (hfills : FillsPages size pages) : pages.flatten.length ≤ pages.length * size := by
  induction pages with
  | nil => simp
  | cons page rest ih =>
      rw [List.flatten_cons, List.length_append, List.length_cons, Nat.add_mul, Nat.one_mul]
      cases rest with
      | nil =>
          have hlast : page.length ≤ size := hfills
          simpa using hlast
      | cons next others =>
          obtain ⟨hfull, hrest⟩ := hfills
          have hothers := ih hrest
          omega

theorem FillsPages.lt_length_flatten_add {size : Nat} {pages : List (List α)}
    (hfills : FillsPages size pages) (hnonempty : ∀ page ∈ pages, page ≠ [])
    (hpositive : 0 < size) : pages.length * size < pages.flatten.length + size := by
  induction pages with
  | nil => simpa using hpositive
  | cons page rest ih =>
      have hpage : 0 < page.length := List.length_pos_iff.mpr (hnonempty page List.mem_cons_self)
      rw [List.flatten_cons, List.length_append, List.length_cons, Nat.add_mul, Nat.one_mul]
      cases rest with
      | nil => simpa using hpage
      | cons next others =>
          obtain ⟨hfull, hrest⟩ := hfills
          have hothers := ih hrest fun other hother =>
            hnonempty other (List.mem_cons_of_mem page hother)
          omega

/-- Full pages are as many as it takes to hold their results. -/
theorem FillsPages.length_eq_pageCount {size : Nat} {pages : List (List α)}
    (hfills : FillsPages size pages) (hnonempty : ∀ page ∈ pages, page ≠ [])
    (hpositive : 0 < size) : pageCount pages.flatten.length size = pages.length := by
  have hle := hfills.length_flatten_le
  have hlt := hfills.lt_length_flatten_add hnonempty hpositive
  have hquotient : (pages.flatten.length + size - 1) / size = pages.length :=
    Nat.div_eq_of_lt_le (by omega) (by rw [Nat.add_mul, Nat.one_mul]; omega)
  have hsize : (0 : Int) < size := by omega
  have hcast : ((pages.flatten.length : Int) + size - 1) =
      ((pages.flatten.length + size - 1 : Nat) : Int) := by omega
  rw [pageCount, if_pos hsize, hcast, ← Int.natCast_ediv, hquotient]

end AirQuality.OpenAq
