import AirQuality.Proofs.Measurement
import AirQuality.Proofs.OpenAq.Pages
import AirQuality.Proofs.Plan.Settled
import Mathlib.Algebra.Order.Floor.Div

/-!
# Reading the newest pages

With an exact total only the pages that hold the newest readings are asked for.  What is left out
are whole pages of the oldest readings, and as many readings as wanted stay, usable or not.  So
the measurements made of them are the newest of those made of all readings, but there may be too
few of them: the cap counts usable readings, and the pages are chosen by readings of any kind.
-/

namespace AirQuality.OpenAq

open Outcome
open Time (Moment)

variable {α : Type}

/-- How many of the oldest results are left out when so many are wanted. -/
def skipped (total size wanted : Nat) : Nat :=
  let unneeded := (total - wanted) / size
  if 2 ≤ unneeded then unneeded * size else 0

/-- As many results as wanted are left. -/
theorem skipped_eq_zero_or_le (total size wanted : Nat) :
    skipped total size wanted = 0 ∨ wanted ≤ total - skipped total size wanted := by
  have hle := Nat.div_mul_le_self (total - wanted) size
  by_cases hmany : 2 ≤ (total - wanted) / size
  · have hwanted : wanted < total := by
      apply Nat.lt_of_not_le
      intro hfew
      rw [Nat.sub_eq_zero_of_le hfew, Nat.zero_div] at hmany
      cases hmany
    right
    simp only [skipped, if_pos hmany]
    omega
  · left
    simp only [skipped, if_neg hmany]

/-- Of full pages, each holds the results that its place says. -/
theorem FillsPages.getElem?_eq {size : Nat} {pages : List (List α)}
    (hfills : FillsPages size pages) {place : Nat} (hplace : place < pages.length) :
    pages[place]? = some ((pages.flatten.drop (place * size)).take size) := by
  induction place generalizing pages with
  | zero =>
      cases pages with
      | nil => cases hplace
      | cons page rest =>
          rw [Nat.zero_mul, List.drop_zero, List.getElem?_cons_zero, List.flatten_cons]
          cases rest with
          | nil =>
              have hlast : page.length ≤ size := hfills
              rw [List.flatten_nil, List.append_nil, List.take_of_length_le hlast]
          | cons next others => rw [List.take_left' hfills.1]
  | succ place ih =>
      cases pages with
      | nil => cases hplace
      | cons page rest =>
          cases rest with
          | nil => simp at hplace
          | cons next others =>
              obtain ⟨hfull, hrest⟩ := hfills
              have hsplit : (place + 1) * size = page.length + place * size := by
                rw [hfull, Nat.succ_mul, Nat.add_comm]
              have hflatten : (page :: next :: others).flatten = page ++ (next :: others).flatten :=
                List.flatten_cons
              rw [List.getElem?_cons_succ, ih hrest (by simpa using hplace), hsplit, hflatten,
                List.drop_length_add_append]

theorem skipped_of_le {total size wanted : Nat} (hwanted : 0 < wanted) (hlone : total ≤ size) :
    skipped total size wanted = 0 := by
  have hnone : (total - wanted) / size = 0 := by
    rw [Nat.div_eq_zero_iff]
    omega
  rw [skipped, hnone]
  rfl

/-! ### Numbers of pages -/

theorem mem_pageNumbers_iff {first last number : Int} :
    number ∈ pageNumbers first last ↔ first ≤ number ∧ number ≤ last := by
  simp only [pageNumbers, List.mem_map, List.mem_range]
  constructor
  · rintro ⟨offset, hoffset, rfl⟩
    omega
  · rintro ⟨hfirst, hlast⟩
    exact ⟨(number - first).toNat, by omega, by omega⟩

theorem pairwise_pageNumbers (first last : Int) : (pageNumbers first last).Pairwise (· < ·) := by
  refine List.pairwise_map.mpr (List.pairwise_lt_range.imp fun {offset other} hless => ?_)
  omega

theorem length_pageNumbers (first last : Int) :
    (pageNumbers first last).length = (last + 1 - first).toNat := by
  rw [pageNumbers, List.length_map, List.length_range]

theorem firstNeeded_eq {total size wanted : Nat} :
    firstNeeded total size wanted = ((max 1 ((total - wanted) / size) : Nat) : Int) + 1 := by
  have hunneeded : max ((total : Int) - wanted) 0 = ((total - wanted : Nat) : Int) := by omega
  rw [firstNeeded, hunneeded, ← Int.natCast_ediv]
  omega

theorem pageCount_eq {total size : Nat} (hpositive : 0 < size) :
    pageCount total size = (total ⌈/⌉ size : Nat) := by
  have hsize : (0 : Int) < size := by omega
  have hcast : (total : Int) + size - 1 = ((total + size - 1 : Nat) : Int) := by omega
  rw [pageCount, if_pos hsize, hcast, Nat.ceilDiv_eq_add_pred_div, Int.natCast_ediv]

theorem lt_ceilDiv_iff {total size place : Nat} (hpositive : 0 < size) :
    place < total ⌈/⌉ size ↔ place * size < total := by
  rw [← not_le, ceilDiv_le_iff_le_smul hpositive, smul_eq_mul, not_le, Nat.mul_comm]

/-- The results on the page of a number, where pages have a size. -/
def pageItems (results : List α) (size : Nat) (number : Int) : List α :=
  (results.drop ((number - 1).toNat * size)).take size

theorem flatten_pageItems (results : List α) (size place count : Nat) :
    ((List.range count).map fun offset =>
        (results.drop ((place + offset) * size)).take size).flatten =
      (results.drop (place * size)).take (count * size) := by
  induction count with
  | zero => simp
  | succ count ih =>
      rw [List.range_succ, List.map_append, List.flatten_append, ih, Nat.succ_mul, List.take_add,
        List.drop_drop, ← Nat.add_mul, List.map_singleton, List.flatten_singleton]

/-- The pages from a place to the last one hold the results from there on. -/
theorem flatten_pageNumbers {results : List α} {size place : Nat} (hpositive : 0 < size) :
    ((pageNumbers (place + 1) (pageCount results.length size)).map
      (pageItems results size)).flatten = results.drop (place * size) := by
  have hcount : ((results.length ⌈/⌉ size : Nat) + 1 - ((place : Int) + 1)).toNat =
      results.length ⌈/⌉ size - place := by omega
  have hitems : pageItems results size ∘ (fun offset : Nat => (place : Int) + 1 + offset) =
      fun offset => (results.drop ((place + offset) * size)).take size := by
    funext offset
    have hplace : ((place : Int) + 1 + offset - 1).toNat = place + offset := by omega
    rw [Function.comp_apply, pageItems, hplace]
  have hall : results.length ≤ results.length ⌈/⌉ size * size := by
    rw [Nat.mul_comm]
    exact le_smul_ceilDiv hpositive
  rw [pageCount_eq hpositive, pageNumbers, hcount, List.map_map, hitems, flatten_pageItems]
  apply List.take_of_length_le
  rw [List.length_drop, Nat.sub_mul]
  omega

/-- One page is enough for as many results as it can hold. -/
theorem pageCount_le_one_iff {total size : Nat} (hpositive : 0 < size) :
    pageCount total size ≤ 1 ↔ total ≤ size := by
  have hone : total ⌈/⌉ size ≤ 1 ↔ total ≤ size := by
    rw [ceilDiv_le_iff_le_smul hpositive, smul_eq_mul, Nat.mul_one]
  rw [pageCount_eq hpositive, ← hone]
  omega

theorem pageNumbers_of_le {total size wanted : Nat} (hpositive : 0 < size) (hlone : total ≤ size) :
    pageNumbers (firstNeeded total size wanted) (pageCount total size) = [] := by
  have hlast := (pageCount_le_one_iff hpositive).mpr hlone
  apply List.length_eq_zero_iff.mp
  rw [length_pageNumbers, firstNeeded_eq]
  omega

/-! ### Runs -/

section

variable {upstream : Request → Json} {endpoint : String} {parameters : List (String × Json)}
  {results items : List Json} {found limit total : Json} {size wanted : Nat}
  {earlier : List Request}

/-- An endpoint that lists results in pages of a size, each of which says how many results there are
and how many a page holds.  There is a first page even without results. -/
def Lists (upstream : Request → Json) (endpoint : String) (parameters : List (String × Json))
    (results : List Json) (size : Nat) (found limit : Json) : Prop :=
  ∀ place : Nat, place = 0 ∨ place * size < results.length →
    Shows (upstream (pageRequest endpoint parameters (place + 1)))
      ((results.drop (place * size)).take size) found limit

theorem Serves.lists {pages : List (List Json)}
    (hserves : Serves upstream endpoint parameters pages found limit) (hne : pages ≠ [])
    (hfills : FillsPages size pages) :
    Lists upstream endpoint parameters pages.flatten size found limit := by
  intro place hplace
  have hlength : 0 < pages.length := List.length_pos_iff.mpr hne
  have hlt : place < pages.length := by
    rcases hplace with rfl | hplace
    · exact hlength
    · exact Nat.lt_of_mul_lt_mul_right (hplace.trans_le hfills.length_flatten_le)
  exact hserves.shows place _ (hfills.getElem?_eq hlt)

theorem comesTo_page (number : Int) :
    (page endpoint parameters number).ComesTo (Settles fun request => .ok (upstream request))
      earlier (.ok ((upstream (pageRequest endpoint parameters number)).orElse (.object [])))
      (earlier ++ [pageRequest endpoint parameters number]) :=
  Work.comesTo_bind_ok.mpr
    ⟨_, _, Work.comesTo_fetch.mpr ⟨rfl, rfl⟩, Work.comesTo_pure.mpr ⟨rfl, rfl⟩⟩

theorem comesTo_count (value : Json) (default : Int) :
    (count value default).ComesTo (Settles fun request => .ok (upstream request)) earlier
      (.ok (readCount value default).1) earlier := by
  unfold count
  cases readCount value default with
  | mk number entry =>
      cases entry with
      | none => exact Work.comesTo_pure.mpr ⟨rfl, rfl⟩
      | some entry =>
          exact Work.comesTo_bind_ok.mpr
            ⟨_, _, Work.comesTo_note, Work.comesTo_pure.mpr ⟨rfl, rfl⟩⟩

theorem comesTo_elements {number : Int}
    (hshows : Shows (upstream (pageRequest endpoint parameters number)) items found limit) :
    Work.ComesTo (Settles fun request => .ok (upstream request))
      (do
        let payload ← page endpoint parameters number
        Work.lift (do (← resultsOf payload).elements))
      earlier (.ok items) (earlier ++ [pageRequest endpoint parameters number]) := by
  refine Work.comesTo_bind_ok.mpr ⟨_, _, comesTo_page number, Work.comesTo_lift.mpr ⟨?_, rfl⟩⟩
  rw [hshows.orElse, hshows.resultsOf]
  rfl

theorem comesTo_pageNumbers (hlists : Lists upstream endpoint parameters results size found limit)
    (hpositive : 0 < size) {first : Int} (hfirst : 1 ≤ first) :
    Work.ComesTo (Settles fun request => .ok (upstream request))
      ((pageNumbers first (pageCount results.length size)).mapM fun number => do
        let payload ← page endpoint parameters number
        Work.lift (do (← resultsOf payload).elements))
      earlier
      (.ok ((pageNumbers first (pageCount results.length size)).map (pageItems results size)))
      (earlier ++ (pageNumbers first (pageCount results.length size)).map
        (pageRequest endpoint parameters)) := by
  refine Work.comesTo_mapM fun number hnumber earlier => ?_
  obtain ⟨hleast, hmost⟩ := mem_pageNumbers_iff.mp hnumber
  rw [pageCount_eq hpositive] at hmost
  have hplace : (number - 1).toNat < results.length ⌈/⌉ size := by omega
  have hshows := hlists _ (.inr ((lt_ceilDiv_iff hpositive).mp hplace))
  have hsame : ((number - 1).toNat : Int) + 1 = number := by omega
  rw [hsame] at hshows
  exact comesTo_elements hshows

/-- With an exact total the results are all but whole pages of the oldest ones, and what is asked
are the first page and those from the first needed one to the last. -/
theorem comesTo_latestResults
    (hlists : Lists upstream endpoint parameters results size found limit) (hpositive : 0 < size)
    (hlimit : (readCount limit pageLimit).1 = size) (htotal : exactTotal found = .ok total)
    (hvalue : totalValue? total = some (results.length : Int)) (hwanted : 0 < wanted)
    (fuel : Nat) (earlier : List Request) :
    (latestResults fuel endpoint parameters (some wanted)).ComesTo
      (Settles fun request => .ok (upstream request)) earlier
      (.ok (results.drop (skipped results.length size wanted)))
      (earlier ++ (1 :: pageNumbers (firstNeeded results.length size wanted)
        (pageCount results.length size)).map (pageRequest endpoint parameters)) := by
  have hshows : Shows (upstream (pageRequest endpoint parameters 1)) (results.take size) found
      limit := by
    have hfirst := hlists 0 (.inl rfl)
    rwa [Nat.zero_mul, List.drop_zero] at hfirst
  obtain ⟨about, habout, hfound, hsize⟩ := hshows.about
  have hneeded : firstNeeded results.length size wanted =
      ((max 1 ((results.length - wanted) / size) : Nat) : Int) + 1 := firstNeeded_eq
  rw [List.map_cons, List.append_cons]
  refine Work.comesTo_bind_ok.mpr ⟨_, _, comesTo_page 1, ?_⟩
  simp only [hshows.orElse, hshows.resultsOf, habout, hfound, hsize, htotal, ok_bind,
    Work.lift_ok_bind]
  refine Work.comesTo_bind_ok.mpr ⟨_, _, comesTo_count _ _, ?_⟩
  rw [hlimit, hvalue]
  by_cases hlone : results.length ≤ size
  · have hlast : pageCount results.length size ≤ 1 := (pageCount_le_one_iff hpositive).mpr hlone
    rw [pageNumbers_of_le hpositive hlone, skipped_of_le hwanted hlone, List.map_nil,
      List.append_nil, List.drop_zero, List.take_of_length_le hlone]
    split
    · exact Work.comesTo_lift.mpr ⟨rfl, rfl⟩
    · dsimp only
      rw [if_pos hlast]
      exact Work.comesTo_lift.mpr ⟨rfl, rfl⟩
  · have hlast : ¬pageCount results.length size ≤ 1 := mt (pageCount_le_one_iff hpositive).mp hlone
    have hproceed : ¬((!(Json.list (results.take size)).isPresent) = true ∨ (size : Int) ≤ 0) := by
      have hitems : results.take size ≠ [] := by
        apply List.ne_nil_of_length_pos
        rw [List.length_take]
        omega
      simp [Json.isPresent, hitems]
      omega
    rw [if_neg hproceed]
    dsimp only
    rw [if_neg hlast]
    refine Work.comesTo_bind_ok.mpr ⟨_, _, Work.comesTo_note, ?_⟩
    refine Work.comesTo_bind_ok.mpr ⟨_, _, comesTo_pageNumbers hlists hpositive (by omega), ?_⟩
    by_cases hmany : 2 ≤ (results.length - wanted) / size
    · have hplace :
          max 1 ((results.length - wanted) / size) = (results.length - wanted) / size := by
        omega
      rw [hneeded, hplace, if_neg (by omega), flatten_pageNumbers hpositive, skipped, if_pos hmany]
      exact Work.comesTo_pure.mpr ⟨rfl, rfl⟩
    · have hplace : max 1 ((results.length - wanted) / size) = 1 := by omega
      have htwo : ((1 : Nat) : Int) + 1 = 2 := rfl
      rw [hneeded, hplace, if_pos htwo, flatten_pageNumbers hpositive, skipped, if_neg hmany, join,
        Nat.one_mul, List.take_append_drop]
      exact Work.comesTo_lift.mpr ⟨rfl, rfl⟩

/-- With an exact total of full pages the results are all but whole pages of the oldest ones. -/
theorem answer_latestResults_newest {pages : List (List Json)}
    (hserves : Serves upstream endpoint parameters pages found limit) (hne : pages ≠ [])
    (hfills : FillsPages size pages) (hlimit : (readCount limit pageLimit).1 = size)
    (hpositive : 0 < size) (htotal : exactTotal found = .ok total)
    (hvalue : totalValue? total = some (pages.flatten.length : Int)) (hwanted : 0 < wanted)
    (fuel : Nat) :
    Work.answer (fun request => .ok (upstream request))
        (latestResults fuel endpoint parameters (some wanted)) =
      .ok (pages.flatten.drop (skipped pages.flatten.length size wanted)) := by
  have hlists := hserves.lists hne hfills
  exact (comesTo_latestResults hlists hpositive hlimit htotal hvalue hwanted fuel []).answer_eq

end

end AirQuality.OpenAq
