import AirQuality.Proofs.Decimal.Numeral
import AirQuality.Proofs.OpenAq.Pages

/-!
# Reading every page

Without a cap, or with a total that is only a bound, every page is to be read.  How many pages
there are is then decided by the digits of the total, which an exact total has and a bound has as
well: the results behind the first pages of a bound such as `>1000` are never asked for.
-/

namespace AirQuality.OpenAq

open Outcome

/-! ### Totals -/

/-- A whole number has no mark in front. -/
theorem dropWhile_mark_intText (total : Int) :
    (Decimal.intText total).dropWhile (· = '>') = Decimal.intText total := by
  unfold Decimal.intText
  split
  · rfl
  · cases hdigits : Decimal.natText total.natAbs with
    | nil => rfl
    | cons c rest =>
        have hmem : c ∈ Decimal.natText total.natAbs := by simp [hdigits]
        have hdigit : c.isDigit := Decimal.isDigit_of_mem_natText hmem
        have hmark : c ≠ '>' := by
          rintro rfl
          exact absurd hdigit (by decide)
        exact List.dropWhile_cons_of_neg (by simpa using hmark)

theorem readCount_int_of_ne_zero {total : Int} (hnonzero : total ≠ 0)
    (hsize : total.natAbs < 10 ^ Decimal.maxIntegerDigits) (default : Int) :
    (readCount (.int total) default).1 = total := by
  have hshown : (Json.int total).display.toList = Decimal.intText total := by
    simp [Json.display, Json.quoted, Json.inner]
  simp [readCount, Json.isPresent, hnonzero, hshown, dropWhile_mark_intText,
    Decimal.readInt?_intText hsize]

/-- An exact total is read the same way on every page, if it may be written in digits. -/
theorem readCount_int {total : Int} (hsize : total.natAbs < 10 ^ Decimal.maxIntegerDigits) :
    (readCount (.int total) 0).1 = total := by
  by_cases hzero : total = 0
  · simp [readCount, Json.isPresent, hzero]
  · exact readCount_int_of_ne_zero hzero hsize 0

theorem readCount_text {raw : String} {total : Int}
    (hread : Decimal.permissiveStyle.readInt? raw.toList = some total) (default : Int) :
    (readCount (.text raw) default).1 = total := by
  have hpresent : raw ≠ "" := by
    rintro rfl
    have hempty : Decimal.permissiveStyle.readInt? "".toList = none := by decide
    rw [hempty] at hread
    cases hread
  have hplain : raw.toList.dropWhile (· = '>') = raw.toList := by
    cases hchars : raw.toList with
    | nil => rfl
    | cons c rest =>
        have hmark : c ≠ '>' := by
          rintro rfl
          rw [hchars, Decimal.readInt?_cons_eq_none (by decide) (by decide) (by decide)
            (by decide)] at hread
          cases hread
        exact List.dropWhile_cons_of_neg (by simpa using hmark)
  simp [readCount, Json.isPresent, hpresent, Json.display, hplain, hread]

/-! ### Every page -/

/-- A total that stands as a number or as a text of digits, and not as a fraction. -/
def IsWritten (found : Json) : Prop :=
  (∃ number : Int, found = .int number ∧ number.natAbs < 10 ^ Decimal.maxIntegerDigits) ∨
    ∃ raw : String, found = .text raw

theorem readCount_of_isWritten {found total : Json} {number : Int} (hwritten : IsWritten found)
    (htotal : exactTotal found = .ok total) (hvalue : totalValue? total = some number) :
    (readCount found 0).1 = number := by
  rcases hwritten with ⟨given, rfl, hsize⟩ | ⟨raw, rfl⟩
  · cases htotal
    cases hvalue
    exact readCount_int hsize
  · cases hread : Decimal.permissiveStyle.readInt? raw.toList with
    | none =>
        simp only [exactTotal, hread] at htotal
        cases htotal
        cases hvalue
    | some given =>
        simp only [exactTotal, hread] at htotal
        cases htotal
        cases hvalue
        exact readCount_text hread 0

/-- An exact total of full pages admits all of them. -/
theorem lastPage_of_fillsPages {pages : List (List Json)} {found limit total : Json} {size : Nat}
    (hlimit : (readCount limit pageLimit).1 = size) (hpositive : 0 < size)
    (hnonempty : ∀ items ∈ pages, items ≠ []) (hfills : FillsPages size pages)
    (hwritten : IsWritten found) (htotal : exactTotal found = .ok total)
    (hvalue : totalValue? total = some (pages.flatten.length : Int)) :
    lastPage found limit = pages.length := by
  rw [lastPage, readCount_of_isWritten hwritten htotal hvalue, hlimit,
    hfills.length_eq_pageCount hnonempty hpositive]

theorem flatten_take_eq_iff {pages : List (List Json)}
    (hnonempty : ∀ items ∈ pages, items ≠ []) (count : Nat) :
    (pages.take count).flatten = pages.flatten ↔ pages.length ≤ count := by
  constructor
  · intro hflatten
    apply Nat.le_of_not_lt
    intro hlt
    have hsplit : pages.flatten = (pages.take count).flatten ++ (pages.drop count).flatten := by
      rw [← List.flatten_append, List.take_append_drop]
    rw [hsplit, List.drop_eq_getElem_cons hlt, List.flatten_cons] at hflatten
    have hpage := hnonempty pages[count] (List.getElem_mem hlt)
    simp [hpage] at hflatten
  · intro hcount
    rw [List.take_of_length_le hcount]

variable {τ : Type} [Add τ] [Sub τ] [OfNat τ 0] [LT τ] [LE τ] [DecidableLT τ] [DecidableLE τ]
  [TimeText τ]

/-- Where every page is to be read, the results are those of as many pages as the digits of the
total admit, and of two pages in any case.  So they are complete exactly if there are no more
pages than that, as is the case with an exact total of full pages. -/
theorem latestResults_plain (fetcher : Fetcher τ) {remote : Remote τ}
    {upstream : Request → Json} (hsupplies : remote.Supplies upstream) {endpoint : String}
    {parameters : List (String × Json)} {pages : List (List Json)} {found limit total : Json}
    {size : Nat} (hserves : Serves upstream endpoint parameters pages found limit)
    (hpages : pages ≠ []) (hlimit : (readCount limit pageLimit).1 = size) (hpositive : 0 < size)
    (htotal : exactTotal found = .ok total) {wanted : Option Int}
    (hplain : wanted = none ∨ totalValue? total = none) {fuel : Nat}
    (hfuel : pages.length ≤ fuel) (session : Session τ) (htoken : session.token = none) :
    let outcome := ((latestResults fuel endpoint parameters wanted).perform
      (fetcher.fetch remote) session).1
    outcome = .ok (pages.take (max 2 (lastPage found limit).toNat)).flatten ∧
      (outcome = .ok pages.flatten ↔ pages.length ≤ max 2 (lastPage found limit).toNat) ∧
      (FillsPages size pages → IsWritten found →
        totalValue? total = some (pages.flatten.length : Int) →
          outcome = .ok pages.flatten) := by
  intro outcome
  have houtcome : outcome = .ok (pages.take (max 2 (lastPage found limit).toNat)).flatten := by
    have hreadable : 0 < (readCount limit pageLimit).1 := by omega
    calc
      outcome = Work.answer (fun request => .ok (upstream request))
          (latestResults fuel endpoint parameters wanted) :=
        fetcher.perform_of_supplies hsupplies _ session htoken
      _ = .ok (pages.take (max 2 (lastPage found limit).toNat)).flatten :=
        answer_latestResults_plain hserves hpages htotal hreadable hplain hfuel
  have hcomplete : outcome = .ok pages.flatten ↔
      pages.length ≤ max 2 (lastPage found limit).toNat := by
    rw [houtcome, Except.ok.injEq]
    exact flatten_take_eq_iff hserves.nonempty _
  refine ⟨houtcome, hcomplete, ?_⟩
  intro hfills hwritten hvalue
  rw [hcomplete, lastPage_of_fillsPages hlimit hpositive hserves.nonempty hfills hwritten htotal
    hvalue]
  omega

/-- Three readings on two pages with an exact total, of which none is missed. -/
theorem latestResults_plain_exact_total :
    ((latestResults 2 "sensors/1/measurements" [] none).perform
        ((⟨name, 0, 0, 0, .whole 10⟩ : Fetcher Float).fetch
          (Remote.ofUpstream (shelf [[.int 1, .int 2], [.int 3]] (.int 3) (.int 2))))
        (Session.start 0)).1 = .ok [.int 1, .int 2, .int 3] := by
  have hserves : Serves (shelf [[.int 1, .int 2], [.int 3]] (.int 3) (.int 2))
      "sensors/1/measurements" [] [[.int 1, .int 2], [.int 3]] (.int 3) (.int 2) :=
    serves_shelf (by simp) _ _ _ rfl
  have hlimit : (readCount (.int 2) pageLimit).1 = (2 : Nat) := by decide
  have htotal : exactTotal (.int 3) = .ok (.int 3) := rfl
  have hfuel : [[Json.int 1, Json.int 2], [Json.int 3]].length ≤ 2 := by decide
  have hlaw := latestResults_plain (⟨name, 0, 0, 0, .whole 10⟩ : Fetcher Float)
    (Remote.supplies_ofUpstream _) hserves (by simp) hlimit (by decide) htotal (.inl rfl) hfuel
    (Session.start 0) rfl
  have hfills : FillsPages 2 [[Json.int 1, Json.int 2], [Json.int 3]] := by simp [FillsPages]
  have hwritten : (3 : Int).natAbs < 10 ^ Decimal.maxIntegerDigits :=
    Nat.lt_of_lt_of_le (by decide : 3 < 10 ^ 1) (Nat.pow_le_pow_right (by decide) (by decide))
  exact hlaw.2.2 hfills (.inl ⟨3, rfl, hwritten⟩) rfl

/-- With a total of more than a thousand and three pages, the third page is never read. -/
theorem latestResults_bound_misses_page :
    ((latestResults 3 "sensors/1/measurements" [] (some 100)).perform
        ((⟨name, 0, 0, 0, .whole 10⟩ : Fetcher Float).fetch
          (Remote.ofUpstream
            (shelf [[.int 1], [.int 2], [.int 3]] (.text ">1000") (.int 1000))))
        (Session.start 0)).1 = .ok [.int 1, .int 2] := by
  have hserves : Serves (shelf [[.int 1], [.int 2], [.int 3]] (.text ">1000") (.int 1000))
      "sensors/1/measurements" [] [[.int 1], [.int 2], [.int 3]] (.text ">1000") (.int 1000) :=
    serves_shelf (by simp) _ _ _ rfl
  have htotal : exactTotal (.text ">1000") = .ok .null := rfl
  rw [Fetcher.perform_of_supplies _ (Remote.supplies_ofUpstream _) _ _ rfl,
    answer_latestResults_plain hserves (by simp) htotal (by decide) (.inr rfl) (by decide)]
  rfl

end AirQuality.OpenAq
