import AirQuality.Proofs.Aggregation.Cancellation
import AirQuality.Proofs.Summary.Groups

/-!
# Reports of sources in another order

The order of the sources decides in which order a report lists its keys, which texts it takes, and
which of several readings at the same instant is the latest.  It decides nothing else: the keys are
the same, and under each of them the count, the extremes, the sources and the latest moment.
-/

namespace AirQuality

open Outcome

theorem ne_nil_iff_of_perm {α : Type} {items others : List α} (hperm : items.Perm others) :
    items ≠ [] ↔ others ≠ [] := by
  rw [← List.length_pos_iff, ← List.length_pos_iff, hperm.length_eq]

namespace Statistics

variable {values others : List Float}

theorem AreNumbers.perm (hnumbers : AreNumbers values) (hperm : values.Perm others) :
    AreNumbers others := fun value hvalue => hnumbers value (hperm.mem_iff.mpr hvalue)

theorem least_of_perm (hnumbers : AreNumbers values) (hsome : values ≠ [])
    (hperm : values.Perm others) : Decimal.equal (least values) (least others) = true := by
  have hothers := hnumbers.perm hperm
  have hsomeOthers := (ne_nil_iff_of_perm hperm).mp hsome
  apply (Decimal.equal_iff_place (isNaN_least hnumbers hsome)
    (isNaN_least hothers hsomeOthers)).mpr
  exact Extremes.argmin_eq_of_perm hperm (argmin_eq_some_least hnumbers hsome)
    (argmin_eq_some_least hothers hsomeOthers)

theorem greatest_of_perm (hnumbers : AreNumbers values) (hsome : values ≠ [])
    (hperm : values.Perm others) :
    Decimal.equal (greatest values) (greatest others) = true := by
  have hothers := hnumbers.perm hperm
  have hsomeOthers := (ne_nil_iff_of_perm hperm).mp hsome
  apply (Decimal.equal_iff_place (isNaN_greatest hnumbers hsome)
    (isNaN_greatest hothers hsomeOthers)).mpr
  exact Extremes.argmax_eq_of_perm hperm (argmax_eq_some_greatest hnumbers hsome)
    (argmax_eq_some_greatest hothers hsomeOthers)

end Statistics

/-! ### Summaries -/

namespace Summary

open Contribution (group keysOf members)

/-- Summaries of the same measurements, which may come in different orders.  Numbers are the same
up to the sign of a zero. -/
structure Agrees (measurements : List Measurement) (summary other : Summary) : Prop where
  key : summary.key = other.key
  count : summary.count = other.count
  least : Decimal.equal summary.least other.least = true
  greatest : Decimal.equal summary.greatest other.greatest = true
  mem_sources : ∀ source, source ∈ summary.sources ↔ source ∈ other.sources
  latestMoment : summary.latestMoment = other.latestMoment
  /-- The latest values are as much the same as all values at the latest moment are. -/
  latestValue : ∀ same : Float → Float → Prop,
    (∀ measurement ∈ measurements, ∀ twin ∈ measurements,
      measurement.timestamp.instant = summary.latestMoment.instant →
      twin.timestamp.instant = summary.latestMoment.instant →
      same measurement.number twin.number) →
    same summary.latestValue other.latestValue

variable {contributions others : List Contribution}

theorem latest?_of_perm {measurements twins : List Measurement} (hperm : measurements.Perm twins)
    {latest : Measurement} (hlatest : latest? measurements = some latest) :
    ∃ twin, latest? twins = some twin ∧ latest.timestamp.instant = twin.timestamp.instant := by
  cases htwin : latest? twins with
  | none =>
      rw [latest?_eq_none_iff.mp htwin] at hperm
      rw [latest?_eq_none_iff.mpr hperm.eq_nil] at hlatest
      cases hlatest
  | some twin =>
      rw [latest?_eq_argmax] at hlatest htwin
      exact ⟨twin, rfl, Extremes.argmax_eq_of_perm
        (f := fun measurement : Measurement => measurement.timestamp.instant) hperm hlatest htwin⟩

theorem agrees_of_perm (hperm : contributions.Perm others) {key : String}
    (hfinite : ∀ measurement ∈ group key contributions, measurement.IsFinite) {summary : Summary}
    (hsummary : ofGroup? contributions key = some summary) :
    ∃ other, ofGroup? others key = some other ∧
      summary.Agrees (group key contributions) other := by
  have hgroup := Contribution.group_perm hperm key
  obtain ⟨latest, hlatest, rfl⟩ := Option.map_eq_some_iff.mp hsummary
  obtain ⟨twin, htwin, hinstant⟩ := latest?_of_perm hgroup hlatest
  refine ⟨ofNumbers key (members key others) twin, by rw [ofGroup?, htwin]; rfl, ?_⟩
  have hmem : latest ∈ group key contributions := mem_of_latest? hlatest
  have htwinMem : twin ∈ group key contributions := hgroup.mem_iff.mpr (mem_of_latest? htwin)
  have hvalues : (Measurement.numbers (group key contributions)).Perm
      (Measurement.numbers (group key others)) := hgroup.map _
  have hnumbers := Measurement.areNumbers hfinite
  have hsome : Measurement.numbers (group key contributions) ≠ [] :=
    mt List.map_eq_nil_iff.mp (List.ne_nil_of_mem hmem)
  constructor
  case key => rfl
  case count =>
    change (Statistics.numbers (Measurement.numbers (group key contributions))).length =
      (Statistics.numbers (Measurement.numbers (group key others))).length
    rw [Statistics.numbers_eq_self hnumbers, Statistics.numbers_eq_self (hnumbers.perm hvalues)]
    exact hvalues.length_eq
  case least => exact Statistics.least_of_perm hnumbers hsome hvalues
  case greatest => exact Statistics.greatest_of_perm hnumbers hsome hvalues
  case mem_sources =>
    intro source
    change source ∈ sourcesOf (group key contributions) ↔ source ∈ sourcesOf (group key others)
    simp only [mem_sourcesOf, hgroup.mem_iff]
  case latestMoment => exact congrArg Time.Moment.atUtc hinstant
  case latestValue =>
    intro same hsame
    rw [instant_ofNumbers] at hsame
    exact hsame latest hmem twin htwinMem rfl hinstant.symm

theorem keysOf_perm (hperm : contributions.Perm others) :
    (keysOf contributions).Perm (keysOf others) := by
  apply (List.perm_ext_iff_of_nodup (Contribution.nodup_keysOf _)
    (Contribution.nodup_keysOf _)).mpr
  intro key
  rw [Contribution.mem_keysOf, Contribution.mem_keysOf]
  exact ne_nil_iff_of_perm (Contribution.group_perm hperm key)

/-- Contributions of finite numbers can be summarised in any order if they can in one. -/
theorem ofContributions_of_perm (hperm : contributions.Perm others)
    (hkeyed : ∀ contribution ∈ contributions, contribution.IsKeyed)
    (hfinite : ∀ contribution ∈ contributions, ∀ measurement ∈ contribution.measurements,
      measurement.IsFinite) {summaries : List Summary}
    (hsummaries : ofContributions contributions = .ok summaries) :
    summaries = summariesOf contributions ∧ ofContributions others = .ok (summariesOf others) := by
  have hnumbers : ∀ contribution ∈ contributions, ∀ measurement ∈ contribution.measurements,
      Column.IsNumber measurement.value := fun contribution hgiven measurement hmem =>
    (hfinite contribution hgiven measurement hmem).value
  obtain ⟨hinside, hsame⟩ := (ofContributions_eq_ok_iff hkeyed hnumbers).mp hsummaries
  refine ⟨hsame, (ofContributions_eq_ok_iff ?_ ?_).mpr ⟨?_, rfl⟩⟩
  · exact fun contribution hgiven => hkeyed contribution (hperm.mem_iff.mpr hgiven)
  · exact fun contribution hgiven => hnumbers contribution (hperm.mem_iff.mpr hgiven)
  · intro other hother
    have hothers : ∀ contribution ∈ others, ∀ measurement ∈ contribution.measurements,
        measurement.IsFinite := fun contribution hgiven =>
      hfinite contribution (hperm.mem_iff.mpr hgiven)
    obtain ⟨summary, hsummary, hagrees⟩ := agrees_of_perm hperm.symm
      (Contribution.isFinite_of_mem_group hothers other.key) (mem_summariesOf.mp hother)
    rw [hagrees.latestMoment]
    apply hinside summary
    rwa [mem_summariesOf, key_of_ofGroup? hsummary]

end Summary

/-! ### Reports -/

namespace Replies

variable {ω : Type}

/-- Sources that give these replies. -/
def sources (ω : Type) (replies : List Replies) : List (Source (StateM (Stage ω))) :=
  (replies.map fun source => source.conduct ω).map Conduct.source

/-- What the sources contribute, in their order. -/
def allContributions (region : Region) (limits : Limits) (replies : List Replies) :
    List Contribution :=
  replies.flatMap fun source => source.contributions region limits

end Replies

namespace Aggregation

open Replies (allContributions sources)

variable {ω : Type}

theorem isKeyed_of_mem_allContributions {replies : List Replies} {region : Region}
    {limits : Limits} {contribution : Contribution}
    (hmem : contribution ∈ allContributions region limits replies) : contribution.IsKeyed := by
  have hparts : contribution ∈ (parts region limits
      ((replies.map fun source => source.conduct Unit).map Conduct.source)
        (.fresh ())).1.flatten := by
    rw [parts_conduct]
    exact hmem
  exact isKeyed_of_mem_parts hparts

/-- The report of sources with settled replies, which needs workers where there are sources. -/
theorem report_sources (settings : Settings) (replies : List Replies) (region : Region)
    (stage : Stage ω) :
    ((report settings (sources ω replies) region).run stage).1 =
      if replies ≠ [] ∧ settings.workers replies.length < 0 then
        .error (.argument .tooFewWorkers)
      else
        (Summary.ofContributions (allContributions region settings.limits replies)).map
          (Report.mk region) := by
  have hlength : (replies.map fun source => source.conduct ω).length = replies.length :=
    List.length_map _
  by_cases hworkers : 0 ≤ settings.workers replies.length
  · obtain ⟨hreport, -⟩ := report_eq_parts (hlength ▸ hworkers) region stage
    rw [if_neg fun hfew => Int.not_le.mpr hfew.2 hworkers]
    refine hreport.trans ?_
    rw [parts_conduct]
    rfl
  · by_cases hnil : replies = []
    · subst hnil
      rfl
    · have hfew := Int.not_le.mp hworkers
      have hsome : (replies.map fun source => source.conduct ω) ≠ [] :=
        mt List.map_eq_nil_iff.mp hnil
      obtain ⟨entries, hrefused⟩ := report_refused hsome (hlength ▸ hfew) region stage
      rw [if_pos ⟨hnil, hfew⟩]
      exact congrArg Prod.fst hrefused

/-- There is a report where there are workers for all sources and their contributions can be
summarised. -/
theorem report_sources_eq_ok_iff {settings : Settings} {replies : List Replies} {region : Region}
    {stage : Stage ω} {given : Report} :
    ((report settings (sources ω replies) region).run stage).1 = .ok given ↔
      (replies ≠ [] → 0 ≤ settings.workers replies.length) ∧
        ∃ summaries, Summary.ofContributions (allContributions region settings.limits replies) =
          .ok summaries ∧ ⟨region, summaries⟩ = given := by
  have hworkers : (replies ≠ [] → 0 ≤ settings.workers replies.length) ↔
      ¬(replies ≠ [] ∧ settings.workers replies.length < 0) := by
    rw [not_and, Int.not_lt]
  rw [report_sources, hworkers]
  by_cases hfew : replies ≠ [] ∧ settings.workers replies.length < 0
  · rw [if_pos hfew]
    exact iff_of_false nofun fun hok => hok.1 hfew
  · rw [if_neg hfew, and_iff_right hfew]
    cases Summary.ofContributions (allContributions region settings.limits replies) with
    | error failure => exact iff_of_false nofun nofun
    | ok summaries => simp [Except.map]

/-- Reports of sources in another order have summaries of the same keys, which agree. -/
theorem report_of_perm (settings : Settings) {replies others : List Replies}
    (hperm : replies.Perm others) (region : Region) (stage later : Stage ω)
    (hfinite : ∀ contribution ∈ allContributions region settings.limits replies,
      ∀ measurement ∈ contribution.measurements, measurement.IsFinite) :
    let run := (report settings (sources ω replies) region).run stage
    let otherRun := (report settings (sources ω others) region).run later
    (0 ≤ settings.workers replies.length →
      (∀ contribution ∈ allContributions region settings.limits replies,
        ∀ measurement ∈ contribution.measurements,
          Time.inCalendar measurement.timestamp.instant = true) →
      ∃ given, run.1 = .ok given) ∧
    ∀ given, run.1 = .ok given → ∃ other, otherRun.1 = .ok other ∧ given.region = other.region ∧
      (given.summaries.map (·.key)).Perm (other.summaries.map (·.key)) ∧
      ∀ key summary twin, given.get? key = some summary → other.get? key = some twin →
        summary.Agrees (Contribution.group key (allContributions region settings.limits replies))
          twin := by
  intro run otherRun
  have hall : (allContributions region settings.limits replies).Perm
      (allContributions region settings.limits others) := hperm.flatMap_right _
  have hkeyed : ∀ contribution ∈ allContributions region settings.limits replies,
      contribution.IsKeyed := fun _ hmem => isKeyed_of_mem_allContributions hmem
  constructor
  · intro hworkers hinside
    have hsound : ∀ contribution ∈ allContributions region settings.limits replies,
        contribution.IsSound := fun contribution hgiven measurement hmem =>
      ⟨(hfinite contribution hgiven measurement hmem).value,
        hinside contribution hgiven measurement hmem⟩
    obtain ⟨summaries, hsummaries⟩ := Summary.exists_ofContributions hkeyed hsound
    exact ⟨_, report_sources_eq_ok_iff.mpr ⟨fun _ => hworkers, summaries, hsummaries, rfl⟩⟩
  · intro given hgiven
    obtain ⟨hworkers, summaries, hsummaries, rfl⟩ := report_sources_eq_ok_iff.mp hgiven
    obtain ⟨rfl, hothers⟩ := Summary.ofContributions_of_perm hall hkeyed hfinite hsummaries
    have hotherWorkers : others ≠ [] → 0 ≤ settings.workers others.length := by
      rw [← ne_nil_iff_of_perm hperm, ← hperm.length_eq]
      exact hworkers
    have hother : otherRun.1 = .ok ⟨region, Summary.summariesOf
        (allContributions region settings.limits others)⟩ :=
      report_sources_eq_ok_iff.mpr ⟨hotherWorkers, _, hothers, rfl⟩
    refine ⟨_, hother, rfl, ?_, ?_⟩
    · rw [Summary.map_key_summariesOf, Summary.map_key_summariesOf]
      exact Summary.keysOf_perm hall
    · intro key summary twin hsummary htwin
      rw [Summary.get?_summariesOf] at hsummary htwin
      obtain ⟨other, hfound, hagrees⟩ := Summary.agrees_of_perm hall
        (Contribution.isFinite_of_mem_group hfinite key) hsummary
      obtain rfl := Option.some.inj (hfound.symm.trans htwin)
      exact hagrees

/-- A source that says nothing of one station in the square and repeats the reading of the other
with another value. -/
def sparse : Replies where
  name := "OPENAQ"
  stations := tidy.stations
  parameters stationId := if stationId = "s1" then .error (.general "no reply") else .ok [dust]
  measurements query := .ok [{ dustAt query.stationId with value := .int 15, source := "OPENAQ" }]
  uncancelled_stations := tidy.uncancelled_stations
  uncancelled_parameters stationId := by
    split
    · exact uncancelled_error rfl
    · exact uncancelled_ok _
  uncancelled_measurements _ := uncancelled_ok _

theorem isFinite_of_int {measurement : Measurement} {value : Int}
    (hvalue : measurement.value = .int value)
    (hsmall : -Column.int64Bound ≤ value ∧ value < Column.int64Bound)
    (hfinite : Decimal.isFinite (Float.ofInt value) = true) : measurement.IsFinite := by
  constructor
  · rw [hvalue]
    exact hsmall
  · rw [Measurement.number, hvalue]
    exact hfinite

theorem allContributions_tidy_sparse :
    allContributions square .standard [tidy, sparse] =
      [dustFrom "s1", dustFrom "s2",
        ⟨stationIn "s2", dust, [{ dustAt "s2" with value := .int 15, source := "OPENAQ" }]⟩] := by
  have hhere : (Except.ok (["s1", "s2"].map stationIn) >>= Collection.here square) =
      .ok (["s1", "s2"].map stationIn) := here_square ["s1", "s2"]
  simp only [allContributions, List.flatMap_cons, List.flatMap_nil, Replies.contributions,
    Replies.shares, tidy, sparse, hhere]
  rfl

theorem report_of_perm_sparse :
    [tidy, sparse].Perm [sparse, tidy] ∧
      (∀ contribution ∈ allContributions square .standard [tidy, sparse],
        ∀ measurement ∈ contribution.measurements, measurement.IsFinite) ∧
      ∃ given other,
        ((report ⟨.standard, none⟩ (sources Unit [tidy, sparse]) square).run (.fresh ())).1 =
          .ok given ∧
        ((report ⟨.standard, none⟩ (sources Unit [sparse, tidy]) square).run (.fresh ())).1 =
          .ok other ∧
        (given.summaries.map (·.key)).Perm (other.summaries.map (·.key)) := by
  have hperm : [tidy, sparse].Perm [sparse, tidy] := .swap _ _ _
  have hfinite : ∀ contribution ∈ allContributions square .standard [tidy, sparse],
      ∀ measurement ∈ contribution.measurements, measurement.IsFinite := by
    rw [allContributions_tidy_sparse]
    simp only [List.forall_mem_cons, dustFrom]
    have htwelve : ∀ stationId, (dustAt stationId).IsFinite := fun _ =>
      isFinite_of_int rfl (by decide) (by decide)
    exact ⟨⟨htwelve "s1", nofun⟩, ⟨htwelve "s2", nofun⟩,
      ⟨isFinite_of_int rfl (by decide) (by decide), nofun⟩, nofun⟩
  have hinside : ∀ contribution ∈ allContributions square .standard [tidy, sparse],
      ∀ measurement ∈ contribution.measurements,
        Time.inCalendar measurement.timestamp.instant = true := by
    rw [allContributions_tidy_sparse]
    decide
  obtain ⟨hexists, hagrees⟩ :=
    report_of_perm ⟨.standard, none⟩ hperm square (.fresh ()) (.fresh ()) hfinite
  obtain ⟨given, hgiven⟩ := hexists (by decide) hinside
  obtain ⟨other, hother, -, hkeys, -⟩ := hagrees given hgiven
  exact ⟨hperm, hfinite, given, other, hgiven, hother, hkeys⟩

end Aggregation

end AirQuality
