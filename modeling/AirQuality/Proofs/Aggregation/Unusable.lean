import Mathlib.Algebra.Group.Int.Defs
import Mathlib.Data.List.Forall2
import AirQuality.Proofs.Aggregation
import AirQuality.Proofs.Region.Globe

/-!
# Reports with an unusable station

A source may list a station whose position is not on the globe, anywhere among the others.  Such a
station is passed over: the report is the same, and comes of the same calls, as without it.  Only a
station beyond reach costs the others, for then its source counts as one that lists no stations.
-/

namespace AirQuality

open Outcome
open Stage (AlikeBy)

variable {ω : Type}

/-- A source whose listings of stations are changed. -/
def Conduct.relist (change : List Station → List Station) (conduct : Conduct ω) : Conduct ω where
  name := conduct.name
  stations world :=
    { conduct.stations world with outcome := (conduct.stations world).outcome.map change }
  parameters := conduct.parameters
  measurements := conduct.measurements

theorem Conduct.relist_id (conduct : Conduct ω) : conduct.relist id = conduct := by
  unfold relist
  simp only [Except.map_id, id]

/-- A source that lists one station more, at some place among the others. -/
def Conduct.withStation (place : Nat) (station : Station) : Conduct ω → Conduct ω :=
  Conduct.relist fun stations => stations.insertIdx place station

/-- A source that lists no stations. -/
def Conduct.withoutStations : Conduct ω → Conduct ω := Conduct.relist fun _ => []

namespace Collection

variable {region : Region} {station : Station}

/-! ### Stations in a region -/

theorem isHere_of_not_isOnGlobe (hoff : ¬station.position.IsOnGlobe)
    (hreach : ¬station.position.IsBeyondReach) : isHere region station = .ok false := by
  unfold isHere
  rw [Coordinate.isValid_of_not_isOnGlobe hoff hreach, ok_bind]
  rfl

theorem isHere_of_isBeyondReach (hbeyond : station.position.IsBeyondReach) :
    isHere region station = .error (.number .integerTooLarge) := by
  unfold isHere
  rw [Coordinate.isValid_of_isBeyondReach hbeyond, error_bind]

theorem here_cons_of_elsewhere (helsewhere : isHere region station = .ok false)
    (stations : List Station) : here region (station :: stations) = here region stations := by
  rw [here, helsewhere, ok_bind]
  exact bind_pure (here region stations)

/-- A station that is not in the region may stand anywhere among the others. -/
theorem here_insertIdx_of_elsewhere (helsewhere : isHere region station = .ok false)
    (stations : List Station) (place : Nat) :
    here region (stations.insertIdx place station) = here region stations := by
  induction stations generalizing place with
  | nil =>
      cases place with
      | zero => exact here_cons_of_elsewhere helsewhere []
      | succ place => rfl
  | cons first rest ih =>
      cases place with
      | zero => exact here_cons_of_elsewhere helsewhere (first :: rest)
      | succ place => rw [List.insertIdx_succ_cons, here, here, ih]

/-- A station that cannot be looked at takes all the others with it. -/
theorem exists_here_insertIdx {failure : Failure}
    (hfailure : isHere region station = .error failure) {stations : List Station} {place : Nat}
    (hplace : place ≤ stations.length) :
    ∃ other, here region (stations.insertIdx place station) = .error other := by
  induction stations generalizing place with
  | nil =>
      obtain rfl := Nat.le_zero.mp hplace
      refine ⟨failure, ?_⟩
      rw [List.insertIdx_zero, here, hfailure, error_bind]
  | cons first rest ih =>
      cases place with
      | zero =>
          refine ⟨failure, ?_⟩
          rw [List.insertIdx_zero, here, hfailure, error_bind]
      | succ place =>
          rw [List.insertIdx_succ_cons, here]
          obtain ⟨other, hother⟩ := ih (Nat.le_of_succ_le_succ hplace)
          cases isHere region first with
          | error earlier => exact ⟨earlier, rfl⟩
          | ok isInside => exact ⟨other, by rw [ok_bind, hother, error_bind]⟩

/-! ### Changed listings -/

/-- A source collects the same from listings that have the same stations in the region, or fail
where the others have none. -/
theorem ofSource_alikeBy_relist (conduct : Conduct ω) {change other : List Station → List Station}
    (hhere : ∀ world stations, (conduct.stations world).outcome = .ok stations →
      SameOrQuiet (here region (change stations)) (here region (other stations)))
    (limits : Limits) :
    AlikeBy Agree (ofSource region limits (conduct.relist change).source)
      (ofSource region limits (conduct.relist other).source) := by
  apply ofSource_alikeBy_of_visits
  · intro stage twin halike
    obtain ⟨entries, hrun⟩ := stationsOf_run (conduct.relist change) region stage
    obtain ⟨others, hother⟩ := stationsOf_run (conduct.relist other) region twin
    rw [hrun, hother, ← halike.world]
    refine ⟨?_, rfl, rfl, ?_⟩
    · simp only [Conduct.relist]
      cases hlisted : (conduct.stations stage.world).outcome with
      | error failure => exact .inl rfl
      | ok stations => exact hhere stage.world stations hlisted
    · simp only [Stage.after, Conduct.relist, halike.calls, halike.isCancelled]
  · intro station
    exact ofStation_alikeBy (Conduct.Matches.refl conduct) limits station

end Collection

namespace Aggregation

variable {region : Region} {station : Station}

/-- A source among others may be replaced by one that collects the same. -/
theorem report_of_replaced (settings : Settings) {conduct other : Conduct ω}
    (hsource : AlikeBy Collection.Agree
      (Collection.ofSource region settings.limits conduct.source)
      (Collection.ofSource region settings.limits other.source))
    (earlier later : List (Conduct ω)) (stage : Stage ω) :
    let run := (report settings ((earlier ++ conduct :: later).map Conduct.source) region).run stage
    let otherRun :=
      (report settings ((earlier ++ other :: later).map Conduct.source) region).run stage
    run.1 = otherRun.1 ∧ run.2.Alike otherRun.2 := by
  have hsame : ∀ conducts : List (Conduct ω), List.Forall₂ (fun conduct other =>
      AlikeBy Collection.Agree (Collection.ofSource region settings.limits (Conduct.source conduct))
        (Collection.ofSource region settings.limits (Conduct.source other))) conducts conducts :=
    fun _ => List.forall₂_same.mpr fun conduct _ =>
      Collection.ofSource_alikeBy (Conduct.Matches.refl conduct) region settings.limits
  exact report_of_collected settings
    (List.rel_append (hsame earlier) (.cons hsource (hsame later))) stage

/-- A station that is not on the globe, listed anywhere among others, changes neither the report nor
the calls it comes of.  But a station beyond reach does, for its source is then as one without
stations. -/
theorem report_withStation (settings : Settings) (earlier later : List (Conduct ω))
    (conduct : Conduct ω) (place : Nat) (station : Station) (region : Region) (stage : Stage ω) :
    let run := fun (listing : Conduct ω) =>
      (report settings ((earlier ++ listing :: later).map Conduct.source) region).run stage
    (¬station.position.IsOnGlobe → ¬station.position.IsBeyondReach →
      (run (conduct.withStation place station)).1 = (run conduct).1 ∧
        (run (conduct.withStation place station)).2.Alike (run conduct).2) ∧
    (station.position.IsBeyondReach →
      (∀ world stations, (conduct.stations world).outcome = .ok stations →
        place ≤ stations.length) →
      (run (conduct.withStation place station)).1 = (run conduct.withoutStations).1 ∧
        (run (conduct.withStation place station)).2.Alike (run conduct.withoutStations).2) := by
  intro run
  constructor
  · intro hoff hreach
    have hsource : AlikeBy Collection.Agree
        (Collection.ofSource region settings.limits (conduct.withStation place station).source)
        (Collection.ofSource region settings.limits (conduct.relist id).source) :=
      Collection.ofSource_alikeBy_relist conduct (fun _ stations _ =>
        .inl (Collection.here_insertIdx_of_elsewhere
          (Collection.isHere_of_not_isOnGlobe hoff hreach) stations place).symm) settings.limits
    rw [conduct.relist_id] at hsource
    exact report_of_replaced settings hsource earlier later stage
  · intro hbeyond hplace
    apply report_of_replaced
    apply Collection.ofSource_alikeBy_relist
    intro world stations hlisted
    have hhere : Collection.isHere region station = _ :=
      Collection.isHere_of_isBeyondReach hbeyond
    obtain ⟨failure, hfailure⟩ :=
      Collection.exists_here_insertIdx hhere (hplace world stations hlisted)
    have hother := Collection.uncancelled_here region (stations.insertIdx place station) failure
      hfailure
    right
    rw [hfailure, quiet_error (Bool.eq_false_iff.mp hother)]
    rfl

/-- A source with a reading of one station in the square. -/
def single : Conduct Unit where
  name := "GIOS"
  stations _ := ⟨.ok [stationIn "s1"], (), false⟩
  parameters _ _ := ⟨.ok [dust], (), false⟩
  measurements query _ := ⟨.ok [dustAt query.stationId], (), false⟩

/-- A station without a latitude. -/
def nowhere : Station := ⟨"s2", .null, .null, .int 21, "GIOS"⟩

/-- A station with a latitude that no binary64 number comes near. -/
def faraway : Station := ⟨"s2", .null, .int (10 ^ 400), .int 21, "GIOS"⟩

/-- The report of the square from one source. -/
def squareRun (conduct : Conduct Unit) : Except Failure Report × Stage Unit :=
  (report ⟨.standard, none⟩ [conduct.source] square).run (.fresh ())

theorem nowhere_not_isOnGlobe : ¬nowhere.position.IsOnGlobe := by
  rintro ⟨⟨number, hnumber, -⟩, -⟩
  cases hnumber

theorem faraway_isBeyondReach : faraway.position.IsBeyondReach :=
  .inl ⟨⟨.whole (10 ^ 400), rfl, by decide +kernel⟩, nofun⟩

theorem report_withStation_nowhere :
    ¬nowhere.position.IsOnGlobe ∧ ¬nowhere.position.IsBeyondReach ∧
      (squareRun (single.withStation 0 nowhere)).1 = (squareRun single).1 ∧
      (squareRun (single.withStation 0 nowhere)).2.calls = (squareRun single).2.calls ∧
      (squareRun single).1.toOption.map (·.summaries.length) = some 1 ∧
      faraway.position.IsBeyondReach ∧
      (squareRun (single.withStation 1 faraway)).1 = (squareRun single.withoutStations).1 := by
  have hreach : ¬nowhere.position.IsBeyondReach := by
    rintro (⟨⟨number, hnumber, -⟩, -⟩ | ⟨-, ⟨number, hnumber, -⟩⟩)
    · cases hnumber
    · cases hnumber
  obtain ⟨hsame, halike⟩ :=
    (report_withStation ⟨.standard, none⟩ [] [] single 0 nowhere square (.fresh ())).1
      nowhere_not_isOnGlobe hreach
  have hplace : ∀ world stations, (single.stations world).outcome = .ok stations →
      1 ≤ stations.length := by
    intro world stations hlisted
    cases hlisted
    decide
  obtain ⟨hlost, -⟩ :=
    (report_withStation ⟨.standard, none⟩ [] [] single 1 faraway square (.fresh ())).2
      faraway_isBeyondReach hplace
  exact ⟨nowhere_not_isOnGlobe, hreach, hsame, halike.calls, by decide +kernel,
    faraway_isBeyondReach, hlost⟩

/-- A station beyond reach takes the only summary of a report with it. -/
theorem report_withStation_faraway :
    ¬faraway.position.IsOnGlobe ∧
      (squareRun (single.withStation 1 faraway)).1.toOption.map (·.summaries.length) = some 0 ∧
      (squareRun single).1.toOption.map (·.summaries.length) = some 1 ∧
      (squareRun (single.withStation 1 faraway)).1 ≠ (squareRun single).1 := by
  have hnone : (squareRun (single.withStation 1 faraway)).1.toOption.map (·.summaries.length) =
      some 0 := by decide +kernel
  have hone : (squareRun single).1.toOption.map (·.summaries.length) = some 1 := by
    decide +kernel
  refine ⟨fun hglobe => hglobe.not_isBeyondReach faraway_isBeyondReach, hnone, hone, ?_⟩
  intro hsame
  rw [hsame, hone] at hnone
  cases hnone

end Aggregation

end AirQuality
