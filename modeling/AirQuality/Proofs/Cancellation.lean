import AirQuality.Proofs.Plan.Cancellation
import AirQuality.Source.Gios
import AirQuality.Source.OpenAq
import AirQuality.Source.OpenMeteo

/-!
# Sources that raise cancellations again

Each of the listings of GIOS, OpenAQ and Open-Meteo raises cancellations again, and so does each
part of it: the loops over pages, the look-up of a key, the guards, and the steps from one endpoint
to the other.  So no listing takes a cancellation for a lack of data, or goes on to the archive
after one.
-/

namespace AirQuality

open Work

open Time (Moment)

/-- A source all of whose listings raise cancellations again. -/
structure Source.Reraises (source : Source Plan) : Prop where
  stations : Work.Reraises source.stations
  parameters : ∀ stationId, Work.Reraises (source.parameters stationId)
  measurements : ∀ query, Work.Reraises (source.measurements query)

variable {α : Type}

/-! ### Archives -/

/-- The archive is read after a live feed that has come to nothing, not after a cancelled one. -/
theorem Work.reraises_orElse {live archive : Work (List α)} (hlive : live.Reraises)
    (harchive : archive.Reraises) : Work.Reraises (do
      let found ← live
      if found.isEmpty then archive else pure found) := by
  refine hlive.bind fun found => ?_
  split
  case isTrue => exact harchive
  case isFalse => exact reraises_pure found

/-- Records are read and measurements made of them, with a note if there are none. -/
theorem Work.reraises_usable {read : Work (List Record)} (hread : read.Reraises)
    (make : List Record → Except Failure (List Measurement)) (level : Log.Level)
    (topic : Log.Topic) (text : String) : Work.Reraises (do
      let records ← read
      let measurements ← lift (make records)
      if measurements.isEmpty then
        note level topic text
      pure measurements) := by
  refine hread.bind fun records => (reraises_lift _).bind fun measurements => ?_
  split
  case isTrue => exact (reraises_note level topic text).bind fun _ => reraises_pure measurements
  case isFalse => exact reraises_pure measurements

/-! ### GIOS -/

namespace Gios

theorem reraises_readStations (records : List Json) : (readStations records).Reraises := by
  induction records with
  | nil => exact reraises_pure []
  | cons record rest ih =>
      refine (reraises_lift (station? record)).bind fun found => ?_
      cases found with
      | some station => exact ih.bind fun stations => reraises_pure (station :: stations)
      | none => exact (reraises_note _ _ _).bind fun _ => ih

theorem reraises_stationsFrom (pages : Nat) (page : Int) :
    (stationsFrom pages page).Reraises := by
  induction pages generalizing page with
  | zero => exact reraises_unfinished
  | succ pages ih =>
      refine (reraises_fetch _ _).bind fun payload => ?_
      split
      case isTrue => exact reraises_pure []
      case isFalse =>
        refine (reraises_lift _).bind fun records => ?_
        refine (reraises_readStations records).bind fun stations => ?_
        refine (reraises_lift _).bind fun total => ?_
        split
        case isTrue => exact reraises_pure stations
        case isFalse => exact (ih (page + 1)).bind fun more => reraises_pure (stations ++ more)

theorem reraises_stations (pages : Nat) : (stations pages).Reraises := by
  apply Reraises.degrade
  refine (reraises_stationsFrom pages 0).bind fun stations => ?_
  exact (reraises_note _ _ _).bind fun _ => reraises_pure stations

theorem reraises_parameters (stationId : String) : (parameters stationId).Reraises := by
  apply Reraises.degrade
  refine (reraises_fetch _ _).bind fun payload => ?_
  split
  case isTrue => exact (reraises_note _ _ _).bind fun _ => reraises_pure []
  case isFalse => exact reraises_lift _

theorem reraises_lookUpKey (stationId sensorId : String) :
    (lookUpKey stationId sensorId).Reraises := by
  refine (reraises_parameters stationId).bind fun listed => ?_
  split
  case h_1 parameter _ => exact reraises_lift parameter.canonicalKey
  case h_2 => exact (reraises_note _ _ _).bind fun _ => reraises_pure CanonicalKey.unknown

theorem reraises_liveRecords (sensorId : String) : (liveRecords sensorId).Reraises :=
  Reraises.degrade ((reraises_fetch _ _).bind fun payload => reraises_lift (records payload)) _ _ _

theorem reraises_archivalRecords (sensorId : String) : (archivalRecords sensorId).Reraises :=
  Reraises.degrade ((reraises_fetch _ _).bind fun payload => reraises_lift (records payload)) _ _ _

theorem reraises_measurements (now : Moment) (query : Query) :
    (measurements now query).Reraises := by
  have hread : ∀ key, Work.Reraises (do
      let live ← usable now query key "_live_records" (liveRecords query.parameterId)
      if live.isEmpty then
        usable now query key "_archival_records" (archivalRecords query.parameterId)
      else pure live) := fun key =>
    reraises_orElse (reraises_usable (reraises_liveRecords _) _ _ _ _)
      (reraises_usable (reraises_archivalRecords _) _ _ _ _)
  unfold measurements
  split
  case h_1 key _ => exact hread key
  case h_2 => exact (reraises_lookUpKey query.stationId query.parameterId).bind hread

theorem reraises_source (now : Moment) (pages : Nat) : (source now pages).Reraises where
  stations := reraises_stations pages
  parameters := reraises_parameters
  measurements := reraises_measurements now

end Gios

/-! ### OpenAQ -/

namespace OpenAq

variable {β : Type}

theorem reraises_count (value : Json) (default : Int) : (count value default).Reraises := by
  unfold count
  split
  case h_1 number _ => exact reraises_pure number
  case h_2 number entry _ => exact (reraises_note _ _ _).bind fun _ => reraises_pure number

theorem reraises_page (endpoint : String) (parameters : List (String × Json)) (number : Int) :
    (page endpoint parameters number).Reraises :=
  (reraises_fetch _ _).bind fun payload => reraises_pure (payload.orElse (.object []))

theorem reraises_pagesFrom (endpoint : String) (parameters : List (String × Json))
    (read : Json → Except Failure β) (pages : Nat) (number : Int) :
    (pagesFrom endpoint parameters read pages number).Reraises := by
  induction pages generalizing number with
  | zero => exact reraises_unfinished
  | succ pages ih =>
      refine (reraises_page endpoint parameters number).bind fun payload => ?_
      refine (reraises_lift _).bind fun results => ?_
      split
      case isTrue => exact reraises_pure []
      case isFalse =>
        refine (reraises_lift _).bind fun items => (reraises_lift _).bind fun about => ?_
        refine (reraises_lift _).bind fun found => (reraises_count found 0).bind fun total => ?_
        refine (reraises_lift _).bind fun limit => (reraises_count limit _).bind fun size => ?_
        refine (reraises_note _ _ _).bind fun _ => ?_
        split
        case isTrue => exact reraises_pure items
        case isFalse => exact (ih (number + 1)).bind fun more => reraises_pure (items ++ more)

theorem reraises_latestResults (pages : Nat) (endpoint : String)
    (parameters : List (String × Json)) (wanted : Option Int) :
    (latestResults pages endpoint parameters wanted).Reraises := by
  refine (reraises_page endpoint parameters 1).bind fun payload => ?_
  refine (reraises_lift _).bind fun results => (reraises_lift _).bind fun about => ?_
  refine (reraises_lift _).bind fun total => (reraises_lift _).bind fun limit => ?_
  refine (reraises_count limit _).bind fun size => ?_
  split
  case isTrue => exact reraises_lift _
  case isFalse =>
    split
    case h_1 wanted found _ _ =>
      dsimp only
      split
      case isTrue => exact reraises_lift _
      case isFalse =>
        refine (reraises_note _ _ _).bind fun _ => ?_
        refine (reraises_mapM (fun number => ?_) _).bind fun tail => ?_
        · exact (reraises_page endpoint parameters number).bind fun other => reraises_lift _
        · split
          case isTrue => exact reraises_lift _
          case isFalse => exact reraises_pure tail.flatten
    case h_2 =>
      exact (reraises_pagesFrom endpoint parameters .ok pages 2).bind fun more => reraises_lift _

theorem reraises_withKey (hasKey : Bool) {work : Work (List β)} (hwork : work.Reraises) :
    (withKey hasKey work).Reraises := by
  cases hasKey with
  | true => exact hwork
  | false => exact (reraises_note _ _ _).bind fun _ => reraises_pure []

theorem reraises_stations (hasKey : Bool) (pages : Nat) : (stations hasKey pages).Reraises := by
  refine Reraises.degrade (reraises_withKey hasKey ?_) _ _ _
  refine (reraises_pagesFrom _ _ location pages 1).bind fun stations => ?_
  exact (reraises_note _ _ _).bind fun _ => reraises_pure stations

theorem reraises_parameters (hasKey : Bool) (stationId : String) :
    (parameters hasKey stationId).Reraises := by
  refine Reraises.degrade (reraises_withKey hasKey ?_) _ _ _
  exact (reraises_fetch _ _).bind fun payload => reraises_lift _

theorem reraises_records (pages : Nat) (sensorId endpoint : String)
    (parameters : List (String × Json)) (wanted : Option Int) :
    (records pages sensorId endpoint parameters wanted).Reraises := by
  apply Reraises.degrade
  exact (reraises_latestResults pages _ parameters wanted).bind fun results => reraises_lift _

theorem reraises_lookUpKey (hasKey : Bool) (stationId sensorId : String) :
    (lookUpKey hasKey stationId sensorId).Reraises := by
  refine (reraises_parameters hasKey stationId).bind fun listed => ?_
  split
  case h_1 parameter _ => exact reraises_lift parameter.canonicalKey
  case h_2 => exact (reraises_note _ _ _).bind fun _ => reraises_pure CanonicalKey.unknown

theorem reraises_measurements (now : Moment) (hasKey : Bool) (pages : Nat) (query : Query) :
    (measurements now hasKey pages query).Reraises := by
  apply reraises_withKey
  have hread : ∀ key, Work.Reraises (do
      let parameters ← lift (ageParameters now query.limits)
      let live ← usable now pages query key parameters "measurements"
      if live.isEmpty then usable now pages query key parameters "hours" else pure live) :=
    fun key => (reraises_lift _).bind fun parameters =>
      reraises_orElse (reraises_usable (reraises_records _ _ _ _ _) _ _ _ _)
        (reraises_usable (reraises_records _ _ _ _ _) _ _ _ _)
  split
  case h_1 key _ => exact hread key
  case h_2 => exact (reraises_lookUpKey hasKey query.stationId query.parameterId).bind hread

theorem reraises_source (now : Moment) (hasKey : Bool) (pages : Nat) :
    (source now hasKey pages).Reraises where
  stations := reraises_stations hasKey pages
  parameters := reraises_parameters hasKey
  measurements := reraises_measurements now hasKey pages

end OpenAq

/-! ### Open-Meteo -/

namespace OpenMeteo

theorem reraises_payload (point : Station) (id label : String) (pastDays : Option Int) :
    (payload point id label pastDays).Reraises :=
  Reraises.degrade (reraises_fetch _ _) _ _ _

theorem reraises_parameters (points : List Station) (offered : List Variable)
    (stationId : String) : (parameters points offered stationId).Reraises := by
  unfold parameters
  split
  case isTrue => exact reraises_pure _
  case isFalse => exact (reraises_note _ _ _).bind fun _ => reraises_pure []

theorem reraises_measurementsAt (now : Moment) (query : Query) (point : Station)
    (quantity : Variable) : (measurementsAt now query point quantity).Reraises := by
  refine (reraises_payload point quantity.id "current" none).bind fun current => ?_
  refine reraises_orElse (reraises_lift _) ?_
  refine (reraises_lift _).bind fun days => ?_
  exact (reraises_payload point quantity.id "hourly" (some days)).bind fun hourly => reraises_lift _

theorem reraises_measurements (now : Moment) (points : List Station) (query : Query) :
    (measurements now points query).Reraises := by
  unfold measurements
  split
  case h_1 point quantity _ _ => exact reraises_measurementsAt now query point quantity
  case h_2 => exact reraises_pure []

theorem reraises_source (now : Moment) (points : List Station) (offered : List Variable) :
    (source now points offered).Reraises where
  stations := reraises_pure _
  parameters := reraises_parameters _ offered
  measurements := reraises_measurements now _

end OpenMeteo

end AirQuality
