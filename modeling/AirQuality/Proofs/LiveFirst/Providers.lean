import AirQuality.Proofs.Guard.Providers
import AirQuality.Proofs.LiveFirst.Gios
import AirQuality.Proofs.LiveFirst.OpenAq
import AirQuality.Proofs.LiveFirst.OpenMeteo

/-!
# Sources that read the live feed first

Each source answers a query from its live feed, if measurements can be made of that, and else from
its archive.  This holds as long as the records that the provider may bring are regular: a live
value that is too large for a binary64 number ends the call, and then the archive is not read.
-/

namespace AirQuality

open Outcome
open Time (Moment)

section

variable {τ : Type} [Add τ] [Sub τ] [OfNat τ 0] [LT τ] [LE τ] [DecidableLT τ] [DecidableLE τ]
  [TimeText τ]

/-- A query with a key is answered from the live feed, and from the archive if no measurements can
be made of the live readings, provided that all records that may be read for it are regular.  An
Open-Meteo query has to be for a known variable at a known point. -/
theorem sources_liveFirst (fetcher : Fetcher τ) (remote : Remote τ) (now : Moment)
    (haware : now.isNaive = false) (pages : Nat) (points : List Station)
    (offered : List OpenMeteo.Variable) (query : Query) (oldest : Option Moment)
    (hcutoff : Reading.cutoff now query.limits = .ok oldest) (key : String)
    (hkey : query.parameterKey = some key) :
    ((∀ raw, Gios.MayRead remote query.parameterId raw → ∀ record ∈ raw, record.IsRegular) →
      (Gios.source now pages).IsLiveFirst fetcher remote now none query
        (Gios.feeds fetcher remote query key)) ∧
      ((∀ raw, OpenAq.MayRead remote now query raw → ∀ record ∈ raw, record.IsRegular) →
        ∃ parameters, OpenAq.ageParameters now query.limits = .ok parameters ∧
          (OpenAq.source now true pages).IsLiveFirst fetcher remote now (some pages) query
            (OpenAq.feeds fetcher remote pages query key parameters)) ∧
      ∀ point quantity,
        ((OpenMeteo.distinctPoints points).find? fun point => point.id = query.stationId) =
            some point →
          OpenMeteo.find? query.parameterId = some quantity →
            (∀ last outcome,
                OpenMeteo.MayRead remote now query.limits point quantity last outcome →
                  ∃ raw, outcome = .ok raw ∧ ∀ record ∈ raw, record.IsRegular) →
              ∃ days, OpenMeteo.pastDays query.limits = .ok days ∧
                (OpenMeteo.source now points offered).IsLiveFirst fetcher remote now none query
                  (OpenMeteo.feeds fetcher remote now query key point quantity days) :=
  ⟨fun hregular => Gios.isLiveFirst_source fetcher haware hcutoff hkey hregular pages,
    fun hregular => OpenAq.exists_isLiveFirst_source fetcher haware hcutoff hkey hregular pages,
    fun _ _ hpoint hquantity hregular => OpenMeteo.exists_isLiveFirst_source fetcher haware hcutoff
      hkey offered hpoint hquantity hregular⟩

end

/-! ### One reading everywhere -/

/-- A provider that replies to everything with one payload. -/
def Remote.constantly (payload : Json) : Remote ℤ := fun _ _ =>
  ⟨.answer 200 "OK" (.value payload), 0, false⟩

theorem Remote.eq_of_brings_constantly {payload brought : Json} {request : Request}
    (hbrings : (Remote.constantly payload).Brings request brought) : brought = payload := by
  obtain ⟨earlier, hpayload⟩ := hbrings
  exact (Except.ok.inj hpayload).symm

/-- A reading of a summer noon. -/
def noon (value : Json) : Record := ⟨.text "2025-06-01 12:00:00", value⟩

/-- A payload in which each source finds the same live reading. -/
def livePayload (record : Record) : Json :=
  .object [("Lista danych pomiarowych",
      .list [.object [("Data", record.timestamp), ("Wartość", record.value)]]),
    ("results", .list [OpenAq.listedReading record]), ("meta", .object [("found", .int 1)]),
    ("current", .object [("time", record.timestamp), ("pm10", record.value)])]

theorem isRegular_noon : (noon (.int 5)).IsRegular where
  value := by
    rintro value hvalue
    cases hvalue
    decide +kernel
  clock := nofun
  dated := by
    intro isNumber stamp hstamp
    have hall : ∀ isNumber, (Column.stampIn isNumber (noon (.int 5)).timestamp).all
        (fun stamp => Time.inCalendar (stamp.nanos / 1000)) = true := by decide +kernel
    simpa [hstamp] using hall isNumber

def noonQuery : Query := ⟨"warszawa", "pm10", ⟨some 100, none⟩, some "PM10"⟩

def noonRemote : Remote ℤ := .constantly (livePayload (noon (.int 5)))

theorem isRegular_of_gios (raw : List Record)
    (hread : Gios.MayRead noonRemote noonQuery.parameterId raw) :
    ∀ record ∈ raw, record.IsRegular := by
  obtain ⟨request, -, payload, hbrings, hrecords⟩ := hread
  obtain rfl := Remote.eq_of_brings_constantly hbrings
  obtain rfl : [noon (.int 5)] = raw := Except.ok.inj hrecords
  simpa using isRegular_noon

theorem isRegular_of_openAq (raw : List Record)
    (hread : OpenAq.MayRead noonRemote Source.epoch noonQuery raw) :
    ∀ record ∈ raw, record.IsRegular := by
  obtain ⟨parameters, -, endpoint, -, hserved⟩ := hread
  intro record hrecord
  obtain ⟨item, ⟨shown, items, ⟨number, payload, hbrings, rfl⟩, hitems, hitem⟩, hrecord⟩ :=
    hserved record hrecord
  obtain rfl := Remote.eq_of_brings_constantly hbrings
  obtain rfl : [OpenAq.listedReading (noon (.int 5))] = items := Except.ok.inj hitems
  obtain rfl := List.mem_singleton.mp hitem
  obtain rfl : noon (.int 5) = record := Except.ok.inj hrecord
  exact isRegular_noon

def pm10 : OpenMeteo.Variable :=
  ⟨"pm10", "PM10", OpenMeteo.concentration, "Particulate matter with diameter below 10 μm"⟩

theorem isRegular_of_openMeteo (last : Option Moment) (outcome : Except Failure (List Record))
    (hread : OpenMeteo.MayRead noonRemote Source.epoch noonQuery.limits Source.warsaw pm10 last
      outcome) : ∃ raw, outcome = .ok raw ∧ ∀ record ∈ raw, record.IsRegular := by
  cases hread with
  | current payload hbrings =>
      obtain rfl := Remote.eq_of_brings_constantly hbrings
      exact ⟨[noon (.int 5)], rfl, by simpa using isRegular_noon⟩
  | hourly days hdays payload hbrings =>
      obtain rfl := Remote.eq_of_brings_constantly hbrings
      exact ⟨[], rfl, List.forall_mem_nil _⟩

theorem sources_liveFirst_noon :
    Source.epoch.isNaive = false ∧ Reading.cutoff Source.epoch noonQuery.limits = .ok none ∧
      noonQuery.parameterKey = some "PM10" ∧
      (Gios.source Source.epoch 5).IsLiveFirst Source.hasty noonRemote Source.epoch none noonQuery
        (Gios.feeds Source.hasty noonRemote noonQuery "PM10") ∧
      (∃ parameters, (OpenAq.source Source.epoch true 5).IsLiveFirst Source.hasty noonRemote
        Source.epoch (some 5) noonQuery
        (OpenAq.feeds Source.hasty noonRemote 5 noonQuery "PM10" parameters)) ∧
      ∃ days, (OpenMeteo.source Source.epoch [Source.warsaw] []).IsLiveFirst Source.hasty noonRemote
        Source.epoch none noonQuery
        (OpenMeteo.feeds Source.hasty noonRemote Source.epoch noonQuery "PM10" Source.warsaw pm10
          days) := by
  obtain ⟨hgios, hopenAq, hopenMeteo⟩ := sources_liveFirst Source.hasty noonRemote Source.epoch
    rfl 5 [Source.warsaw] [] noonQuery none rfl "PM10" rfl
  obtain ⟨parameters, -, hpages⟩ := hopenAq isRegular_of_openAq
  obtain ⟨days, -, hblocks⟩ := hopenMeteo Source.warsaw pm10 rfl rfl isRegular_of_openMeteo
  exact ⟨rfl, rfl, rfl, hgios isRegular_of_gios, ⟨parameters, hpages⟩, days, hblocks⟩

/-- A live value that is a whole number too large for a binary64 number. -/
def hugeRemote : Remote ℤ := .constantly (livePayload (noon (.int (10 ^ 400))))

/-- Where no measurements can be made of the live reading, no source asks for its archive.  And
where the key is empty, Open-Meteo answers under another one. -/
theorem sources_liveFirst_huge :
    (∀ source ∈ [Gios.source Source.epoch 5, OpenAq.source Source.epoch true 5,
        OpenMeteo.source Source.epoch [Source.warsaw] []],
      (Work.perform (Source.hasty.fetch hugeRemote) (source.measurements noonQuery)
          (Session.start 0)).2.requests.length = 1 ∧
        ∀ pages feeds,
          ¬source.IsLiveFirst Source.hasty hugeRemote Source.epoch pages noonQuery feeds) ∧
      (Work.perform (Source.hasty.fetch noonRemote)
          ((OpenMeteo.source Source.epoch [Source.warsaw] []).measurements
            { noonQuery with parameterKey := some "" }) (Session.start 0)).1.toOption.map
        (fun measurements => measurements.map (·.parameterKey)) = some ["PM10"] := by
  have hfails : ∀ source ∈ [Gios.source Source.epoch 5, OpenAq.source Source.epoch true 5,
      OpenMeteo.source Source.epoch [Source.warsaw] []],
      let run := Work.perform (Source.hasty.fetch hugeRemote) (source.measurements noonQuery)
        (Session.start 0)
      run.2.requests.length = 1 ∧ Outcome.isUnguarded run.1 = true := by decide +kernel
  refine ⟨fun source hsource => ⟨(hfails source hsource).1, fun pages feeds hfirst => ?_⟩, ?_⟩
  · obtain ⟨failure, -, hescapes⟩ := hfirst.guarded.escapes (hfails source hsource).2
    exact hescapes
  · decide +kernel

end AirQuality
