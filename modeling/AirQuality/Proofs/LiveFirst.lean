import AirQuality.Proofs.Cancellation
import AirQuality.Proofs.Guard
import AirQuality.Proofs.Plan.Trace
import AirQuality.Proofs.Reading.Regular

/-!
# Live readings before the archive

A source has two feeds of readings for a query, the live one and the archive.  It reads the live one
first, and the archive only if no measurements can be made of the live readings.  The two are never
mixed: the measurements are those of one feed.
-/

namespace AirQuality

open Outcome
open Time (Moment)

/-! ### Measurements with a tag -/

def Measurement.Bears (tag : Tag) (measurement : Measurement) : Prop :=
  measurement.stationId = tag.stationId ∧ measurement.parameterKey = tag.parameterKey ∧
    measurement.source = tag.source

theorem Measurement.bears_of_ofRecords {tag : Tag} {now : Moment} {limits : Limits}
    {last : Option Moment} {records : List Record} {measurements : List Measurement}
    (hmade : ofRecords tag now limits last records = .ok measurements) :
    ∀ measurement ∈ measurements, measurement.Bears tag := by
  intro measurement hmem
  obtain ⟨readings, -, hread⟩ := bind_eq_ok hmade
  obtain ⟨reading, -, hreading⟩ := exists_mem_of_mapM hread hmem
  obtain ⟨moment, -, hdone⟩ := bind_eq_ok hreading
  rw [← Except.ok.inj hdone]
  exact ⟨rfl, rfl, rfl⟩

/-! ### Feeds -/

inductive Feed where
  | live
  | archive

/-- The two feeds of a query: the tag of the measurements made of them, the requests that each feed
may take, how it is read after some requests, and up to which moment its readings count. -/
structure Feeds where
  tag : Measurement.Tag
  asks : Feed → Request → Prop
  reads : Feed → (earlier : List Request) → (raw : List Record) → (later : List Request) → Prop
  last : Feed → Option Moment

namespace Feeds

variable (now : Moment) (limits : Limits) (feeds : Feeds)

/-- A feed that is read after some requests gives measurements, possibly none. -/
def Gives (feed : Feed) (earlier : List Request) (measurements : List Measurement)
    (later : List Request) : Prop :=
  ∃ raw, feeds.reads feed earlier raw later ∧
    Measurement.ofRecords feeds.tag now limits (feeds.last feed) raw = .ok measurements

/-- The measurements are those of the live feed, if it gives some, and else those of the archive. -/
inductive LiveFirst (earlier : List Request) :
    (measurements : List Measurement) → (later : List Request) → Prop
  | live {measurements : List Measurement} {later : List Request}
      (hlive : feeds.Gives now limits .live earlier measurements later)
      (hsome : measurements ≠ []) : LiveFirst earlier measurements later
  | archive {between : List Request} {measurements : List Measurement} {later : List Request}
      (hlive : feeds.Gives now limits .live earlier [] between)
      (harchive : feeds.Gives now limits .archive between measurements later) :
      LiveFirst earlier measurements later

/-- Feeds that are read in one way, with a request at least, and have no request in common. -/
structure AreApart : Prop where
  asks : ∀ {feed earlier raw later}, feeds.reads feed earlier raw later →
    ∃ asked ≠ [], later = earlier ++ asked ∧ ∀ request ∈ asked, feeds.asks feed request
  settled : ∀ {feed earlier raw later other others}, feeds.reads feed earlier raw later →
    feeds.reads feed earlier other others → other = raw ∧ others = later
  disjoint : ∀ request, feeds.asks .live request → ¬feeds.asks .archive request

variable {now limits feeds} {earlier later : List Request} {measurements : List Measurement}

theorem LiveFirst.bears (hfirst : feeds.LiveFirst now limits earlier measurements later) :
    ∀ measurement ∈ measurements, measurement.Bears feeds.tag := by
  cases hfirst with
  | live hlive hsome =>
      obtain ⟨raw, -, hmade⟩ := hlive
      exact Measurement.bears_of_ofRecords hmade
  | archive hlive harchive =>
      obtain ⟨raw, -, hmade⟩ := harchive
      exact Measurement.bears_of_ofRecords hmade

variable {obtains : List Request → Request → Except Failure Json → List Request → Prop}

/-- Work that reads a feed and makes measurements, with a note if there are none. -/
theorem gives_of_comesTo {feed : Feed} {read : Work (List Record)} {level : Log.Level}
    {topic : Log.Topic} {text : String}
    (hread : ∀ {earlier raw later}, read.ComesTo obtains earlier (.ok raw) later →
      feeds.reads feed earlier raw later)
    (hcomes : Work.ComesTo obtains (do
      let raw ← read
      let made ← Work.lift (Measurement.ofRecords feeds.tag now limits (feeds.last feed) raw)
      if made.isEmpty then
        Work.note level topic text
      pure made) earlier (.ok measurements) later) :
    feeds.Gives now limits feed earlier measurements later := by
  obtain ⟨raw, between, hraw, hafter⟩ := Work.comesTo_bind_ok.mp hcomes
  obtain ⟨made, after, hmade, hnoted⟩ := Work.comesTo_bind_ok.mp hafter
  obtain ⟨hvalue, rfl⟩ := Work.comesTo_lift.mp hmade
  have hdone : Except.ok measurements = (.ok made : Except Failure _) ∧ later = after := by
    split at hnoted
    · exact hnoted
    · exact hnoted
  obtain ⟨hsame, rfl⟩ := hdone
  cases hsame
  exact ⟨raw, hread hraw, hvalue.symm⟩

/-- Work that reads the live feed, and then the archive if that gave nothing. -/
theorem liveFirst_of_comesTo {live archive : Work (List Measurement)}
    (hlive : ∀ {earlier measurements later},
      live.ComesTo obtains earlier (.ok measurements) later →
        feeds.Gives now limits .live earlier measurements later)
    (harchive : ∀ {earlier measurements later},
      archive.ComesTo obtains earlier (.ok measurements) later →
        feeds.Gives now limits .archive earlier measurements later)
    (hcomes : Work.ComesTo obtains (do
      let found ← live
      if found.isEmpty then archive else pure found) earlier (.ok measurements) later) :
    feeds.LiveFirst now limits earlier measurements later := by
  obtain ⟨found, between, hfound, hafter⟩ := Work.comesTo_bind_ok.mp hcomes
  cases found with
  | nil => exact .archive (hlive hfound) (harchive hafter)
  | cons first rest =>
      obtain ⟨hsame, rfl⟩ := Work.comesTo_pure.mp hafter
      cases hsame
      exact .live (hlive hfound) (List.cons_ne_nil first rest)

end Feeds

/-! ### Feeds of one request -/

section

variable {τ : Type} (fetcher : Fetcher τ) (remote : Remote τ) (tag : Measurement.Tag)

/-- Feeds of which each is read with one request.  A reply that is no payload of readings counts as
no records. -/
def Feeds.ofRequests (request : Feed → Request)
    (records : Feed → Json → Except Failure (List Record)) (last : Feed → Option Moment) :
    Feeds where
  tag := tag
  asks feed wanted := wanted = request feed
  reads feed earlier raw later := ∃ reply,
    fetcher.Obtains remote earlier (request feed) reply later ∧
      raw = listed (reply >>= records feed)
  last := last

theorem Feeds.areApart_ofRequests {request : Feed → Request}
    (records : Feed → Json → Except Failure (List Record)) (last : Feed → Option Moment)
    (hapart : request .live ≠ request .archive) :
    (ofRequests fetcher remote tag request records last).AreApart where
  asks := by
    rintro feed earlier raw later ⟨reply, hobtains, -⟩
    exact hobtains.ne_nil
  settled := by
    rintro feed earlier raw later other others ⟨reply, hobtains, rfl⟩ ⟨second, hsecond, rfl⟩
    obtain ⟨rfl, rfl⟩ := hobtains.unique hsecond
    exact ⟨rfl, rfl⟩
  disjoint := by
    rintro wanted hlive harchive
    exact hapart (hlive.symm.trans harchive)

variable {fetcher remote tag}

/-- Work that asks for the payload of a feed and reads its records within a guard. -/
theorem Feeds.reads_of_degrade {request : Feed → Request}
    {records : Feed → Json → Except Failure (List Record)} {last : Feed → Option Moment}
    {feed : Feed} {topic : Log.Topic} {name : String} {earlier later : List Request}
    {raw : List Record}
    (hcomes : Work.ComesTo (fetcher.Obtains remote) (Work.degrade topic name [] (do
      let payload ← Work.fetch (request feed).url (request feed).parameters
      Work.lift (records feed payload))) earlier (.ok raw) later) :
    (ofRequests fetcher remote tag request records last).reads feed earlier raw later := by
  obtain ⟨reply, hreply, hraw⟩ := Work.exists_of_comesTo_degrade hcomes
  exact ⟨reply, Work.comesTo_fetch.mp hreply, hraw⟩

end

/-! ### Queries with a key -/

/-- Nothing escapes from a query with a key if all records that may be read are regular. -/
theorem Query.not_escape {now : Moment} {query : Query} {oldest : Option Moment}
    {lists : Parameter → Prop} {reads : Option Moment → Except Failure (List Record) → Prop}
    {key : String} (hkey : query.parameterKey = some key)
    (hcutoff : Reading.cutoff now query.limits = .ok oldest)
    (hreads : ∀ last outcome, reads last outcome →
      ∃ raw, outcome = .ok raw ∧ ∀ record ∈ raw, record.IsRegular) (failure : Failure) :
    ¬query.Escape now lists reads failure := by
  intro hescape
  cases hescape with
  | name hnone parameter hlists hid hnull htext =>
      rw [hkey] at hnone
      cases hnone
  | shape last fault hread =>
      obtain ⟨raw, hraw, -⟩ := hreads last _ hread
      cases hraw
  | records last records hread failure hfault =>
      obtain ⟨raw, hraw, hregular⟩ := hreads last _ hread
      cases hraw
      exact Reading.not_fault_of_isRegular hcutoff hregular failure hfault

theorem Fetching.IsGuarded.mono {τ α : Type} {escapes others : Failure → Prop}
    {pages : Option Nat} {work : Fetching τ α} (hguarded : work.IsGuarded escapes pages)
    (himp : ∀ failure, escapes failure → others failure) : work.IsGuarded others pages := by
  intro session failure hfailed
  exact (hguarded session failure hfailed).imp_right (Or.imp_left (himp failure))

section

variable {τ : Type} [Add τ] [Sub τ] [OfNat τ 0] [LT τ] [LE τ] [DecidableLT τ] [DecidableLE τ]
  [TimeText τ]

/-- A source that answers a query from its feeds, the live one first.  The call comes to a list
unless it is cancelled, or has more pages to read than it may. -/
structure Source.IsLiveFirst (fetcher : Fetcher τ) (remote : Remote τ) (now : Moment)
    (pages : Option Nat) (source : Source Plan) (query : Query) (feeds : Feeds) : Prop where
  guarded : Fetching.IsGuarded (fun _ => False) pages
    (Work.perform (fetcher.fetch remote) (source.measurements query))
  apart : feeds.AreApart
  liveFirst : ∀ session measurements,
    (Work.perform (fetcher.fetch remote) (source.measurements query) session).1 =
        .ok measurements →
      feeds.LiveFirst now query.limits session.requests measurements
        (Work.perform (fetcher.fetch remote) (source.measurements query) session).2.requests
  tagged : ∀ session measurements,
    (Work.perform (fetcher.fetch remote) (source.measurements query) session).1 =
        .ok measurements →
      ∀ measurement ∈ measurements, measurement.Bears feeds.tag

/-- A source is live first if the runs of its plan are. -/
theorem Source.isLiveFirst_of_comesTo {fetcher : Fetcher τ} {remote : Remote τ} {now : Moment}
    {pages : Option Nat} {source : Source Plan} {query : Query} {feeds : Feeds}
    {escapes : Failure → Prop}
    (hguarded : Fetching.IsGuarded escapes pages
      (Work.perform (fetcher.fetch remote) (source.measurements query)))
    (hnone : ∀ failure, ¬escapes failure) (hfeeds : feeds.AreApart)
    (hreraises : Work.Reraises (source.measurements query))
    (hcomes : ∀ {earlier measurements later},
      (source.measurements query).ComesTo (fetcher.Obtains remote) earlier (.ok measurements)
        later → feeds.LiveFirst now query.limits earlier measurements later) :
    source.IsLiveFirst fetcher remote now pages query feeds := by
  have hfirst : ∀ session measurements,
      (Work.perform (fetcher.fetch remote) (source.measurements query) session).1 =
          .ok measurements →
        feeds.LiveFirst now query.limits session.requests measurements
          (Work.perform (fetcher.fetch remote) (source.measurements query) session).2.requests :=
    fun session measurements hvalue =>
      hcomes (hreraises.comesTo_perform (fetcher.isTraced_fetch remote) hvalue)
  exact ⟨hguarded.mono hnone, hfeeds, hfirst,
    fun session measurements hvalue => (hfirst session measurements hvalue).bears⟩

end

end AirQuality
