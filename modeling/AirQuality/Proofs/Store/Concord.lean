import AirQuality.Proofs.Collection.Listed
import AirQuality.Proofs.Store.Snapshot

/-!
# Reports and snapshots of the same readings

A report and a snapshot of one source visit its stations on their own, the one to group what is
listed and the other to make records of it.  Where the snapshot succeeds and nothing is cancelled,
the report makes the same calls.  It then counts under each canonical key the records that are made
of the answers about parameters with that key, so that none is lost or counted twice.
-/

namespace AirQuality

open Outcome
open Stage (bind_apply)
open Time (Moment)

variable {ω α β γ : Type}

/-! ### Work that follows other work -/

/-- A source during whose calls nothing is cancelled. -/
structure Conduct.IsCalm (conduct : Conduct ω) : Prop where
  stations : ∀ world, (conduct.stations world).isCancelled = false
  parameters : ∀ stationId world, (conduct.parameters stationId world).isCancelled = false
  measurements : ∀ query world, (conduct.measurements query world).isCancelled = false

namespace Conduct

/-- Work that makes the calls that other work makes, where the other work succeeds and nothing is
cancelled; what both come to is related to the answers told. -/
def Follows (conduct : Conduct ω) (R : List Answer → α → β → Prop) (work : StateM (Stage ω) α)
    (other : ExceptT Failure (StateM (Stage ω)) β) : Prop :=
  ∀ ⦃stage twin : Stage ω⦄, stage.Alike twin → stage.isCancelled = false →
    ∀ result, (other.run twin).1 = .ok result →
      ∃ told, conduct.Told twin (other.run twin).2 told ∧
        R told (work stage).1 result ∧ (work stage).2.Alike (other.run twin).2 ∧
        (work stage).2.isCancelled = false

theorem run_bind_of_ok {work : ExceptT Failure (StateM (Stage ω)) α}
    {next : α → ExceptT Failure (StateM (Stage ω)) β} {stage : Stage ω} {result : β}
    (hdone : ((work >>= next).run stage).1 = .ok result) :
    ∃ value, (work.run stage).1 = .ok value ∧
      (work >>= next).run stage = (next value).run (work.run stage).2 := by
  rw [ExceptT.run_bind, bind_apply] at hdone ⊢
  cases hvalue : (work.run stage).1 with
  | error failure =>
      rw [hvalue] at hdone
      cases hdone
  | ok value => exact ⟨value, rfl, rfl⟩

namespace Follows

variable {conduct : Conduct ω} {R : List Answer → α → β → Prop} {work : StateM (Stage ω) α}

theorem pure {value : α} {result : β} (hvalue : R [] value result) :
    conduct.Follows R (Pure.pure value) (Pure.pure result) := by
  intro stage twin halike hcalm other hdone
  obtain rfl := Except.ok.inj hdone
  exact ⟨[], Told.refl twin, hvalue, halike, hcalm⟩

/-- The other work may first look at what is known already. -/
theorem lift_bind {outcome : Except Failure γ}
    {next : γ → ExceptT Failure (StateM (Stage ω)) β}
    (hnext : ∀ value, outcome = .ok value → conduct.Follows R work (next value)) :
    conduct.Follows R work (Watched.lift outcome >>= next) := by
  intro stage twin halike hcalm result hdone
  obtain ⟨value, hvalue, hrun⟩ := run_bind_of_ok hdone
  rw [hrun] at hdone ⊢
  exact hnext value hvalue halike hcalm result hdone

/-- The other work may make something of its result. -/
theorem map_right {S : List Answer → α → γ → Prop} {other : ExceptT Failure (StateM (Stage ω)) β}
    {make : β → γ} (hfollows : conduct.Follows R work other)
    (hmake : ∀ told value result, R told value result → S told value (make result)) :
    conduct.Follows S work (other >>= fun result => Pure.pure (make result)) := by
  intro stage twin halike hcalm result hdone
  obtain ⟨value, hvalue, hrun⟩ := run_bind_of_ok hdone
  rw [hrun] at hdone ⊢
  obtain rfl := Except.ok.inj hdone
  obtain ⟨told, htold, hresult, hafter⟩ := hfollows halike hcalm value hvalue
  exact ⟨told, htold, hmake told _ value hresult, hafter⟩

/-- A visit that nothing keeps from being made. -/
theorem unlessCancelled {R : List Answer → Collection → β → Prop}
    {visit : StateM (Stage ω) Collection} {other : ExceptT Failure (StateM (Stage ω)) β}
    (hfollows : conduct.Follows R visit other) :
    conduct.Follows R (Collection.unlessCancelled visit) other := by
  intro stage twin halike hcalm
  rw [Collection.unlessCancelled_apply, hcalm]
  exact hfollows halike hcalm

/-- Both make the same call and go on with what it lists. -/
theorem call {R : List Answer → Collection → β → Prop} {kind : Call} {turn : ω → Turn ω γ}
    {answer : List γ → Answer} {failed : Failure → String}
    {next : List γ → StateM (Stage ω) Collection}
    {others : List γ → ExceptT Failure (StateM (Stage ω)) β}
    (hworld : ∀ world, (turn world).world = conduct.next world kind)
    (hanswer : ∀ world items, (turn world).outcome = .ok items →
      conduct.answer world kind = answer items)
    (hcalm : ∀ world, (turn world).isCancelled = false)
    (hnext : ∀ items,
      conduct.Follows (fun told => R (answer items :: told)) (next items) (others items)) :
    conduct.Follows R
      ((Stage.call conduct.name kind turn).run >>= Collection.goOn failed next)
      (Stage.call conduct.name kind turn >>= others) := by
  intro stage twin halike _ result hdone
  obtain ⟨items, hitems, hrun⟩ := run_bind_of_ok hdone
  rw [hrun] at hdone ⊢
  have houtcome : (turn stage.world).outcome = .ok items := by
    rw [halike.world]
    exact hitems
  have hafter : (stage.after conduct.name kind (turn stage.world)).Alike
      (twin.after conduct.name kind (turn twin.world)) := by
    rw [halike.world]
    exact halike.after conduct.name kind _
  have hgo : ((Stage.call conduct.name kind turn).run >>= Collection.goOn failed next) stage =
      next items (stage.after conduct.name kind (turn stage.world)) := by
    change Collection.goOn failed next (turn stage.world).outcome _ = _
    rw [houtcome]
    rfl
  obtain ⟨told, htold, hresult, hend⟩ := hnext items hafter (hcalm stage.world) result hdone
  have hcall : conduct.Told twin (twin.after conduct.name kind (turn twin.world))
      [answer items] := by
    rw [← hanswer twin.world items hitems]
    exact told_answer twin kind (hworld twin.world)
  refine ⟨answer items :: told, hcall.trans htold, ?_⟩
  rw [hgo]
  exact ⟨hresult, hend⟩

end Follows

end Conduct

/-! ### What answers list -/

/-- A query for measurements and what was listed. -/
def Answer.listing? : Answer → Option (Query × List Measurement)
  | .measurements query (.ok listed) => some (query, listed)
  | _ => none

/-- The measurements listed under a key. -/
def Answer.listedUnder (key : String) (told : List Answer) : List Measurement :=
  (told.filterMap Answer.listing?).flatMap fun listing =>
    if listing.1.parameterKey = some key then listing.2 else []

/-- A collection of what the answers told list. -/
structure Collection.Gathers (told : List Answer) (collection : Collection) : Prop where
  isWhole : collection.isCut = false
  keyed : ∀ contribution ∈ collection.contributions, contribution.IsKeyed
  measured : ∀ contribution ∈ collection.contributions, contribution.measurements ≠ []
  under : ∀ key, Contribution.group key collection.contributions = Answer.listedUnder key told

theorem Collection.Gathers.followedBy {told others : List Answer} {collection further : Collection}
    (hfirst : collection.Gathers told) (hsecond : further.Gathers others) :
    (collection.followedBy further).Gathers (told ++ others) where
  isWhole := hsecond.isWhole
  keyed contribution hmem :=
    (List.mem_append.mp hmem).elim (hfirst.keyed contribution) (hsecond.keyed contribution)
  measured contribution hmem :=
    (List.mem_append.mp hmem).elim (hfirst.measured contribution) (hsecond.measured contribution)
  under key := by
    rw [Answer.listedUnder, List.filterMap_append, List.flatMap_append]
    exact (Contribution.group_append key _ _).trans
      (congrArg₂ _ (hfirst.under key) (hsecond.under key))

/-- What is gathered is summarised, and the summaries count what the answers list. -/
theorem Collection.Gathers.exists_summaries {told : List Answer} {collection : Collection}
    (hgathers : collection.Gathers told)
    (hall : Contribution.measurementsOf collection.contributions = told.flatMap Answer.listed)
    (hregular : ∀ measurement ∈ told.flatMap Answer.listed,
      measurement.IsFinite ∧ Time.inCalendar measurement.timestamp.instant = true)
    (region : Region) :
    ∃ summaries, Summary.ofContributions collection.contributions = .ok summaries ∧
      (summaries.map (·.count)).sum = (told.flatMap Answer.listed).length ∧
      ∀ key, ((Report.mk region summaries).get? key).map (·.count) =
        if Answer.listedUnder key told = [] then none
        else some (Answer.listedUnder key told).length := by
  have hsound : ∀ contribution ∈ collection.contributions,
      ∀ measurement ∈ contribution.measurements,
        measurement.IsFinite ∧ Time.inCalendar measurement.timestamp.instant = true := by
    intro contribution hmem measurement hmeasurement
    apply hregular
    rw [← hall]
    exact Contribution.mem_measurementsOf.mpr ⟨contribution, hmem, hmeasurement⟩
  have hfinite : ∀ contribution ∈ collection.contributions,
      ∀ measurement ∈ contribution.measurements, measurement.IsFinite :=
    fun contribution hmem measurement hmeasurement => (hsound _ hmem measurement hmeasurement).1
  have hcontributed : ∀ contribution ∈ collection.contributions, contribution.IsRegular :=
    fun contribution hmem => ⟨hgathers.measured contribution hmem, hfinite contribution hmem,
      fun measurement hmeasurement => (hsound _ hmem measurement hmeasurement).2⟩
  refine ⟨_, Summary.ofContributions_eq_ok hgathers.keyed hcontributed, ?_, ?_⟩
  · rw [Summary.sum_count_summariesOf hgathers.measured hfinite, hall]
  · intro key
    rw [Summary.get?_summariesOf,
      Summary.count_ofGroup? (Contribution.isFinite_of_mem_group hfinite key), hgathers.under key]

/-- The measurements that answers list, with and without the ids of their parameters. -/
theorem Answer.map_snd_measurementsListed (told : List Answer) :
    (told.flatMap Answer.measurementsListed).map Prod.snd = told.flatMap Answer.listed := by
  rw [List.map_flatMap]
  congr 1
  funext answer
  cases answer with
  | stations outcome => rfl
  | parameters stationId outcome => rfl
  | measurements query outcome =>
      cases outcome with
      | error failure => rfl
      | ok items => exact (List.map_map ..).trans (List.map_id items)

theorem Answer.mem_listed_iff {told : List Answer} {measurement : Measurement} :
    measurement ∈ told.flatMap Answer.listed ↔
      ∃ listed ∈ told.flatMap Answer.measurementsListed, listed.2 = measurement := by
  rw [← map_snd_measurementsListed]
  exact List.mem_map

theorem Answer.length_listed (told : List Answer) :
    (told.flatMap Answer.listed).length = (told.flatMap Answer.measurementsListed).length := by
  rw [← map_snd_measurementsListed, List.length_map]

namespace Store

/-- The record of a parameter, with the records of its measurements. -/
structure Share where
  parameter : ParameterRecord
  measurements : List MeasurementRecord

/-- The share that is made of the answer to a query. -/
structure Share.IsOf (now : Moment) (listing : Query × List Measurement) (share : Share) :
    Prop where
  stationId : share.parameter.stationId = .text listing.1.stationId
  parameterId : share.parameter.parameterId = .text listing.1.parameterId
  key : listing.1.parameterKey = some share.parameter.canonicalKey
  measurements :
    listing.2.mapM (MeasurementRecord.ofMeasurement now listing.1.parameterId) =
      .ok share.measurements

/-- A snapshot is divided into the shares of its parameters, one for each answer about
measurements. -/
structure Divides (now : Moment) (told : List Answer) (snapshot : Snapshot)
    (shares : List Share) : Prop where
  parameters : snapshot.parameters = shares.map (·.parameter)
  measurements : snapshot.measurements = shares.flatMap (·.measurements)
  answers : List.Forall₂ (Share.IsOf now) (told.filterMap Answer.listing?) shares

/-- What is collected and what is snapshot are made of the same answers. -/
structure Agrees (now : Moment) (told : List Answer) (collection : Collection)
    (snapshot : Snapshot) : Prop where
  gathers : collection.Gathers told
  divides : ∃ shares, Divides now told snapshot shares

variable {now : Moment} {told others : List Answer} {collection further : Collection}
  {snapshot next : Snapshot}

/-- Nothing is contributed by answers that list no measurements, and no parameter is recorded. -/
theorem agrees_nothing (stations : List StationRecord)
    (hnone : told.filterMap Answer.listing? = []) :
    Agrees now told .nothing ⟨stations, [], []⟩ where
  gathers := {
    isWhole := rfl
    keyed := nofun
    measured := nofun
    under := fun key => by
      rw [Answer.listedUnder, hnone]
      rfl }
  divides := ⟨[], rfl, rfl, hnone ▸ .nil⟩

theorem Divides.append {shares more : List Share} (hfirst : Divides now told snapshot shares)
    (hsecond : Divides now others next more) :
    Divides now (told ++ others) (snapshot.append next) (shares ++ more) where
  parameters := by
    rw [List.map_append, ← hfirst.parameters, ← hsecond.parameters]
    rfl
  measurements := by
    rw [List.flatMap_append, ← hfirst.measurements, ← hsecond.measurements]
    rfl
  answers := by
    rw [List.filterMap_append]
    exact List.rel_append hfirst.answers hsecond.answers

theorem Agrees.append (hfirst : Agrees now told collection snapshot)
    (hsecond : Agrees now others further next) :
    Agrees now (told ++ others) (collection.followedBy further) (snapshot.append next) where
  gathers := hfirst.gathers.followedBy hsecond.gathers
  divides := by
    obtain ⟨shares, hshares⟩ := hfirst.divides
    obtain ⟨more, hmore⟩ := hsecond.divides
    exact ⟨shares ++ more, hshares.append hmore⟩

/-! ### Visits that follow each other -/

open Conduct (Follows)

section

variable {conduct : Conduct ω} {limits : Limits}

/-- Visits in turn follow visits one after the other. -/
theorem follows_inTurn {visit : α → StateM (Stage ω) Collection}
    {other : α → ExceptT Failure (StateM (Stage ω)) Snapshot}
    (hvisit : ∀ item, conduct.Follows (Agrees now) (visit item) (other item)) (items : List α) :
    conduct.Follows (fun told collection parts => Agrees now told collection (Snapshot.join parts))
      (Collection.inTurn visit items) (items.mapM other) := by
  induction items with
  | nil => exact Follows.pure (agrees_nothing [] rfl)
  | cons item rest ih =>
      intro stage twin halike hstage result hdone
      rw [List.mapM_cons] at hdone ⊢
      obtain ⟨first, hfirst, hrun⟩ := Conduct.run_bind_of_ok hdone
      rw [hrun] at hdone ⊢
      obtain ⟨parts, hparts, hrun⟩ := Conduct.run_bind_of_ok hdone
      rw [hrun] at hdone ⊢
      obtain rfl := Except.ok.inj hdone
      obtain ⟨told, htold, hagrees, hafter, hcalm⟩ := hvisit item halike hstage first hfirst
      obtain ⟨others, hothers, hrest, hend⟩ := ih hafter hcalm parts hparts
      have hwhole : ¬(visit item stage).1.isCut = true := by simp [hagrees.gathers.isWhole]
      refine ⟨told ++ others, htold.trans hothers, ?_⟩
      rw [Collection.inTurn_cons_apply, if_neg hwhole]
      exact ⟨hagrees.append hrest, hend⟩

theorem mem_ofContribution {contribution contributed : Contribution}
    (hmem : contributed ∈ (Collection.ofContribution contribution).contributions) :
    contributed = contribution ∧ contribution.measurements ≠ [] := by
  unfold Collection.ofContribution at hmem
  by_cases hnone : contribution.measurements.isEmpty
  · rw [if_pos hnone] at hmem
    cases hmem
  · rw [if_neg hnone] at hmem
    exact ⟨List.mem_singleton.mp hmem, mt List.isEmpty_iff.mpr hnone⟩

theorem group_ofContribution (key : String) (contribution : Contribution) :
    Contribution.group key (Collection.ofContribution contribution).contributions =
      if contribution.key = key then contribution.measurements else [] := by
  unfold Collection.ofContribution Contribution.group Contribution.members
  by_cases hnone : contribution.measurements.isEmpty
  · rw [if_pos hnone, List.isEmpty_iff.mp hnone, ite_self]
    rfl
  · by_cases hkey : contribution.key = key
    · simp [hnone, hkey, Contribution.measurementsOf]
    · simp [hnone, hkey, Contribution.measurementsOf]

/-- The answer about the measurements of a parameter is contributed and recorded. -/
theorem agrees_of_measurements {station : Station} {parameter : Parameter}
    {record : ParameterRecord}
    (hrecord : ParameterRecord.ofParameter now station.id parameter = .ok record)
    {measurements : List Measurement} {rows : List MeasurementRecord}
    (hrows : measurements.mapM (MeasurementRecord.ofMeasurement now parameter.id) = .ok rows) :
    Agrees now
      [.measurements ⟨station.id, parameter.id, limits, some record.canonicalKey⟩
        (.ok measurements)]
      (.ofContribution ⟨station, parameter, measurements⟩) ⟨[], [record], rows⟩ := by
  obtain ⟨key, hkey, hdone⟩ := bind_eq_ok hrecord
  obtain rfl := Except.ok.inj hdone
  let contribution : Contribution := ⟨station, parameter, measurements⟩
  have hkeyed : contribution.IsKeyed := ⟨key, hkey⟩
  have hname : contribution.key = key :=
    Except.ok.inj ((Contribution.canonicalKey_of_isKeyed hkeyed).symm.trans hkey)
  constructor
  case gathers =>
    constructor
    case isWhole => rfl
    case keyed =>
      intro contributed hmem
      rw [(mem_ofContribution hmem).1]
      exact hkeyed
    case measured =>
      intro contributed hmem
      obtain ⟨rfl, hsome⟩ := mem_ofContribution hmem
      exact hsome
    case under =>
      intro other
      rw [group_ofContribution, hname]
      simp [Answer.listedUnder, Answer.listing?]
  case divides => exact ⟨[⟨_, rows⟩], rfl, by simp, .cons ⟨rfl, rfl, rfl, hrows⟩ .nil⟩

theorem follows_ofParameter (hcalm : conduct.IsCalm) (station : Station) (parameter : Parameter) :
    conduct.Follows (Agrees now)
      (Collection.ofParameter conduct.source limits station parameter)
      (Snapshot.ofParameter now conduct.source limits station parameter) := by
  apply Follows.unlessCancelled
  apply Follows.lift_bind
  intro record hrecord
  have hkey : parameter.canonicalKey = .ok record.canonicalKey := by
    obtain ⟨key, hkey, hdone⟩ := bind_eq_ok hrecord
    obtain rfl := Except.ok.inj hdone
    exact hkey
  rw [Collection.measurementsOf_of_key hkey]
  let query : Query := ⟨station.id, parameter.id, limits, some record.canonicalKey⟩
  have hcall (measurements : List Measurement) :
      conduct.Follows (fun told => Agrees now (.measurements query (.ok measurements) :: told))
        (pure (Collection.ofContribution ⟨station, parameter, measurements⟩))
        (Watched.lift (measurements.mapM (MeasurementRecord.ofMeasurement now parameter.id)) >>=
          fun rows => pure ⟨[], [record], rows⟩) := by
    apply Follows.lift_bind
    intro rows hrows
    exact Follows.pure (agrees_of_measurements hrecord hrows)
  refine Follows.call (fun _ => rfl) ?_ (hcalm.measurements query) hcall
  intro world measurements hlisted
  exact congrArg (Answer.measurements query) hlisted

theorem follows_ofStation (hcalm : conduct.IsCalm) (station : Station) :
    conduct.Follows (Agrees now) (Collection.ofStation conduct.source limits station)
      (Snapshot.ofStation now conduct.source limits station) := by
  apply Follows.unlessCancelled
  have hcall (parameters : List Parameter) :
      conduct.Follows
        (fun told => Agrees now (.parameters station.id (.ok parameters) :: told))
        (Collection.inTurn (Collection.ofParameter conduct.source limits station) parameters)
        (parameters.mapM (Snapshot.ofParameter now conduct.source limits station) >>= fun parts =>
          pure (Snapshot.append ⟨[StationRecord.ofStation now station], [], []⟩
            (Snapshot.join parts))) := by
    apply (follows_inTurn (follows_ofParameter hcalm station) parameters).map_right
    intro told collection parts hagrees
    have hlisted : Agrees now [.parameters station.id (.ok parameters)] .nothing
        ⟨[StationRecord.ofStation now station], [], []⟩ := agrees_nothing _ rfl
    exact hlisted.append hagrees
  refine Follows.call (fun _ => rfl) ?_ (hcalm.parameters station.id) hcall
  intro world parameters hlisted
  exact congrArg (Answer.parameters station.id) hlisted

/-- A report and a snapshot are of the same stations. -/
theorem wanted_eq_here (region : Region) (listed : List Station) :
    Snapshot.wanted (some region) listed = Collection.here region listed := by
  have hrest (kept : List Station) : listed.filterAuxM (Snapshot.isWanted (some region)) kept =
      (Collection.here region listed).map fun stations => stations.reverse ++ kept := by
    induction listed generalizing kept with
    | nil => rfl
    | cons station rest ih =>
        have hstation : Snapshot.isWanted (some region) station =
            Collection.isHere region station := rfl
        rw [List.filterAuxM, Collection.here, hstation]
        cases Collection.isHere region station with
        | error failure => rfl
        | ok isInside =>
            rw [ok_bind, ok_bind, ih]
            cases Collection.here region rest with
            | error failure => rfl
            | ok others =>
                cases isInside with
                | false => rfl
                | true => simp [Except.map]
  rw [Snapshot.wanted, List.filterM, hrest]
  cases Collection.here region listed with
  | error failure => rfl
  | ok stations => simp [Except.map]

theorem follows_collect (hcalm : conduct.IsCalm) (region : Region) :
    conduct.Follows (Agrees now) (Collection.ofSource region limits conduct.source)
      (Snapshot.collect now conduct.source (some region) limits) := by
  intro stage twin halike hstage result hdone
  rw [Snapshot.collect] at hdone ⊢
  obtain ⟨listed, hlisted, hrun⟩ := Conduct.run_bind_of_ok hdone
  rw [hrun] at hdone ⊢
  obtain ⟨stations, hwanted, hrun⟩ := Conduct.run_bind_of_ok hdone
  rw [hrun] at hdone ⊢
  obtain ⟨parts, hparts, hrun⟩ := Conduct.run_bind_of_ok hdone
  rw [hrun] at hdone ⊢
  obtain rfl := Except.ok.inj hdone
  obtain ⟨noted, entries, hnoted, hsource⟩ :=
    Collection.ofSource_run conduct region limits stage
  have hoffered : ((conduct.stations stage.world).outcome >>= Collection.here region) =
      .ok stations := by
    have houtcome : (conduct.stations twin.world).outcome = .ok listed := hlisted
    have hhere : Snapshot.wanted (some region) listed = .ok stations := hwanted
    rw [halike.world, houtcome, ok_bind, ← wanted_eq_here, hhere]
  rw [hoffered] at hsource
  let begun := twin.after conduct.name .stations (conduct.stations twin.world)
  have hbegun : noted.Alike begun := by
    apply hnoted.symm.trans
    rw [halike.world]
    exact halike.after conduct.name .stations _
  have huncut : noted.isCancelled = false := by
    rw [← hnoted.isCancelled]
    exact hcalm.stations stage.world
  obtain ⟨told, htold, hagrees, hafter, hend⟩ :=
    follows_inTurn (follows_ofStation hcalm) stations hbegun huncut parts hparts
  have hcall : conduct.Told twin begun [.stations (.ok listed)] := by
    have hanswer : conduct.answer twin.world .stations = .stations (.ok listed) :=
      congrArg Answer.stations hlisted
    rw [← hanswer]
    exact Conduct.told_answer twin .stations rfl
  have hstations : Agrees now [.stations (.ok listed)] .nothing .empty := agrees_nothing [] rfl
  refine ⟨.stations (.ok listed) :: told, hcall.trans htold, ?_⟩
  rw [hsource]
  exact ⟨hstations.append hagrees, ⟨hafter.world, hafter.isCancelled, hafter.calls⟩, hend⟩

end

/-! ### Counts -/

/-- The records of measurements that are saved for the parameters with a key. -/
def Share.under (key : String) (shares : List Share) : List MeasurementRecord :=
  (shares.filter fun share => share.parameter.canonicalKey = key).flatMap (·.measurements)

/-- As many records are saved for the parameters with a key as measurements are listed under it. -/
theorem Divides.length_under {shares : List Share} (hdivides : Divides now told snapshot shares)
    (key : String) : (Share.under key shares).length = (Answer.listedUnder key told).length := by
  obtain ⟨-, -, hanswers⟩ := hdivides
  unfold Share.under Answer.listedUnder
  generalize told.filterMap Answer.listing? = listings at hanswers ⊢
  induction hanswers with
  | nil => rfl
  | @cons listing share listings shares hshare _ ih =>
      have hkey : listing.1.parameterKey = some key ↔ share.parameter.canonicalKey = key := by
        rw [hshare.key, Option.some.injEq]
      have hlength := length_of_mapM hshare.measurements
      rw [List.flatMap_cons, List.length_append, ← ih]
      by_cases hsame : share.parameter.canonicalKey = key
      · simp [hsame, hkey.mpr hsame, hlength]
      · simp [hsame, mt hkey.mp hsame]

/-- The report of one source is the summary of what it contributes. -/
theorem report_ofSource {settings : Aggregation.Settings} (hworkers : 0 ≤ settings.workers 1)
    (conduct : Conduct ω) (region : Region) (stage : Stage ω) :
    let run := (Aggregation.report settings [conduct.source] region).run stage
    let collected := Collection.ofSource region settings.limits conduct.source stage
    run.1 = (Summary.ofContributions collected.1.contributions).map (Report.mk region) ∧
      collected.2.Alike run.2 := by
  have hone : 0 ≤ settings.workers [conduct].length := hworkers
  obtain ⟨hreport, halike⟩ := Aggregation.report_eq_parts hone region stage
  have hparts : Aggregation.parts region settings.limits [conduct.source] stage =
      ([(Collection.ofSource region settings.limits conduct.source stage).1.contributions],
        (Collection.ofSource region settings.limits conduct.source stage).2) := rfl
  rw [List.map_singleton, hparts] at hreport halike
  rw [List.flatten_singleton] at hreport
  exact ⟨hreport, halike⟩

/-- A report and a snapshot of plain answers with finite measurements in the calendar come of the
same calls.  The report counts what the snapshot saves, all in all and under each canonical key.  If
a measurement is not in the calendar on UTC, the snapshot fails and saves nothing. -/
theorem report_agrees (now : Moment) {conduct : Conduct ω} (hcalm : conduct.IsCalm)
    {settings : Aggregation.Settings} (hworkers : 0 ≤ settings.workers 1) (region : Region)
    (store : Store) {stage : Stage ω} (hstage : stage.isCancelled = false) :
    let reported := (Aggregation.report settings [conduct.source] region).run stage
    let taken := Snapshot.take now conduct.source (some region) settings.limits store stage
    ∃ told, conduct.Told stage taken.2 told ∧ ((∀ answer ∈ told, answer.IsPlain) →
      ((∃ measurement ∈ told.flatMap Answer.listed, ¬HasUtc measurement.timestamp) →
        taken.1 = (.error (.number .dateOutOfRange), store)) ∧
      ((∀ measurement ∈ told.flatMap Answer.listed,
          measurement.IsFinite ∧ Time.inCalendar measurement.timestamp.instant = true) →
        reported.2.calls = taken.2.calls ∧
        ∃ report snapshot shares after, reported.1 = .ok report ∧
          taken.1 = (.ok (countsOf snapshot), after) ∧ OverriddenBy snapshot store after ∧
          Divides now told snapshot shares ∧
          (report.summaries.map (·.count)).sum = snapshot.measurements.length ∧
          ∀ key, (report.get? key).map (·.count) =
            if Share.under key shares = [] then none
            else some (Share.under key shares).length)) := by
  intro reported taken
  obtain ⟨told, htold, hcollected⟩ :=
    collect_relates conduct now settings.limits (some region) stage
  obtain ⟨htaken, halike⟩ := take_apply now conduct (some region) settings.limits store stage
  change taken.1 = _ at htaken
  refine ⟨told, htold.of_alike halike, fun hplain => ⟨?_, ?_⟩⟩
  · rintro ⟨measurement, hmem, hnone⟩
    obtain ⟨listed, hlisted, rfl⟩ := Answer.mem_listed_iff.mp hmem
    rw [htaken, hcollected.dateOutOfRange hplain ⟨listed, hlisted, hnone⟩]
    rfl
  · intro hregular
    have hutc : ∀ listed ∈ told.flatMap Answer.measurementsListed,
        HasUtc listed.2.timestamp := by
      intro listed hlisted
      exact .inr (hregular _ (Answer.mem_listed_iff.mpr ⟨listed, hlisted, rfl⟩)).2
    obtain ⟨listed, later, snapshot, hlisted, hresult, hdescribes, hkept⟩ :=
      hcollected.describes hplain hutc
    obtain ⟨after, hstore, hoverridden⟩ := hkept.exists_store now store
    obtain ⟨others, hothers, ⟨hgathers, shares, hdivides⟩, hafter, -⟩ :=
      follows_collect hcalm region (Stage.Alike.refl stage) hstage snapshot hresult
    obtain rfl := htold.unique hothers
    obtain ⟨others, hothers, hall⟩ :=
      Collection.ofSource_collects conduct settings.limits region stage
    obtain rfl := htold.unique (hothers.of_alike hafter)
    obtain ⟨summaries, hsummaries, hsum, hunder⟩ :=
      hgathers.exists_summaries hall hregular region
    obtain ⟨hreport, hcalls⟩ := report_ofSource hworkers conduct region stage
    have hreported : reported.1 = .ok ⟨region, summaries⟩ := by
      change reported.1 = _ at hreport
      rw [hreport, hsummaries]
      rfl
    refine ⟨?_, ⟨region, summaries⟩, snapshot, shares, after, hreported, ?_, hoverridden, hdivides,
      ?_, ?_⟩
    · calc
        reported.2.calls = _ := hcalls.calls.symm
        _ = ((Snapshot.collect now conduct.source (some region) settings.limits).run
            stage).2.calls := hafter.calls
        _ = taken.2.calls := halike.calls
    · rw [htaken, hresult]
      exact hstore
    · calc
        (summaries.map (·.count)).sum = (told.flatMap Answer.listed).length := hsum
        _ = (told.flatMap Answer.measurementsListed).length := Answer.length_listed told
        _ = (later.flatMap Answer.measurementsListed).length := by
          rw [hlisted]
          rfl
        _ = snapshot.measurements.length := (length_of_mapM hdescribes.measurements).symm
    · intro key
      have hlength := hdivides.length_under key
      have hnone : Answer.listedUnder key told = [] ↔ Share.under key shares = [] := by
        rw [← List.length_eq_zero_iff, ← hlength, List.length_eq_zero_iff]
      rw [hunder key]
      simp only [hnone, hlength]

/-! ### A source with a station in the square -/

def inSquare : Station := ⟨"1", .null, .float 52, .float 21, "GIOS"⟩

/-- A source with a station in the square, and what it lists for its parameter. -/
def onSquare (listed : List Measurement) : Conduct Unit where
  name := "GIOS"
  stations _ := ⟨.ok [inSquare], (), false⟩
  parameters _ _ := ⟨.ok [dustParameter "3"], (), false⟩
  measurements _ _ := ⟨.ok listed, (), false⟩

def onSquareTold (listed : List Measurement) : List Answer :=
  [.stations (.ok [inSquare]), .parameters "1" (.ok [dustParameter "3"]),
    .measurements ⟨"1", "3", .standard, some "PM10"⟩ (.ok listed)]

def onSquareReported (listed : List Measurement) : Except Failure Report × Stage Unit :=
  (Aggregation.report ⟨.standard, none⟩ [(onSquare listed).source] Aggregation.square).run
    (.fresh ())

def onSquareTaken (listed : List Measurement) :
    (Except Failure Snapshot.Counts × Store) × Stage Unit :=
  Snapshot.take juneNoon (onSquare listed).source (some Aggregation.square) .standard .empty
    (.fresh ())

theorem isCalm_onSquare (listed : List Measurement) : (onSquare listed).IsCalm :=
  ⟨fun _ => rfl, fun _ _ => rfl, fun _ _ => rfl⟩

theorem isPlain_onSquareTold {listed : List Measurement}
    (hfinite : ∀ measurement ∈ listed, measurement.value = .float 1) :
    ∀ answer ∈ onSquareTold listed, answer.IsPlain := by
  have hone : (Json.float 1).IsFinite := ⟨1, rfl, by decide +kernel⟩
  have hstation : inSquare.IsPlain := ⟨trivial, .inr ⟨_, rfl⟩, .inr ⟨_, rfl⟩⟩
  have hparameter : (dustParameter "3").IsPlain := ⟨trivial, trivial, trivial, trivial⟩
  simp only [onSquareTold, List.forall_mem_cons, Answer.IsPlain]
  simp +contextual [hstation, hparameter, hone, hfinite]

theorem isFinite_dust (stationId : String) (timestamp : Moment) :
    (dust stationId timestamp).IsFinite where
  value := trivial
  finite := by
    change Decimal.isFinite 1 = true
    decide +kernel

/-- The same noon on two clocks. -/
def twoNoons : List Measurement := [dust "1" juneNoon, dust "1" warsawNoon]

theorem report_agrees_twoNoons :
    (onSquareReported twoNoons).2.calls = (onSquareTaken twoNoons).2.calls ∧
      ∃ report after, (onSquareReported twoNoons).1 = .ok report ∧
        (onSquareTaken twoNoons).1 = (.ok ⟨1, 1, 2⟩, after) ∧
        (report.summaries.map (·.count)).sum = 2 ∧
        (report.get? "PM10").map (·.count) = some 2 := by
  obtain ⟨told, htold, hagrees⟩ := report_agrees juneNoon (isCalm_onSquare twoNoons)
    (show 0 ≤ Aggregation.Settings.workers ⟨.standard, none⟩ 1 by decide) Aggregation.square .empty
    (show (Stage.fresh ()).isCancelled = false from rfl)
  have hcalls : (onSquare twoNoons).Told (.fresh ()) (onSquareTaken twoNoons).2
      (onSquareTold twoNoons) := ⟨rfl, rfl, rfl⟩
  obtain rfl := htold.unique hcalls
  have hplain : ∀ answer ∈ onSquareTold twoNoons, answer.IsPlain :=
    isPlain_onSquareTold (by simp [twoNoons, dust])
  have hregular : ∀ measurement ∈ (onSquareTold twoNoons).flatMap Answer.listed,
      measurement.IsFinite ∧ Time.inCalendar measurement.timestamp.instant = true := by
    intro measurement hmem
    have hnoon : measurement = dust "1" juneNoon ∨ measurement = dust "1" warsawNoon := by
      simpa [onSquareTold, twoNoons, Answer.listed] using hmem
    rcases hnoon with rfl | rfl
    · exact ⟨isFinite_dust "1" juneNoon, by decide⟩
    · exact ⟨isFinite_dust "1" warsawNoon, by decide⟩
  obtain ⟨hsame, report, snapshot, shares, after, hreport, htaken, -, hdivides, hsum, hunder⟩ :=
    (hagrees hplain).2 hregular
  have hcounted : countsOf snapshot = ⟨1, 1, 2⟩ := by
    have hcounts : (onSquareTaken twoNoons).1.1.toOption = some ⟨1, 1, 2⟩ := by decide +kernel
    unfold onSquareTaken at hcounts
    rw [htaken] at hcounts
    exact Option.some.inj hcounts
  rw [hcounted] at htaken
  refine ⟨hsame, report, after, hreport, htaken, ?_, ?_⟩
  · rw [hsum]
    exact congrArg Snapshot.Counts.measurements hcounted
  · have hlength : (Share.under "PM10" shares).length = 2 := hdivides.length_under "PM10"
    have hsome : Share.under "PM10" shares ≠ [] := by
      intro hnone
      rw [hnone] at hlength
      cases hlength
    rw [hunder, if_neg hsome, hlength]

/-- The first hour of year 1, on a clock ten hours ahead of UTC. -/
def yearsStart : Moment := ⟨Time.firstWall, some 36000000000⟩

/-- All answers are plain and both measurements are counted, but as one is off the calendar on UTC,
nothing is stored. -/
theorem report_agrees_yearsStart :
    let listed := [dust "1" yearsStart, dust "1" juneNoon]
    (onSquare listed).Told (.fresh ()) (onSquareTaken listed).2 (onSquareTold listed) ∧
      (∀ answer ∈ onSquareTold listed, answer.IsPlain) ∧
      (onSquareReported listed).1.toOption.map (·.summaries.map (·.count)) = some [2] ∧
      (onSquareTaken listed).1.1.toOption = none ∧
      (onSquareTaken listed).1.2.measurements.length = 0 :=
  ⟨⟨rfl, rfl, rfl⟩, isPlain_onSquareTold (by simp [dust]), by decide +kernel, by decide +kernel,
    by decide +kernel⟩

end Store

end AirQuality
