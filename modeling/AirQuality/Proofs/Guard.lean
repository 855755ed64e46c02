import AirQuality.Parameter
import AirQuality.Proofs.Plan.Ensures
import AirQuality.Proofs.Reading.Fault
import AirQuality.Source

/-!
# Guarded listings

A listing is guarded if it comes to a list whatever its provider does: it fails only by being
cancelled, or by having more pages to read than it may.  Stations and parameters are guarded.
Measurements are so only in part, for not every step from a reply to a measurement counts a failure
as no data; what may escape is one relation, which each source fills in with what it makes of its
replies.
-/

namespace AirQuality

open Time (Moment)

variable {τ α : Type}

/-- Work that fails only by being cancelled, or in a way that may escape it, or, where pages are
limited, by having asked that often. -/
def Fetching.IsGuarded (escapes : Failure → Prop) (pages : Option Nat) (work : Fetching τ α) :
    Prop :=
  ∀ (session : Session τ) (failure : Failure), (work session).1 = .error failure →
    failure.isCancelled = true ∨ escapes failure ∨
      ∃ most ∈ pages, failure = .unfinished ∧
        session.requests.length + most ≤ (work session).2.requests.length

/-- Whether an outcome is a failure that guarded work has not, unless it escapes. -/
def Outcome.isUnguarded : Except Failure α → Bool
  | .ok _ => false
  | .error .unfinished => false
  | .error failure => !failure.isCancelled

theorem Fetching.IsGuarded.escapes {escapes : Failure → Prop} {pages : Option Nat}
    {work : Fetching τ α} (hguarded : work.IsGuarded escapes pages) {session : Session τ}
    (hunguarded : Outcome.isUnguarded (work session).1 = true) :
    ∃ failure, (work session).1 = .error failure ∧ escapes failure := by
  cases houtcome : (work session).1 with
  | ok items =>
      rw [houtcome] at hunguarded
      cases hunguarded
  | error failure =>
      rw [houtcome] at hunguarded
      rcases hguarded session failure houtcome with hcancelled | hescapes | ⟨most, -, rfl, -⟩
      · cases failure with
        | cancelled message => cases hunguarded
        | _ => cases hcancelled
      · exact ⟨failure, rfl, hescapes⟩
      · cases hunguarded

/-! ### Canonical keys -/

/-- A parameter has no canonical key exactly if its name is neither a text nor missing. -/
theorem Parameter.canonicalKey_eq_error_iff {parameter : Parameter} {failure : Failure} :
    parameter.canonicalKey = .error failure ↔
      (parameter.rawName.kind ≠ .null ∧ parameter.rawName.kind ≠ .text) ∧
        failure = .shape (.noMember parameter.rawName.kind "upper") := by
  unfold canonicalKey CanonicalKey.ofJson
  cases parameter.rawName <;> simp [Json.kind, eq_comm]

/-! ### What may escape -/

/-- Why a call for measurements may fail, with the failure that says so.  The key is looked up and
the parameter has none; or a reply has not the shape of readings; or no measurements can be made of
the records in it.  A provider `lists` parameters, and `reads` says what may come of reading its
replies and up to which moment their readings count. -/
inductive Query.Escape (now : Moment) (query : Query) (lists : Parameter → Prop)
    (reads : (last : Option Moment) → Except Failure (List Record) → Prop) : Failure → Prop
  | name (hkey : query.parameterKey = none) (parameter : Parameter) (hlists : lists parameter)
      (hid : parameter.id = query.parameterId) (hnull : parameter.rawName.kind ≠ .null)
      (htext : parameter.rawName.kind ≠ .text) :
      Escape now query lists reads (.shape (.noMember parameter.rawName.kind "upper"))
  | shape (last : Option Moment) (fault : ShapeFault)
      (hreads : reads last (.error (.shape fault))) : Escape now query lists reads (.shape fault)
  | records (last : Option Moment) (records : List Record) (hreads : reads last (.ok records))
      (failure : Failure) (hfault : Reading.Fault now query.limits last records failure) :
      Escape now query lists reads failure

namespace Query

variable {replies : Request → Except Failure Json → Prop} {budget : Nat} {now : Moment}
  {query : Query} {lists : Parameter → Prop}
  {reads : Option Moment → Except Failure (List Record) → Prop}

/-- Looking up a key among the parameters that are listed fails only if the parameter has none. -/
theorem ensures_key {listed : List Parameter} {unlisted : Work String}
    (hkey : query.parameterKey = none) (hlisted : ∀ parameter ∈ listed, lists parameter)
    (hunlisted : unlisted.Ensures replies budget (fun _ => True) (query.Escape now lists reads)) :
    (match listed.find? fun (parameter : Parameter) => parameter.id = query.parameterId with
      | some parameter => Work.lift parameter.canonicalKey
      | none => unlisted).Ensures replies budget (fun _ => True)
        (query.Escape now lists reads) := by
  split
  case h_1 parameter hfound =>
    apply Work.ensures_lift
    cases hname : parameter.canonicalKey with
    | ok key => trivial
    | error failure =>
        obtain ⟨⟨hnull, htext⟩, rfl⟩ := Parameter.canonicalKey_eq_error_iff.mp hname
        have hid := List.find?_some hfound
        exact .name hkey parameter (hlisted parameter (List.mem_of_find?_eq_some hfound))
          (of_decide_eq_true hid) hnull htext
  case h_2 => exact hunlisted

/-- Measurements fail to be made of records only as these say. -/
theorem meets_ofRecords {tag : Measurement.Tag} {oldest last : Option Moment}
    {records : List Record} (haware : now.isNaive = false)
    (hlast : ∀ moment ∈ last, moment.isNaive = false)
    (hcutoff : Reading.cutoff now query.limits = .ok oldest)
    (hreads : records = [] ∨ reads last (.ok records)) :
    Outcome.Meets (fun _ => True) (query.Escape now lists reads)
      (Measurement.ofRecords tag now query.limits last records) := by
  rcases hreads with rfl | hreads
  · trivial
  · cases hmade : Measurement.ofRecords tag now query.limits last records with
    | ok measurements => trivial
    | error failure =>
        have hfault := Reading.fault_of_ofRecords haware hlast hcutoff hmade
        exact .records last records hreads failure hfault

end Query

/-- Work in two steps, of which the second takes the place of the first where this finds nothing. -/
theorem Work.ensures_orElse {β : Type} {replies : Request → Except Failure Json → Prop}
    {budget : Nat} {escapes : Failure → Prop} {first second : Work (List β)}
    (hfirst : first.Ensures replies budget (fun _ => True) escapes)
    (hsecond : ∀ left ≤ budget, second.Ensures replies left (fun _ => True) escapes) :
    (do
      let found ← first
      if found.isEmpty then second else pure found).Ensures replies budget (fun _ => True)
        escapes := by
  refine hfirst.bind fun left found hleft _ => ?_
  split
  case isTrue => exact hsecond left hleft
  case isFalse => exact ensures_pure trivial

/-! ### Guarded work -/

section

variable [Add τ] [Sub τ] [OfNat τ 0] [LT τ] [LE τ] [DecidableLT τ] [DecidableLE τ] [TimeText τ]
  {fetcher : Fetcher τ} {remote : Remote τ} {work : Work α} {holds : α → Prop}
  {escapes : Failure → Prop}

theorem Work.Ensures.isGuarded {budget : Nat}
    (hwork : work.Ensures (fetcher.mayReply remote) budget holds escapes) :
    Fetching.IsGuarded escapes (some budget) (work.perform (fetcher.fetch remote)) := by
  intro session failure hfailed
  have hperform := hwork.perform (fetcher.isFaithful_fetch remote) session
  rw [hfailed] at hperform
  rcases hperform with (hcancelled : _ ∨ _) | ⟨hunfinished, hcount⟩
  · exact hcancelled.imp_right .inl
  · exact .inr (.inr ⟨budget, rfl, Except.error.inj hunfinished, hcount⟩)

/-- Work that keeps what it ensures on any budget never has more to ask. -/
theorem Work.isGuarded_of_ensures
    (hwork : ∀ budget, work.Ensures (fetcher.mayReply remote) budget holds escapes) :
    Fetching.IsGuarded escapes none (work.perform (fetcher.fetch remote)) := by
  intro session failure hfailed
  generalize hlater : (work.perform (fetcher.fetch remote) session).2.requests.length = later
  rcases (hwork (later + 1)).isGuarded session failure hfailed with
    hcancelled | hescapes | ⟨most, hmost, -, hcount⟩
  · exact .inl hcancelled
  · exact .inr (.inl hescapes)
  · obtain rfl := Option.some.inj hmost
    omega

/-- A source whose listings are guarded, but for what may escape from a call for measurements.  Its
stations and its measurements may be on pages, of which only so many are read. -/
structure Source.IsGuarded (fetcher : Fetcher τ) (remote : Remote τ) (now : Moment)
    (stationPages readingPages : Option Nat) (escapes : Query → Failure → Prop)
    (source : Source Plan) : Prop where
  stations : Fetching.IsGuarded (fun _ => False) stationPages
    (Work.perform (fetcher.fetch remote) source.stations)
  parameters : ∀ stationId, Fetching.IsGuarded (fun _ => False) none
    (Work.perform (fetcher.fetch remote) (source.parameters stationId))
  measurements : ∀ query oldest, Reading.cutoff now query.limits = .ok oldest →
    Fetching.IsGuarded (escapes query) readingPages
      (Work.perform (fetcher.fetch remote) (source.measurements query))

/-- A source is not guarded if its provider can make a single call for measurements fail. -/
theorem Source.not_isGuarded {source : Source Plan} {now : Moment}
    {stationPages readingPages : Option Nat} (query : Query) {oldest : Option Moment}
    (hcutoff : Reading.cutoff now query.limits = .ok oldest) (session : Session τ)
    (hunguarded : Outcome.isUnguarded
      (Work.perform (fetcher.fetch remote) (source.measurements query) session).1 = true) :
    ¬source.IsGuarded fetcher remote now stationPages readingPages fun _ _ => False := by
  intro hguarded
  obtain ⟨failure, -, hescapes⟩ := (hguarded.measurements query oldest hcutoff).escapes hunguarded
  exact hescapes

end

end AirQuality
