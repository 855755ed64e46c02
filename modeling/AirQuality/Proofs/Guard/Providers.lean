import AirQuality.Proofs.Fetch.ExactTime
import AirQuality.Proofs.Guard.Gios
import AirQuality.Proofs.Guard.OpenAq
import AirQuality.Proofs.Guard.OpenMeteo

/-!
# What a provider can do to a listing

Stations and parameters come to a list whatever their provider does, unless they are cancelled.
Measurements need not: each source has replies that a call for them does not survive.
-/

namespace AirQuality.Source

open Time (Moment)

section

variable {τ : Type} [Add τ] [Sub τ] [OfNat τ 0] [LT τ] [LE τ] [DecidableLT τ] [DecidableLE τ]
  [TimeText τ]

/-- Whatever a provider replies, a listing of stations or of parameters comes to a list, and so does
one of measurements whose age limit can be made out, unless the call is cancelled; but a call for
measurements may also fail, as what the provider may bring for its requests says. -/
theorem providers_guarded (fetcher : Fetcher τ) (remote : Remote τ) (now : Moment)
    (haware : now.isNaive = false) (pages : Nat) (hasKey : Bool) (points : List Station)
    (offered : List OpenMeteo.Variable) :
    (Gios.source now pages).IsGuarded fetcher remote now (some pages) none
        (Gios.Escape remote now) ∧
      (OpenAq.source now hasKey pages).IsGuarded fetcher remote now (some pages) (some pages)
        (OpenAq.Escape remote now) ∧
      (OpenMeteo.source now points offered).IsGuarded fetcher remote now none none
        (OpenMeteo.Escape remote (OpenMeteo.distinctPoints points) now) :=
  ⟨Gios.isGuarded_source fetcher remote haware pages,
    OpenAq.isGuarded_source fetcher remote haware hasKey pages,
    OpenMeteo.isGuarded_source fetcher remote haware points offered⟩

end

/-! ### Replies that escape -/

/-- A fetcher that does not try again. -/
def hasty : Fetcher ℤ := ⟨OpenMeteo.name, 1, 0, 5, .whole 30⟩

def epoch : Moment := ⟨0, some 0⟩

/-- Nothing at present, and a list in the place of an hourly series. -/
def listForSeries : Remote ℤ :=
  .ofList [.nothing, ⟨.answer 200 "OK" (.value (.list [.int 1])), 0, false⟩]

def warsaw : Station := ⟨"warszawa", .text "Warszawa", .int 52, .int 21, OpenMeteo.name⟩

def dustInWarsaw : Query := ⟨"warszawa", "pm10", ⟨some 100, none⟩, none⟩

theorem providers_guarded_listForSeries :
    epoch.isNaive = false ∧ Reading.cutoff epoch dustInWarsaw.limits = .ok none ∧
      ∃ failure, (Work.perform (hasty.fetch listForSeries)
          ((OpenMeteo.source epoch [warsaw] []).measurements dustInWarsaw)
          (Session.start 0)).1 = .error failure ∧
        OpenMeteo.Escape listForSeries (OpenMeteo.distinctPoints [warsaw]) epoch dustInWarsaw
          failure := by
  have hguarded := (providers_guarded hasty listForSeries epoch rfl 5 true [warsaw] []).2.2
  exact ⟨rfl, rfl, (hguarded.measurements dustInWarsaw none rfl).escapes (by decide +kernel)⟩

/-- A sensor with a number for a name. -/
def numberForName : Remote ℤ := fun _ _ =>
  ⟨.answer 200 "OK" (.value (.object [(Gios.sensorsField, .list
    [.object [("Identyfikator stanowiska", .int 1), ("Wskaźnik - kod", .int 5)]])])), 0, false⟩

/-- A reading with a flag for a time. -/
def flagForTime : Remote ℤ := fun _ _ =>
  ⟨.answer 200 "OK" (.value (.object [("results", .list [.object
    [("period", .object [("datetimeTo", .object [("utc", .bool true)])]), ("value", .int 1)]])])),
    0, false⟩

/-- Each source has a provider against which it does not guard. -/
theorem providers_unguarded :
    ¬(Gios.source epoch 5).IsGuarded hasty numberForName epoch (some 5) none
        (fun _ _ => False) ∧
      ¬(OpenAq.source epoch true 5).IsGuarded hasty flagForTime epoch (some 5) (some 5)
        (fun _ _ => False) ∧
      ¬(OpenMeteo.source epoch [warsaw] []).IsGuarded hasty listForSeries epoch none none
        (fun _ _ => False) := by
  refine ⟨not_isGuarded ⟨"1", "1", ⟨none, none⟩, none⟩ rfl (Session.start 0) ?_,
    not_isGuarded ⟨"1", "1", ⟨none, some (.whole 1)⟩, some "PM10"⟩ rfl (Session.start 0) ?_,
    not_isGuarded dustInWarsaw rfl (Session.start 0) ?_⟩
  · decide +kernel
  · decide +kernel
  · decide +kernel

end AirQuality.Source
