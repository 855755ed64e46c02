import AirQuality.Decimal.Layout
import AirQuality.Time.Calendar

/-!
# Moments

A moment is what a clock on a wall shows, to the microsecond, together with the clock's
distance from UTC if that is known.  Moments lie in the years 1 to 9999; those whose distance
is not known count as UTC.  The written form leaves out microseconds that are zero.
-/

namespace AirQuality.Time

def microsPerSecond : Int := 1000000

def microsPerDay : Int := 86400 * microsPerSecond

structure Moment where
  /-- Microseconds on the wall since 1 January 1970. -/
  wall : Int
  /-- Microseconds the wall is ahead of UTC. -/
  offset : Option Int
deriving DecidableEq, Inhabited

/-- The first microsecond of year 1. -/
def firstWall : Int := Date.dayNumber ⟨1, 1, 1⟩ * microsPerDay

/-- The last microsecond of year 9999. -/
def lastWall : Int := (Date.dayNumber ⟨9999, 12, 31⟩ + 1) * microsPerDay - 1

def inCalendar (wall : Int) : Bool := firstWall ≤ wall && wall ≤ lastWall

/-- The year of a wall clock in microseconds. -/
def yearOf (wall : Int) : Int := (Date.ofDayNumber (wall / microsPerDay)).year

namespace Moment

/-- The instant of a moment, in microseconds of UTC. -/
def instant (moment : Moment) : Int := moment.wall - moment.offset.getD 0

def isNaive (moment : Moment) : Bool := moment.offset.isNone

/-- The moment a clock on UTC shows at an instant. -/
def atUtc (instant : Int) : Moment := ⟨instant, some 0⟩

/-- The same instant on an unmarked wall clock that shows UTC. -/
def naiveUtc (moment : Moment) : Moment := ⟨moment.instant, none⟩

def digits (width : Nat) (n : Int) : List Char :=
  Decimal.padLeft width (Decimal.natText n.natAbs)

def dateText (date : Date) : List Char :=
  digits 4 date.year ++ '-' :: digits 2 date.month ++ '-' :: digits 2 date.day

/-- Hours, minutes and seconds of a time of day in microseconds, and the microseconds unless
they are zero. -/
def clockText (timeOfDay : Int) : List Char :=
  let seconds := timeOfDay / microsPerSecond
  let micros := timeOfDay % microsPerSecond
  digits 2 (seconds / 3600) ++ ':' :: digits 2 (seconds / 60 % 60) ++ ':' :: digits 2 (seconds % 60)
    ++ if micros = 0 then [] else '.' :: digits 6 micros

/-- A distance from UTC, with seconds only where there are some. -/
def offsetText (offset : Int) : List Char :=
  let size : Int := offset.natAbs
  let seconds := size / microsPerSecond
  (if offset < 0 then '-' else '+') :: if size % (60 * microsPerSecond) = 0
    then digits 2 (seconds / 3600) ++ ':' :: digits 2 (seconds / 60 % 60)
    else clockText size

def isoChars (moment : Moment) : List Char :=
  dateText (Date.ofDayNumber (moment.wall / microsPerDay)) ++ 'T' ::
    clockText (moment.wall % microsPerDay) ++ (moment.offset.map offsetText).getD []

/-- The written form `2025-06-01T11:00:00+00:00`. -/
def iso (moment : Moment) : String := String.ofList moment.isoChars

/-- The written form of a query limit, `2025-06-01T11:00:00Z`; the wall clock's distance from
UTC is not taken into account and a year is not padded. -/
def queryText (moment : Moment) : String :=
  let date := Date.ofDayNumber (moment.wall / microsPerDay)
  let seconds := moment.wall % microsPerDay / microsPerSecond
  String.ofList <| Decimal.intText date.year ++ '-' :: digits 2 date.month ++
    '-' :: digits 2 date.day ++ 'T' :: clockText (seconds * microsPerSecond) ++ ['Z']

end Moment

end AirQuality.Time
