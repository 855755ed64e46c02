/-!
# Cancellation tokens

A token lets a caller stop work in progress, at once or at a deadline.  A token that has been
seen cancelled stays so, even if the clock is set back.  Times are of any type `τ` with an
order and the arithmetic of a clock.
-/

namespace AirQuality

structure Token (τ : Type) where
  /-- Whether the token has been cancelled, or has been seen when that was due. -/
  isSet : Bool
  deadline : Option τ
  /-- The reading of the clock at which someone will cancel it, if anyone will. -/
  cancelAt : Option τ
deriving DecidableEq

namespace Token

variable {τ : Type} [Add τ] [Sub τ] [OfNat τ 0] [LT τ] [LE τ] [DecidableLT τ] [DecidableLE τ]

/-- The smaller of two times; of two that do not compare, the first. -/
def earlier (first second : τ) : τ := if second < first then second else first

/-- A time if it is positive, else zero. -/
def positivePart (time : τ) : τ := if 0 < time then time else 0

def cancel (token : Token τ) : Token τ := { token with isSet := true }

/-- Whether the deadline has passed or someone has cancelled the token by now. -/
def isDue (now : τ) (token : Token τ) : Bool :=
  (token.deadline.any fun deadline => deadline ≤ now) ||
    token.cancelAt.any fun moment => moment ≤ now

/-- Looks at the token: whether it is cancelled, and the token that remembers it. -/
def look (now : τ) (token : Token τ) : Bool × Token τ :=
  if token.isSet then (true, token)
  else if token.isDue now then (true, token.cancel)
  else (false, token)

/-- The time left until the deadline, if there is one. -/
def remaining (now : τ) (token : Token τ) : Option τ :=
  token.deadline.map fun deadline => positivePart (deadline - now)

/-- The longest wait that the deadline allows. -/
def allowance (now seconds : τ) (token : Token τ) : τ :=
  positivePart (match token.remaining now with
    | some remaining => earlier seconds remaining
    | none => seconds)

/-- How a wait ends: after so many seconds, and at which reading of the clock. -/
structure Rest (τ : Type) where
  seconds : τ
  clock : τ
deriving DecidableEq

/-- A wait on the token, which its cancellation cuts short. -/
def rest (now seconds : τ) (token : Token τ) : Rest τ :=
  let full := now + token.allowance now seconds
  let stop := match token.cancelAt with
    | some moment => earlier full moment
    | none => full
  ⟨stop - now, stop⟩

end Token

end AirQuality
