/-!
# Runs of letters

Letters that change case do so in runs: consecutive letters, or every second one, move by
the same distance.  A table of runs together with the letters that grow is a case mapping.
-/

namespace AirQuality.Text

/-- The code points `first`, `first + stride`, … up to `last`, all moved by `shift`. -/
structure CaseRun where
  first : Nat
  last : Nat
  stride : Nat
  shift : Int
deriving DecidableEq

def CaseRun.covers (run : CaseRun) (code : Nat) : Bool :=
  run.first ≤ code && code ≤ run.last && (code - run.first) % run.stride == 0

def CaseRun.image (run : CaseRun) (code : Nat) : Nat := (code + run.shift : Int).toNat

/-- The image of one character: its expansion if it grows, else its place in a run, else
itself. -/
def mapCase (expansions : List (Nat × List Nat)) (runs : List CaseRun) (c : Char) : List Char :=
  match expansions.lookup c.toNat with
  | some codes => codes.map Char.ofNat
  | none =>
    match runs.find? (·.covers c.toNat) with
    | some run => [Char.ofNat (run.image c.toNat)]
    | none => [c]

end AirQuality.Text
