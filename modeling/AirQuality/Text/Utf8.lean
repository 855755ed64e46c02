import AirQuality.Text.Quoted

/-!
# Text from octets

A file is UTF-8.  The first octet of a character says how many follow and what the second may
be, so overlong forms and surrogates are refused at their second octet.  A fault names the
octets it covers.  Once decoded, each kind of line end counts as one line feed.
-/

namespace AirQuality.Text.Utf8

/-- What a first octet announces: how many octets follow, the range of the first of them, and
the bits it contributes itself. -/
structure Lead where
  following : Nat
  low : Nat
  high : Nat
  bits : Nat
deriving DecidableEq

def lead? (octet : Nat) : Option Lead :=
  if octet < 0x80 then some ⟨0, 0x80, 0xBF, octet⟩
  else if octet < 0xC2 then none
  else if octet < 0xE0 then some ⟨1, 0x80, 0xBF, octet - 0xC0⟩
  else if octet = 0xE0 then some ⟨2, 0xA0, 0xBF, 0⟩
  else if octet = 0xED then some ⟨2, 0x80, 0x9F, 0xD⟩
  else if octet < 0xF0 then some ⟨2, 0x80, 0xBF, octet - 0xE0⟩
  else if octet = 0xF0 then some ⟨3, 0x90, 0xBF, 0⟩
  else if octet < 0xF4 then some ⟨3, 0x80, 0xBF, octet - 0xF0⟩
  else if octet = 0xF4 then some ⟨3, 0x80, 0x8F, 4⟩
  else none

inductive Reason where
  | invalidStart
  | invalidContinuation
  | unexpectedEnd
deriving DecidableEq

/-- The first faulty octet, its position, how many octets the fault covers and why. -/
structure Fault where
  octet : Nat
  position : Nat
  length : Nat
  reason : Reason
deriving DecidableEq

/-- Reads the octets that follow a first octet: their bits and the rest, or how many were good
before the fault. -/
def continuation : (remaining low high bits good : Nat) → List Nat →
    Except (Nat × Reason) (Nat × List Nat)
  | 0, _, _, bits, _, rest => .ok (bits, rest)
  | _ + 1, _, _, _, good, [] => .error (good, .unexpectedEnd)
  | more + 1, low, high, bits, good, octet :: rest =>
    if low ≤ octet ∧ octet ≤ high then
      continuation more 0x80 0xBF (bits * 64 + (octet - 0x80)) (good + 1) rest
    else .error (good, .invalidContinuation)

/-- Decodes octets from a position on; `fuel` bounds the number of characters. -/
def decodeFrom (fuel position : Nat) (octets : List Nat) : Except Fault (List Char) :=
  match fuel, octets with
  | 0, _ => .ok []
  | _ + 1, [] => .ok []
  | fuel + 1, octet :: rest =>
    match lead? octet with
    | none => .error ⟨octet, position, 1, .invalidStart⟩
    | some lead =>
      match continuation lead.following lead.low lead.high lead.bits 0 rest with
      | .error (good, reason) => .error ⟨octet, position, good + 1, reason⟩
      | .ok (code, left) =>
        (decodeFrom fuel (position + 1 + lead.following) left).map (Char.ofNat code :: ·)

def decode (octets : List Nat) : Except Fault (List Char) :=
  decodeFrom octets.length 0 octets

def Reason.text : Reason → String
  | .invalidStart => "invalid start byte"
  | .invalidContinuation => "invalid continuation byte"
  | .unexpectedEnd => "unexpected end of data"

def Fault.message (fault : Fault) : String :=
  let place :=
    if fault.length = 1 then
      s!"byte 0x{String.ofList (hexText 2 fault.octet)} in position {fault.position}"
    else s!"bytes in position {fault.position}-{fault.position + fault.length - 1}"
  s!"'utf-8' codec can't decode {place}: {fault.reason.text}"

/-- Every line end of a text, of one or two characters, becomes a line feed. -/
def joinLineEnds : List Char → List Char
  | [] => []
  | '\r' :: '\n' :: rest => '\n' :: joinLineEnds rest
  | '\r' :: rest => '\n' :: joinLineEnds rest
  | c :: rest => c :: joinLineEnds rest

end AirQuality.Text.Utf8
