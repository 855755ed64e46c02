import AirQuality.Json.Decode

/-!
# Documents nested too deep

A reader has room for only so many open lists and objects.  The room decides nothing but whether a
document is read at all: where it is enough, more of it makes no difference, and it is enough for
every document with fewer characters.
-/

namespace AirQuality.Json

variable {α β : Type}

/-- An outcome that wants for room. -/
def IsTooDeep (outcome : Except DecodeFault α) : Prop :=
  ∃ kind, outcome = .error (.tooDeep kind)

theorem not_isTooDeep_ok (value : α) : ¬IsTooDeep (.ok value) := nofun

theorem not_isTooDeep_malformed (fault : SyntaxFault) (left : Nat) :
    ¬IsTooDeep (.error (.malformed fault left) : Except DecodeFault α) := nofun

theorem not_isTooDeep_bind {outcome : Except DecodeFault α} {next : α → Except DecodeFault β}
    (houtcome : ¬IsTooDeep outcome) (hnext : ∀ value, ¬IsTooDeep (next value)) :
    ¬IsTooDeep (outcome >>= next) := by
  cases outcome with
  | ok value => exact hnext value
  | error fault =>
      rintro ⟨kind, hdeep⟩
      exact houtcome ⟨kind, congrArg Except.error (Except.error.inj hdeep)⟩

/-- What comes out in some room and in more of it: the same, unless there was too little. -/
def Agrees (inSome inMore : Except DecodeFault α) : Prop := IsTooDeep inSome ∨ inMore = inSome

theorem Agrees.refl (outcome : Except DecodeFault α) : Agrees outcome outcome := .inr rfl

theorem Agrees.bind {inSome inMore : Except DecodeFault α}
    {nextInSome nextInMore : α → Except DecodeFault β} (hfirst : Agrees inSome inMore)
    (hnext : ∀ value, Agrees (nextInSome value) (nextInMore value)) :
    Agrees (inSome >>= nextInSome) (inMore >>= nextInMore) := by
  rcases hfirst with ⟨kind, rfl⟩ | rfl
  · exact .inl ⟨kind, rfl⟩
  · cases inMore with
    | ok value => exact hnext value
    | error fault => exact .refl _

namespace Reader

/-! ### More room -/

/-- What the three readers come to with some fuel in some room and in more of it. -/
structure AgreeWith (fuel room more : Nat) : Prop where
  value : ∀ source, Agrees (value fuel room source) (value fuel more source)
  items : ∀ done source, Agrees (items fuel room done source) (items fuel more done source)
  fields : ∀ done source, Agrees (fields fuel room done source) (fields fuel more done source)

theorem agree (fuel : Nat) {room more : Nat} (hroom : room ≤ more) : AgreeWith fuel room more := by
  induction fuel generalizing room more with
  | zero => exact ⟨fun _ => .refl _, fun _ _ => .refl _, fun _ _ => .refl _⟩
  | succ fuel ih =>
      refine ⟨fun source => ?_, fun done source => ?_, fun done source => ?_⟩
      · unfold value
        split
        case h_1 => exact .refl _
        case h_2 rest =>
          cases room with
          | zero => exact .inl ⟨_, rfl⟩
          | succ room =>
              obtain ⟨more, rfl⟩ := Nat.exists_eq_succ_of_ne_zero (by omega : more ≠ 0)
              dsimp only
              split
              case h_1 => exact .refl _
              case h_2 => exact (ih (Nat.le_of_succ_le_succ hroom)).items _ _
        case h_3 rest =>
          cases room with
          | zero => exact .inl ⟨_, rfl⟩
          | succ room =>
              obtain ⟨more, rfl⟩ := Nat.exists_eq_succ_of_ne_zero (by omega : more ≠ 0)
              dsimp only
              split
              case h_1 => exact .refl _
              case h_2 => exact (ih (Nat.le_of_succ_le_succ hroom)).fields _ _
        case h_4 => exact .refl _
      · unfold items
        refine ((ih hroom).value source).bind fun (item, rest) => ?_
        dsimp only
        split
        case h_1 => exact .refl _
        case h_2 => exact (ih hroom).items _ _
        case h_3 => exact .refl _
      · unfold fields
        split
        case h_1 rest =>
          refine (Agrees.refl _).bind fun (name, rest) => ?_
          dsimp only
          split
          case h_1 after =>
            refine ((ih hroom).value _).bind fun (item, rest) => ?_
            dsimp only
            split
            case h_1 => exact .refl _
            case h_2 => exact (ih hroom).fields _ _
            case h_3 => exact .refl _
          case h_2 => exact .refl _
        case h_2 => exact .refl _

/-! ### Enough room -/

theorem not_isTooDeep_unicodeEscape (rest : List Char) : ¬IsTooDeep (unicodeEscape rest) := by
  unfold unicodeEscape
  split
  · split
    · exact not_isTooDeep_ok _
    · exact not_isTooDeep_malformed _ _
  · exact not_isTooDeep_malformed _ _

theorem not_isTooDeep_lowSurrogate (rest : List Char) : ¬IsTooDeep (lowSurrogate rest) := by
  unfold lowSurrogate
  split
  · split
    · exact not_isTooDeep_ok _
    · exact not_isTooDeep_bind (not_isTooDeep_unicodeEscape _) fun _ => not_isTooDeep_ok _
  · exact not_isTooDeep_ok _

theorem not_isTooDeep_escapeSequence (opening : Nat) (rest : List Char) :
    ¬IsTooDeep (escapeSequence opening rest) := by
  unfold escapeSequence
  split
  · exact not_isTooDeep_malformed _ _
  · refine not_isTooDeep_bind (not_isTooDeep_unicodeEscape _) fun (unit, left) => ?_
    dsimp only
    split
    · exact not_isTooDeep_bind (not_isTooDeep_lowSurrogate left) fun _ => not_isTooDeep_ok _
    · exact not_isTooDeep_ok _
  · split
    · exact not_isTooDeep_ok _
    · exact not_isTooDeep_malformed _ _

theorem not_isTooDeep_textBody (opening fuel : Nat) (done rest : List Char) :
    ¬IsTooDeep (textBody opening fuel done rest) := by
  induction fuel generalizing done rest with
  | zero => exact not_isTooDeep_malformed _ _
  | succ fuel ih =>
      unfold textBody
      split
      · exact not_isTooDeep_malformed _ _
      · exact not_isTooDeep_ok _
      · exact not_isTooDeep_bind (not_isTooDeep_escapeSequence opening _) fun _ => ih _ _
      · split
        · exact not_isTooDeep_malformed _ _
        · exact ih _ _

theorem not_isTooDeep_unsignedNumber (start : List Char) (negative : Bool) (text : List Char) :
    ¬IsTooDeep (unsignedNumber start negative text) := by
  unfold unsignedNumber
  dsimp only
  split
  all_goals
    split
    · exact not_isTooDeep_malformed _ _
    · split
      · split
        · exact nofun
        · exact not_isTooDeep_ok _
      · exact not_isTooDeep_ok _

theorem not_isTooDeep_scalar (text : List Char) : ¬IsTooDeep (scalar text) := by
  unfold scalar
  split
  · exact not_isTooDeep_ok _
  · split
    · exact not_isTooDeep_unsignedNumber _ _ _
    · exact not_isTooDeep_unsignedNumber _ _ _

/-- With some fuel the three readers have room enough; a list or an object takes two steps. -/
structure Fits (fuel room : Nat) : Prop where
  value : fuel ≤ 2 * room → ∀ source, ¬IsTooDeep (value fuel room source)
  items : fuel ≤ 2 * room + 1 → ∀ done source, ¬IsTooDeep (items fuel room done source)
  fields : fuel ≤ 2 * room + 1 → ∀ done source, ¬IsTooDeep (fields fuel room done source)

theorem fits (fuel room : Nat) : Fits fuel room := by
  induction fuel generalizing room with
  | zero =>
      exact ⟨fun _ _ => not_isTooDeep_malformed _ _, fun _ _ _ => not_isTooDeep_malformed _ _,
        fun _ _ _ => not_isTooDeep_malformed _ _⟩
  | succ fuel ih =>
      refine ⟨fun hroom source => ?_, fun hroom done source => ?_, fun hroom done source => ?_⟩
      · obtain ⟨room, rfl⟩ := Nat.exists_eq_succ_of_ne_zero (by omega : room ≠ 0)
        have hinside : fuel ≤ 2 * room + 1 := by omega
        unfold value
        split
        case h_1 =>
          exact not_isTooDeep_bind (not_isTooDeep_textBody _ _ _ _) fun _ => not_isTooDeep_ok _
        case h_2 rest =>
          dsimp only
          split
          case h_1 => exact not_isTooDeep_ok _
          case h_2 => exact (ih room).items hinside _ _
        case h_3 rest =>
          dsimp only
          split
          case h_1 => exact not_isTooDeep_ok _
          case h_2 => exact (ih room).fields hinside _ _
        case h_4 => exact not_isTooDeep_scalar _
      · have hinside : fuel ≤ 2 * room := by omega
        unfold items
        refine not_isTooDeep_bind ((ih room).value hinside source) fun (item, rest) => ?_
        dsimp only
        split
        case h_1 => exact not_isTooDeep_ok _
        case h_2 => exact (ih room).items (Nat.le_succ_of_le hinside) _ _
        case h_3 => exact not_isTooDeep_malformed _ _
      · have hinside : fuel ≤ 2 * room := by omega
        unfold fields
        split
        case h_1 rest =>
          refine not_isTooDeep_bind (not_isTooDeep_textBody _ _ _ _) fun (name, rest) => ?_
          dsimp only
          split
          case h_1 after =>
            refine not_isTooDeep_bind ((ih room).value hinside _) fun (item, rest) => ?_
            dsimp only
            split
            case h_1 => exact not_isTooDeep_ok _
            case h_2 => exact (ih room).fields (Nat.le_succ_of_le hinside) _ _
            case h_3 => exact not_isTooDeep_malformed _ _
          case h_2 => exact not_isTooDeep_malformed _ _
        case h_2 => exact not_isTooDeep_malformed _ _

end Reader

/-! ### Documents -/

variable {document : List Char} {room : Nat}

theorem agrees_decode {more : Nat} (hroom : room ≤ more) :
    Agrees (decode document room) (decode document more) := by
  unfold decode
  split
  · exact .refl _
  · exact ((Reader.agree _ hroom).value _).bind fun _ => .refl _

/-- There is always enough room for a document with fewer characters. -/
theorem not_isTooDeep_decode (hroom : document.length < room) :
    ¬IsTooDeep (decode document room) := by
  unfold decode
  split
  · exact not_isTooDeep_malformed _ _
  · refine not_isTooDeep_bind ((Reader.fits _ room).value (by omega) _) fun (result, rest) => ?_
    dsimp only
    split
    · exact not_isTooDeep_ok _
    · exact not_isTooDeep_malformed _ _

/-- A document is too deep exactly if it comes to something else where there is more room. -/
theorem isTooDeep_decode_iff :
    IsTooDeep (decode document room) ↔
      ∃ more, room ≤ more ∧ decode document more ≠ decode document room := by
  constructor
  · intro hdeep
    refine ⟨room + document.length + 1, by omega, fun hsame => ?_⟩
    have henough : document.length < room + document.length + 1 := by omega
    exact not_isTooDeep_decode henough (hsame ▸ hdeep)
  · rintro ⟨more, hroom, hother⟩
    exact (agrees_decode hroom).resolve_right hother

namespace Reader

theorem value_replicate {fuel room : Nat} (hfuel : 2 * room < fuel) (rest : List Char) :
    value fuel room (List.replicate (room + 1) '[' ++ rest) = .error (.tooDeep .list) := by
  induction room generalizing fuel with
  | zero =>
      obtain ⟨fuel, rfl⟩ := Nat.exists_eq_succ_of_ne_zero (by omega : fuel ≠ 0)
      rfl
  | succ room ih =>
      obtain ⟨fuel, rfl⟩ := Nat.exists_eq_add_of_le' (by omega : 2 ≤ fuel)
      rw [List.replicate_succ, List.cons_append]
      change items (fuel + 1) room [] (List.replicate (room + 1) '[' ++ rest) = _
      rw [items, ih (by omega)]
      rfl

end Reader

/-- A document that opens more lists than there is room for is too deep, whatever follows. -/
theorem decode_replicate (room : Nat) (rest : List Char) :
    decode (List.replicate (room + 1) '[' ++ rest) room = .error (.tooDeep .list) := by
  have hgap : Reader.skipGap (List.replicate (room + 1) '[' ++ rest) =
      List.replicate (room + 1) '[' ++ rest := rfl
  have hlength : 2 * room < 2 * (List.replicate (room + 1) '[' ++ rest).length + 2 := by
    rw [List.length_append, List.length_replicate]
    omega
  unfold decode
  split
  · next hmark => cases hmark
  · rw [hgap, Reader.value_replicate hlength]
    rfl

end AirQuality.Json
