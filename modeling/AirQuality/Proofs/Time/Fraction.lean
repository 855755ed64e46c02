import AirQuality.Proofs.Time.Stamp

/-!
# Timestamps in microseconds

The time of a timestamp stands behind a mark, so that a text without one is a date alone.  With up
to six digits of a fraction a timestamp is a whole number of microseconds.
-/

namespace AirQuality.Time.Stamp

variable {text rest : List Char}

/-! ### What is read of a text -/

theorem shortNumber?_suffix {short : Bool} {n : Nat}
    (hread : shortNumber? short text = some (n, rest)) : rest <:+ text := by
  unfold shortNumber? at hread
  split at hread
  · cases hread
  · next first others =>
    split at hread
    · cases hread
    · split at hread
      · next second more =>
        split at hread
        · cases hread
          exact (List.suffix_cons second rest).trans (List.suffix_cons first _)
        · split at hread
          · cases hread
            exact List.suffix_cons _ _
          · cases hread
      · split at hread
        · cases hread
          exact List.nil_suffix
        · cases hread

theorem plainYear_suffix (text : List Char) : (plainYear text).2 <:+ text := by
  unfold plainYear
  split
  · exact List.drop_suffix 4 text
  · exact List.suffix_rfl

theorem yearPart_suffix (atStart : Bool) (text : List Char) :
    (yearPart atStart text).2 <:+ text := by
  unfold yearPart
  split
  · next others =>
    split
    · exact (List.drop_suffix _ _).trans (List.suffix_cons _ _)
    · exact (plainYear_suffix others).trans (List.suffix_cons _ _)
  · exact plainYear_suffix text

theorem separator?_suffix {separator : Option Char}
    (hread : separator? text = some (separator, rest)) : rest <:+ text := by
  unfold separator? at hread
  split at hread
  · cases hread
  · split at hread
    · cases hread
      exact List.suffix_rfl
    · split at hread
      · cases hread
        exact List.suffix_cons _ _
      · cases hread

theorem afterSeparator?_suffix {separator : Option Char}
    (hread : afterSeparator? separator text = some rest) : rest <:+ text := by
  unfold afterSeparator? at hread
  split at hread
  · cases hread
    exact List.suffix_rfl
  · split at hread
    · cases hread
      exact List.suffix_cons _ _
    · cases hread
  · cases hread

theorem datePart?_suffix {atStart : Bool} {date : Date}
    (hread : datePart? atStart text = some (date, rest)) : rest <:+ text := by
  have hyear := yearPart_suffix atStart text
  unfold datePart? at hread
  split at hread
  · cases hread
  · generalize yearPart atStart text = part at hread hyear
    obtain ⟨year, afterYear⟩ := part
    dsimp only at hread hyear
    split at hread
    · cases hread
      exact List.nil_suffix
    · obtain ⟨⟨separator, beforeMonth⟩, hseparator, hread⟩ := Option.bind_eq_some_iff.mp hread
      obtain ⟨⟨month, afterMonth⟩, hmonth, hread⟩ := Option.bind_eq_some_iff.mp hread
      have hsuffix : afterMonth <:+ text :=
        ((shortNumber?_suffix hmonth).trans (separator?_suffix hseparator)).trans hyear
      dsimp only at hread
      split at hread
      · cases hread
      · split at hread
        · split at hread
          · cases hread
            exact List.nil_suffix
          · cases hread
        · obtain ⟨beforeDay, hbefore, hread⟩ := Option.bind_eq_some_iff.mp hread
          obtain ⟨⟨day, afterDay⟩, hday, hread⟩ := Option.bind_eq_some_iff.mp hread
          dsimp only at hread
          split at hread
          · cases hread
            exact ((shortNumber?_suffix hday).trans (afterSeparator?_suffix hbefore)).trans hsuffix
          · cases hread

/-- A timestamp is a date alone, or a date before a mark and a time. -/
theorem exists_of_ofChars? {stamp : Stamp} (hread : ofChars? text = some stamp) :
    ∃ midnight : Int, stamp = ⟨midnight * nanosPerSecond, false⟩ ∨
      ∃ (clock : Clock) (offset : Int), ('T' ∈ text ∨ ' ' ∈ text) ∧
        stamp = ⟨(midnight + clock.seconds - offset) * nanosPerSecond +
          fractionNanos clock.fraction, 6 < clock.fraction.length⟩ := by
  obtain ⟨⟨date, rest⟩, hdate, hread⟩ := Option.bind_eq_some_iff.mp hread
  have hsuffix := (datePart?_suffix hdate).trans (List.dropWhile_suffix Text.isAsciiBlank)
  refine ⟨date.dayNumber * 86400, ?_⟩
  dsimp only at hread
  split at hread
  · exact .inl (Option.some.inj hread).symm
  · next mark others =>
    have hmark : mark ∈ text := hsuffix.subset List.mem_cons_self
    split at hread
    · cases hread
    · next hmarks =>
      obtain ⟨clock, -, hread⟩ := Option.bind_eq_some_iff.mp hread
      obtain ⟨offset, -, hread⟩ := Option.bind_eq_some_iff.mp hread
      refine .inr ⟨clock, offset, ?_, (Option.some.inj hread).symm⟩
      by_cases hletter : mark = 'T'
      · exact .inl (hletter ▸ hmark)
      · have hblank : mark = ' ' := by_contra fun hother => hmarks ⟨hletter, hother⟩
        exact .inr (hblank ▸ hmark)

/-- A text without the mark of a time has no fraction. -/
theorem isFine_of_unmarked {stamp : Stamp} (hread : ofChars? text = some stamp)
    (hletter : 'T' ∉ text) (hblank : ' ' ∉ text) : stamp.isFine = false := by
  obtain ⟨midnight, rfl | ⟨clock, offset, hmark, -⟩⟩ := exists_of_ofChars? hread
  · rfl
  · exact absurd hmark (not_or.mpr ⟨hletter, hblank⟩)

/-! ### Microseconds -/

theorem value_append_zeros (digits : List Char) (count : Nat) :
    value (digits ++ List.replicate count '0') = value digits * 10 ^ count := by
  induction count with
  | zero => rw [List.replicate_zero, List.append_nil, Nat.pow_zero, Nat.mul_one]
  | succ count ih =>
      have hzero : Text.asciiDigitValue? '0' = some 0 := by decide
      rw [List.replicate_succ', ← List.append_assoc, Nat.pow_succ, ← Nat.mul_assoc, ← ih]
      unfold value
      rw [List.filterMap_append, List.filterMap_cons_some hzero, List.filterMap_nil,
        Decimal.digitsValue, List.foldl_append, List.foldl_cons, List.foldl_nil, Nat.add_zero,
        Nat.mul_comm]
      rfl

/-- A fraction of up to six digits is a whole number of microseconds. -/
theorem fractionNanos_mod {digits : List Char} (hshort : digits.length ≤ 6) :
    fractionNanos digits % 1000 = 0 := by
  have hzeros : (digits ++ List.replicate 9 '0').take 9 =
      digits ++ List.replicate (6 - digits.length) '0' ++ List.replicate 3 '0' := by
    rw [List.take_append, List.take_of_length_le (by omega), List.take_replicate,
      List.append_assoc, List.replicate_append_replicate]
    congr 2
    omega
  rw [fractionNanos, hzeros, value_append_zeros]
  exact Nat.mul_mod_left _ 1000

theorem nanos_mod_of_coarse {stamp : Stamp} (hread : ofChars? text = some stamp)
    (hcoarse : stamp.isFine = false) : stamp.nanos % 1000 = 0 := by
  obtain ⟨midnight, rfl | ⟨clock, offset, -, rfl⟩⟩ := exists_of_ofChars? hread
  · simp only [nanosPerSecond]
    omega
  · have hfraction := fractionNanos_mod (Nat.not_lt.mp (of_decide_eq_false hcoarse))
    simp only [nanosPerSecond]
    omega

end AirQuality.Time.Stamp
