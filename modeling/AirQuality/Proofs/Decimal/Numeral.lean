import AirQuality.Decimal.Layout
import AirQuality.Decimal.Numeral
import AirQuality.Proofs.Text.Blank
import Mathlib.Algebra.Group.Nat.Defs

/-!
# Whole numbers read back

A whole number that is not too long to be read is read as itself from its own digits.  A text
that starts with anything but a blank, a sign or a digit is no whole number.
-/

namespace AirQuality.Text

theorem toNat_of_isDigit {c : Char} (hdigit : c.isDigit) : 48 ≤ c.toNat ∧ c.toNat ≤ 57 := by
  simpa [Char.isDigit, UInt32.le_iff_toNat_le] using hdigit

theorem digitValue?_of_isDigit {c : Char} (hdigit : c.isDigit) :
    digitValue? c = some (c.toNat - 48) := by
  obtain ⟨hleast, hgreatest⟩ := toNat_of_isDigit hdigit
  have hzero : digitZeros.find? (fun first => first ≤ c.toNat && c.toNat ≤ first + 9) =
      some 48 := List.find?_cons_of_pos (by simp [hleast, hgreatest])
  rw [digitValue?, hzero]
  rfl

theorem isNumberBlank_of_isDigit {c : Char} (hdigit : c.isDigit) : isNumberBlank c = false := by
  obtain ⟨hleast, hgreatest⟩ := toNat_of_isDigit hdigit
  have hascii : isAsciiBlank c = false := by
    simp [isAsciiBlank]
    omega
  have hwide : c.toNat ∉ wideBlanks := by
    simp [wideBlanks]
    omega
  simp [isNumberBlank, hascii, hwide]

end AirQuality.Text

namespace AirQuality.Decimal

open Text

theorem dropGrouping_eq_self (style : NumeralStyle) {text : List Char} (hplain : '_' ∉ text)
    (afterDigit : Bool) : style.dropGrouping afterDigit text = text := by
  induction text generalizing afterDigit with
  | nil => rfl
  | cons c rest ih =>
      obtain ⟨hhead, hrest⟩ := List.ne_and_not_mem_of_not_mem_cons hplain
      simp only [NumeralStyle.dropGrouping, Ne.symm hhead, decide_false, Bool.false_and,
        Bool.false_eq_true, if_false, ih hrest]

theorem normalise_permissiveStyle_eq_self {text : List Char}
    (hblank : ∀ c ∈ text, isNumberBlank c = false) (hplain : '_' ∉ text) :
    permissiveStyle.normalise text = text := by
  simp only [NumeralStyle.normalise, permissiveStyle, trimBoth_eq_self hblank, if_true]
  exact dropGrouping_eq_self _ hplain false

theorem digits_of_isDigit {text : List Char} (hdigits : ∀ c ∈ text, c.isDigit) :
    permissiveStyle.digits text = (text.map fun c => c.toNat - 48, []) := by
  induction text with
  | nil => rfl
  | cons c rest ih =>
      have hvalue : permissiveStyle.digit? c = some (c.toNat - 48) :=
        digitValue?_of_isDigit (hdigits c List.mem_cons_self)
      have hdigit : permissiveStyle.isDigit c = true := by simp [NumeralStyle.isDigit, hvalue]
      have hrest := ih fun other hother => hdigits other (List.mem_cons_of_mem c hother)
      simp only [NumeralStyle.digits, Prod.mk.injEq] at hrest ⊢
      simp only [List.takeWhile_cons_of_pos hdigit, List.dropWhile_cons_of_pos hdigit,
        List.filterMap_cons_some hvalue, hrest.1, hrest.2, List.map_cons, and_self]

theorem digitsValue_map (text : List Char) :
    digitsValue (text.map fun c => c.toNat - 48) = Nat.ofDigitChars 10 text 0 := by
  rw [digitsValue, Nat.ofDigitChars_eq_foldl, List.foldl_map]
  rfl

theorem isDigit_of_mem_natText {n : Nat} {c : Char} (hmem : c ∈ natText n) : c.isDigit :=
  Nat.isDigit_of_mem_toDigits (by decide) (by decide) hmem

theorem length_natText_le {n : Nat} (hsize : n < 10 ^ maxIntegerDigits) :
    (natText n).length ≤ maxIntegerDigits :=
  (Nat.length_toDigits_le_iff (by decide) (by decide)).mpr hsize

theorem readSign_eq_self {text : List Char} (hminus : text.head? ≠ some '-')
    (hplus : text.head? ≠ some '+') : readSign text = (false, text) := by
  unfold readSign
  split
  · exact absurd rfl hminus
  · exact absurd rfl hplus
  · rfl

theorem readInt?_of_isDigit {text unsigned : List Char} {negative : Bool}
    (hsign : readSign (permissiveStyle.normalise text) = (negative, unsigned))
    (hdigits : ∀ c ∈ unsigned, c.isDigit) (hne : unsigned ≠ [])
    (hlength : unsigned.length ≤ maxIntegerDigits) :
    permissiveStyle.readInt? text =
      some (if negative then -(Nat.ofDigitChars 10 unsigned 0 : Int)
        else Nat.ofDigitChars 10 unsigned 0) := by
  have hvalue := digitsValue_map unsigned
  cases unsigned with
  | nil => exact absurd rfl hne
  | cons c rest =>
      have hshort : ¬ maxIntegerDigits < ((c :: rest).map fun c => c.toNat - 48).length := by
        simpa using hlength
      simp only [List.map_cons] at hvalue hshort
      simp only [NumeralStyle.readInt?, hsign, digits_of_isDigit hdigits, List.map_cons, hshort,
        if_false, hvalue]

/-- A whole number is read as itself from its own digits, if it may be written with them. -/
theorem readInt?_intText {n : Int} (hsize : n.natAbs < 10 ^ maxIntegerDigits) :
    permissiveStyle.readInt? (intText n) = some n := by
  have hdigits : ∀ c ∈ natText n.natAbs, c.isDigit := fun _ => isDigit_of_mem_natText
  have hblank : ∀ c ∈ natText n.natAbs, isNumberBlank c = false := fun c hmem =>
    isNumberBlank_of_isDigit (hdigits c hmem)
  have hplain : '_' ∉ natText n.natAbs := Nat.underscore_not_in_toDigits
  have hvalue : Nat.ofDigitChars 10 (natText n.natAbs) 0 = n.natAbs :=
    Nat.ofDigitChars_ten_toDigits
  by_cases hnegative : n < 0
  · have hnormal : permissiveStyle.normalise (intText n) = '-' :: natText n.natAbs := by
      simp only [intText, hnegative, if_true]
      refine normalise_permissiveStyle_eq_self ?_ (by simp [hplain])
      intro c hmem
      cases List.mem_cons.mp hmem with
      | inl hsign => rw [hsign]; decide
      | inr hrest => exact hblank c hrest
    rw [readInt?_of_isDigit (by rw [hnormal]; rfl) hdigits Nat.toDigits_ne_nil
      (length_natText_le hsize), hvalue]
    simp only [if_true, Option.some.injEq]
    omega
  · have hnormal : permissiveStyle.normalise (intText n) = natText n.natAbs := by
      simp only [intText, hnegative, if_false]
      exact normalise_permissiveStyle_eq_self hblank hplain
    have hsign : readSign (natText n.natAbs) = (false, natText n.natAbs) := by
      refine readSign_eq_self ?_ ?_ <;> intro hhead <;>
        exact absurd (hdigits _ (List.mem_of_mem_head? hhead)) (by decide)
    rw [readInt?_of_isDigit (by rw [hnormal]; exact hsign) hdigits Nat.toDigits_ne_nil
      (length_natText_le hsize), hvalue]
    simp only [Bool.false_eq_true, if_false, Option.some.injEq]
    omega

/-- A text that starts with neither a blank nor a sign nor a digit is no whole number. -/
theorem readInt?_cons_eq_none {c : Char} (hblank : isNumberBlank c = false)
    (hminus : c ≠ '-') (hplus : c ≠ '+') (hdigit : permissiveStyle.isDigit c = false)
    (rest : List Char) : permissiveStyle.readInt? (c :: rest) = none := by
  obtain ⟨others, hothers⟩ := trimBoth_cons hblank rest
  have hnormal : permissiveStyle.normalise (c :: rest) =
      c :: permissiveStyle.dropGrouping (permissiveStyle.isDigit c) others := by
    simp only [NumeralStyle.normalise, permissiveStyle, hothers, if_true,
      NumeralStyle.dropGrouping, Bool.and_false, Bool.false_and, Bool.false_eq_true, if_false]
  have hsign : readSign (permissiveStyle.normalise (c :: rest)) =
      (false, permissiveStyle.normalise (c :: rest)) := by
    rw [hnormal]
    exact readSign_eq_self (by simpa using hminus) (by simpa using hplus)
  simp only [NumeralStyle.readInt?, hsign]
  rw [hnormal]
  simp [NumeralStyle.digits, hdigit]

end AirQuality.Decimal
