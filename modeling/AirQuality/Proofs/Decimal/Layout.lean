import AirQuality.Proofs.Decimal.Numeral
import AirQuality.Decimal.Layout

/-!
# The characters of a number

A number is written with digits, signs, a point and the mark of an exponent, or by name.  It
therefore holds none of the characters that tell a date from a time.
-/

namespace AirQuality.Decimal

/-- The characters that numbers are written with. -/
def isPlain (c : Char) : Bool := c.isDigit || ['.', '-', '+', 'e', 'i', 'n', 'f', 'a'].contains c

/-- A text of such characters only. -/
def ArePlain (text : List Char) : Prop := ∀ c ∈ text, isPlain c = true

variable {text first second : List Char} {c : Char}

theorem arePlain_nil : ArePlain [] := List.forall_mem_nil _

theorem arePlain_cons (hc : isPlain c = true) (htext : ArePlain text) : ArePlain (c :: text) :=
  List.forall_mem_cons.mpr ⟨hc, htext⟩

theorem arePlain_append (hfirst : ArePlain first) (hsecond : ArePlain second) :
    ArePlain (first ++ second) :=
  List.forall_mem_append.mpr ⟨hfirst, hsecond⟩

theorem ArePlain.subset (htext : ArePlain text) (hsubset : first ⊆ text) : ArePlain first :=
  fun c hmem => htext c (hsubset hmem)

theorem arePlain_zeros (count : Nat) : ArePlain (List.replicate count '0') := by
  intro c hmem
  rw [List.eq_of_mem_replicate hmem]
  rfl

theorem arePlain_natText (n : Nat) : ArePlain (natText n) := by
  intro c hmem
  rw [isPlain, isDigit_of_mem_natText hmem, Bool.true_or]

theorem arePlain_padLeft (width : Nat) (htext : ArePlain text) : ArePlain (padLeft width text) :=
  arePlain_append (arePlain_zeros _) htext

theorem arePlain_dropTrailingZeros (htext : ArePlain text) :
    ArePlain (dropTrailingZeros text) := by
  refine htext.subset fun c hmem => ?_
  have hdropped := (List.dropWhile_sublist (· == '0')).subset (List.mem_reverse.mp hmem)
  exact List.mem_reverse.mp hdropped

theorem arePlain_signed (negative : Bool) (htext : ArePlain text) :
    ArePlain (signed negative text) := by
  cases negative with
  | false => exact htext
  | true => exact arePlain_cons rfl htext

theorem arePlain_placePoint (keepsPointZero : Bool) (whole : Int) (htext : ArePlain text) :
    ArePlain (placePoint keepsPointZero text whole) := by
  have hpoint : isPlain '.' = true := rfl
  have hzero : isPlain '0' = true := rfl
  unfold placePoint
  split
  · exact arePlain_cons hzero (arePlain_cons hpoint (arePlain_append (arePlain_zeros _) htext))
  · dsimp only
    split
    · refine arePlain_append (arePlain_append htext (arePlain_zeros _)) ?_
      split
      · exact arePlain_cons hpoint (arePlain_cons hzero arePlain_nil)
      · exact arePlain_nil
    · exact arePlain_append (htext.subset (List.take_subset _ _))
        (arePlain_cons hpoint (htext.subset (List.drop_subset _ _)))

theorem arePlain_withExponent {layout : Layout} (hmark : isPlain layout.exponentMark = true)
    (htext : ArePlain text) (lead : Int) : ArePlain (layout.withExponent text lead) := by
  have hpoint : isPlain '.' = true := rfl
  refine arePlain_append ?_ (arePlain_cons hmark (arePlain_cons ?_
    (arePlain_padLeft _ (arePlain_natText _))))
  · split
    · obtain ⟨hfirst, hrest⟩ := List.forall_mem_cons.mp htext
      exact arePlain_cons hfirst (arePlain_cons hpoint hrest)
    · split
      · exact arePlain_append htext (arePlain_cons hpoint (arePlain_zeros 1))
      · exact htext
  · split
    · rfl
    · rfl

theorem arePlain_write {layout : Layout} (hmark : isPlain layout.exponentMark = true)
    (decimal : Scientific) : ArePlain (layout.write decimal) := by
  have hdigits := arePlain_dropTrailingZeros (arePlain_natText decimal.significand)
  unfold Layout.write
  dsimp only
  split
  · exact arePlain_placePoint _ _ hdigits
  · exact arePlain_withExponent hmark hdigits _

theorem arePlain_intText (n : Int) : ArePlain (intText n) := by
  unfold intText
  split
  · exact arePlain_cons rfl (arePlain_natText _)
  · exact arePlain_natText _

theorem arePlain_floatText (x : Float) : ArePlain (floatText x) := by
  have hnamed (text : List Char)
      (hname : text = "nan".toList ∨ text = "inf".toList ∨ text = "0.0".toList) :
      ArePlain text := by
    apply List.all_eq_true.mp
    rcases hname with rfl | rfl | rfl
    all_goals decide
  unfold floatText
  split
  · exact hnamed _ (.inl rfl)
  · exact arePlain_signed _ (hnamed _ (.inr (.inl rfl)))
  · refine arePlain_signed _ ?_
    split
    · exact hnamed _ (.inr (.inr rfl))
    · exact arePlain_write rfl _

end AirQuality.Decimal
