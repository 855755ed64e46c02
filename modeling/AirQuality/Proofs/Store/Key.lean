import AirQuality.Proofs.Time.Written
import AirQuality.Store.Record

/-!
# What a key says

A key is a row of texts with a colon between any two of them, and no text is escaped.  So it can be
taken apart only where the number of colons in a part is known.  That is so for a time, which is
always written with two; in front of it stands the key of the parameter, which says as much as its
parts only among texts with as many colons each.
-/

namespace AirQuality

/-! ### Texts with a mark between them -/

section Marks

variable {c : Char} {front front' back back' : List Char}

/-- What stands before a mark is known by the number of marks in it. -/
theorem append_mark_inj (hcount : front.count c = front'.count c)
    (hsame : front ++ c :: back = front' ++ c :: back') : front = front' ∧ back = back' := by
  induction front generalizing front' with
  | nil =>
      cases front' with
      | nil => exact ⟨rfl, (List.cons.inj hsame).2⟩
      | cons first rest =>
          -- The other text would start with a mark that the first does not have.
          obtain rfl := (List.cons.inj hsame).1
          simp at hcount
  | cons first rest ih =>
      cases front' with
      | nil =>
          obtain rfl := (List.cons.inj hsame).1
          simp at hcount
      | cons other others =>
          obtain ⟨rfl, hrest⟩ := List.cons.inj hsame
          simp only [List.count_cons, Nat.add_right_cancel_iff] at hcount
          obtain ⟨rfl, hback⟩ := ih hcount hrest
          exact ⟨rfl, hback⟩

/-- So it is by the number of marks in what stands behind it. -/
theorem append_mark_inj_of_back (hcount : back.count c = back'.count c)
    (hsame : front ++ c :: back = front' ++ c :: back') : front = front' ∧ back = back' := by
  have htotal : front.count c + (back.count c + 1) = front'.count c + (back'.count c + 1) := by
    calc
      front.count c + (back.count c + 1) = (front ++ c :: back).count c := by simp
      _ = (front' ++ c :: back').count c := by rw [hsame]
      _ = front'.count c + (back'.count c + 1) := by simp
  exact append_mark_inj (by omega) hsame

end Marks

namespace Store

open Time (Moment)

/-- The number of colons in a text. -/
def colons (text : String) : Nat := text.toList.count ':'

/-! ### Keys of stations and parameters -/

variable {source source' station station' parameter parameter' : String}

theorem StationRecord.toList_keyFor (source station : String) :
    (StationRecord.keyFor (.text source) (.text station)).toList =
      source.toList ++ ':' :: station.toList := by
  simp [StationRecord.keyFor, keyOf, Json.display]

theorem ParameterRecord.toList_keyFor (source station parameter : String) :
    (ParameterRecord.keyFor (.text source) (.text station) (.text parameter)).toList =
      source.toList ++ ':' :: (station.toList ++ ':' :: parameter.toList) := by
  simp [ParameterRecord.keyFor, keyOf, Json.display]

theorem StationRecord.keyFor_eq_iff (hsource : colons source = colons source') :
    StationRecord.keyFor (.text source) (.text station) =
        StationRecord.keyFor (.text source') (.text station') ↔
      source = source' ∧ station = station' := by
  constructor
  · intro hsame
    have hlist := congrArg String.toList hsame
    rw [StationRecord.toList_keyFor, StationRecord.toList_keyFor] at hlist
    obtain ⟨hsource, hstation⟩ := append_mark_inj hsource hlist
    exact ⟨String.toList_inj.mp hsource, String.toList_inj.mp hstation⟩
  · rintro ⟨rfl, rfl⟩
    rfl

/-- The key of a parameter says its source, its station and its id where the colons of the first
two are known. -/
theorem ParameterRecord.keyFor_eq_iff (hsource : colons source = colons source')
    (hstation : colons station = colons station') :
    ParameterRecord.keyFor (.text source) (.text station) (.text parameter) =
        ParameterRecord.keyFor (.text source') (.text station') (.text parameter') ↔
      source = source' ∧ station = station' ∧ parameter = parameter' := by
  constructor
  · intro hsame
    have hlist := congrArg String.toList hsame
    rw [ParameterRecord.toList_keyFor, ParameterRecord.toList_keyFor] at hlist
    obtain ⟨hsource, hrest⟩ := append_mark_inj hsource hlist
    obtain ⟨hstation, hparameter⟩ := append_mark_inj hstation hrest
    exact ⟨String.toList_inj.mp hsource, String.toList_inj.mp hstation,
      String.toList_inj.mp hparameter⟩
  · rintro ⟨rfl, rfl, rfl⟩
    rfl

/-! ### Keys of measurements -/

/-- The key of a measurement is that of its parameter and the time. -/
theorem MeasurementRecord.keyFor_eq_append (source station parameter : String) (moment : Moment) :
    MeasurementRecord.keyFor (.text source) (.text station) (.text parameter) moment =
      ParameterRecord.keyFor (.text source) (.text station) (.text parameter) ++ ":" ++
        moment.iso := by
  apply String.toList_inj.mp
  simp [MeasurementRecord.keyFor, ParameterRecord.keyFor, keyOf, Json.display]

variable {moment moment' : Moment}

theorem MeasurementRecord.keyFor_eq_iff (hnaive : moment.offset = none)
    (hnaive' : moment'.offset = none) (hmoment : Time.inCalendar moment.wall = true)
    (hmoment' : Time.inCalendar moment'.wall = true) :
    MeasurementRecord.keyFor (.text source) (.text station) (.text parameter) moment =
        MeasurementRecord.keyFor (.text source') (.text station') (.text parameter') moment' ↔
      ParameterRecord.keyFor (.text source) (.text station) (.text parameter) =
          ParameterRecord.keyFor (.text source') (.text station') (.text parameter') ∧
        moment.wall = moment'.wall := by
  rw [MeasurementRecord.keyFor_eq_append, MeasurementRecord.keyFor_eq_append]
  constructor
  · intro hsame
    have hlist := congrArg String.toList hsame
    simp only [String.toList_append, Moment.iso, String.toList_ofList, List.append_assoc] at hlist
    have hcount : moment.isoChars.count ':' = moment'.isoChars.count ':' := by
      rw [Moment.count_isoChars hnaive, Moment.count_isoChars hnaive']
    obtain ⟨hkey, htime⟩ := append_mark_inj_of_back hcount hlist
    exact ⟨String.toList_inj.mp hkey,
      Moment.wall_eq_of_isoChars_eq hnaive hnaive' hmoment hmoment' htime⟩
  · rintro ⟨hkey, hwall⟩
    have hsame : moment = moment' := by
      cases moment
      cases moment'
      simp_all only
    rw [hkey, hsame]

end Store

end AirQuality
