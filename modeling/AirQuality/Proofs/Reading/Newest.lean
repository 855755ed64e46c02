import AirQuality.Measurement
import AirQuality.Proofs.Reading.Column

/-!
# The newest of some readings

Of records in the order of time the newest stand at the end, so what is selected among the last
records is the start of what is selected among all of them: selection among fewer records drops
readings from the old end, and may take the sign off a zero, but does nothing else.
-/

namespace AirQuality.Reading

open Decimal (oneZero)
open Outcome
open Time (Moment)

/-- Records whose timestamps are texts for instants, each of them later than the one before. -/
structure Dated (records : List Record) (instants : List Int) : Prop where
  texts : Column.AreTexts (records.map (·.timestamp))
  present :
    (Column.instants (Column.ofCells (records.map (·.timestamp))).1
      (Column.ofCells (records.map (·.timestamp))).2).2 = instants.map some
  increasing : instants.Pairwise (· < ·)

variable {records : List Record} {instants : List Int}

theorem Dated.length_eq (hdated : Dated records instants) : instants.length = records.length := by
  have hlength := congrArg List.length hdated.present
  rw [Column.instants_of_areTexts hdated.texts, Column.instantsOfStamps_eq_map] at hlength
  simpa using hlength.symm

theorem Dated.drop (hdated : Dated records instants) (count : Nat) :
    Dated (records.drop count) (instants.drop count) where
  texts cell hcell := hdated.texts cell (by
    rw [List.map_drop] at hcell
    exact List.mem_of_mem_drop hcell)
  present := by
    rw [List.map_drop]
    exact Column.instants_drop hdated.texts hdated.present count
  increasing := hdated.increasing.sublist (List.drop_sublist count instants)

/-! ### Eligible readings -/

/-- Whether a reading is newer than a cutoff, if there is one. -/
def isNewer (oldest : Option Moment) (reading : Reading) : Bool :=
  match oldest with
  | none => true
  | some limit => limit.instant * 1000 < reading.instant

/-- The readings that a cutoff lets through, in the order of their records. -/
def eligible (oldest : Option Moment) (instants : List Int) (numbers : List Float) :
    List Reading :=
  ((List.zipWith ofCells? (instants.map some) numbers).filterMap id).filter (isNewer oldest)

variable {oldest : Option Moment}

theorem eligible_append {first second : List Int} {numbers others : List Float}
    (hlength : first.length = numbers.length) :
    eligible oldest (first ++ second) (numbers ++ others) =
      eligible oldest first numbers ++ eligible oldest second others := by
  simp only [eligible, List.map_append]
  rw [List.zipWith_append (by simpa using hlength), List.filterMap_append, List.filter_append]

theorem eligible_eq_take_append_drop {numbers : List Float}
    (hlength : instants.length = numbers.length) (count : Nat) :
    eligible oldest instants numbers =
      eligible oldest (instants.take count) (numbers.take count) ++
        eligible oldest (instants.drop count) (numbers.drop count) := by
  rw [← eligible_append (by simp [hlength]), List.take_append_drop, List.take_append_drop]

theorem eligible_cons (instant : Int) (rest : List Int) (number : Float) (others : List Float) :
    eligible oldest (instant :: rest) (number :: others) =
      if Decimal.isFinite number ∧ isNewer oldest ⟨instant, number⟩ then
        ⟨instant, number⟩ :: eligible oldest rest others
      else eligible oldest rest others := by
  by_cases hfinite : Decimal.isFinite number = true
  · simp [eligible, ofCells?, hfinite, List.filter_cons]
  · simp [eligible, ofCells?, hfinite]

theorem map_instant_sublist (numbers : List Float) :
    ((eligible oldest instants numbers).map (·.instant)).Sublist instants := by
  induction instants generalizing numbers with
  | nil => simp [eligible]
  | cons instant rest ih =>
      cases numbers with
      | nil => simp [eligible]
      | cons number others =>
          rw [eligible_cons]
          split
          · exact (ih others).cons_cons instant
          · exact (ih others).cons instant

/-- Readings in the order of time come from newest to oldest once they are reversed. -/
theorem newestFirst_of_increasing {readings : List Reading}
    (hincreasing : readings.Pairwise fun first second => first.instant < second.instant) :
    newestFirst readings = readings.reverse := by
  have hsorted : (newestFirst readings).Pairwise fun first second =>
      decide (second.instant ≤ first.instant) = true := by
    refine List.pairwise_mergeSort ?_ ?_ readings
    · intro first second third hfirst hsecond
      simp only [decide_eq_true_eq] at hfirst hsecond ⊢
      omega
    · intro first second
      simp only [Bool.or_eq_true, decide_eq_true_eq]
      omega
  have hreverse : readings.reverse.Pairwise fun first second =>
      decide (second.instant ≤ first.instant) = true := by
    rw [List.pairwise_reverse]
    exact hincreasing.imp fun hlt => by
      simp only [decide_eq_true_eq]
      omega
  have hforward : readings.Pairwise fun first second =>
      first.instant = second.instant → first = second :=
    hincreasing.imp fun hlt heq => absurd (heq ▸ hlt) (Int.lt_irrefl _)
  have hbackward : readings.Pairwise fun first second =>
      second.instant = first.instant → second = first :=
    hincreasing.imp fun hlt heq => absurd (heq ▸ hlt) (Int.lt_irrefl _)
  refine List.Perm.eq_of_pairwise ?_ hsorted hreverse
    ((List.mergeSort_perm _ _).trans (List.reverse_perm readings).symm)
  intro first second hfirst hsecond hle hge
  simp only [decide_eq_true_eq] at hle hge
  exact hforward.forall_of_forall_of_flip (fun _ _ _ => rfl) hbackward
    (List.mem_mergeSort.mp hfirst) (List.mem_reverse.mp hsecond) (by omega)

/-! ### Selection -/

variable {now : Moment} {limits : Limits} {numbers : List Float}

/-- What is known of a selection that comes to an end: its cutoff, which has to say how far it is
from UTC, and the numbers of its values. -/
structure Comparable (now : Moment) (limits : Limits) (records : List Record)
    (oldest : Option Moment) (numbers : List Float) : Prop where
  cutoff : cutoff now limits = .ok oldest
  zoned : ∀ limit ∈ oldest, limit.isNaive = false
  numbers : Column.numbers (records.map (·.value)) = .ok numbers

@[simp]
theorem capped_nil {α : Type} (count : Option Int) : capped count ([] : List α) = [] := by
  cases count with
  | none => rfl
  | some count => exact List.take_nil

theorem capped_map {α β : Type} (count : Option Int) (f : α → β) (items : List α) :
    capped count (items.map f) = (capped count items).map f := by
  cases count with
  | none => rfl
  | some count => exact List.map_take.symm

/-- A cap on a list takes no more of its start than a cap on the start alone. -/
theorem take_capped_append {α : Type} (count : Option Int) (first second : List α) :
    (capped count (first ++ second)).take first.length = capped count first := by
  cases count with
  | none => exact List.take_left
  | some count =>
      simp only [capped]
      rw [List.take_take, Nat.min_comm, ← List.take_take, List.take_left]

theorem newerThan_instants {fine : Bool} (hzoned : ∀ limit ∈ oldest, limit.isNaive = false)
    (readings : List Reading) :
    newerThan (.instants fine) oldest readings = .ok (readings.filter (isNewer oldest)) := by
  cases oldest with
  | none =>
      have hall : readings.filter (isNewer none) = readings :=
        List.filter_eq_self.mpr fun _ _ => rfl
      simp [newerThan, within, hall]
  | some limit =>
      have hlimit : limit.isNaive = false := hzoned limit rfl
      simp only [newerThan, within, limitInstant, hlimit, reduceCtorEq, decide_false, if_true,
        ok_bind, pure_eq_ok]
      rfl

theorem select_of_comparable (hdated : Dated records instants)
    (hcomparable : Comparable now limits records oldest numbers) :
    select now limits none records =
      .ok (capped limits.maxCount (eligible oldest instants numbers).reverse) := by
  have hincreasing : (eligible oldest instants numbers).Pairwise fun first second =>
      first.instant < second.instant :=
    List.pairwise_map.mp (hdated.increasing.sublist (map_instant_sublist numbers))
  cases records with
  | nil =>
      have hinstants : instants = [] := List.length_eq_zero_iff.mp hdated.length_eq
      rw [hinstants]
      simp [select, eligible]
  | cons record rest =>
      have hpresent := hdated.present
      rw [Column.instants_of_areTexts hdated.texts] at hpresent
      simp only [select, List.isEmpty_cons, Bool.false_eq_true, if_false,
        Column.instants_of_areTexts hdated.texts, hpresent, hcomparable.cutoff, ok_bind,
        ofColumns, Column.numbers_ofCells, hcomparable.numbers, notAfter, within, pure_eq_ok,
        newerThan_instants hcomparable.zoned]
      rw [← eligible, newestFirst_of_increasing hincreasing]

/-- A selection among some records comes to an end only if it can compare them. -/
theorem exists_comparable_of_select (hdated : Dated records instants) (hne : records ≠ [])
    {readings : List Reading} (hselect : select now limits none records = .ok readings) :
    ∃ oldest numbers, Comparable now limits records oldest numbers := by
  cases records with
  | nil => exact absurd rfl hne
  | cons record rest =>
      simp only [select, List.isEmpty_cons, Bool.false_eq_true, if_false,
        Column.instants_of_areTexts hdated.texts, ofColumns, Column.numbers_ofCells, notAfter,
        within] at hselect
      cases hcutoff : cutoff now limits with
      | error failure =>
          rw [hcutoff] at hselect
          cases hselect
      | ok oldest =>
          cases hnumbers : Column.numbers ((record :: rest).map (·.value)) with
          | error failure =>
              rw [hcutoff, hnumbers] at hselect
              cases hselect
          | ok numbers =>
              refine ⟨oldest, numbers, hcutoff, ?_, hnumbers⟩
              rintro limit ⟨⟩
              rw [hcutoff, hnumbers] at hselect
              cases hnaive : limit.isNaive with
              | false => rfl
              | true =>
                  simp [newerThan, within, limitInstant, hnaive] at hselect

/-! ### The last records -/

/-- A reading without the sign of its zero. -/
def withOneZero (reading : Reading) : Reading := { reading with value := oneZero reading.value }

theorem isNewer_withOneZero (reading : Reading) :
    isNewer oldest (withOneZero reading) = isNewer oldest reading := by
  cases oldest <;> rfl

theorem eligible_map_oneZero (instants : List Int) (numbers : List Float) :
    eligible oldest instants (numbers.map oneZero) =
      (eligible oldest instants numbers).map withOneZero := by
  induction instants generalizing numbers with
  | nil => simp [eligible]
  | cons instant rest ih =>
      cases numbers with
      | nil => simp [eligible]
      | cons number others =>
          have hnewer : isNewer oldest ⟨instant, oneZero number⟩ =
              isNewer oldest ⟨instant, number⟩ := isNewer_withOneZero ⟨instant, number⟩
          rw [List.map_cons, eligible_cons, eligible_cons, ih, Decimal.isFinite_oneZero, hnewer]
          split <;> rfl

/-- What the values left of a column do to a reading. -/
def settleZero (records : List Record) (reading : Reading) : Reading :=
  if Column.areWhole (records.map (·.value)) then withOneZero reading else reading

theorem Comparable.drop (hcomparable : Comparable now limits records oldest numbers)
    (count : Nat) :
    Comparable now limits (records.drop count) oldest
      (if Column.areWhole ((records.drop count).map (·.value)) then
        (numbers.drop count).map oneZero else numbers.drop count) where
  cutoff := hcomparable.cutoff
  zoned := hcomparable.zoned
  numbers := by
    rw [List.map_drop]
    exact Column.numbers_drop hcomparable.numbers count

theorem select_drop_of_comparable (hdated : Dated records instants)
    (hcomparable : Comparable now limits records oldest numbers) (skipped : Nat) :
    select now limits none (records.drop skipped) =
      .ok ((capped limits.maxCount
        (eligible oldest (instants.drop skipped) (numbers.drop skipped)).reverse).map
          (settleZero (records.drop skipped))) := by
  rw [select_of_comparable (hdated.drop skipped) (hcomparable.drop skipped), ← capped_map,
    List.map_reverse]
  by_cases hwhole : Column.areWhole ((records.drop skipped).map (·.value)) = true
  · have hsettle : settleZero (records.drop skipped) = withOneZero :=
      funext fun reading => if_pos hwhole
    rw [if_pos hwhole, eligible_map_oneZero, hsettle]
  · have hsettle : settleZero (records.drop skipped) = id :=
      funext fun reading => if_neg hwhole
    rw [if_neg hwhole, hsettle, List.map_id]

theorem take_of_select (hdated : Dated records instants)
    (hcomparable : Comparable now limits records oldest numbers) (skipped : Nat)
    {readings : List Reading} (hselect : select now limits none records = .ok readings) :
    readings.take (eligible oldest (instants.drop skipped) (numbers.drop skipped)).length =
      capped limits.maxCount
        (eligible oldest (instants.drop skipped) (numbers.drop skipped)).reverse := by
  have hlength : instants.length = numbers.length := by
    rw [hdated.length_eq, Column.length_numbers hcomparable.numbers, List.length_map]
  rw [select_of_comparable hdated hcomparable,
    eligible_eq_take_append_drop hlength skipped, List.reverse_append, Except.ok.injEq] at hselect
  rw [← hselect, ← List.length_reverse, take_capped_append]

/-- The readings that the last records hold, whatever the cap. -/
theorem exists_recent (hdated : Dated records instants)
    (hcomparable : Comparable now limits records oldest numbers) (skipped : Nat) :
    ∃ recent, select now { limits with maxCount := none } none (records.drop skipped) =
        .ok recent ∧
      recent.length =
        (eligible oldest (instants.drop skipped) (numbers.drop skipped)).length := by
  have huncapped : Comparable now { limits with maxCount := none } records oldest numbers :=
    ⟨hcomparable.cutoff, hcomparable.zoned, hcomparable.numbers⟩
  refine ⟨_, select_drop_of_comparable hdated huncapped skipped, ?_⟩
  simp [capped]

/-- The readings selected among the last records are, newest first, the start of those selected
among all records. -/
theorem select_drop (hdated : Dated records instants)
    (hcomparable : Comparable now limits records oldest numbers) (skipped : Nat)
    {readings : List Reading} (hselect : select now limits none records = .ok readings) :
    select now limits none (records.drop skipped) =
      .ok ((readings.take
        (eligible oldest (instants.drop skipped) (numbers.drop skipped)).length).map
          (settleZero (records.drop skipped))) := by
  rw [take_of_select hdated hcomparable skipped hselect,
    select_drop_of_comparable hdated hcomparable]

/-! ### Usable values -/

/-- A value that is finite on its own and no zero with a sign. -/
def IsUsable (value : Json) : Prop :=
  ∃ number, Column.numberOf value = .ok number ∧ Decimal.isFinite number = true ∧
    oneZero number = number

theorem isUsable_of_mem_drop (hnumbers : Column.numbers (records.map (·.value)) = .ok numbers)
    {skipped : Nat} (husable : ∀ record ∈ records.drop skipped, IsUsable record.value)
    {number : Float} (hnumber : number ∈ numbers.drop skipped) :
    Decimal.isFinite number = true ∧ oneZero number = number := by
  cases hraw : (records.map (·.value)).mapM Column.numberOf with
  | error failure =>
      simp only [Column.numbers, hraw] at hnumbers
      cases hnumbers
  | ok raw =>
      have hplain : ∀ other ∈ raw.drop skipped,
          Decimal.isFinite other = true ∧ oneZero other = other := by
        intro other hother
        obtain ⟨cell, hcell, hread⟩ := exists_mem_of_mapM (mapM_drop hraw skipped) hother
        rw [← List.map_drop] at hcell
        obtain ⟨record, hrecord, rfl⟩ := List.mem_map.mp hcell
        obtain ⟨value, hvalue, hfinite, hzero⟩ := husable record hrecord
        rw [hread] at hvalue
        cases hvalue
        exact ⟨hfinite, hzero⟩
      simp only [Column.numbers, hraw, ok_bind, pure_eq_ok, Except.ok.injEq] at hnumbers
      rw [← hnumbers] at hnumber
      split at hnumber
      · rw [← List.map_drop] at hnumber
        obtain ⟨other, hother, rfl⟩ := List.mem_map.mp hnumber
        rw [(hplain other hother).2]
        exact hplain other hother
      · exact hplain number hnumber

theorem isNewer_of_lt {first second : Reading} (hfirst : isNewer oldest first = true)
    (hlt : first.instant < second.instant) : isNewer oldest second = true := by
  cases oldest with
  | none => rfl
  | some limit =>
      simp only [isNewer, decide_eq_true_eq] at hfirst ⊢
      omega

theorem mem_eligible {reading : Reading} (hmem : reading ∈ eligible oldest instants numbers) :
    reading.instant ∈ instants ∧ reading.value ∈ numbers ∧ isNewer oldest reading = true := by
  induction instants generalizing numbers with
  | nil => simp [eligible] at hmem
  | cons instant rest ih =>
      cases numbers with
      | nil => simp [eligible] at hmem
      | cons number others =>
          rw [eligible_cons] at hmem
          have hlater : reading ∈ eligible oldest rest others →
              reading.instant ∈ instant :: rest ∧ reading.value ∈ number :: others ∧
                isNewer oldest reading = true := fun hrest =>
            ⟨List.mem_cons_of_mem _ (ih hrest).1, List.mem_cons_of_mem _ (ih hrest).2.1,
              (ih hrest).2.2⟩
          split at hmem
          case isTrue heligible =>
            cases List.mem_cons.mp hmem with
            | inl hfirst =>
                rw [hfirst]
                exact ⟨List.mem_cons_self, List.mem_cons_self, heligible.2⟩
            | inr hrest => exact hlater hrest
          case isFalse => exact hlater hmem

theorem length_eligible (hlength : instants.length = numbers.length)
    (hfinite : ∀ number ∈ numbers, Decimal.isFinite number = true)
    (hnewer : ∀ instant ∈ instants, ∀ value, isNewer oldest ⟨instant, value⟩ = true) :
    (eligible oldest instants numbers).length = instants.length := by
  induction instants generalizing numbers with
  | nil => simp [eligible]
  | cons instant rest ih =>
      cases numbers with
      | nil => cases hlength
      | cons number others =>
          have hfirst : Decimal.isFinite number = true ∧
              isNewer oldest ⟨instant, number⟩ = true :=
            ⟨hfinite number List.mem_cons_self, hnewer instant List.mem_cons_self number⟩
          have hrest := ih (Nat.succ.inj hlength)
            (fun other hother => hfinite other (List.mem_cons_of_mem number hother))
            (fun other hother => hnewer other (List.mem_cons_of_mem instant hother))
          rw [eligible_cons, if_pos hfirst, List.length_cons, List.length_cons, hrest]

theorem settleZero_of_isUsable (hcomparable : Comparable now limits records oldest numbers)
    {skipped : Nat} (husable : ∀ record ∈ records.drop skipped, IsUsable record.value)
    {reading : Reading}
    (hmem : reading ∈ eligible oldest (instants.drop skipped) (numbers.drop skipped)) :
    settleZero (records.drop skipped) reading = reading := by
  have hvalue := (isUsable_of_mem_drop hcomparable.numbers husable (mem_eligible hmem).2.1).2
  unfold settleZero
  split
  · rw [withOneZero, hvalue]
  · rfl

/-- Where the last records have usable values only, and are enough for the cap, no reading is
selected from the records before them. -/
theorem length_le_of_isUsable (hdated : Dated records instants)
    (hcomparable : Comparable now limits records oldest numbers) {skipped : Nat} {count : Int}
    (hcap : limits.maxCount = some count)
    (husable : ∀ record ∈ records.drop skipped, IsUsable record.value)
    (henough : skipped = 0 ∨ count.toNat ≤ (records.drop skipped).length)
    {readings : List Reading} (hselect : select now limits none records = .ok readings) :
    readings.length ≤
      (eligible oldest (instants.drop skipped) (numbers.drop skipped)).length := by
  have hlength : instants.length = numbers.length := by
    rw [hdated.length_eq, Column.length_numbers hcomparable.numbers, List.length_map]
  rw [select_of_comparable hdated hcomparable, hcap,
    eligible_eq_take_append_drop hlength skipped, Except.ok.injEq] at hselect
  rw [← hselect]
  cases hearlier : eligible oldest (instants.take skipped) (numbers.take skipped) with
  | nil =>
      simp only [List.nil_append, capped, List.length_take, List.length_reverse]
      omega
  | cons first others =>
      have hfirst : first ∈ eligible oldest (instants.take skipped) (numbers.take skipped) := by
        rw [hearlier]
        exact List.mem_cons_self
      obtain ⟨hinstant, -, hnewer⟩ := mem_eligible hfirst
      have hsplit : (instants.take skipped ++ instants.drop skipped).Pairwise (· < ·) := by
        rw [List.take_append_drop]
        exact hdated.increasing
      have hlater : ∀ instant ∈ instants.drop skipped, ∀ value,
          isNewer oldest ⟨instant, value⟩ = true := fun instant hmem value =>
        isNewer_of_lt hnewer ((List.pairwise_append.mp hsplit).2.2 _ hinstant _ hmem)
      have hall := length_eligible (by simp [hlength])
        (fun number hnumber => (isUsable_of_mem_drop hcomparable.numbers husable hnumber).1) hlater
      have hkept : count.toNat ≤ (instants.drop skipped).length := by
        cases henough with
        | inl hzero =>
            rw [hzero, List.take_zero] at hinstant
            cases hinstant
        | inr henough =>
            rw [List.length_drop] at henough ⊢
            rw [hdated.length_eq]
            exact henough
      rw [hall]
      simp only [capped, List.length_take]
      omega

theorem select_drop_of_isUsable (hdated : Dated records instants)
    (hcomparable : Comparable now limits records oldest numbers) {skipped : Nat} {count : Int}
    (hcap : limits.maxCount = some count)
    (husable : ∀ record ∈ records.drop skipped, IsUsable record.value)
    (henough : skipped = 0 ∨ count.toNat ≤ (records.drop skipped).length)
    {readings : List Reading} (hselect : select now limits none records = .ok readings) :
    select now limits none (records.drop skipped) = .ok readings := by
  have hlength := length_le_of_isUsable hdated hcomparable hcap husable henough hselect
  have htake := take_of_select hdated hcomparable skipped hselect
  have hsettled : readings.map (settleZero (records.drop skipped)) = readings := by
    refine (List.map_congr_left fun reading hmem => ?_).trans (List.map_id readings)
    rw [← List.take_of_length_le hlength, htake, hcap] at hmem
    exact settleZero_of_isUsable hcomparable husable
      (List.mem_reverse.mp (List.mem_of_mem_take hmem))
  rw [select_drop hdated hcomparable skipped hselect, List.take_of_length_le hlength, hsettled]

end AirQuality.Reading
