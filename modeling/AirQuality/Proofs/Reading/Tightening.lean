import AirQuality.Proofs.Reading.Selection
import AirQuality.Proofs.Time.Span

/-!
# Tighter limits

A lower cap and a shorter age limit only cut off the end of a selection: the newest readings come
first, so that those after a later cutoff are the start of those after an earlier one, and a cap
takes the start of what there is.
-/

namespace AirQuality

open Time (Moment)

/-- Limits that let through no more than others, where a negative cap counts as zero. -/
structure Limits.IsTighter (tight loose : Limits) : Prop where
  count : ∀ bound, loose.maxCount = some bound →
    ∃ count, tight.maxCount = some count ∧ count.toNat ≤ bound.toNat
  age : ∀ bound, loose.maxAgeDays = some bound →
    ∃ days, tight.maxAgeDays = some days ∧ days.le bound = true

/-! ### The start of a list -/

/-- What holds of an item whenever it holds of a later one holds of the start of a list. -/
theorem isPrefix_filter_of_pairwise {α : Type} {holds : α → Bool} {items : List α}
    (hearlier : items.Pairwise fun first second => holds second = true → holds first = true) :
    items.filter holds <+: items := by
  induction items with
  | nil => exact List.prefix_rfl
  | cons item rest ih =>
      obtain ⟨hitem, hrest⟩ := List.pairwise_cons.mp hearlier
      by_cases hholds : holds item = true
      · rw [List.filter_cons_of_pos hholds]
        exact List.prefix_cons_inj item |>.mpr (ih hrest)
      · have hnone : rest.filter holds = [] := List.filter_eq_nil_iff.mpr fun other hother hlater =>
          hholds (hitem other hother hlater)
        rw [List.filter_cons_of_neg hholds, hnone]
        exact List.nil_prefix

namespace Reading

/-- A lower cap on the start of a list takes the start of what a higher one takes. -/
theorem capped_of_isPrefix {α : Type} {tight loose : Limits} (htighter : tight.IsTighter loose)
    {items others : List α} (hstart : items <+: others) :
    capped tight.maxCount items <+: capped loose.maxCount others := by
  cases hloose : loose.maxCount with
  | none =>
      cases tight.maxCount with
      | none => exact hstart
      | some count => exact (List.take_prefix count.toNat items).trans hstart
  | some bound =>
      obtain ⟨count, htight, hle⟩ := htighter.count bound hloose
      rw [htight]
      exact (List.take_prefix_take_left hle).trans (hstart.take bound.toNat)

/-! ### Sorting a part -/

/-- It does not matter whether readings are dropped before the others are sorted or after that. -/
theorem filter_newestFirst (holds : Reading → Bool) (readings : List Reading) :
    (newestFirst readings).filter holds = newestFirst (readings.filter holds) := by
  induction readings with
  | nil => simp [newestFirst]
  | cons reading rest ih =>
      have hnewer : (newerOf reading (newestFirst rest)).filter holds =
          newerOf reading (newestFirst (rest.filter holds)) := by
        rw [← ih]
        exact List.filter_comm ..
      have hrest : (restOf reading (newestFirst rest)).filter holds =
          restOf reading (newestFirst (rest.filter holds)) := by
        rw [← ih]
        exact List.filter_comm ..
      rw [(newestFirst_cons reading rest).2, List.filter_append, hnewer]
      by_cases hholds : holds reading = true
      · rw [List.filter_cons_of_pos hholds, List.filter_cons_of_pos hholds, hrest,
          (newestFirst_cons reading _).2]
      · rw [List.filter_cons_of_neg hholds, List.filter_cons_of_neg hholds, hrest,
          ← (newestFirst_cons reading _).1]

/-- Of readings from newest to oldest, those after a cutoff are the first. -/
theorem isPrefix_filter_newestFirst (oldest : Option Moment) (readings : List Reading) :
    (newestFirst readings).filter (isNewer oldest) <+: newestFirst readings := by
  have hsorted := List.pairwise_mergeSort isNotOlder_trans isNotOlder_total readings
  refine isPrefix_filter_of_pairwise (hsorted.imp fun {first second} hnotOlder hnewer => ?_)
  have hle : second.instant ≤ first.instant := of_decide_eq_true hnotOlder
  rw [isNewer_iff] at hnewer ⊢
  exact fun limit hlimit => (hnewer limit hlimit).trans_le hle

/-! ### Two cutoffs -/

variable {now : Moment} {tight loose : Limits} {oldest oldest' : Option Moment}
  {records : List Record}

theorem isNewer_of_isTighter (htighter : tight.IsTighter loose)
    (hcutoff : cutoff now tight = .ok oldest) (hcutoff' : cutoff now loose = .ok oldest')
    (reading : Reading) (hnewer : isNewer oldest reading = true) :
    isNewer oldest' reading = true := by
  cases hbound : loose.maxAgeDays with
  | none =>
      rw [(of_cutoff hcutoff').1.mpr hbound]
      rfl
  | some bound =>
      obtain ⟨days, hdays, hle⟩ := htighter.age bound hbound
      obtain ⟨limit, rfl, hlater⟩ := exists_daysBefore_of_cutoff hdays hcutoff
      obtain ⟨limit', rfl, hearlier⟩ := exists_daysBefore_of_cutoff hbound hcutoff'
      have hlimits := Moment.instant_daysBefore_le hle hlater hearlier
      have hless : limit.instant * 1000 < reading.instant := of_decide_eq_true hnewer
      have hless' : limit'.instant * 1000 < reading.instant := by omega
      exact decide_eq_true hless'

theorem fresh_of_isTighter (htighter : tight.IsTighter loose)
    (hcutoff : cutoff now tight = .ok oldest) (hcutoff' : cutoff now loose = .ok oldest')
    (context : Context) (records : List Record) :
    fresh oldest context records = (fresh oldest' context records).filter (isNewer oldest) := by
  unfold fresh
  rw [List.filter_filter]
  refine List.filter_congr fun reading _ => ?_
  by_cases hnewer : isNewer oldest reading = true
  · rw [hnewer, isNewer_of_isTighter htighter hcutoff hcutoff' reading hnewer, Bool.and_true]
  · rw [Bool.eq_false_iff.mpr hnewer, Bool.false_and]

/-- What tighter limits let through is the start of what others do. -/
theorem isPrefix_selection (htighter : tight.IsTighter loose)
    (hcutoff : cutoff now tight = .ok oldest) (hcutoff' : cutoff now loose = .ok oldest')
    (context : Context) (records : List Record) :
    capped tight.maxCount (newestFirst (fresh oldest context records)) <+:
      capped loose.maxCount (newestFirst (fresh oldest' context records)) := by
  rw [fresh_of_isTighter htighter hcutoff hcutoff', ← filter_newestFirst]
  exact capped_of_isPrefix htighter (isPrefix_filter_newestFirst oldest _)

/-- An age limit that only the tighter of two limits have can be compared with the timestamps of
records: the present says how far it is from UTC unless all of them are flags. -/
def IsComparable (now : Moment) (tight loose : Limits) (records : List Record) : Prop :=
  loose.maxAgeDays = none → tight.maxAgeDays ≠ none → records ≠ [] →
    (now.isNaive = true ↔ ∀ record ∈ records, ∃ flag, record.timestamp = .bool flag)

/-- Records that are readable with some limits are so with others, unless these bring in an age
limit that cannot be compared with the timestamps. -/
theorem areReadable_iff_isComparable (hcutoff : cutoff now tight = .ok oldest)
    (hcutoff' : cutoff now loose = .ok oldest') (hreadable : AreReadable oldest' records) :
    AreReadable oldest records ↔ IsComparable now tight loose records := by
  obtain ⟨hage, hclock⟩ := of_cutoff hcutoff
  obtain ⟨hage', hclock'⟩ := of_cutoff hcutoff'
  constructor
  · intro htight _ hsome hne
    obtain ⟨limit, hlimit⟩ := Option.ne_none_iff_exists'.mp (mt hage.mp hsome)
    rw [← hclock limit hlimit]
    exact htight.timestamps hne limit hlimit
  · refine fun hflags => ⟨hreadable.values, fun hne limit hlimit => ?_⟩
    rw [hclock limit hlimit]
    cases hoptional : oldest' with
    | none =>
        have hsome : tight.maxAgeDays ≠ none := mt hage.mpr (by rw [hlimit]; nofun)
        exact hflags (hage'.mp hoptional) hsome hne
    | some limit' =>
        rw [← hclock' limit' hoptional]
        exact hreadable.timestamps hne limit' hoptional

end Reading

namespace Measurement

open Reading (AreReadable IsComparable)

variable {now : Moment} {tight loose : Limits} {oldest oldest' : Option Moment}

/-- Of what limits make of records, tighter limits make the start.  They fail only if they bring in
an age limit that cannot be compared with the timestamps. -/
theorem ofRecords_tighter (tag : Tag) (htighter : tight.IsTighter loose)
    (hcutoff : Reading.cutoff now tight = .ok oldest)
    (hcutoff' : Reading.cutoff now loose = .ok oldest') (records : List Record)
    {all : List Measurement} (hall : ofRecords tag now loose none records = .ok all) :
    (IsComparable now tight loose records →
      ∃ fewer, ofRecords tag now tight none records = .ok fewer ∧ fewer <+: all) ∧
    (¬IsComparable now tight loose records →
      ∃ failure, ofRecords tag now tight none records = .error failure) := by
  obtain ⟨hreadable, hdated, rfl⟩ := (ofRecords_eq_ok_iff_capped hcutoff' records all).mp hall
  rw [← Reading.areReadable_iff_isComparable hcutoff hcutoff' hreadable]
  have hstart := Reading.isPrefix_selection htighter hcutoff hcutoff' (Reading.contextOf records)
    records
  constructor
  · intro htight
    refine ⟨_, (ofRecords_eq_ok_iff_capped hcutoff records _).mpr ⟨htight, ?_, rfl⟩,
      hstart.map (ofDated tag)⟩
    exact fun reading hreading => hdated reading (hstart.subset hreading)
  · intro hnot
    cases houtcome : ofRecords tag now tight none records with
    | error failure => exact ⟨failure, rfl⟩
    | ok measurements =>
        exact absurd ((ofRecords_eq_ok_iff_capped hcutoff records measurements).mp houtcome).1 hnot

theorem ofRecords_tighter_tied :
    Limits.IsTighter ⟨some 1, some (.whole 1)⟩ ⟨some 2, none⟩ ∧
      Reading.cutoff morning ⟨some 1, some (.whole 1)⟩ = .ok (some yesterday) ∧
      Reading.cutoff morning ⟨some 2, none⟩ = .ok none ∧
      IsComparable morning ⟨some 1, some (.whole 1)⟩ ⟨some 2, none⟩ tied ∧
      ∃ all, ofRecords dustTag morning ⟨some 2, none⟩ none tied = .ok all ∧ all.length = 2 ∧
        ∃ fewer, ofRecords dustTag morning ⟨some 1, some (.whole 1)⟩ none tied = .ok fewer ∧
          fewer <+: all := by
  have htighter : Limits.IsTighter ⟨some 1, some (.whole 1)⟩ ⟨some 2, none⟩ := by
    refine ⟨?_, nofun⟩
    rintro - ⟨⟩
    exact ⟨1, rfl, by decide⟩
  have hcomparable : IsComparable morning ⟨some 1, some (.whole 1)⟩ ⟨some 2, none⟩ tied := by
    refine fun _ _ _ => ⟨nofun, fun hflags => ?_⟩
    obtain ⟨flag, hflag⟩ := hflags atNine List.mem_cons_self
    cases hflag
  have hdated : (Reading.fresh none (Reading.contextOf tied) tied).all (fun reading =>
      Time.inCalendar (reading.instant / 1000)) = true := by decide +kernel
  have htwo : Reading.cappedCount (some 2)
      (Reading.fresh none (Reading.contextOf tied) tied).length = 2 := by decide +kernel
  have hcutoff : Reading.cutoff morning ⟨some 1, some (.whole 1)⟩ = .ok (some yesterday) := rfl
  have hcutoff' : Reading.cutoff morning ⟨some 2, none⟩ = .ok none := rfl
  obtain ⟨all, hall, hlength⟩ :=
    exists_ofRecords dustTag hcutoff' (areReadable_tied nofun) (List.all_eq_true.mp hdated)
  exact ⟨htighter, hcutoff, hcutoff', hcomparable, all, hall, hlength.trans htwo,
    (ofRecords_tighter dustTag htighter hcutoff hcutoff' tied hall).1 hcomparable⟩

/-- A flag as the only timestamp gives no measurements without an age limit, and none can be made
with one. -/
theorem ofRecords_tighter_refused :
    Limits.IsTighter ⟨none, some (.whole 1)⟩ ⟨none, none⟩ ∧
      Reading.cutoff morning ⟨none, some (.whole 1)⟩ = .ok (some yesterday) ∧
      Reading.cutoff morning ⟨none, none⟩ = .ok none ∧
      ofRecords dustTag morning ⟨none, none⟩ none [flagged] = .ok [] ∧
      (ofRecords dustTag morning ⟨none, some (.whole 1)⟩ none [flagged]).isOk = false := by
  refine ⟨⟨nofun, nofun⟩, rfl, rfl, ?_, by decide +kernel⟩
  have hempty : Reading.fresh none (Reading.contextOf [flagged]) [flagged] = [] :=
    List.isEmpty_iff.mp (by decide +kernel)
  have hnone : Reading.newestFirst
      (Reading.fresh none (Reading.contextOf [flagged]) [flagged]) = [] := by
    rw [hempty]
    exact List.mergeSort_nil
  refine (ofRecords_eq_ok_iff_capped rfl [flagged] []).mpr ⟨⟨?_, nofun⟩, ?_, ?_⟩
  · exact List.forall_mem_singleton.mpr nofun
  · rw [hnone]
    exact nofun
  · rw [hnone]
    rfl

end Measurement

end AirQuality
