import AirQuality.Proofs.Cancellation
import AirQuality.Proofs.OpenAq.NewestPages

/-!
# As few pages as needed

With an exact total the newest results are read from the last pages.  The first page is asked for
to learn the total, and what is wanted may begin and end within a page, so that there are two pages
more than the wanted results fill, but no others.
-/

namespace AirQuality.OpenAq

/-- The wanted results lie on one page more than they fill, for they may begin within a page. -/
theorem ceilDiv_le_needed (total wanted : Nat) {size : Nat} (hpositive : 0 < size) :
    total ⌈/⌉ size ≤ (total - wanted) / size + 1 + wanted ⌈/⌉ size := by
  have hunneeded : total - wanted < ((total - wanted) / size + 1) * size :=
    Nat.lt_mul_of_div_lt (Nat.lt_succ_self _) hpositive
  have hwanted : wanted ≤ wanted ⌈/⌉ size * size := by
    rw [Nat.mul_comm]
    exact le_smul_ceilDiv hpositive
  rw [ceilDiv_le_iff_le_smul hpositive, smul_eq_mul, Nat.mul_comm]
  calc
    total ≤ (total - wanted) + wanted := le_tsub_add
    _ ≤ ((total - wanted) / size + 1) * size + wanted ⌈/⌉ size * size :=
      Nat.add_le_add hunneeded.le hwanted
    _ = ((total - wanted) / size + 1 + wanted ⌈/⌉ size) * size := (Nat.add_mul ..).symm

theorem length_pageNumbers_le (total wanted : Nat) {size : Nat} (hpositive : 0 < size) :
    (pageNumbers (firstNeeded total size wanted) (pageCount total size)).length ≤
      wanted ⌈/⌉ size + 1 := by
  have hneeded := ceilDiv_le_needed total wanted hpositive
  rw [length_pageNumbers, firstNeeded_eq, pageCount_eq hpositive]
  omega

variable {τ : Type} [Add τ] [Sub τ] [OfNat τ 0] [LT τ] [LE τ] [DecidableLT τ] [DecidableLE τ]
  [TimeText τ]

/-- With an exact total at least as many of the newest results are read as wanted, without a gap and
in order.  The first page is asked for, and after it pages up to the last one, in order and each
once, which are no more than the wanted results may lie on. -/
theorem latestResults_fewest (fetcher : Fetcher τ) {remote : Remote τ} {upstream : Request → Json}
    (hsupplies : remote.Supplies upstream) {endpoint : String} {parameters : List (String × Json)}
    {results : List Json} {found limit total : Json} {size : Nat}
    (hlists : Lists upstream endpoint parameters results size found limit) (hpositive : 0 < size)
    (hlimit : (readCount limit pageLimit).1 = size) (htotal : exactTotal found = .ok total)
    (hvalue : totalValue? total = some (results.length : Int)) {wanted : Nat}
    (hwanted : 0 < wanted) (fuel : Nat) (session : Session τ) (htoken : session.token = none) :
    let performed := (latestResults fuel endpoint parameters (some wanted)).perform
      (fetcher.fetch remote) session
    (∃ skipped, performed.1 = .ok (results.drop skipped) ∧
        skipped + min wanted results.length ≤ results.length) ∧
      ∃ numbers : List Int,
        performed.2.requests =
          session.requests ++ (1 :: numbers).map (pageRequest endpoint parameters) ∧
        numbers.Pairwise (· < ·) ∧
        (∀ number ∈ numbers, 2 ≤ number ∧ number ≤ (results.length ⌈/⌉ size : Nat)) ∧
        (1 :: numbers).length ≤ wanted ⌈/⌉ size + 2 := by
  intro performed
  obtain ⟨hresults, hrequests⟩ := fetcher.perform_of_comesTo hsupplies
    (reraises_latestResults _ _ _ _) htoken
    (comesTo_latestResults hlists hpositive hlimit htotal hvalue hwanted fuel session.requests)
  refine ⟨⟨_, hresults, ?_⟩, _, hrequests, pairwise_pageNumbers _ _, fun number hnumber => ?_, ?_⟩
  · rcases skipped_eq_zero_or_le results.length size wanted with hnone | hleft
    · omega
    · omega
  · obtain ⟨hleast, hmost⟩ := mem_pageNumbers_iff.mp hnumber
    rw [firstNeeded_eq] at hleast
    rw [pageCount_eq hpositive] at hmost
    exact ⟨by omega, hmost⟩
  · exact Nat.succ_le_succ (length_pageNumbers_le _ _ hpositive)

/-- Five results on pages of two, of which the newest is wanted: no more than three pages. -/
theorem latestResults_fewest_five :
    let results : List Json := [.int 1, .int 2, .int 3, .int 4, .int 5]
    let upstream := shelf [[.int 1, .int 2], [.int 3, .int 4], [.int 5]] (.int 5) (.int 2)
    let performed := (latestResults 0 "sensors/1/measurements" [] (some 1)).perform
      ((⟨name, 0, 0, 0, .whole 10⟩ : Fetcher Float).fetch (Remote.ofUpstream upstream))
      (Session.start 0)
    Lists upstream "sensors/1/measurements" [] results 2 (.int 5) (.int 2) ∧
      (∃ skipped ≤ 4, performed.1 = .ok (results.drop skipped)) ∧
      ∃ numbers : List Int,
        performed.2.requests =
          (1 :: numbers).map (pageRequest "sensors/1/measurements" []) ∧
        (∀ number ∈ numbers, 2 ≤ number ∧ number ≤ 3) ∧ (1 :: numbers).length ≤ 3 := by
  intro results upstream performed
  have hserves : Serves upstream "sensors/1/measurements" []
      [[.int 1, .int 2], [.int 3, .int 4], [.int 5]] (.int 5) (.int 2) :=
    serves_shelf (by simp) _ _ _ rfl
  have hlists : Lists upstream "sensors/1/measurements" [] results 2 (.int 5) (.int 2) :=
    hserves.lists (by simp) (by simp [FillsPages])
  have hlimit : (readCount (.int 2) pageLimit).1 = (2 : Nat) := by decide
  obtain ⟨⟨skipped, hresults, hskipped⟩, numbers, hrequests, -, hnumbers, hlength⟩ :=
    latestResults_fewest (⟨name, 0, 0, 0, .whole 10⟩ : Fetcher Float)
      (Remote.supplies_ofUpstream upstream) hlists (by decide) hlimit rfl rfl Nat.one_pos 0
      (Session.start 0) rfl
  have hlast : results.length ⌈/⌉ 2 = 3 := Nat.ceilDiv_eq_add_pred_div 5 2
  have hone : 1 ⌈/⌉ 2 = 1 := Nat.ceilDiv_eq_add_pred_div 1 2
  rw [hlast] at hnumbers
  rw [hone] at hlength
  exact ⟨hlists, ⟨skipped, Nat.le_of_succ_le_succ hskipped, hresults⟩, numbers, hrequests, hnumbers,
    hlength⟩

end AirQuality.OpenAq
