import AirQuality.Fetch.Exchange

/-!
# Replies worth another attempt

A reply is transient if it says that there was no connection, no answer in time, too many
requests, or an error of the server.  Exactly these replies are refused in a way that another
attempt may mend.
-/

namespace AirQuality

/-- What an attempt that was refused for the time being comes to. -/
def AttemptFault.IsTransient : AttemptFault → Prop
  | .refused _ _ isTransient => isTransient = true
  | .other _ => False

/-- A failure that says that a provider could not be reached or refused a request. -/
def Failure.isUnavailable : Failure → Bool
  | .unavailable .. => true
  | _ => false

namespace Reply

def IsTransient : Reply → Prop
  | .answer status _ _ => status = 429 ∨ 500 ≤ status ∧ status < 600
  | .fault cause _ _ => cause = .connection ∨ cause = .timeout

theorem decodeBody_settled {body : Body} {fault : AttemptFault}
    (hfault : decodeBody body = .error fault) : ¬fault.IsTransient := by
  cases body with
  | value value => cases hfault
  | text text =>
      unfold decodeBody at hfault
      simp only at hfault
      split at hfault
      · cases hfault
      · cases hfault
        exact id
      · cases hfault
        exact id
      · cases hfault
        exact Bool.false_ne_true

theorem decodeBody_other {body : Body} {failure : Failure}
    (hfailure : decodeBody body = .error (.other failure)) :
    failure.isUnavailable = false ∧ failure.isCancelled = false := by
  cases body with
  | value value => cases hfailure
  | text text =>
      unfold decodeBody at hfailure
      simp only at hfailure
      split at hfailure
      · cases hfailure
      · cases hfailure
        exact ⟨rfl, rfl⟩
      · cases hfailure
        exact ⟨rfl, rfl⟩
      · cases hfailure

theorem isTransientStatus_iff (status : Int) :
    isTransientStatus status = true ↔ status = 429 ∨ 500 ≤ status ∧ status < 600 := by
  simp [isTransientStatus, isServerError]

/-- A reply is transient exactly if its payload is refused for the time being. -/
theorem isTransient_iff (reply : Reply) (url : String) :
    reply.IsTransient ↔ ∃ fault, reply.payload url = .error fault ∧ fault.IsTransient := by
  cases reply with
  | answer status reason body =>
      simp only [payload]
      constructor
      · intro hstatus
        have hcases : status = 429 ∨ 500 ≤ status ∧ status < 600 := hstatus
        have hrefused : (isClientError status || isServerError status) = true := by
          simp only [isClientError, isServerError, Bool.or_eq_true, Bool.and_eq_true,
            decide_eq_true_eq]
          omega
        rw [if_neg (by omega), if_pos hrefused]
        exact ⟨_, rfl, (isTransientStatus_iff status).mpr hcases⟩
      · rintro ⟨fault, hfault, htransient⟩
        split at hfault
        · cases hfault
        · split at hfault
          · cases hfault
            exact (isTransientStatus_iff status).mp htransient
          · exact absurd htransient (decodeBody_settled hfault)
  | fault cause label message =>
      cases cause with
      | connection => exact iff_of_true (.inl rfl) ⟨_, rfl, rfl⟩
      | timeout => exact iff_of_true (.inr rfl) ⟨_, rfl, rfl⟩
      | request =>
          apply iff_of_false
          · rintro (hcause | hcause) <;> cases hcause
          · rintro ⟨fault, hfault, htransient⟩
            cases hfault
            cases htransient
      | foreign =>
          apply iff_of_false
          · rintro (hcause | hcause) <;> cases hcause
          · rintro ⟨fault, hfault, htransient⟩
            cases hfault
            cases htransient

/-- A failure that is not a refusal comes from the decoder or from outside, so it says neither that
the provider is unavailable nor that the work is cancelled. -/
theorem payload_other {reply : Reply} {url : String} {failure : Failure}
    (hpayload : reply.payload url = .error (.other failure)) :
    failure.isUnavailable = false ∧ failure.isCancelled = false := by
  cases reply with
  | answer status reason body =>
      simp only [payload] at hpayload
      split at hpayload
      · cases hpayload
      · split at hpayload
        · cases hpayload
        · exact decodeBody_other hpayload
  | fault cause label message =>
      cases cause with
      | foreign =>
          cases hpayload
          exact ⟨rfl, rfl⟩
      | connection => cases hpayload
      | timeout => cases hpayload
      | request => cases hpayload

end Reply

end AirQuality
