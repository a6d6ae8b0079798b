import TimekprHub.Agent.WeekdayReadback
import TimekprHub.Hub.Aggregate

namespace TimekprModel

def Weekday.ofToken? (token : String) : Option Weekday := weekdayTokens.find? fun day => day.token = token

structure PolicySnapshot where
  dailyLimitsS : List Int
  weeklyLimitS : Int
  monthlyLimitS : Int
  allowedWeekdays : List String
  deriving DecidableEq, Repr

def configItem {α : Type} (key : String) (value : Option α) : Except String α :=
  match value with
  | some value => .ok value
  | none => .error key

def getUserPolicySnapshot (info : Option AppliedPolicy) : Except String (Option PolicySnapshot) :=
  match info with
  | none => .ok none
  | some info => do
    let dailyLimitsS ← configItem "LIMITS_PER_WEEKDAYS" info.limitsPerWeekdays
    let weeklyLimitS ← configItem "LIMIT_PER_WEEK" info.limitPerWeek
    let monthlyLimitS ← configItem "LIMIT_PER_MONTH" info.limitPerMonth
    let allowedWeekdays ← configItem "ALLOWED_WEEKDAYS" info.allowedWeekdays
    return some { dailyLimitsS, weeklyLimitS, monthlyLimitS, allowedWeekdays }

structure LocalPolicySnapshot where
  dailyLimitsS : List Int
  weeklyLimitS : Int
  monthlyLimitS : Int
  allowedWeekdays : List Weekday := []
  sevenLimits : dailyLimitsS.length = 7
  deriving Repr

/-- pydantic's check, which takes any text for a weekday. The model has the seven weekday numbers only, and refuses a
    snapshot with another text. -/
def LocalPolicySnapshot.validate? (snapshot : PolicySnapshot) : Option LocalPolicySnapshot :=
  if sevenLimits : snapshot.dailyLimitsS.length = 7 then
    (snapshot.allowedWeekdays.mapM Weekday.ofToken?).map fun allowedWeekdays =>
      { dailyLimitsS := snapshot.dailyLimitsS
        weeklyLimitS := snapshot.weeklyLimitS
        monthlyLimitS := snapshot.monthlyLimitS
        allowedWeekdays
        sevenLimits }
  else none

structure EnrollFields where
  enrollmentCode : String
  hostname : String
  machineId : String
  agentVersion : String
  localUsers : List String
  codeLength : enrollmentCode.length ≤ 16
  hostnameLength : hostname.length ≤ 255
  machineIdLength : machineId.length ≤ 64
  agentVersionLength : agentVersion.length ≤ 32

structure EnrollRequest extends EnrollFields where
  localPolicies : List (String × LocalPolicySnapshot)

def EnrollRequest.validate? (fields : EnrollFields) (snapshots : List (String × PolicySnapshot)) :
    Option EnrollRequest :=
  (snapshots.mapM fun entry =>
    (LocalPolicySnapshot.validate? entry.2).map fun snapshot => (entry.1, snapshot)).map
      fun localPolicies => { fields with localPolicies }

def LocalPolicySnapshot.seed (snapshot : LocalPolicySnapshot) : Policy :=
  createInitialPolicy (some snapshot.dailyLimitsS) (some snapshot.weeklyLimitS)
    (some snapshot.monthlyLimitS) snapshot.allowedWeekdays

structure ReadsBack (payload : PolicyPayload) (seeded : Policy) : Prop where
  allowedWeekdays : seeded.allowedWeekdaysJson = payload.allowedWeekdays
  weeklyLimit : seeded.weeklyLimitS = payload.weeklyLimitS
  monthlyLimit : seeded.monthlyLimitS = payload.monthlyLimitS
  dailyLimit : ∀ date : Date, date.isoweekday ∈ payload.allowedWeekdays →
    baseDailyLimit seeded date = payload.dailyLimitsS.getD date.isoweekday.index 0

/-- The snapshot of a device is accepted, and the policy seeded from it says what the payload said. -/
def EnrollReadsBack (device : TimekprConfig) (payload : PolicyPayload) : Prop :=
  ∃ snapshot accepted, getUserPolicySnapshot (some device.readback) = .ok (some snapshot) ∧
    LocalPolicySnapshot.validate? snapshot = some accepted ∧
    (∀ fields username, (EnrollRequest.validate? fields [(username, snapshot)]).isSome = true) ∧
    ReadsBack payload accepted.seed

end TimekprModel

namespace TimekprProof

open TimekprModel

theorem ofToken_token (day : Weekday) : Weekday.ofToken? day.token = some day := by
  cases day <;> decide

theorem mapM_tokens (days : List Weekday) :
    (days.map Weekday.token).mapM Weekday.ofToken? = some days := by
  induction days with
  | nil => rfl
  | cons day rest ih => simp [List.mapM_cons, ofToken_token, ih]

theorem weekday_date (day : Weekday) : ∃ date : Date, date.isoweekday = day := by
  refine ⟨(day.index : Int) + 1, ?_⟩
  cases day <;> decide

theorem validate_isSome (snapshot : PolicySnapshot) {accepted : LocalPolicySnapshot}
    (valid : LocalPolicySnapshot.validate? snapshot = some accepted) (fields : EnrollFields) (username : String) :
    (EnrollRequest.validate? fields [(username, snapshot)]).isSome = true := by
  simp [EnrollRequest.validate?, valid]

section Push

variable {refuses : Setter → Bool} {readable : Bool} {config : TimekprConfig} {username : String}
  {policy : PolicyPayload}

theorem pushed_snapshot (nonempty : policy.allowedWeekdays ≠ [])
    (ok : (applyPolicyPush (honestEnforcer refuses readable) config username policy).ok = true) :
    getUserPolicySnapshot (some (applyPolicyPush (honestEnforcer refuses readable) config username
        policy).device.readback) =
      .ok (some
        { dailyLimitsS := policy.allowedWeekdays.map fun day => policy.dailyLimitsS.getD day.index 0
          weeklyLimitS := policy.weeklyLimitS
          monthlyLimitS := policy.monthlyLimitS
          allowedWeekdays := policy.allowedWeekdays.map Weekday.token }) := by
  have sevenLimits := push_sevenLimits ok
  have all : weekdaysOrAll policy.allowedWeekdays = policy.allowedWeekdays := if_neg nonempty
  have lawful := honest_lawful refuses readable username
  have limits := push_stores_day_limits (honest_stores_day_limits refuses readable username) ok
  have steps : ∀ step ∈ allowedDaysStep (readbackOf config readable) policy ::
      scalarSteps (readbackOf config readable) policy,
      step ∈ pushSteps (readbackOf config readable) policy sevenLimits := by
    intro step listed
    simp only [pushSteps, List.mem_append, List.mem_cons] at listed ⊢
    rcases listed with days | scalar
    · exact .inl (.inl (.inl (.inl (.inl days))))
    · exact .inl (.inl (.inl (.inr scalar)))
  have days := push_holds lawful sevenLimits ok (steps _ (List.mem_cons_self ..))
    fun kept => read_some (of_decide_eq_true kept)
  have week := push_holds lawful sevenLimits ok (steps _ (List.mem_cons_of_mem _ (List.mem_cons_self ..)))
    fun kept => read_some (of_decide_eq_true kept)
  have month := push_holds lawful sevenLimits ok
    (steps _ (List.mem_cons_of_mem _ (List.mem_cons_of_mem _ (List.mem_cons_self ..))))
    fun kept => read_some (of_decide_eq_true kept)
  simp only [allowedDaysStep, TimekprConfig.holds, all] at days
  simp only [TimekprConfig.holds] at week month
  rw [all] at limits
  simp only [getUserPolicySnapshot, TimekprConfig.readback, limits, week, month, days]
  rfl

/-- An enrollment reads back what a push wrote exactly when every weekday is allowed and each position of
    the list holds a day with the limit of the weekday of that number. -/
theorem enroll_reads_back_iff (nonempty : policy.allowedWeekdays ≠ []) (distinct : policy.allowedWeekdays.Nodup)
    (ok : (applyPolicyPush (honestEnforcer refuses readable) config username policy).ok = true) :
    EnrollReadsBack (applyPolicyPush (honestEnforcer refuses readable) config username policy).device policy ↔
      policy.allowedWeekdays.length = 7 ∧ PositionsMatch policy.dailyLimitsS policy.allowedWeekdays := by
  unfold EnrollReadsBack
  rw [pushed_snapshot nonempty ok, ← projected_reads_iff distinct]
  constructor
  · rintro ⟨snapshot, accepted, same, valid, _, reads⟩
    cases same
    unfold LocalPolicySnapshot.validate? at valid
    split at valid
    · rename_i seven
      simp only [mapM_tokens, Option.map_some, Option.some.injEq] at valid
      subst valid
      rw [List.length_map] at seven
      refine ⟨seven, ?_⟩
      intro day listed
      obtain ⟨date, rfl⟩ := weekday_date day
      have limit := reads.dailyLimit date listed
      have bound : date.isoweekday.index <
          (policy.allowedWeekdays.map fun day => policy.dailyLimitsS.getD day.index 0).length := by
        rw [List.length_map, seven]
        exact date.isoweekday.index_lt
      simp only [LocalPolicySnapshot.seed, createInitialPolicy, baseDailyLimit, Option.getD_some] at limit
      rw [← limit, List.getD_eq_getElem?_getD, List.getElem?_eq_getElem bound]
      rfl
    · cases valid
  · rintro ⟨seven, positions⟩
    have length : (policy.allowedWeekdays.map fun day => policy.dailyLimitsS.getD day.index 0).length = 7 := by
      rw [List.length_map, seven]
    have valid : LocalPolicySnapshot.validate?
        { dailyLimitsS := policy.allowedWeekdays.map fun day => policy.dailyLimitsS.getD day.index 0
          weeklyLimitS := policy.weeklyLimitS
          monthlyLimitS := policy.monthlyLimitS
          allowedWeekdays := policy.allowedWeekdays.map Weekday.token } =
        some
          { dailyLimitsS := policy.allowedWeekdays.map fun day => policy.dailyLimitsS.getD day.index 0
            weeklyLimitS := policy.weeklyLimitS
            monthlyLimitS := policy.monthlyLimitS
            allowedWeekdays := policy.allowedWeekdays
            sevenLimits := length } := by
      simp only [LocalPolicySnapshot.validate?, length, dite_true, mapM_tokens, Option.map_some]
    refine ⟨_, _, rfl, valid, validate_isSome _ valid, ?_⟩
    refine ⟨if_neg nonempty, rfl, rfl, ?_⟩
    intro date listed
    have limit := positions _ listed
    simp only [LocalPolicySnapshot.seed, createInitialPolicy, baseDailyLimit, Option.getD_some]
    rw [List.getD_eq_getElem?_getD, limit]
    rfl

end Push

theorem enroll_reads_back_iff_every_day :
    EnrollReadsBack (applyPolicyPush (honestEnforcer (fun _ => false) true) {} "kid"
        (schoolWeek weekdayTokens)).device (schoolWeek weekdayTokens) ↔
      (schoolWeek weekdayTokens).allowedWeekdays.length = 7 ∧
        PositionsMatch (schoolWeek weekdayTokens).dailyLimitsS (schoolWeek weekdayTokens).allowedWeekdays :=
  enroll_reads_back_iff (by decide) (by decide) (by decide)

/-- With Tuesday off, the device lists six limits, and the whole request is rejected. -/
theorem enroll_rejects_pushed_device :
    let device := (applyPolicyPush (honestEnforcer (fun _ => false) true) {} "kid"
      (schoolWeek [.monday, .wednesday, .thursday, .friday, .saturday, .sunday])).device
    (applyPolicyPush (honestEnforcer (fun _ => false) true) {} "kid"
        (schoolWeek [.monday, .wednesday, .thursday, .friday, .saturday, .sunday])).ok = true ∧
      ∃ snapshot, getUserPolicySnapshot (some device.readback) = .ok (some snapshot) ∧
        snapshot.dailyLimitsS = [600, 1800, 2400, 3000, 3600, 4200] ∧
        LocalPolicySnapshot.validate? snapshot = none :=
  ⟨by decide, _, rfl, by decide, by decide⟩

end TimekprProof
