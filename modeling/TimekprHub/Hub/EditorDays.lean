import TimekprHub.Hub.PolicyForm

namespace TimekprModel

/-- timekpr's limit of a weekday: the one at the weekday's position in the list of allowed weekdays. -/
def positionalLimit (weekdays : Option (List String)) (limits : Option (List Int)) (day : Weekday) :
    Option Int := do
  let weekdays ← weekdays
  let limits ← limits
  limits[weekdays.idxOf day.token]?

/-- A device's schedule is the one the form ticked: the same weekdays, each with the form's limit. -/
structure FollowsForm (ticked : Weekday → Bool) (formLimit : Weekday → Except FormError Int)
    (weekdays : Option (List String)) (limits : Option (List Int)) : Prop where
  allowed : ∀ day : Weekday, (∃ tokens ∈ weekdays, day.token ∈ tokens) ↔ ticked day = true
  limit : ∀ day, ticked day = true →
    ∃ limit, formLimit day = .ok limit ∧ positionalLimit weekdays limits day = some limit

/-- What the editor form says is what the device does, for both schedules. -/
structure DoesWhatFormSays (form : Form) (device : TimekprConfig) : Prop where
  daily : FollowsForm (fun day => checkbox form ("allowed_weekday_" ++ day.token)) (formDailyLimit form)
    device.allowedWeekdays device.limitsPerWeekdays
  playTime : FollowsForm (fun day => checkbox form ("pt_allowed_weekday_" ++ day.token))
    (formPlayTimeLimit form) device.playTimeAllowedWeekdays device.playTimeLimitsPerWeekdays

def ticking (boxes : List String) : Form := fun name =>
  if name = "daily_h" then some "1" else if name ∈ boxes then some "on" else none

end TimekprModel

namespace TimekprProof

open TimekprModel

theorem positional_projected (limit : Weekday → Int) {days : List Weekday} {day : Weekday}
    (listed : day ∈ days) :
    positionalLimit (some (days.map Weekday.token)) (some (days.map limit)) day = some (limit day) := by
  simp only [positionalLimit, Option.bind_eq_bind, Option.bind_some]
  induction days with
  | nil => cases listed
  | cons first rest ih =>
    rw [List.map_cons, List.map_cons, List.idxOf_cons]
    by_cases same : first = day
    · subst same
      simp
    · have apart : (first.token == day.token) = false := by
        rw [beq_eq_false_iff_ne]
        exact fun tokens => same (Weekday.token_injective tokens)
      rw [apart, cond_false, List.getElem?_cons_succ]
      apply ih
      rcases List.mem_cons.mp listed with here | there
      · exact absurd here.symm same
      · exact there

theorem mem_tokens_map {days : List Weekday} {day : Weekday} :
    (∃ tokens ∈ some (days.map Weekday.token), day.token ∈ tokens) ↔ day ∈ days := by
  constructor
  · rintro ⟨tokens, held, listed⟩
    cases held
    exact (List.mem_map_of_injective Weekday.token_injective).mp listed
  · intro listed
    exact ⟨_, rfl, List.mem_map_of_mem listed⟩

theorem follows_form_iff (form : Form) (box : String) {formLimit : Weekday → Except FormError Int}
    {limits : List Int} (read : ∀ day : Weekday, formLimit day = .ok (limits.getD day.index 0)) :
    FollowsForm (fun day => checkbox form (box ++ day.token)) formLimit
        (some ((weekdaysOrAll (tickedDays form box)).map Weekday.token))
        (some ((weekdaysOrAll (tickedDays form box)).map fun day => limits.getD day.index 0)) ↔
      ∃ day : Weekday, checkbox form (box ++ day.token) = true := by
  constructor
  · intro follows
    by_cases none : tickedDays form box = []
    · have monday := (follows.allowed .monday).mp (mem_tokens_map.mpr (by rw [none]; decide))
      exact ⟨.monday, monday⟩
    · obtain ⟨day, listed⟩ := List.exists_mem_of_ne_nil _ none
      exact ⟨day, mem_tickedDays.mp listed⟩
  · rintro ⟨day, ticked⟩
    have some : tickedDays form box ≠ [] := List.ne_nil_of_mem (mem_tickedDays.mpr ticked)
    have written : weekdaysOrAll (tickedDays form box) = tickedDays form box := if_neg some
    rw [written]
    constructor
    · intro day
      exact mem_tokens_map.trans mem_tickedDays
    · intro day ticked
      exact ⟨_, read day, positional_projected _ (mem_tickedDays.mpr ticked)⟩

section Editor

variable {form : Form} {update : PolicyUpdate} {current : Option Policy} {refuses : Setter → Bool}
  {readable : Bool} {config : TimekprConfig} {username : String}

/-- A pushed form does on the device what it says, exactly when it ticks a weekday for PlayTime. -/
theorem editor_says_what_device_does_iff (accepted : parsePolicyForm form = .ok update)
    (pushed : (applyPolicyPush (honestEnforcer refuses readable) config username
      (policyToPayload (updatePolicy current update))).ok = true) :
    DoesWhatFormSays form (applyPolicyPush (honestEnforcer refuses readable) config username
        (policyToPayload (updatePolicy current update))).device ↔
      ∃ day : Weekday, checkbox form ("pt_allowed_weekday_" ++ day.token) = true := by
  have reads := parsePolicyForm_reads accepted
  have landed := push_lands (form_pushable accepted current).wakeTo pushed
  have weekdays : (policyToPayload (updatePolicy current update)).allowedWeekdays =
      tickedDays form "allowed_weekday_" := reads.allowedWeekdays
  have playTimeWeekdays : (policyToPayload (updatePolicy current update)).playtime.allowedWeekdays =
      tickedDays form "pt_allowed_weekday_" := reads.playTimeWeekdays
  have daily := follows_form_iff form "allowed_weekday_" (parseDailyLimits_day reads.dailyLimitsS)
  have playTime := follows_form_iff form "pt_allowed_weekday_"
    (parsePlayTimeLimits_day reads.playTimeLimitsS)
  constructor
  · intro agrees
    have follows := agrees.playTime
    rw [landed.playTimeAllowedWeekdays, landed.playTimeLimitsPerWeekdays, playTimeWeekdays] at follows
    exact playTime.mp follows
  · intro ticked
    constructor
    · rw [landed.allowedWeekdays, landed.limitsPerWeekdays, weekdays]
      -- The parser accepts no form without a day to log in.
      obtain ⟨day, listed⟩ := List.exists_mem_of_ne_nil _ reads.someWeekday
      exact daily.mpr ⟨day, mem_tickedDays.mp listed⟩
    · rw [landed.playTimeAllowedWeekdays, landed.playTimeLimitsPerWeekdays, playTimeWeekdays]
      exact playTime.mpr ticked

end Editor

theorem editor_accepts (boxes : List String) (valid : (parsePolicyForm (ticking boxes)).isOk = true) :
    ∃ update, parsePolicyForm (ticking boxes) = .ok update := by
  cases parsed : parsePolicyForm (ticking boxes) with
  | error _ =>
    rw [parsed] at valid
    cases valid
  | ok update => exact ⟨update, rfl⟩

theorem editor_says_what_device_does_iff_saturday :
    let form := ticking ["allowed_weekday_6", "pt_allowed_weekday_6"]
    ∃ update, parsePolicyForm form = .ok update ∧
      (DoesWhatFormSays form (applyPolicyPush (honestEnforcer (fun _ => false) true) {} "kid"
          (policyToPayload (updatePolicy none update))).device ↔
        ∃ day : Weekday, checkbox form ("pt_allowed_weekday_" ++ day.token) = true) := by
  intro form
  obtain ⟨update, accepted⟩ := editor_accepts ["allowed_weekday_6", "pt_allowed_weekday_6"] (by decide)
  refine ⟨update, accepted, ?_⟩
  exact editor_says_what_device_does_iff accepted
    (push_accepted (form_pushable accepted none) fun _ => rfl)

/-- With no weekday ticked for PlayTime, the device allows it on all seven. -/
theorem no_playtime_day_means_every_day :
    let form := ticking ["allowed_weekday_6"]
    ∃ update, parsePolicyForm form = .ok update ∧
      let push := applyPolicyPush (honestEnforcer (fun _ => false) true) {} "kid"
        (policyToPayload (updatePolicy none update))
      push.ok = true ∧ push.device.playTimeAllowedWeekdays = some (weekdayTokens.map Weekday.token) ∧
        ¬ DoesWhatFormSays form push.device := by
  intro form
  obtain ⟨update, accepted⟩ := editor_accepts ["allowed_weekday_6"] (by decide)
  have pushed : (applyPolicyPush (honestEnforcer (fun _ => false) true) {} "kid"
      (policyToPayload (updatePolicy none update))).ok = true :=
    push_accepted (form_pushable accepted none) fun _ => rfl
  have landed := push_lands (form_pushable accepted none).wakeTo pushed
  have none : (policyToPayload (updatePolicy none update)).playtime.allowedWeekdays = [] := by
    refine (parsePolicyForm_reads accepted).playTimeWeekdays.trans ?_
    decide
  have all := landed.playTimeAllowedWeekdays
  rw [none] at all
  refine ⟨update, accepted, pushed, all, ?_⟩
  intro agrees
  have ticked := (agrees.playTime.allowed .monday).mp ⟨_, all, by decide⟩
  exact absurd ticked (by decide)

end TimekprProof
