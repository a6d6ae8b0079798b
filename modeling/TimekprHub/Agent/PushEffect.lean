import TimekprHub.Agent.PushPlan
import TimekprHub.Timekpr.Config

namespace TimekprModel

structure Landed (config : TimekprConfig) (policy : PolicyPayload) : Prop where
  allowedWeekdays : config.allowedWeekdays = some ((weekdaysOrAll policy.allowedWeekdays).map Weekday.token)
  limitsPerWeekdays : config.limitsPerWeekdays =
    some ((weekdaysOrAll policy.allowedWeekdays).map fun day => policy.dailyLimitsS.getD day.index 0)
  limitPerWeek : config.limitPerWeek = some policy.weeklyLimitS
  limitPerMonth : config.limitPerMonth = some policy.monthlyLimitS
  trackInactive : config.trackInactive = some policy.trackInactive
  hideTrayIcon : config.hideTrayIcon = some policy.hideTrayIcon
  lockoutType : config.lockoutType = some policy.lockoutType.value
  wakeupWindow : policy.lockoutType = .suspendWake → config.wakeupWindow =
    some (textOr policy.wakeFrom defaultWakeFrom, textOr policy.wakeTo defaultWakeTo)
  allowedHours : ∀ day intervals, policy.allowedHours.get? day = some intervals →
    config.allowedHours day = some (hoursToDbusPayload (intervals.map AllowedHourInterval.record))
  playTimeEnabled : config.playTimeEnabled = some policy.playtime.enabled
  playTimeLimitOverrideEnabled : config.playTimeLimitOverrideEnabled = some policy.playtime.overrideEnabled
  playTimeUnaccountedIntervalsEnabled :
    config.playTimeUnaccountedIntervalsEnabled = some policy.playtime.unaccountedIntervalsEnabled
  playTimeAllowedWeekdays : config.playTimeAllowedWeekdays =
    some ((weekdaysOrAll policy.playtime.allowedWeekdays).map Weekday.token)
  playTimeLimitsPerWeekdays : config.playTimeLimitsPerWeekdays =
    some ((weekdaysOrAll policy.playtime.allowedWeekdays).map fun day =>
      policy.playtime.dailyLimitsS.getD day.index 0)
  playTimeActivities : config.playTimeActivities =
    some (policy.playtime.activities.map fun activity => (activity.mask, activity.description))

end TimekprModel

namespace TimekprProof

open TimekprModel

universe u

section Separator

universe v

variable {α : Type v}

theorem last_separator_unique {separator : α} {before after before' after' : List α}
    (bare : separator ∉ after) (bare' : separator ∉ after')
    (same : before ++ separator :: after = before' ++ separator :: after') :
    before = before' ∧ after = after' := by
  rcases List.append_eq_append_iff.mp same with ⟨rest, left, right⟩ | ⟨rest, left, right⟩
  · cases rest with
    | nil => exact ⟨by rw [left, List.append_nil], (List.cons.inj right).2⟩
    | cons head rest =>
      have inside : after = rest ++ separator :: after' := (List.cons.inj right).2
      exact absurd (inside ▸ by simp) bare
  · cases rest with
    | nil => exact ⟨by rw [left, List.append_nil], (List.cons.inj right).2.symm⟩
    | cons head rest =>
      have inside : after' = rest ++ separator :: after := (List.cons.inj right).2
      exact absurd (inside ▸ by simp) bare'

end Separator

theorem splitOnce_pair {text first second : String} (same : splitOnce text = [first, second]) :
    text.toList = first.toList ++ ';' :: second.toList ∧ ';' ∉ first.toList := by
  have parts := List.takeWhile_append_dropWhile (p := (· ≠ ';')) (l := text.toList)
  have clean : ';' ∉ text.toList.takeWhile (· ≠ ';') := by
    intro member
    have differs := List.all_eq_true.mp (List.all_takeWhile (p := (· ≠ ';')) (l := text.toList)) _ member
    simp at differs
  unfold splitOnce at same
  split at same
  · cases same
  · rename_i head rest shape
    rw [List.cons.injEq, List.cons.injEq] at same
    obtain ⟨before, after, _⟩ := same
    have separator : head = ';' := by
      have found := List.head?_dropWhile_not (fun c => decide (c ≠ ';')) text.toList
      rw [shape] at found
      simpa using found
    subst separator
    rw [← before, ← after, String.toList_ofList, String.toList_ofList, ← shape]
    exact ⟨parts.symm, clean⟩

theorem splitOnce_joined {before after wakeFrom wakeTo : String} (numeric : ';' ∉ wakeTo.toList)
    (same : splitOnce (before ++ ";" ++ after) = [wakeFrom, wakeTo]) :
    before = wakeFrom ∧ after = wakeTo := by
  obtain ⟨text, clean⟩ := splitOnce_pair same
  have joined : before.toList ++ ';' :: after.toList = wakeFrom.toList ++ ';' :: wakeTo.toList := by
    rw [← text]
    simp
  -- The text has one separator, so neither side of it has another.
  have separators := congrArg (List.count ';') joined
  simp only [List.count_append, List.count_cons_self, List.count_eq_zero.mpr numeric,
    List.count_eq_zero.mpr clean] at separators
  have bare : ';' ∉ after.toList := List.count_eq_zero.mp (by omega)
  obtain ⟨left, right⟩ := last_separator_unique bare numeric joined
  exact ⟨String.toList_inj.mp left, String.toList_inj.mp right⟩

section Fold

variable {σ : Type u} (enforcer : TimekprEnforcer σ) (username : String)

def replies (device : σ) (steps : List PushStep) : List Bool × σ :=
  Reconcile.pass (fun device => enforcer.perform device username) device (steps.map PushStep.planned)

variable {enforcer username}

theorem replies_skip {device : σ} {step : PushStep} {rest : List PushStep}
    (kept : step.unchanged = true) :
    replies enforcer username device (step :: rest) = replies enforcer username device rest :=
  Reconcile.pass_skip kept

theorem replies_perform {device : σ} {step : PushStep} {rest : List PushStep}
    (needed : step.unchanged = false) :
    replies enforcer username device (step :: rest) =
      ((enforcer.perform device username step.setter).1 ::
        (replies enforcer username (enforcer.perform device username step.setter).2 rest).1,
        (replies enforcer username (enforcer.perform device username step.setter).2 rest).2) :=
  Reconcile.pass_perform needed

variable (enforcer username)

theorem foldl_take (push : Push σ) (steps : List PushStep) :
    let result := steps.foldl (Push.take enforcer username) push
    let answers := replies enforcer username push.device steps
    result.device = answers.2 ∧ result.ok = (push.ok && answers.1.all id) ∧
      result.appliedCount = push.appliedCount + answers.1.length ∧
      result.failed.length = push.failed.length + answers.1.countP (! ·) := by
  induction steps generalizing push with
  | nil => simp [replies, Reconcile.pass]
  | cons step rest ih =>
    have later := ih (push.take enforcer username step)
    cases kept : step.unchanged with
    | true =>
      have taken : push.take enforcer username step = push.skipped := by simp [Push.take, kept]
      rw [taken] at later
      simp only [List.foldl_cons, taken, replies_skip kept]
      exact later
    | false =>
      have taken : push.take enforcer username step =
          push.written enforcer username step.label step.setter := by simp [Push.take, kept]
      rw [taken] at later
      simp only [List.foldl_cons, taken, replies_perform kept, List.all_cons, List.length_cons,
        List.countP_cons]
      obtain ⟨device, ok, count, failed⟩ := later
      simp only [Push.written] at device ok count failed ⊢
      refine ⟨device, ?_, ?_, ?_⟩
      · rw [ok, Bool.and_assoc]
        rfl
      · rw [count]
        omega
      · rw [failed]
        cases (enforcer.perform push.device username step.setter).1 with
        | true => simp
        | false =>
          simp only [List.length_append, List.length_singleton, Bool.false_eq_true, if_false,
            Bool.not_false, if_true]
          omega

end Fold

section Plan

variable (applied : Option AppliedPolicy) (policy : PolicyPayload)
  (sevenLimits : policy.dailyLimitsS.length = 7)

def keysBeforeHours : List ConfigKey :=
  [.allowedWeekdays, .limitsPerWeekdays, .limitPerWeek, .limitPerMonth, .trackInactive, .hideTrayIcon,
    .lockout]

def keysAfterHours : List ConfigKey :=
  [.playTimeEnabled, .playTimeLimitOverrideEnabled, .playTimeUnaccountedIntervalsEnabled,
    .playTimeAllowedWeekdays, .playTimeLimitsPerWeekdays, .playTimeActivities]

theorem pushSteps_keys :
    (pushSteps applied policy sevenLimits).map (fun step => step.setter.key) =
      keysBeforeHours ++ policy.allowedHours.keys.map ConfigKey.allowedHours ++ keysAfterHours := by
  have hours : (policy.allowedHours.entries.map (hoursStep applied)).map (fun step => step.setter.key) =
      policy.allowedHours.keys.map ConfigKey.allowedHours := by
    rw [Dict.keys, List.map_map, List.map_map]
    rfl
  simp only [pushSteps, List.map_append, hours]
  rfl

theorem pushSteps_distinct :
    ((pushSteps applied policy sevenLimits).map PushStep.planned).Pairwise
      fun a b => a.write.key ≠ b.write.key := by
  have injective : Function.Injective ConfigKey.allowedHours := fun _ _ => ConfigKey.allowedHours.inj
  have before : ∀ day, ConfigKey.allowedHours day ∉ keysBeforeHours := by simp [keysBeforeHours]
  have after : ∀ day, ConfigKey.allowedHours day ∉ keysAfterHours := by simp [keysAfterHours]
  have apart : ∀ key ∈ keysBeforeHours, key ∉ keysAfterHours := by decide
  have distinct : (keysBeforeHours ++ policy.allowedHours.keys.map ConfigKey.allowedHours ++
      keysAfterHours).Nodup := by
    rw [List.nodup_append', List.nodup_append']
    refine ⟨⟨by decide, policy.allowedHours.nodup.map injective, ?_⟩, by decide, ?_⟩
    · intro key fixed hours
      obtain ⟨day, _, rfl⟩ := List.mem_map.mp hours
      exact before day fixed
    · intro key inside fixed
      rcases List.mem_append.mp inside with first | hours
      · exact apart key first fixed
      · obtain ⟨day, _, rfl⟩ := List.mem_map.mp hours
        exact after day fixed
  rw [← pushSteps_keys applied policy sevenLimits] at distinct
  exact List.pairwise_map.mpr (List.pairwise_map.mp distinct)

def readbackOf (config : TimekprConfig) (readable : Bool) : Option AppliedPolicy :=
  if readable then some config.readback else none

theorem read_some {α : Type u} {config : TimekprConfig} {readable : Bool}
    {key : AppliedPolicy → Option α} {value : α}
    (read : (readbackOf config readable).bind key = some value) : key config.readback = some value := by
  cases readable with
  | false => cases read
  | true => exact read

theorem read_hours {config : TimekprConfig} {day : String} {hours : HourDict}
    (read : config.readback.allowedHours day = some hours) : config.allowedHours day = some hours := by
  simp only [TimekprConfig.readback] at read
  split at read
  · exact read
  · cases read

/-- The wake window is compared as "from;to", which cuts back into its two hours because no wake
    hour of a policy contains the separator. -/
theorem read_lockout {config : TimekprConfig} {readable : Bool} {lockoutType : LockoutType}
    {wakeFrom wakeTo : String} (separated : ';' ∉ wakeTo.toList)
    (read : currentLockout (readbackOf config readable) lockoutType =
      some (desiredLockout lockoutType wakeFrom wakeTo)) :
    config.lockoutType = some lockoutType.value ∧
      (lockoutType = .suspendWake → config.wakeupWindow = some (wakeFrom, wakeTo)) := by
  unfold currentLockout desiredLockout at read
  by_cases wakes : lockoutType = .suspendWake
  · rw [if_pos wakes, if_pos wakes] at read
    have pair := read_some read
    obtain ⟨current, named, rest⟩ := Option.bind_eq_some_iff.mp pair
    obtain ⟨window, reported, same⟩ := Option.map_eq_some_iff.mp rest
    obtain ⟨typeSame, parts⟩ := List.cons.inj same
    have locked : config.lockoutType = some current := named
    have suspend : config.lockoutType = some "suspendwake" := by rw [locked, typeSame, wakes]; rfl
    refine ⟨by rw [locked, typeSame], fun _ => ?_⟩
    simp only [TimekprConfig.readback, suspend, if_true] at reported
    obtain ⟨held, stored, text⟩ := Option.map_eq_some_iff.mp reported
    rw [← text] at parts
    obtain ⟨left, right⟩ := splitOnce_joined separated parts
    rw [stored, ← left, ← right]
  · rw [if_neg wakes, if_neg wakes] at read
    obtain ⟨current, named, same⟩ := Option.map_eq_some_iff.mp (read_some read)
    refine ⟨?_, fun suspends => absurd suspends wakes⟩
    rw [← (List.cons.inj same).1]
    exact named

theorem textOr_separated {text : Option String} {default : String}
    (separated : ∀ given ∈ text, ';' ∉ given.toList) (fallback : ';' ∉ default.toList) :
    ';' ∉ (textOr text default).toList := by
  unfold textOr
  split
  · exact fallback
  · exact fallback
  · exact separated _ rfl

theorem unchanged_holds {config : TimekprConfig} {readable : Bool}
    (separated : ∀ text ∈ policy.wakeTo, ';' ∉ text.toList) {step : PushStep}
    (planned : step ∈ pushSteps (readbackOf config readable) policy sevenLimits)
    (kept : step.unchanged = true) : config.holds step.setter := by
  simp only [pushSteps, List.mem_append, List.mem_cons, List.not_mem_nil, or_false, List.mem_map]
    at planned
  rcases planned with ((((rfl | rfl) | scalar) | rfl) | ⟨entry, _, rfl⟩) | playTime
  · exact read_some (of_decide_eq_true kept)
  · exact read_some (of_decide_eq_true (Bool.and_eq_true_iff.mp kept).2)
  · simp only [scalarSteps, List.mem_cons, List.not_mem_nil, or_false] at scalar
    rcases scalar with rfl | rfl | rfl | rfl <;> exact read_some (of_decide_eq_true kept)
  · obtain ⟨named, window⟩ := read_lockout
      (textOr_separated separated (by decide)) (of_decide_eq_true kept)
    refine ⟨named, fun suspends => window ?_⟩
    revert suspends
    cases policy.lockoutType <;> decide
  · exact read_hours (read_some (of_decide_eq_true kept))
  · simp only [playTimeSteps, List.mem_cons, List.not_mem_nil, or_false] at playTime
    rcases playTime with rfl | rfl | rfl | rfl | rfl | rfl
    · exact read_some (of_decide_eq_true kept)
    · exact read_some (of_decide_eq_true kept)
    · exact read_some (of_decide_eq_true kept)
    · exact read_some (of_decide_eq_true kept)
    · exact read_some (of_decide_eq_true (Bool.and_eq_true_iff.mp kept).2)
    · exact read_some (of_decide_eq_true kept)

theorem projected_eq {limits : List Int} (sevenLimits : limits.length = 7) (days : List Weekday) :
    projectDailyLimitsToAllowedDays limits sevenLimits days =
      days.map fun day => limits.getD day.index 0 := by
  apply List.map_congr_left
  intro day _
  have bound : day.index < limits.length := sevenLimits ▸ day.index_lt
  simp [List.getD, bound]

theorem landed_iff_holds {config : TimekprConfig} :
    Landed config policy ↔ ∀ step ∈ pushSteps applied policy sevenLimits, config.holds step.setter := by
  simp only [pushSteps, List.forall_mem_append, List.forall_mem_cons, List.forall_mem_map, allowedDaysStep,
    dayLimitsStep, scalarSteps, playTimeSteps, projected_eq]
  constructor
  · intro landed
    have hours : ∀ entry ∈ policy.allowedHours.entries, config.holds (hoursStep applied entry).setter := by
      intro entry listed
      exact landed.allowedHours entry.1 entry.2 ((Dict.get?_eq_some _ _ _).mpr listed)
    have lockout : config.holds (lockoutStep applied policy).setter := by
      refine ⟨landed.lockoutType, fun suspends => landed.wakeupWindow ?_⟩
      revert suspends
      cases policy.lockoutType <;> decide
    exact ⟨⟨⟨⟨⟨landed.allowedWeekdays, landed.limitsPerWeekdays, List.forall_mem_nil _⟩,
        landed.limitPerWeek, landed.limitPerMonth, landed.trackInactive, landed.hideTrayIcon,
        List.forall_mem_nil _⟩, lockout, List.forall_mem_nil _⟩, hours⟩,
      landed.playTimeEnabled, landed.playTimeLimitOverrideEnabled, landed.playTimeUnaccountedIntervalsEnabled,
      landed.playTimeAllowedWeekdays, landed.playTimeLimitsPerWeekdays, landed.playTimeActivities,
      List.forall_mem_nil _⟩
  · rintro ⟨⟨⟨⟨days, scalar⟩, lockout⟩, hours⟩, playTime⟩
    obtain ⟨week, month, trackInactive, hideTrayIcon, _⟩ := scalar
    obtain ⟨enabled, override, unaccounted, playDays, playLimits, activities, _⟩ := playTime
    exact
      { allowedWeekdays := days.1
        limitsPerWeekdays := days.2.1
        limitPerWeek := week
        limitPerMonth := month
        trackInactive := trackInactive
        hideTrayIcon := hideTrayIcon
        lockoutType := lockout.1.1
        wakeupWindow := fun suspends => lockout.1.2 (by rw [suspends]; rfl)
        allowedHours := fun day intervals listed =>
          hours (day, intervals) ((Dict.get?_eq_some _ _ _).mp listed)
        playTimeEnabled := enabled
        playTimeLimitOverrideEnabled := override
        playTimeUnaccountedIntervalsEnabled := unaccounted
        playTimeAllowedWeekdays := playDays
        playTimeLimitsPerWeekdays := playLimits
        playTimeActivities := activities }

end Plan

section Honest

variable {refuses : Setter → Bool} {readable : Bool} {config : TimekprConfig} {username : String}
  {policy : PolicyPayload}

theorem push_sevenLimits {σ : Type u} {enforcer : TimekprEnforcer σ} {device : σ}
    (ok : (applyPolicyPush enforcer device username policy).ok = true) :
    policy.dailyLimitsS.length = 7 := by
  by_contra wrong
  simp [applyPolicyPush, wrong] at ok

theorem push_holds {σ : Type u} {enforcer : TimekprEnforcer σ} {device : σ} {holds : σ → Setter → Prop}
    (lawful : Reconcile.Lawful (fun device => enforcer.perform device username) Setter.key holds)
    (sevenLimits : policy.dailyLimitsS.length = 7)
    (ok : (applyPolicyPush enforcer device username policy).ok = true) {step : PushStep}
    (planned : step ∈ pushSteps (enforcer.getAppliedPolicy device username) policy sevenLimits)
    (skipped : step.unchanged = true → holds device step.setter) :
    holds (applyPolicyPush enforcer device username policy).device step.setter := by
  rw [applyPolicyPush_eq _ _ _ _ sevenLimits] at ok ⊢
  obtain ⟨final, allTaken, _, _⟩ := foldl_take enforcer username
    { device, applied := enforcer.getAppliedPolicy device username }
    (pushSteps (enforcer.getAppliedPolicy device username) policy sevenLimits)
  have taken := List.all_eq_true.mp (allTaken.symm.trans ok)
  have held := Reconcile.pass_holds lawful (pushSteps_distinct _ policy sevenLimits) taken
    (List.mem_map_of_mem planned) skipped
  exact final ▸ held

theorem push_lands (separated : ∀ text ∈ policy.wakeTo, ';' ∉ text.toList)
    (ok : (applyPolicyPush (honestEnforcer refuses readable) config username policy).ok = true) :
    Landed (applyPolicyPush (honestEnforcer refuses readable) config username policy).device policy := by
  have sevenLimits := push_sevenLimits ok
  apply (landed_iff_holds (readbackOf config readable) policy sevenLimits).mpr
  intro step planned
  apply push_holds (honest_lawful refuses readable username) sevenLimits ok planned
  exact unchanged_holds policy sevenLimits separated planned

theorem push_untouched
    (refused : (applyPolicyPush (honestEnforcer refuses readable) config username policy).appliedCount ≤
      (applyPolicyPush (honestEnforcer refuses readable) config username policy).failed.length) :
    (applyPolicyPush (honestEnforcer refuses readable) config username policy).device = config := by
  by_cases sevenLimits : policy.dailyLimitsS.length = 7
  · rw [applyPolicyPush_eq _ _ _ _ sevenLimits] at refused ⊢
    obtain ⟨device, _, applied, failed⟩ := foldl_take (honestEnforcer refuses readable) username
      { device := config, applied := readbackOf config readable }
      (pushSteps (readbackOf config readable) policy sevenLimits)
    have counted := applied.symm.trans_le (refused.trans failed.le)
    simp only [List.length_nil, Nat.zero_add] at counted
    have every := List.countP_eq_length.mp (le_antisymm List.countP_le_length counted)
    have same := Reconcile.pass_refused
      (fun config => honest_refuses refuses readable config username) fun reply inside => by
        have negative := every reply inside
        simpa using negative
    exact device.trans same
  · simp [applyPolicyPush, sevenLimits]

end Honest

end TimekprProof
