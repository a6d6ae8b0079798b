import TimekprHub.Hub.AuditReplay
import TimekprHub.Hub.LimitQueries

namespace TimekprModel

namespace AuditChange

abbrev Names (text : String) (day : Date) : Prop := IsoFormat.readDate text.toList = some day

/-- What a row of the log leaves as the override of the day, if it touches it. -/
def overrideWritten (day : Date) : AuditChange → Option (Option Int)
  | overrideSet text limitSeconds _ => if Names text day then some (some limitSeconds) else none
  | overrideClear text => if Names text day then some none else none
  | userDelete _ => some none
  | _ => none

def releaseWritten (day : Date) : AuditChange → Option Bool
  | gateRelease text _ => if Names text day then some true else none
  | gateUnrelease text => if Names text day then some false else none
  | userDelete _ => some false
  | _ => none

def settingsWritten : AuditChange → Option UserSettings
  | userSettingsUpdate _ settings => some settings
  | userDelete _ => some {}
  | _ => none

def addGranted (day : Date) (total : Int) : AuditChange → Int
  | grantCreate seconds text _ => if Names text day then total + seconds else total
  | userDelete _ => 0
  | _ => total

end AuditChange

/-- The limit of a day as the audit log has it: the last override of the day or else the policy's limit, the grants
    of the day, and nothing on a gated day that was not released last. -/
def loggedDailyLimit (baseS : Int) (changes : List AuditChange) (day : Date) : Int :=
  combineLimit (((EventLog.last (AuditChange.overrideWritten day) changes).getD none).getD baseS)
    (changes.foldl (AuditChange.addGranted day) 0)
    (day.isoweekday ∈ ((EventLog.last AuditChange.settingsWritten changes).getD {}).gatedWeekdays)
    ((EventLog.last (AuditChange.releaseWritten day) changes).getD false)

end TimekprModel

namespace TimekprProof

open TimekprModel

section Fields

variable (before : Adjustments) (day : Date)

theorem onDay_update {ν : Type} (field : Adjustments → Date → ν) {text : String} {change : Date → Adjustments}
    {value : Date → ν}
    (written : ∀ date, field (change date) = Function.update (field before) date (value date)) :
    field (before.onDay text change) day =
      (if AuditChange.Names text day then some (value day) else none).getD (field before day) := by
  unfold Adjustments.onDay AuditChange.Names
  cases IsoFormat.readDate text.toList with
  | none =>
    rw [if_neg (by simp)]
    rfl
  | some date =>
    dsimp only
    rw [written, Function.update_apply]
    by_cases same : day = date
    · rw [if_pos same, if_pos (congrArg some same.symm), same]
      rfl
    · rw [if_neg same, if_neg fun named => same (Option.some.inj named).symm]
      rfl

theorem onDay_frame {ν : Type} (field : Adjustments → ν) {text : String} {change : Date → Adjustments}
    (kept : ∀ date, field (change date) = field before) : field (before.onDay text change) = field before := by
  unfold Adjustments.onDay
  split
  · rfl
  · exact kept _

theorem replay_override (change : AuditChange) :
    (before.replay change).overrides day = (change.overrideWritten day).getD (before.overrides day) := by
  have update := @onDay_update before day (Option Int) Adjustments.overrides
  have frame := @onDay_frame before (Option Int) fun later => later.overrides day
  cases change with
  | overrideSet text limitSeconds reason =>
    dsimp only [Adjustments.replay, AuditChange.overrideWritten]
    rw [update]
    intro date
    rfl
  | overrideClear text =>
    dsimp only [Adjustments.replay, AuditChange.overrideWritten]
    rw [update]
    intro date
    rfl
  | grantCreate seconds text reason => exact frame fun date => rfl
  | dayHoursSet text mode reason => exact frame fun date => rfl
  | dayHoursClear text => exact frame fun date => rfl
  | gateRelease text note => exact frame fun date => rfl
  | gateUnrelease text => exact frame fun date => rfl
  | policyUpdate _ _ => rfl
  | userSettingsUpdate _ _ => rfl
  | userRename _ _ => rfl
  | userDelete _ => rfl

theorem replay_release (change : AuditChange) :
    (before.replay change).released day = (change.releaseWritten day).getD (before.released day) := by
  have update := @onDay_update before day Bool Adjustments.released
  have frame := @onDay_frame before Bool fun later => later.released day
  cases change with
  | gateRelease text note =>
    dsimp only [Adjustments.replay, AuditChange.releaseWritten]
    rw [update]
    intro date
    rfl
  | gateUnrelease text =>
    dsimp only [Adjustments.replay, AuditChange.releaseWritten]
    rw [update]
    intro date
    rfl
  | grantCreate seconds text reason => exact frame fun date => rfl
  | overrideSet text limitSeconds reason => exact frame fun date => rfl
  | overrideClear text => exact frame fun date => rfl
  | dayHoursSet text mode reason => exact frame fun date => rfl
  | dayHoursClear text => exact frame fun date => rfl
  | policyUpdate _ _ => rfl
  | userSettingsUpdate _ _ => rfl
  | userRename _ _ => rfl
  | userDelete _ => rfl

theorem replay_settings (change : AuditChange) :
    (before.replay change).settings = change.settingsWritten.getD before.settings := by
  have frame := @onDay_frame before UserSettings Adjustments.settings
  cases change with
  | grantCreate seconds text reason => exact frame fun date => rfl
  | overrideSet text limitSeconds reason => exact frame fun date => rfl
  | overrideClear text => exact frame fun date => rfl
  | dayHoursSet text mode reason => exact frame fun date => rfl
  | dayHoursClear text => exact frame fun date => rfl
  | gateRelease text note => exact frame fun date => rfl
  | gateUnrelease text => exact frame fun date => rfl
  | policyUpdate _ _ => rfl
  | userSettingsUpdate _ _ => rfl
  | userRename _ _ => rfl
  | userDelete _ => rfl

theorem replay_grants (change : AuditChange) :
    (before.replay change).grants day = change.addGranted day (before.grants day) := by
  have update := @onDay_update before day Int Adjustments.grants
  have frame := @onDay_frame before Int fun later => later.grants day
  cases change with
  | grantCreate seconds text reason =>
    have added : (before.replay (.grantCreate seconds text reason)).grants day =
        (if AuditChange.Names text day then some (before.grants day + seconds) else none).getD
          (before.grants day) := by
      dsimp only [Adjustments.replay]
      rw [update]
      intro date
      rfl
    rw [added]
    dsimp only [AuditChange.addGranted]
    split <;> rfl
  | overrideSet text limitSeconds reason => exact frame fun date => rfl
  | overrideClear text => exact frame fun date => rfl
  | dayHoursSet text mode reason => exact frame fun date => rfl
  | dayHoursClear text => exact frame fun date => rfl
  | gateRelease text note => exact frame fun date => rfl
  | gateUnrelease text => exact frame fun date => rfl
  | policyUpdate _ _ => rfl
  | userSettingsUpdate _ _ => rfl
  | userRename _ _ => rfl
  | userDelete _ => rfl

variable (changes : List AuditChange) (start : Adjustments)

theorem replayed_override : (changes.foldl Adjustments.replay start).overrides day =
    (EventLog.last (AuditChange.overrideWritten day) changes).getD (start.overrides day) :=
  @EventLog.foldl_last _ _ (AuditChange.overrideWritten day) _ Adjustments.replay (fun later => later.overrides day)
    (fun before change => replay_override before day change) changes start

theorem replayed_release : (changes.foldl Adjustments.replay start).released day =
    (EventLog.last (AuditChange.releaseWritten day) changes).getD (start.released day) :=
  @EventLog.foldl_last _ _ (AuditChange.releaseWritten day) _ Adjustments.replay (fun later => later.released day)
    (fun before change => replay_release before day change) changes start

theorem replayed_settings : (changes.foldl Adjustments.replay start).settings =
    (EventLog.last AuditChange.settingsWritten changes).getD start.settings :=
  @EventLog.foldl_last _ _ AuditChange.settingsWritten _ Adjustments.replay Adjustments.settings
    replay_settings changes start

theorem replayed_grants : (changes.foldl Adjustments.replay start).grants day =
    changes.foldl (AuditChange.addGranted day) (start.grants day) := by
  induction changes generalizing start with
  | nil => rfl
  | cons change changes ih => rw [List.foldl_cons, ih, replay_grants, List.foldl_cons]

end Fields

section Limits

theorem limit_adjustments {tables : HubTables} {userId : UserId} {row : UserRow}
    (held : tables.users.get? userId = some row) (policy : Policy) (day : Date) :
    effectiveDailyLimit policy (tables.user userId row) day =
      combineLimit (((tables.adjustments userId).overrides day).getD (baseDailyLimit policy day))
        ((tables.adjustments userId).grants day)
        (day.isoweekday ∈ (tables.adjustments userId).settings.gatedWeekdays)
        ((tables.adjustments userId).released day) := by
  have settings : (tables.adjustments userId).settings = row.settings := by
    unfold HubTables.adjustments
    rw [held]
    rfl
  have grants : tables.grantsTotal userId day = (tables.adjustments userId).grants day := by
    rw [HubTables.grantsTotal, sqlSum_getD]
    rfl
  rw [effective_daily_limit_rows, grants, settings]
  rfl

/-- The limit of every user on every day is the one its policy and the audit log alone give. -/
theorem limit_from_audit_log (minutesText : Int → String) (turns : List HubTurn) {userId : UserId} {row : UserRow}
    (held : (turns.foldl (AuditedHub.step minutesText) {}).tables.users.get? userId = some row) (policy : Policy)
    (day : Date) :
    effectiveDailyLimit policy ((turns.foldl (AuditedHub.step minutesText) {}).tables.user userId row) day =
      loggedDailyLimit (baseDailyLimit policy day)
        (changesOf userId (turns.foldl (AuditedHub.step minutesText) {}).log) day := by
  rw [limit_adjustments held, installed_replayed, loggedDailyLimit]
  rw [replayed_override, replayed_grants, replayed_settings, replayed_release]

def parentAsks (username : String) (request : AdminRequest) : HubTurn :=
  .admin { actorId := "parent", username, today := 739000, request, representable := ⟨by decide, by decide⟩ }

/-- An override of the day, a grant, a grant for somebody the hub does not know, and one that takes time back. -/
def parentsMorning : List HubTurn :=
  [.provision "kid" "first" createInitialPolicy,
    parentAsks "kid" (.setUserDayOverride
      { day := "2024-04-24", limitSeconds := 3600, limitBounds := by decide, reasonLength := by decide }),
    parentAsks "kid" (.createGrant { seconds := 600, secondsBounds := by decide, reasonLength := by decide }),
    parentAsks "somebody" (.createGrant { seconds := 600, secondsBounds := by decide, reasonLength := by decide }),
    parentAsks "kid" (.createGrant { seconds := -300, secondsBounds := by decide, reasonLength := by decide })]

theorem limit_from_audit_log_morning :
    let hub := parentsMorning.foldl (AuditedHub.step fun _ => "10") {}
    ∃ row, ∀ policy, effectiveDailyLimit policy (hub.tables.user "kid" row) 739000 = 3900 :=
  ⟨_, fun policy => (limit_from_audit_log (fun _ => "10") parentsMorning rfl policy 739000).trans rfl⟩

end Limits

end TimekprProof
