import Mathlib.Algebra.BigOperators.Group.List.Basic
import TimekprHub.Hub.AdminActions

namespace TimekprModel

@[ext]
structure Adjustments where
  settings : UserSettings := {}
  overrides : Date → Option Int := fun _ => none
  grants : Date → Int := fun _ => 0
  released : Date → Bool := fun _ => false
  hoursOverridden : Date → Bool := fun _ => false

namespace Adjustments

def onDay (adjustments : Adjustments) (text : String) (change : Date → Adjustments) : Adjustments :=
  match IsoFormat.readDate text.toList with
  | none => adjustments
  | some day => change day

def replay (adjustments : Adjustments) : AuditChange → Adjustments
  | .grantCreate seconds text _ => adjustments.onDay text fun day =>
    { adjustments with grants := Function.update adjustments.grants day (adjustments.grants day + seconds) }
  | .overrideSet text limitSeconds _ => adjustments.onDay text fun day =>
    { adjustments with overrides := Function.update adjustments.overrides day (some limitSeconds) }
  | .overrideClear text => adjustments.onDay text fun day =>
    { adjustments with overrides := Function.update adjustments.overrides day none }
  | .dayHoursSet text _ _ => adjustments.onDay text fun day =>
    { adjustments with hoursOverridden := Function.update adjustments.hoursOverridden day true }
  | .dayHoursClear text => adjustments.onDay text fun day =>
    { adjustments with hoursOverridden := Function.update adjustments.hoursOverridden day false }
  | .gateRelease text _ => adjustments.onDay text fun day =>
    { adjustments with released := Function.update adjustments.released day true }
  | .gateUnrelease text => adjustments.onDay text fun day =>
    { adjustments with released := Function.update adjustments.released day false }
  | .userSettingsUpdate _ settings => { adjustments with settings }
  | .userDelete _ => {}
  | .policyUpdate _ _ | .userRename _ _ => adjustments

end Adjustments

/-- What the rows of a user say. A user without a row has the columns' defaults. -/
def HubTables.adjustments (tables : HubTables) (userId : UserId) : Adjustments where
  settings := ((tables.users.get? userId).map UserRow.settings).getD {}
  overrides day := tables.dayOverrides.get? (userId, day)
  grants day := ((tables.grants.filter fun grant => grant.userId = userId ∧ grant.day = day).map Grant.seconds).sum
  released := tables.isGateReleased userId
  hoursOverridden day := (tables.dayHourOverrides.get? (userId, day)).isSome

def changesOf (userId : UserId) (log : List AuditEvent) : List AuditChange :=
  (log.filter fun event => event.targetId = userId).map AuditEvent.change

end TimekprModel

namespace TimekprProof

open TimekprModel

/-- The tables differ by what an audit row says, if there is one, for the user it names. -/
def Adjusted (tables later : HubTables) (username : String) (change : Option AuditChange) : Prop :=
  ∀ userId, later.adjustments userId =
    if userId = username then change.toList.foldl Adjustments.replay (tables.adjustments userId)
    else tables.adjustments userId

section DayRows

variable {ν : Type} (rows : Dict (UserId × Date) ν) (username userId : UserId) (day date : Date)

theorem dayRows_set (value : ν) : (rows.set (username, day) value).get? (userId, date) =
    if userId = username ∧ date = day then some value else rows.get? (userId, date) := by
  simp only [Dict.get?_set, Prod.mk.injEq]

theorem dayRows_erase : (rows.erase (username, day)).get? (userId, date) =
    if userId = username ∧ date = day then none else rows.get? (userId, date) := by
  simp only [Dict.get?_erase, Prod.mk.injEq]

end DayRows

section Rows

variable {tables : HubTables} {username text : String} {day : Date}

theorem onDay_read (read : IsoFormat.readDate text.toList = some day) (adjustments : Adjustments)
    (change : Date → Adjustments) : adjustments.onDay text change = change day := by
  unfold Adjustments.onDay
  rw [read]

theorem adjusted_nothing (tables : HubTables) (username : String) : Adjusted tables tables username none := by
  intro userId
  split <;> rfl

theorem adjusted_some {later : HubTables} {change : AuditChange}
    (own : later.adjustments username = (tables.adjustments username).replay change)
    (others : ∀ userId, userId ≠ username → later.adjustments userId = tables.adjustments userId) :
    Adjusted tables later username (some change) := by
  intro userId
  by_cases same : userId = username
  · rw [if_pos same, same]
    exact own
  · rw [if_neg same]
    exact others userId same

theorem adjusted_grant (read : IsoFormat.readDate text.toList = some day) (seconds : Int) (reason : String) :
    Adjusted tables (tables.addGrant username day seconds) username (some (.grantCreate seconds text reason)) := by
  apply adjusted_some
  · simp only [Adjustments.replay, onDay_read read]
    ext date
    · rfl
    · rfl
    · show ((List.filter _ (tables.grants ++ [_])).map Grant.seconds).sum = _
      by_cases own : date = day
      · subst own
        simp [List.filter_append, HubTables.adjustments]
      · simp [List.filter_append, own, Ne.symm own, HubTables.adjustments]
    · rfl
    · rfl
  · intro userId differ
    ext date
    · rfl
    · rfl
    · show ((List.filter _ (tables.grants ++ [_])).map Grant.seconds).sum = _
      simp [List.filter_append, Ne.symm differ, HubTables.adjustments]
    · rfl
    · rfl

/-- A request about one day of one user, of which an audit row says what it has left there. -/
theorem adjusted_day {α : Type} (field : Adjustments → Date → α) (put : Adjustments → (Date → α) → Adjustments)
    {later : HubTables} (values : UserId → Date → α) (day : Date) (value : α) {change : AuditChange}
    (kept : ∀ adjustments, put adjustments (field adjustments) = adjustments)
    (frame : ∀ userId, later.adjustments userId = put (tables.adjustments userId) (values userId))
    (changed : ∀ userId date, values userId date =
      if userId = username ∧ date = day then value else field (tables.adjustments userId) date)
    (replays : ∀ adjustments, adjustments.replay change =
      put adjustments (Function.update (field adjustments) day value)) :
    Adjusted tables later username (some change) := by
  apply adjusted_some
  · have own : values username = Function.update (field (tables.adjustments username)) day value := by
      funext date
      rw [changed, Function.update_apply]
      simp only [true_and]
    rw [frame, replays, own]
  · intro userId differ
    have other : values userId = field (tables.adjustments userId) := by
      funext date
      rw [changed, if_neg fun both => differ both.1]
    rw [frame, other, kept]

theorem adjusted_override (read : IsoFormat.readDate text.toList = some day) (limitSeconds : Int) (reason : String) :
    Adjusted tables { tables with dayOverrides := tables.dayOverrides.set (username, day) limitSeconds } username
      (some (.overrideSet text limitSeconds reason)) := by
  apply adjusted_day Adjustments.overrides (fun adjustments overrides => { adjustments with overrides })
    (fun userId date => (tables.dayOverrides.set (username, day) limitSeconds).get? (userId, date)) day
    (some limitSeconds)
  · exact fun _ => rfl
  · exact fun _ => rfl
  · exact fun userId date => dayRows_set tables.dayOverrides username userId day date limitSeconds
  · exact fun adjustments => onDay_read read adjustments _

theorem adjusted_overrideClear (read : IsoFormat.readDate text.toList = some day) :
    Adjusted tables { tables with dayOverrides := tables.dayOverrides.erase (username, day) } username
      (some (.overrideClear text)) := by
  apply adjusted_day Adjustments.overrides (fun adjustments overrides => { adjustments with overrides })
    (fun userId date => (tables.dayOverrides.erase (username, day)).get? (userId, date)) day none
  · exact fun _ => rfl
  · exact fun _ => rfl
  · exact fun userId date => dayRows_erase tables.dayOverrides username userId day date
  · exact fun adjustments => onDay_read read adjustments _

theorem adjusted_dayHours (read : IsoFormat.readDate text.toList = some day) (intervals : List AllowedHourInterval)
    (mode reason : String) :
    Adjusted tables { tables with dayHourOverrides := tables.dayHourOverrides.set (username, day) intervals } username
      (some (.dayHoursSet text mode reason)) := by
  apply adjusted_day Adjustments.hoursOverridden
    (fun adjustments hoursOverridden => { adjustments with hoursOverridden })
    (fun userId date => ((tables.dayHourOverrides.set (username, day) intervals).get? (userId, date)).isSome) day true
  · exact fun _ => rfl
  · exact fun _ => rfl
  · intro userId date
    rw [dayRows_set]
    split <;> rfl
  · exact fun adjustments => onDay_read read adjustments _

theorem adjusted_dayHoursClear (read : IsoFormat.readDate text.toList = some day) :
    Adjusted tables { tables with dayHourOverrides := tables.dayHourOverrides.erase (username, day) } username
      (some (.dayHoursClear text)) := by
  apply adjusted_day Adjustments.hoursOverridden
    (fun adjustments hoursOverridden => { adjustments with hoursOverridden })
    (fun userId date => ((tables.dayHourOverrides.erase (username, day)).get? (userId, date)).isSome) day false
  · exact fun _ => rfl
  · exact fun _ => rfl
  · intro userId date
    rw [dayRows_erase]
    split <;> rfl
  · exact fun adjustments => onDay_read read adjustments _

theorem released_releaseGate (userId : UserId) (date : Date) :
    (tables.releaseGate username day).isGateReleased userId date =
      if userId = username ∧ date = day then true else tables.isGateReleased userId date := by
  unfold HubTables.releaseGate
  by_cases released : tables.isGateReleased username day = true
  · rw [if_pos released]
    split
    · rename_i same
      rw [same.1, same.2, released]
    · rfl
  · rw [if_neg released]
    unfold HubTables.isGateReleased
    by_cases same : userId = username ∧ date = day
    · simp [same.1, same.2]
    · rw [if_neg same]
      simp only [List.mem_append, List.mem_singleton, Prod.mk.injEq, same, or_false]

theorem adjusted_releaseGate (read : IsoFormat.readDate text.toList = some day) (note : Option String) :
    Adjusted tables (tables.releaseGate username day) username (some (.gateRelease text note)) := by
  have frame : ∀ userId, (tables.releaseGate username day).adjustments userId =
      { tables.adjustments userId with released := (tables.releaseGate username day).isGateReleased userId } := by
    intro userId
    unfold HubTables.releaseGate
    split <;> rfl
  apply adjusted_day Adjustments.released (fun adjustments released => { adjustments with released })
    (fun userId => (tables.releaseGate username day).isGateReleased userId) day true
  · exact fun _ => rfl
  · exact frame
  · exact released_releaseGate
  · exact fun adjustments => onDay_read read adjustments _

theorem adjusted_unreleaseGate (read : IsoFormat.readDate text.toList = some day) {later : HubTables}
    (unreleased : tables.unreleaseGate username day = some later) :
    Adjusted tables later username (some (.gateUnrelease text)) := by
  unfold HubTables.unreleaseGate at unreleased
  split at unreleased
  · cases unreleased
    have left : ∀ userId date,
        ({ tables with
          gateReleases := tables.gateReleases.filter fun release => release ≠ (username, day) } :
            HubTables).isGateReleased userId date =
          if userId = username ∧ date = day then false else tables.isGateReleased userId date := by
      intro userId date
      unfold HubTables.isGateReleased
      by_cases same : userId = username ∧ date = day
      · simp [same.1, same.2]
      · rw [if_neg same]
        simp only [List.mem_filter, decide_eq_true_eq, ne_eq, Prod.mk.injEq, same, not_false_eq_true, and_true]
    apply adjusted_day Adjustments.released (fun adjustments released => { adjustments with released }) _ day false
    · exact fun _ => rfl
    · exact fun _ => rfl
    · exact left
    · exact fun adjustments => onDay_read read adjustments _
  · cases unreleased

theorem adjustments_setRow (row : UserRow) (userId : UserId) :
    (tables.setRow username row).adjustments userId =
      if userId = username then { tables.adjustments userId with settings := row.settings }
      else tables.adjustments userId := by
  unfold HubTables.setRow HubTables.adjustments
  rw [Dict.get?_set]
  split <;> rfl

theorem adjusted_settings (row : UserRow) (before settings : UserSettings) :
    Adjusted tables (tables.setRow username (row.withSettings settings)) username
      (some (.userSettingsUpdate before settings)) := by
  apply adjusted_some
  · rw [adjustments_setRow, if_pos rfl]
    rfl
  · intro userId differ
    rw [adjustments_setRow, if_neg differ]

theorem setRow_kept {changed : UserRow} (settings : changed.settings = ((tables.users.get? username).map
    UserRow.settings).getD {}) (userId : UserId) :
    (tables.setRow username changed).adjustments userId = tables.adjustments userId := by
  rw [adjustments_setRow]
  split
  · rename_i same
    rw [settings, same]
    rfl
  · rfl

theorem adjusted_delete (displayName : String) :
    Adjusted tables (tables.deleteUser username) username (some (.userDelete displayName)) := by
  have keyed : ∀ {ν : Type} (rows : Dict (UserId × Date) ν) (userId : UserId) (date : Date),
      (rows.filterKeys fun key => key.1 ≠ username).get? (userId, date) =
        if userId = username then none else rows.get? (userId, date) := by
    intro ν rows userId date
    rw [Dict.get?_filterKeys]
    by_cases same : userId = username
    · rw [if_pos same, if_neg (by simp [same])]
    · rw [if_neg same, if_pos (by simp [same])]
  have granted : ∀ (userId : UserId) (date : Date),
      ((tables.grants.filter fun grant => grant.userId ≠ username).filter fun grant =>
        grant.userId = userId ∧ grant.day = date) =
          if userId = username then []
          else tables.grants.filter fun grant => grant.userId = userId ∧ grant.day = date := by
    intro userId date
    rw [List.filter_filter]
    by_cases same : userId = username
    · rw [if_pos same, List.filter_eq_nil_iff]
      intro grant _
      simp [same]
      tauto
    · rw [if_neg same]
      apply List.filter_congr
      intro grant _
      by_cases own : grant.userId = userId
      · simp [own, same]
      · simp [own]
  apply adjusted_some
  · simp only [Adjustments.replay]
    ext date seconds
    · simp only [HubTables.adjustments, HubTables.deleteUser, Dict.get?_erase, if_true, Option.map_none,
        Option.getD_none]
    · simp only [HubTables.adjustments, HubTables.deleteUser, keyed, if_true]
    · simp only [HubTables.adjustments, HubTables.deleteUser, granted, if_true, List.map_nil, List.sum_nil]
    · simp [HubTables.adjustments, HubTables.deleteUser, HubTables.isGateReleased]
    · simp only [HubTables.adjustments, HubTables.deleteUser, keyed, if_true, Option.isSome_none]
  · intro userId differ
    ext date seconds
    · simp only [HubTables.adjustments, HubTables.deleteUser, Dict.get?_erase, if_neg differ]
    · simp only [HubTables.adjustments, HubTables.deleteUser, keyed, if_neg differ]
    · simp only [HubTables.adjustments, HubTables.deleteUser, granted, if_neg differ]
    · simp [HubTables.adjustments, HubTables.deleteUser, HubTables.isGateReleased, differ]
    · simp only [HubTables.adjustments, HubTables.deleteUser, keyed, if_neg differ]

theorem adjustments_provisionUser (policyId : PolicyId) (seed : Policy) (userId : UserId) :
    (tables.provisionUser username policyId seed).adjustments userId = tables.adjustments userId := by
  have settings : ((tables.users.get? username).getD { displayName := username }).settings =
      ((tables.users.get? username).map UserRow.settings).getD {} := by
    cases tables.users.get? username <;> rfl
  generalize named : (tables.users.get? username).getD { displayName := username } = row at settings
  unfold HubTables.provisionUser
  rw [named]
  dsimp only
  split
  · exact setRow_kept settings userId
  · have kept : ∀ changed : UserRow, changed.settings = row.settings →
        (tables.setRow username changed).adjustments userId = tables.adjustments userId := by
      intro changed same
      exact setRow_kept (same.trans settings) userId
    exact kept { row with currentPolicyId := some policyId } rfl

end Rows

section Requests

variable {tables : HubTables} {username : String}

def Follows (tables : HubTables) (username : String) (handled : Handled) : Prop :=
  ∀ later change, handled = .ok (later, change) → Adjusted tables later username change

theorem follows_error (status : Nat) : Follows tables username (.error status) := by
  intro later change handled
  cases handled

theorem follows_ok {later : HubTables} {change : Option AuditChange}
    (adjusted : Adjusted tables later username change) :
    Follows tables username (.ok (later, change)) := by
  intro later' change' handled
  cases handled
  exact adjusted

theorem follows_bind {α : Type} {first : Except Nat α} {next : α → Handled}
    (each : ∀ value, first = .ok value → Follows tables username (next value)) :
    Follows tables username (first >>= next) := by
  intro later change handled
  obtain ⟨value, came, rest⟩ := Fallible.bind_ok handled
  exact each value came later change rest

theorem dayOf_ok {text : String} {day : Date} (read : dayOf text = .ok day) :
    IsoFormat.readDate text.toList = some day := by
  unfold dayOf at read
  cases found : IsoFormat.readDate text.toList with
  | none =>
    rw [found] at read
    cases read
  | some date =>
    rw [found] at read
    exact congrArg some (Except.ok.inj read)

theorem getUserOr404_ok {row : UserRow} (found : tables.getUserOr404 username = .ok row) :
    tables.users.get? username = some row := by
  unfold HubTables.getUserOr404 at found
  split at found
  · cases found
  · rename_i held
    cases found
    exact held

theorem grantDayOf_ok {today day : Date} {text : Option String} (representable : today.Representable)
    (given : grantDayOf today text = .ok day) : day.Representable := by
  have parsed : ∀ text, dayOf text = .ok day → day.Representable := by
    intro text read
    exact readDate_representable (dayOf_ok read)
  cases text with
  | none =>
    cases given
    exact representable
  | some text =>
    simp only [grantDayOf] at given
    split at given
    · cases given
      exact representable
    · exact parsed text given

theorem createGrant_follows {today : Date} (representable : today.Representable) (body : GrantCreate) :
    Follows tables username (tables.createGrant today username body) := by
  apply follows_bind
  intro row _
  apply follows_bind
  intro grantDay given
  apply follows_ok
  exact adjusted_grant (readDate_isoformat (grantDayOf_ok representable given)) body.seconds body.reason

theorem grantFromUi_follows {today : Date} (representable : today.Representable) (minutesText : Int → String)
    (seconds : Int) (day : String) :
    Follows tables username (tables.grantFromUi today minutesText username seconds day) := by
  unfold HubTables.grantFromUi
  split
  · exact follows_ok (adjusted_nothing tables username)
  · apply follows_bind
    intro grantDay given
    apply follows_ok
    exact adjusted_grant (readDate_isoformat (grantDayOf_ok representable given)) seconds _

theorem updateUserPolicy_follows (update : PolicyUpdate) (policyId : PolicyId) :
    Follows tables username (tables.updateUserPolicy username update policyId) := by
  apply follows_bind
  intro row found
  apply follows_ok
  have settings : row.settings = ((tables.users.get? username).map UserRow.settings).getD {} := by
    rw [getUserOr404_ok found]
    rfl
  have kept : ∀ changed : UserRow, changed.settings = row.settings →
      ∀ userId, (tables.setRow username changed).adjustments userId = tables.adjustments userId := by
    intro changed same userId
    exact setRow_kept (same.trans settings) userId
  apply adjusted_some
  · exact kept { row with currentPolicyId := some policyId } rfl username
  · intro userId _
    exact kept { row with currentPolicyId := some policyId } rfl userId

theorem adjusted_provisioned {later : HubTables} {change : Option AuditChange} (policyId : PolicyId) (seed : Policy)
    (adjusted : Adjusted (tables.provisionUser username policyId seed) later username change) :
    Adjusted tables later username change := by
  intro userId
  rw [adjusted userId, adjustments_provisionUser]

theorem updatePolicyUi_follows (form : Form) (seedId policyId : PolicyId) :
    Follows tables username (tables.updatePolicyUi username form seedId policyId) := by
  apply follows_bind
  intro row _
  apply follows_bind
  intro update _ later change handled
  have adjusted := updateUserPolicy_follows update policyId later change handled
  exact adjusted_provisioned seedId createInitialPolicy adjusted

theorem overrideTo_follows (day : String) (limitSeconds : Int) (reason : String) :
    Follows tables username (tables.overrideTo username day limitSeconds reason) := by
  apply follows_bind
  intro row _
  apply follows_bind
  intro overrideDay read
  apply follows_bind
  intro later written
  apply follows_ok
  unfold HubTables.setDayOverride at written
  split at written
  · cases written
    exact adjusted_override (dayOf_ok read) limitSeconds reason
  · cases written

theorem cleared_follows {day : String} {clear : UserId → Date → Option HubTables} {change : AuditChange}
    (each : ∀ date later, IsoFormat.readDate day.toList = some date → clear username date = some later →
      Adjusted tables later username (some change)) :
    Follows tables username (tables.cleared username day clear change) := by
  apply follows_bind
  intro row _
  apply follows_bind
  intro clearDay read
  cases found : clear username clearDay with
  | none =>
    exact follows_ok (adjusted_nothing tables username)
  | some later =>
    exact follows_ok (each clearDay later (dayOf_ok read) found)

theorem clearDayOverride_adjusted {day : String} (date : Date) (later : HubTables)
    (read : IsoFormat.readDate day.toList = some date) (found : tables.clearDayOverride username date = some later) :
    Adjusted tables later username (some (.overrideClear day)) := by
  unfold HubTables.clearDayOverride at found
  obtain ⟨_, _, rfl⟩ := Option.map_eq_some_iff.mp found
  exact adjusted_overrideClear read

theorem clearDayHourOverride_adjusted {day : String} (date : Date) (later : HubTables)
    (read : IsoFormat.readDate day.toList = some date)
    (found : tables.clearDayHourOverrideRow username date = some later) :
    Adjusted tables later username (some (.dayHoursClear day)) := by
  unfold HubTables.clearDayHourOverrideRow at found
  obtain ⟨_, _, rfl⟩ := Option.map_eq_some_iff.mp found
  exact adjusted_dayHoursClear read

theorem unreleaseGateUi_follows {today : Date} (representable : today.Representable) :
    Follows tables username (tables.unreleaseGateUi today username) := by
  apply follows_bind
  intro row _
  cases found : tables.unreleaseGate username today with
  | none =>
    exact follows_ok (adjusted_nothing tables username)
  | some later =>
    exact follows_ok (adjusted_unreleaseGate (readDate_isoformat representable) found)

theorem releaseUserGate_follows (body : GateReleaseCreate) :
    Follows tables username (tables.releaseUserGate username body) := by
  apply follows_bind
  intro row _
  apply follows_bind
  intro day read
  exact follows_ok (adjusted_releaseGate (dayOf_ok read) _)

theorem releaseGateUi_follows {today : Date} (representable : today.Representable) :
    Follows tables username (tables.releaseGateUi today username) := by
  apply follows_bind
  intro row _
  exact follows_ok (adjusted_releaseGate (readDate_isoformat representable) _)

theorem adjusted_dayHourRow {text mode reason : String} {day : Date} {intervals : List AllowedHourInterval}
    {later : HubTables} (read : dayOf text = .ok day)
    (written : tables.setDayHourOverrideRow username day intervals reason = .ok later) :
    Adjusted tables later username (some (.dayHoursSet text mode reason)) := by
  unfold HubTables.setDayHourOverrideRow at written
  split at written
  · cases written
    exact adjusted_dayHours (dayOf_ok read) intervals mode reason
  · cases written

theorem setUserDayHourOverride_follows (body : DayHourOverrideCreate) :
    Follows tables username (tables.setUserDayHourOverride username body) := by
  apply follows_bind
  intro row _
  apply follows_bind
  intro day read
  apply follows_bind
  intro _ _
  apply follows_bind
  intro later written
  exact follows_ok (adjusted_dayHourRow read written)

theorem setDayHourOverrideUi_follows (form : DayHoursForm) (policyId : PolicyId) :
    Follows tables username (tables.setDayHourOverrideUi username form policyId) := by
  apply follows_bind
  intro row _
  apply follows_bind
  intro day read
  apply follows_bind
  intro provisioned _
  apply follows_bind
  intro _ _
  apply follows_bind
  intro intervals _
  apply follows_bind
  intro later written
  apply follows_ok
  exact adjusted_provisioned policyId createInitialPolicy (adjusted_dayHourRow read written)

theorem updateUserSettings_follows (body : UserSettingsUpdate) :
    Follows tables username (tables.updateUserSettings username body) := by
  apply follows_bind
  intro row _
  exact follows_ok (adjusted_settings row row.settings body.toUserSettings)

theorem updateUserSettingsUi_follows (form : UserSettingsForm) :
    Follows tables username (tables.updateUserSettingsUi username form) := by
  apply follows_bind
  intro row _
  split
  · exact follows_ok (adjusted_settings row row.settings _)
  · exact follows_error 500

theorem renameUserUi_follows (displayName : String) :
    Follows tables username (tables.renameUserUi username displayName) := by
  apply follows_bind
  intro row found
  apply follows_ok
  have settings : row.settings = ((tables.users.get? username).map UserRow.settings).getD {} := by
    rw [getUserOr404_ok found]
    rfl
  have kept := @setRow_kept tables username { row with displayName } settings
  apply adjusted_some
  · exact kept username
  · intro userId _
    exact kept userId

theorem deleteUserUi_follows : Follows tables username (tables.deleteUserUi username) := by
  apply follows_bind
  intro row _
  exact follows_ok (adjusted_delete row.displayName)

/-- One case for each request. -/
theorem handle_follows (arrival : AdminArrival) (minutesText : Int → String) :
    Follows tables arrival.username
      (arrival.request.handle tables minutesText arrival.today arrival.username) := by
  have today := arrival.representable
  cases arrival.request with
  | createGrant body => exact createGrant_follows today body
  | grantFromUi seconds day _ => exact grantFromUi_follows today minutesText seconds day
  | updateUserPolicy update policyId => exact updateUserPolicy_follows update policyId
  | updatePolicyUi form seedId policyId => exact updatePolicyUi_follows form seedId policyId
  | setUserDayOverride body => exact overrideTo_follows body.day body.limitSeconds body.reason
  | setDayOverrideUi form => exact overrideTo_follows form.day _ form.reason
  | clearUserDayOverride day => exact cleared_follows clearDayOverride_adjusted
  | clearDayOverrideUi day => exact cleared_follows clearDayOverride_adjusted
  | setUserDayHourOverride body => exact setUserDayHourOverride_follows body
  | setDayHourOverrideUi form policyId => exact setDayHourOverrideUi_follows form policyId
  | clearUserDayHourOverride day => exact cleared_follows clearDayHourOverride_adjusted
  | clearDayHourOverrideUi day => exact cleared_follows clearDayHourOverride_adjusted
  | releaseUserGate body => exact releaseUserGate_follows body
  | releaseGateUi => exact releaseGateUi_follows today
  | unreleaseUserGate day => exact cleared_follows fun _ _ read found => adjusted_unreleaseGate read found
  | unreleaseGateUi => exact unreleaseGateUi_follows today
  | updateUserSettings body => exact updateUserSettings_follows body
  | updateUserSettingsUi form => exact updateUserSettingsUi_follows form
  | renameUserUi displayName _ => exact renameUserUi_follows displayName
  | deleteUserUi => exact deleteUserUi_follows

end Requests

section Runs

variable (minutesText : Int → String)

/-- What a turn does to the rows of a user is what it adds to the log about them. -/
theorem turn_replayed (hub : AuditedHub) (turn : HubTurn) (userId : UserId) :
    ∃ added, (hub.step minutesText turn).log = hub.log ++ added ∧
      (hub.step minutesText turn).tables.adjustments userId =
        (changesOf userId added).foldl Adjustments.replay (hub.tables.adjustments userId) := by
  cases turn with
  | provision username policyId seed =>
    refine ⟨[], (List.append_nil _).symm, ?_⟩
    exact adjustments_provisionUser policyId seed userId
  | report devices aliases usageCounters activityIntervals =>
    exact ⟨[], (List.append_nil _).symm, rfl⟩
  | admin arrival =>
    cases handled : arrival.request.handle hub.tables minutesText arrival.today arrival.username with
    | error status =>
      refine ⟨[], ?_, ?_⟩
      · simp only [AuditedHub.step, handled, List.append_nil]
      · simp only [AuditedHub.step, handled]
        rfl
    | ok result =>
      obtain ⟨later, change⟩ := result
      have adjusted := handle_follows arrival minutesText later change handled userId
      cases change with
      | none =>
        refine ⟨[], ?_, ?_⟩
        · simp only [AuditedHub.step, handled, List.append_nil]
        · simp only [AuditedHub.step, handled]
          rw [adjusted]
          split <;> rfl
      | some change =>
        refine ⟨[{ actorId := arrival.actorId, targetId := arrival.username, change, ip := arrival.ip }], ?_, ?_⟩
        · simp only [AuditedHub.step, handled]
        · simp only [AuditedHub.step, handled]
          rw [adjusted]
          by_cases own : userId = arrival.username
          · rw [if_pos own]
            simp [changesOf, own]
          · rw [if_neg own]
            simp [changesOf, Ne.symm own]

theorem run_replayed (hub : AuditedHub) (turns : List HubTurn) (userId : UserId) :
    ∃ added, (turns.foldl (AuditedHub.step minutesText) hub).log = hub.log ++ added ∧
      (turns.foldl (AuditedHub.step minutesText) hub).tables.adjustments userId =
        (changesOf userId added).foldl Adjustments.replay (hub.tables.adjustments userId) := by
  induction turns generalizing hub with
  | nil =>
    exact ⟨[], (List.append_nil _).symm, rfl⟩
  | cons turn turns ih =>
    obtain ⟨first, firstLog, firstRows⟩ := turn_replayed minutesText hub turn userId
    obtain ⟨rest, restLog, restRows⟩ := ih (hub.step minutesText turn)
    refine ⟨first ++ rest, ?_, ?_⟩
    · rw [List.foldl_cons, restLog, firstLog, List.append_assoc]
    · rw [List.foldl_cons, restRows, firstRows]
      unfold changesOf
      rw [List.filter_append, List.map_append, List.foldl_append]

theorem installed_replayed (turns : List HubTurn) (userId : UserId) :
    (turns.foldl (AuditedHub.step minutesText) {}).tables.adjustments userId =
      (changesOf userId (turns.foldl (AuditedHub.step minutesText) {}).log).foldl Adjustments.replay {} := by
  obtain ⟨added, logged, rows⟩ := run_replayed minutesText {} turns userId
  rw [rows, logged]
  rfl

/-- Whatever admins and devices do, in any order: the log only grows, and the rows of every user are those from
    before with the new audit rows about the user replayed over them. -/
theorem audit_log_replays (hub : AuditedHub) (turns : List HubTurn) (userId : UserId) :
    hub.log <+: (turns.foldl (AuditedHub.step minutesText) hub).log ∧
      (turns.foldl (AuditedHub.step minutesText) hub).tables.adjustments userId =
        (changesOf userId ((turns.foldl (AuditedHub.step minutesText) hub).log.drop hub.log.length)).foldl
          Adjustments.replay (hub.tables.adjustments userId) := by
  obtain ⟨added, logged, rows⟩ := run_replayed minutesText hub turns userId
  rw [logged, List.drop_left]
  exact ⟨List.prefix_append _ _, rows⟩

end Runs

end TimekprProof
