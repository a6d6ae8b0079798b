import TimekprHub.Core.DateText
import TimekprHub.Hub.AdminDeletion
import TimekprHub.Hub.FormErrors
import TimekprHub.Hub.Tables
import TimekprHub.Library.EventLog

namespace TimekprModel

structure UserSettings where
  gatedWeekdays : List Weekday := []
  accountingMode : AccountingMode := .wallclock
  offlinePolicy : OfflinePolicy := .capped
  offlineGraceS : Int := 900
  offlineCapS : Int := 1800
  deriving DecidableEq, Repr

inductive AuditChange
  | grantCreate (seconds : Int) (day reason : String)
  | policyUpdate (before : Option PolicyPayload) (after : PolicyPayload)
  | overrideSet (day : String) (limitSeconds : Int) (reason : String)
  | overrideClear (day : String)
  | dayHoursSet (day mode reason : String)
  | dayHoursClear (day : String)
  | gateRelease (day : String) (note : Option String)
  | gateUnrelease (day : String)
  | userSettingsUpdate (before after : UserSettings)
  | userRename (before after : String)
  | userDelete (displayName : String)

def AuditChange.action : AuditChange → String
  | grantCreate _ _ _ => "grant.create"
  | policyUpdate _ _ => "policy.update"
  | overrideSet _ _ _ => "override.set"
  | overrideClear _ => "override.clear"
  | dayHoursSet _ _ _ => "day_hours.set"
  | dayHoursClear _ => "day_hours.clear"
  | gateRelease _ _ => "gate.release"
  | gateUnrelease _ => "gate.unrelease"
  | userSettingsUpdate _ _ => "user_settings.update"
  | userRename _ _ => "user.rename"
  | userDelete _ => "user.delete"

structure AuditEvent where
  actorId : AdminId
  targetId : UserId
  change : AuditChange
  ip : Option String := none

structure GrantCreate where
  seconds : Int
  reason : String := ""
  day : Option String := none
  secondsBounds : -86400 ≤ seconds ∧ seconds ≤ 86400
  reasonLength : reason.length ≤ 255

structure DayOverrideCreate where
  day : String
  limitSeconds : Int
  reason : String := ""
  limitBounds : 0 ≤ limitSeconds ∧ limitSeconds ≤ 86400
  reasonLength : reason.length ≤ 255

structure DayOverrideForm where
  day : String
  mode : String := "none"
  limitH : Int := 0
  limitM : Int := 0
  reason : String := ""
  hourBounds : 0 ≤ limitH ∧ limitH ≤ 24
  minuteBounds : 0 ≤ limitM ∧ limitM ≤ 59

structure DayHourOverrideCreate where
  day : String
  mode : DayHoursMode
  reason : String := ""
  reasonLength : reason.length ≤ 255

structure DayHoursForm where
  day : String
  mode : String := "window"
  fromTime : String := ""
  toTime : String := ""
  toMidnight : Bool := false
  reason : String := ""

structure GateReleaseCreate where
  day : String
  note : String := ""
  noteLength : note.length ≤ 255

structure UserSettingsUpdate extends UserSettings where
  graceBounds : 0 ≤ offlineGraceS ∧ offlineGraceS ≤ 7 * 86400
  capBounds : 0 ≤ offlineCapS ∧ offlineCapS ≤ 7 * 86400

structure UserSettingsForm where
  gatedWeekdays : List Weekday
  accountingMode : String := "wallclock"
  offlinePolicy : String := "capped"
  offlineGraceMin : Int := 15
  offlineCapMin : Int := 30
  graceBounds : 0 ≤ offlineGraceMin ∧ offlineGraceMin ≤ 10080
  capBounds : 0 ≤ offlineCapMin ∧ offlineCapMin ≤ 10080

namespace UserRow

def settings (row : UserRow) : UserSettings where
  gatedWeekdays := row.gatedWeekdaysJson
  accountingMode := row.accountingMode
  offlinePolicy := row.offlinePolicy
  offlineGraceS := row.offlineGraceS
  offlineCapS := row.offlineCapS

def withSettings (row : UserRow) (settings : UserSettings) : UserRow :=
  { row with
    gatedWeekdaysJson := settings.gatedWeekdays
    accountingMode := settings.accountingMode
    offlinePolicy := settings.offlinePolicy
    offlineGraceS := settings.offlineGraceS
    offlineCapS := settings.offlineCapS }

end UserRow

/-- The values `ck_users_accounting_mode` lets in. -/
def AccountingMode.ofValue? (text : String) : Option AccountingMode :=
  if text = "wallclock" then some .wallclock else if text = "parallel" then some .parallel else none

def OfflinePolicy.ofValue? (text : String) : Option OfflinePolicy :=
  if text = "open" then some .open
  else if text = "capped" then some .capped
  else if text = "closed" then some .closed
  else none

/-- `date.fromisoformat`. Nobody catches its ValueError. -/
def dayOf (text : String) : Except Nat Date :=
  match IsoFormat.readDate text.toList with
  | none => .error 500
  | some day => .ok day

def grantDayOf (today : Date) : Option String → Except Nat Date
  | none => .ok today
  | some text => if text = "" then .ok today else dayOf text

def DayHoursMode.text : DayHoursMode → String
  | .unrestricted => "unrestricted"
  | .window _ => "window"

abbrev Handled := Except Nat (HubTables × Option AuditChange)

namespace HubTables

variable (tables : HubTables)

def getUserOr404 (username : String) : Except Nat UserRow :=
  match tables.users.get? username with
  | none => .error 404
  | some row => .ok row

def setRow (username : String) (row : UserRow) : HubTables := { tables with users := tables.users.set username row }

/-- The upsert, under `ck_day_overrides_limit_seconds` and the width of the `reason` column. -/
def setDayOverride (userId : UserId) (day : Date) (limitSeconds : Int) (reason : String) : Except Nat HubTables :=
  if (0 ≤ limitSeconds ∧ limitSeconds ≤ 86400) ∧ reason.length ≤ 255 then
    .ok { tables with dayOverrides := tables.dayOverrides.set (userId, day) limitSeconds }
  else .error 500

def clearDayOverride (userId : UserId) (day : Date) : Option HubTables :=
  (tables.dayOverrides.get? (userId, day)).map fun _ =>
    { tables with dayOverrides := tables.dayOverrides.erase (userId, day) }

def setDayHourOverrideRow (userId : UserId) (day : Date) (intervals : List AllowedHourInterval) (reason : String) :
    Except Nat HubTables :=
  if intervals ≠ [] ∧ reason.length ≤ 255 then
    .ok { tables with dayHourOverrides := tables.dayHourOverrides.set (userId, day) intervals }
  else .error 500

def clearDayHourOverrideRow (userId : UserId) (day : Date) : Option HubTables :=
  (tables.dayHourOverrides.get? (userId, day)).map fun _ =>
    { tables with dayHourOverrides := tables.dayHourOverrides.erase (userId, day) }

def releaseGate (userId : UserId) (day : Date) : HubTables :=
  if tables.isGateReleased userId day then tables
  else { tables with gateReleases := tables.gateReleases ++ [(userId, day)] }

def unreleaseGate (userId : UserId) (day : Date) : Option HubTables :=
  if tables.isGateReleased userId day then
    some { tables with gateReleases := tables.gateReleases.filter fun release => release ≠ (userId, day) }
  else none

def addGrant (userId : UserId) (day : Date) (seconds : Int) : HubTables :=
  { tables with grants := tables.grants ++ [{ userId, day, seconds }] }

/-- What the foreign keys take with a `users` row. A row of `policies` that nobody points at any more is left. -/
def deleteUser (userId : UserId) : HubTables :=
  { tables with
    users := tables.users.erase userId
    aliases := tables.aliases.filterKeys fun key =>
      (tables.aliases.get? key).all fun userAlias => userAlias.userId ≠ userId
    usageCounters := tables.usageCounters.filterKeys fun key => key.userId ≠ userId
    activityIntervals := tables.activityIntervals.filter fun row => row.userId ≠ userId
    grants := tables.grants.filter fun grant => grant.userId ≠ userId
    dayOverrides := tables.dayOverrides.filterKeys fun key => key.1 ≠ userId
    gateReleases := tables.gateReleases.filter fun release => release.1 ≠ userId
    dayHourOverrides := tables.dayHourOverrides.filterKeys fun key => key.1 ≠ userId }

def provisionUser (username : String) (policyId : PolicyId) (seed : Policy) : HubTables :=
  let row := (tables.users.get? username).getD { displayName := username }
  match tables.currentPolicy row with
  | some _ => tables.setRow username row
  | none =>
    { tables.setRow username { row with currentPolicyId := some policyId } with
      policies := tables.policies.set policyId seed }

section Requests

variable (today : Date) (minutesText : Int → String) (username : String)

def createGrant (body : GrantCreate) : Handled := do
  let _ ← tables.getUserOr404 username
  let grantDay ← grantDayOf today body.day
  return (tables.addGrant username grantDay body.seconds,
    some (.grantCreate body.seconds grantDay.isoformat body.reason))

/-- Unlike its sibling, no error for a user it does not know. -/
def grantFromUi (seconds : Int) (day : String) : Handled :=
  match tables.users.get? username with
  | none => .ok (tables, none)
  | some _ => do
    let grantDay ← grantDayOf today (some day)
    let minutes := minutesText seconds
    let reason :=
      if grantDay ≠ today then minutes ++ " min (" ++ grantDay.isoformat ++ ", UI)" else minutes ++ " min (UI)"
    return (tables.addGrant username grantDay seconds, some (.grantCreate seconds grantDay.isoformat reason))

def updateUserPolicy (update : PolicyUpdate) (policyId : PolicyId) : Handled := do
  let row ← tables.getUserOr404 username
  let before := tables.currentPolicy row
  let policy := updatePolicy before update
  let later := { tables.setRow username { row with currentPolicyId := some policyId } with
    policies := tables.policies.set policyId policy }
  return (later, some (.policyUpdate (before.map policyToPayload) (policyToPayload policy)))

/-- A user without a policy gets one here, once the form has been read. -/
def updatePolicyUi (form : Form) (seedId policyId : PolicyId) : Handled := do
  let _ ← tables.getUserOr404 username
  let update ← (parsePolicyForm form).mapError fun error => error.httpStatus?.getD 500
  (tables.provisionUser username seedId createInitialPolicy).updateUserPolicy username update policyId

def overrideTo (day : String) (limitSeconds : Int) (reason : String) : Handled := do
  let _ ← tables.getUserOr404 username
  let overrideDay ← dayOf day
  let later ← tables.setDayOverride username overrideDay limitSeconds reason
  return (later, some (.overrideSet day limitSeconds reason))

def setUserDayOverride (body : DayOverrideCreate) : Handled :=
  tables.overrideTo username body.day body.limitSeconds body.reason

def setDayOverrideUi (form : DayOverrideForm) : Handled :=
  tables.overrideTo username form.day (if form.mode = "none" then 0 else form.limitH * 3600 + form.limitM * 60)
    form.reason

def cleared (day : String) (clear : UserId → Date → Option HubTables) (change : AuditChange) : Handled := do
  let _ ← tables.getUserOr404 username
  let clearDay ← dayOf day
  return match clear username clearDay with
    | none => (tables, none)
    | some later => (later, some change)

def clearUserDayOverride (day : String) : Handled :=
  tables.cleared username day tables.clearDayOverride (.overrideClear day)

def clearDayOverrideUi (day : String) : Handled :=
  tables.cleared username day tables.clearDayOverride (.overrideClear day)

def clearUserDayHourOverride (day : String) : Handled :=
  tables.cleared username day tables.clearDayHourOverrideRow (.dayHoursClear day)

def clearDayHourOverrideUi (day : String) : Handled :=
  tables.cleared username day tables.clearDayHourOverrideRow (.dayHoursClear day)

def unreleaseUserGate (day : String) : Handled :=
  tables.cleared username day tables.unreleaseGate (.gateUnrelease day)

def unreleaseGateUi : Handled := do
  let _ ← tables.getUserOr404 username
  return match tables.unreleaseGate username today with
    | none => (tables, none)
    | some later => (later, some (.gateUnrelease today.isoformat))

def releaseUserGate (body : GateReleaseCreate) : Handled := do
  let _ ← tables.getUserOr404 username
  let day ← dayOf body.day
  return (tables.releaseGate username day, some (.gateRelease body.day (some body.note)))

def releaseGateUi : Handled := do
  let _ ← tables.getUserOr404 username
  return (tables.releaseGate username today, some (.gateRelease today.isoformat none))

def loginDays (policy : Option Policy) : List Weekday :=
  match policy with
  | none => weekdayTokens
  | some policy => if policy.allowedWeekdaysJson = [] then weekdayTokens else policy.allowedWeekdaysJson

def checkLoginDay (policy : Option Policy) (day : Date) : Except Nat Unit :=
  if day.isoweekday ∈ loginDays policy then .ok () else .error 422

def setUserDayHourOverride (body : DayHourOverrideCreate) : Handled := do
  let row ← tables.getUserOr404 username
  let day ← dayOf body.day
  checkLoginDay (tables.currentPolicy row) day
  let later ← tables.setDayHourOverrideRow username day (dayHourOverrideIntervals body.mode) body.reason
  return (later, some (.dayHoursSet body.day body.mode.text body.reason))

def formIntervals (form : DayHoursForm) : Except FormError (List AllowedHourInterval) :=
  if form.mode = "any" then wireIntervals (intervalsToHours unrestricted)
  else do
    let fromMin ← parseTimeStr form.fromTime "start time"
    let toMin ← if form.toMidnight then .ok (24 * 60) else parseTimeStr form.toTime "end time"
    let interval ← (TimeInterval.ofBounds fromMin toMin).mapError (.invalidHours "")
    (validateIntervals [interval]).mapError fun conflict => .invalidHours "" conflict.message
    wireIntervals (intervalsToHours [interval])

/-- `get_or_create_policy` comes first, so a user without a policy gets one here. -/
def setDayHourOverrideUi (form : DayHoursForm) (policyId : PolicyId) : Handled := do
  let _ ← tables.getUserOr404 username
  let day ← dayOf form.day
  let tables := tables.provisionUser username policyId createInitialPolicy
  let row ← tables.getUserOr404 username
  checkLoginDay (tables.currentPolicy row) day
  let intervals ← (formIntervals form).mapError fun _ => 422
  let later ← tables.setDayHourOverrideRow username day intervals form.reason
  return (later, some (.dayHoursSet form.day form.mode form.reason))

def saveSettings (row : UserRow) (settings : UserSettings) : HubTables × Option AuditChange :=
  (tables.setRow username (row.withSettings settings), some (.userSettingsUpdate row.settings settings))

def updateUserSettings (body : UserSettingsUpdate) : Handled := do
  let row ← tables.getUserOr404 username
  return tables.saveSettings username row body.toUserSettings

/-- The form's two enumerations are checked by the table only. -/
def updateUserSettingsUi (form : UserSettingsForm) : Handled := do
  let row ← tables.getUserOr404 username
  match AccountingMode.ofValue? form.accountingMode, OfflinePolicy.ofValue? form.offlinePolicy with
  | some accountingMode, some offlinePolicy =>
    return tables.saveSettings username row
      { gatedWeekdays := form.gatedWeekdays
        accountingMode
        offlinePolicy
        offlineGraceS := form.offlineGraceMin * 60
        offlineCapS := form.offlineCapMin * 60 }
  | _, _ => .error 500

def renameUserUi (displayName : String) : Handled := do
  let row ← tables.getUserOr404 username
  return (tables.setRow username { row with displayName }, some (.userRename row.displayName displayName))

def deleteUserUi : Handled := do
  let row ← tables.getUserOr404 username
  return (tables.deleteUser username, some (.userDelete row.displayName))

end Requests

end HubTables

inductive AdminRequest
  | createGrant (body : GrantCreate)
  | grantFromUi (seconds : Int) (day : String) (secondsBounds : -86400 ≤ seconds ∧ seconds ≤ 86400)
  | updateUserPolicy (update : PolicyUpdate) (policyId : PolicyId)
  | updatePolicyUi (form : Form) (seedId policyId : PolicyId)
  | setUserDayOverride (body : DayOverrideCreate)
  | setDayOverrideUi (form : DayOverrideForm)
  | clearUserDayOverride (day : String)
  | clearDayOverrideUi (day : String)
  | setUserDayHourOverride (body : DayHourOverrideCreate)
  | setDayHourOverrideUi (form : DayHoursForm) (policyId : PolicyId)
  | clearUserDayHourOverride (day : String)
  | clearDayHourOverrideUi (day : String)
  | releaseUserGate (body : GateReleaseCreate)
  | releaseGateUi
  | unreleaseUserGate (day : String)
  | unreleaseGateUi
  | updateUserSettings (body : UserSettingsUpdate)
  | updateUserSettingsUi (form : UserSettingsForm)
  | renameUserUi (displayName : String) (nameLength : 1 ≤ displayName.length ∧ displayName.length ≤ 128)
  | deleteUserUi

structure AdminArrival where
  actorId : AdminId
  username : String
  today : Date
  request : AdminRequest
  ip : Option String := none
  representable : today.Representable

def AdminRequest.handle (tables : HubTables) (minutesText : Int → String) (today : Date) (username : String) :
    AdminRequest → Handled
  | createGrant body => tables.createGrant today username body
  | grantFromUi seconds day _ => tables.grantFromUi today minutesText username seconds day
  | updateUserPolicy update policyId => tables.updateUserPolicy username update policyId
  | updatePolicyUi form seedId policyId => tables.updatePolicyUi username form seedId policyId
  | setUserDayOverride body => tables.setUserDayOverride username body
  | setDayOverrideUi form => tables.setDayOverrideUi username form
  | clearUserDayOverride day => tables.clearUserDayOverride username day
  | clearDayOverrideUi day => tables.clearDayOverrideUi username day
  | setUserDayHourOverride body => tables.setUserDayHourOverride username body
  | setDayHourOverrideUi form policyId => tables.setDayHourOverrideUi username form policyId
  | clearUserDayHourOverride day => tables.clearUserDayHourOverride username day
  | clearDayHourOverrideUi day => tables.clearDayHourOverrideUi username day
  | releaseUserGate body => tables.releaseUserGate username body
  | releaseGateUi => tables.releaseGateUi today username
  | unreleaseUserGate day => tables.unreleaseUserGate username day
  | unreleaseGateUi => tables.unreleaseGateUi today username
  | updateUserSettings body => tables.updateUserSettings username body
  | updateUserSettingsUi form => tables.updateUserSettingsUi username form
  | renameUserUi displayName _ => tables.renameUserUi username displayName
  | deleteUserUi => tables.deleteUserUi username

structure AuditedHub where
  tables : HubTables := {}
  log : List AuditEvent := []

inductive HubTurn
  | admin (arrival : AdminArrival)
  | provision (username : String) (policyId : PolicyId) (seed : Policy)
  | report (devices : Dict DeviceId DeviceRow) (aliases : Dict (DeviceId × String) UserAlias)
      (usageCounters : Dict CounterKey UsageCounterRow) (activityIntervals : List ActivityInterval)

/-- A request commits its change and its audit row together, and a refused one neither. -/
def AuditedHub.step (minutesText : Int → String) (hub : AuditedHub) : HubTurn → AuditedHub
  | .provision username policyId seed => { hub with tables := hub.tables.provisionUser username policyId seed }
  | .report devices aliases usageCounters activityIntervals =>
    { hub with tables := { hub.tables with devices, aliases, usageCounters, activityIntervals } }
  | .admin arrival =>
    match arrival.request.handle hub.tables minutesText arrival.today arrival.username with
    | .error _ => hub
    | .ok (tables, none) => { hub with tables }
    | .ok (tables, some change) =>
      { tables
        log := hub.log ++
          [{ actorId := arrival.actorId, targetId := arrival.username, change, ip := arrival.ip }] }

end TimekprModel
