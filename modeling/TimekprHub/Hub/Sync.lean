import TimekprHub.Hub.Aggregate

namespace TimekprModel

structure Settings where
  hubTz : String := "UTC"
  tz : ZoneInfo := utc
  defaultNextPollMs : Int := 20000

def getOrCreatePolicy (store : HubStore) (userId : UserId) : HubStore × Policy :=
  let user := store.user userId
  match user.currentPolicy with
  | some policy => (store, policy)
  | none =>
    let policy := createInitialPolicy
    (store.setUser userId { user with currentPolicy := some policy }, policy)

/-- A local username new to the device joins the user of that canonical name, who is created if there is
    none. -/
def provisionUserAlias (store : HubStore) (deviceId : DeviceId) (localUsername : String) :
    HubStore × Policy :=
  let store := match store.users.get? localUsername with
    | some _ => store
    | none => store.setUser localUsername {}
  let (store, policy) := getOrCreatePolicy store localUsername
  ({ store with aliases := store.aliases.set (deviceId, localUsername) { userId := localUsername } }, policy)

def resolveUser (store : HubStore) (deviceId : DeviceId) (username : String) :
    HubStore × UserId × Policy :=
  match store.aliases.get? (deviceId, username) with
  | none =>
    let (store, policy) := provisionUserAlias store deviceId username
    (store, username, policy)
  | some userAlias =>
    let (store, policy) := getOrCreatePolicy store userAlias.userId
    (store, userAlias.userId, policy)

def recordPushError (store : HubStore) (deviceId : DeviceId) (userId : UserId) (req : SyncUserRequest)
    (now : Instant) : HubStore :=
  { store with
    aliases := store.aliases.set (deviceId, req.username)
      { userId
        policyPushError := req.policyPushError
        policyPushErrorAt := req.policyPushError.bind fun error => if error = "" then none else some now } }

def spanRows (deviceId : DeviceId) (userId : UserId) (day : Date) (spans : List ActiveSpan) :
    List ActivityInterval :=
  (spans.filter fun span => span.start < span.stop).map fun span =>
    { userId, deviceId, day, start := span.start, stop := span.stop, windowEndTs := span.stop }

def recordUsage (store : HubStore) (deviceId : DeviceId) (userId : UserId) (day : Date)
    (req : SyncUserRequest) : HubStore :=
  let store := store.upsertUsageCounter ⟨userId, deviceId, day⟩ req.cumulativeSpentS
    req.observed.activityState
  (spanRows deviceId userId day req.activeSpans).foldl HubStore.insertActivityInterval store

def userResponse (digest : PolicyPayload → String) (store : HubStore) (device : Device) (userId : UserId)
    (policy : Policy) (day : Date) (req : SyncUserRequest) : SyncUserResponse :=
  let user := store.user userId
  let window := (daysInIsoWeek day).headD day
  let (monthStart, monthEnd) := monthBounds day
  let (globalSpent, weekSpent, monthSpent) := match user.accountingMode with
    | .wallclock => (store.globalSpentWallclock userId day,
        store.globalSpentWallclockWindow userId window (window + 6),
        store.globalSpentWallclockWindow userId monthStart monthEnd)
    | .parallel => (store.globalSpentParallel userId day,
        store.globalSpentParallelWindow userId window (window + 6),
        store.globalSpentParallelWindow userId monthStart monthEnd)
  let (policyPayload, revision) := policyReply digest policy (user.dayHourOverrides day) day
    req.policyRevisionApplied req.policyVersionApplied
  { username := req.username
    globalSpentS := globalSpent
    effectiveLimitTodayS := effectiveDailyLimit policy user day
    effectiveWeekLimitS := max 0 (policy.weeklyLimitS - weekSpent)
    effectiveMonthLimitS := max 0 (policy.monthlyLimitS - monthSpent)
    enforcement := some device.enforcement
    policyVersion := policy.version
    policyRevision := some revision
    policy := policyPayload
    offlinePolicy := some user.offlinePolicy
    offlineGraceS := some user.offlineGraceS
    offlineCapS := some user.offlineCapS }

def syncOneUser (digest : PolicyPayload → String) (deviceId : DeviceId) (device : Device) (day : Date)
    (now : Instant) (store : HubStore) (req : SyncUserRequest) : HubStore × SyncUserResponse :=
  let (store, userId, policy) := resolveUser store deviceId req.username
  let store := recordPushError store deviceId userId req now
  let store := recordUsage store deviceId userId day req
  (store, userResponse digest store device userId policy day req)

/-- Milliseconds, a half going to the even neighbour as Python's `round` has it. -/
def roundedMs (microseconds : Int) : Int :=
  let quotient := microseconds / 1000
  let rest := microseconds % 1000
  if rest < 500 ∨ rest = 500 ∧ quotient % 2 = 0 then quotient else quotient + 1

/-- A request without users is a connectivity check and leaves the device row alone. -/
def recordCheckIn (device : Device) (req : SyncRequest) (now : Instant) : Device :=
  if req.users = [] then device
  else
    { device with
      lastSeenAt := some now
      lastSyncAt := some now
      agentVersion := some req.agentVersion
      clockSkewMs := some (roundedMs (now - req.agentTime)) }

def syncUsers (digest : PolicyPayload → String) (deviceId : DeviceId) (device : Device) (day : Date)
    (now : Instant) (store : HubStore) : List SyncUserRequest → HubStore × List SyncUserResponse
  | [] => (store, [])
  | req :: rest =>
    let (store, response) := syncOneUser digest deviceId device day now store req
    let (store, responses) := syncUsers digest deviceId device day now store rest
    (store, response :: responses)

/-- `POST /sync` of a device with a valid token, committed as a whole; `none` is a 401 or 403. -/
def sync (settings : Settings) (digest : PolicyPayload → String) (store : HubStore) (deviceId : DeviceId)
    (req : SyncRequest) (now : Instant) : Option (HubStore × SyncResponse) :=
  match store.devices.get? deviceId with
  | none => none
  | some device =>
    if device.status = .revoked then none
    else
      let stamp := canonicalStamp now settings.tz
      let store :=
        { store with devices := store.devices.set deviceId (recordCheckIn device req now) }
      let (store, users) := syncUsers digest deviceId device stamp.day now store req.users
      some (store,
        { hubTime := now
          hubTz := settings.hubTz
          day := stamp.dayStr
          nextPollMs := some settings.defaultNextPollMs
          users })

end TimekprModel
