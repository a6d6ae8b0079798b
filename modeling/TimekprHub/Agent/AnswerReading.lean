import TimekprHub.Agent.Tick
import TimekprHub.Library.PyJson

namespace TimekprModel

variable {F : Type} [PyFloat F]

structure PlanNum (F : Type) where
  op : Op
  seconds : PyNum F
  newAppliedOffsetS : PyNum F

/-- `plan` on the numbers of an answer, which need not be ints. -/
def planNum (observed : Observation) (limitTodayS globalSpentS : PyNum F) (forceAbsolute : Bool)
    (cfg : ConvergenceConfig := {}) : Except PyException (PlanNum F) := do
  let observedOffset := observed.balanceS - observed.spentLocalS
  let reached ← globalSpentS.add (.int observed.limitTodayS)
  let targetBalance ← reached.sub limitTodayS
  let correction ← targetBalance.sub (.int observed.balanceS)
  if forceAbsolute || observed.limitTodayS < observed.balanceS ||
      correction.abs.above cfg.hardResetThresholdS then
    let seconds ← limitTodayS.sub globalSpentS
    let offset ← targetBalance.sub (.int observed.spentLocalS)
    return { op := .set, seconds, newAppliedOffsetS := offset }
  else if correction.above cfg.deadbandS then
    let offset ← PyNum.add (.int observedOffset) correction
    return { op := .subtract, seconds := correction, newAppliedOffsetS := offset }
  else if correction.below (-cfg.deadbandS) then
    let offset ← PyNum.add (.int observedOffset) correction
    return { op := .add, seconds := correction.neg, newAppliedOffsetS := offset }
  else return { op := .noop, seconds := .int 0, newAppliedOffsetS := .int observedOffset }

/-- The convergence of one user's entry; what timekpr answers to the write does not matter here. -/
def convergeOn (obs : UserObservation) (forceAbsolute : Bool) (limit spent : PyJson F) :
    Except PyException (PlanNum F) := do
  let globalSpentS ← spent.number
  let limitTodayS ← limit.number
  planNum { balanceS := obs.balanceS, spentLocalS := obs.spentDayS, limitTodayS := obs.limitTodayS }
    limitTodayS globalSpentS forceAbsolute cfg

def allWeekdaysJson : PyJson F := .list (allWeekdays.map fun day => .str day.token)

/-- `[daily_limits[int(day) - 1] for day in allowed_weekdays]`, where an index may count from the end. -/
def projectDailyLimits (dailyLimits : List Int) (allowedWeekdays : PyJson F) :
    Except PyException (List Int) := do
  let days ← allowedWeekdays.iter
  days.mapM fun day => do
    let number ← day.toInt
    let index : Int := if number - 1 < 0 then number - 1 + dailyLimits.length else number - 1
    if 0 ≤ index then
      match dailyLimits[index.toNat]? with
      | some limit => .ok limit
      | none => .error .indexError
    else .error .indexError

def readHourRecord (interval : PyJson F) : Except PyException HourRecord := do
  let hour ← interval.getItem "hour"
  let hour ← hour.toInt
  let startMin ← interval.getItem "start_min"
  let startMin ← startMin.toInt
  let endMin ← interval.getItem "end_min"
  let endMin ← endMin.toInt
  let unaccounted ← interval.get "unaccounted"
  return { hour, startMin, endMin, unaccounted := unaccounted.any PyJson.truthy }

def readAllowedHours (allowedHours : PyJson F) : Except PyException (List (String × HourDict)) := do
  let days ← allowedHours.dictItems
  days.mapM fun entry => do
    let intervals ← entry.2.iter
    let records ← intervals.mapM readHourRecord
    return (entry.1, hoursToDbusPayload records)

def readActivity (activity : PyJson F) : Except PyException (PyJson F × PyJson F) := do
  let mask ← activity.getItem "mask"
  let description ← activity.get "description"
  return (mask, description.getD (.str ""))

def sevenZeros : PyJson F := .list (List.replicate 7 (.int 0))

def readPlayTime (playtime : PyJson F) : Except PyException Unit :=
  if playtime.truthy then do
    let _ ← playtime.get "enabled"
    let weekdays ← playtime.getOr "allowed_weekdays" allWeekdaysJson
    let limits ← playtime.getOr "daily_limits_s" sevenZeros
    let limits ← limits.iter
    let limits ← limits.mapM PyJson.toInt
    let _ ← projectDailyLimits limits weekdays
    let activities ← playtime.getOr "activities" (.list [])
    let activities ← activities.iter
    let _ ← activities.mapM readActivity
    return ()
  else .ok ()

/-- `_apply_policy_push` as far as it reads the payload. `accepted` says whether timekpr took every setter
    that was needed; the result is the push's `ok`. -/
def readPolicy (policy : PyJson F) (accepted : Bool) : Except PyException Bool := do
  let limits ← policy.getItem "daily_limits_s"
  let limits ← limits.iter
  let dailyLimits ← limits.mapM PyJson.toInt
  if dailyLimits.length = 7 then
    let allowedWeekdays ← policy.getOr "allowed_weekdays" allWeekdaysJson
    let _ ← projectDailyLimits dailyLimits allowedWeekdays
    let weekly ← policy.getItem "weekly_limit_s"
    let _ ← weekly.toInt
    let monthly ← policy.getItem "monthly_limit_s"
    let _ ← monthly.toInt
    let allowedHours ← policy.getOr "allowed_hours" (.dict [])
    let _ ← readAllowedHours allowedHours
    let playtime ← policy.getOr "playtime" (.dict [])
    readPlayTime playtime
    return accepted
  else return false

def readPush (policy : Option (PyJson F)) (accepted : Bool) (entry : PyJson F) : Except PyException Unit :=
  match policy.filter PyJson.truthy with
  | some policy => do
    let applied ← readPolicy policy accepted
    if applied then
      let _ ← entry.getItem "policy_version"
      return ()
    else return ()
  | none => .ok ()

/-- The loop's body for a user with an entry in the answer, up to what it stores. -/
def readEntry (observed : Observed) (accepted : Bool) (entry : PyJson F) : Except PyException Unit := do
  let limit ← entry.getItem "effective_limit_today_s"
  let spent ← entry.getItem "global_spent_s"
  let enforcement ← entry.get "enforcement"
  if enforcement.any (PyJson.isStr "observe") then
    let _ ← convergeOn observed.obs observed.forceAbsolute limit spent
    return ()
  else
    let policy ← entry.get "policy"
    readPush policy accepted entry
    let _ ← convergeOn observed.obs observed.forceAbsolute limit spent
    return ()

def readUsername (user : PyJson F) : Except PyException (PyJson F × PyJson F) := do
  let username ← user.getItem "username"
  if username.hashable then .ok (username, user) else .error .typeError

/-- `{u["username"]: u for u in response["users"]}`, as its entries. -/
def readUsers (data : PyJson F) : Except PyException (List (PyJson F × PyJson F)) := do
  let users ← data.getItem "users"
  let users ← users.iter
  users.mapM readUsername

def entryOf (users : List (PyJson F × PyJson F)) (username : String) : Option (PyJson F) :=
  (users.reverse.find? fun user => user.1.isStr username).map Prod.snd

def Numeral (value : PyJson F) : Prop := ∃ number, value.toInt = .ok number

/-- A field of a dict, with Python's `or` for its default. -/
def fieldOr (entries : List (String × PyJson F)) (key : String) (default : PyJson F) : PyJson F :=
  ((List.lookup key entries).filter PyJson.truthy).getD default

def DaysWithin (count : Nat) (days : PyJson F) : Prop :=
  ∃ items, days.iter = .ok items ∧
    ∀ day ∈ items, ∃ number, day.toInt = .ok number ∧ 1 - (count : Int) ≤ number ∧ number ≤ count

def HourRecordReadable (interval : PyJson F) : Prop :=
  ∃ entries, interval = .dict entries ∧ ∀ key ∈ ["hour", "start_min", "end_min"],
    ∃ value, List.lookup key entries = some value ∧ Numeral value

def AllowedHoursReadable (allowedHours : PyJson F) : Prop :=
  ∃ entries, allowedHours = .dict entries ∧ ∀ entry ∈ entries,
    ∃ intervals, entry.2.iter = .ok intervals ∧ ∀ interval ∈ intervals, HourRecordReadable interval

def PlayTimeReadable (playtime : PyJson F) : Prop :=
  ∃ entries, playtime = .dict entries ∧ (entries ≠ [] →
    (∃ limits, (fieldOr entries "daily_limits_s" sevenZeros).iter = .ok limits ∧
      (∀ limit ∈ limits, Numeral limit) ∧
      DaysWithin limits.length (fieldOr entries "allowed_weekdays" allWeekdaysJson)) ∧
    ∃ activities, (fieldOr entries "activities" (.list [])).iter = .ok activities ∧
      ∀ activity ∈ activities, ∃ fields, activity = .dict fields ∧
        (List.lookup "mask" fields).isSome = true)

structure WeekReadable (entries : List (String × PyJson F)) : Prop where
  weekdays : DaysWithin 7 (fieldOr entries "allowed_weekdays" allWeekdaysJson)
  weekly : ∃ value, List.lookup "weekly_limit_s" entries = some value ∧ Numeral value
  monthly : ∃ value, List.lookup "monthly_limit_s" entries = some value ∧ Numeral value
  allowedHours : AllowedHoursReadable (fieldOr entries "allowed_hours" (.dict []))
  playtime : PlayTimeReadable (fieldOr entries "playtime" (.dict []))

/-- A payload the push can read, with how many daily limits it has: any other number than seven is
    rejected before the rest is read. -/
def PolicyReadable (policy : PyJson F) (count : Nat) : Prop :=
  ∃ entries limits items, policy = .dict entries ∧ List.lookup "daily_limits_s" entries = some limits ∧
    limits.iter = .ok items ∧ (∀ limit ∈ items, Numeral limit) ∧ items.length = count ∧
    (count = 7 → WeekReadable entries)

def FiguresReadable (observed : Observed) (limit spent : PyJson F) : Prop :=
  ∃ globalSpentS limitTodayS, spent.number = .ok globalSpentS ∧ limit.number = .ok limitTodayS ∧
    Fallible.Succeeds (planNum
      { balanceS := observed.obs.balanceS
        spentLocalS := observed.obs.spentDayS
        limitTodayS := observed.obs.limitTodayS }
      limitTodayS globalSpentS observed.forceAbsolute cfg)

structure EntryReadable (observed : Observed) (accepted : Bool) (entries : List (String × PyJson F)) :
    Prop where
  figures : ∃ limit spent, List.lookup "effective_limit_today_s" entries = some limit ∧
    List.lookup "global_spent_s" entries = some spent ∧ FiguresReadable observed limit spent
  policy : ((List.lookup "enforcement" entries).any (PyJson.isStr "observe")) = false →
    ∀ policy, (List.lookup "policy" entries).filter PyJson.truthy = some policy →
      ∃ count, PolicyReadable policy count ∧
        (accepted = true → count = 7 → (List.lookup "policy_version" entries).isSome = true)

def UsersListed (entries : List (String × PyJson F)) (users : List (PyJson F × PyJson F)) : Prop :=
  ∃ listed items, List.lookup "users" entries = some listed ∧ listed.iter = .ok items ∧
    List.Forall₂ (fun item user => ∃ fields, item = .dict fields ∧
      List.lookup "username" fields = some user.1 ∧ user.1.hashable = true ∧ user.2 = item) items users

end TimekprModel

namespace TimekprProof

open TimekprModel Fallible

variable {F : Type}

@[simp] theorem getItem_dict (key : String) (entries : List (String × PyJson F)) (found : PyJson F) :
    (PyJson.dict entries).getItem key = .ok found ↔ List.lookup key entries = some found := by
  rw [PyJson.getItem]
  cases List.lookup key entries with
  | none => exact iff_of_false nofun nofun
  | some value => rw [Except.ok.injEq, Option.some.injEq]

theorem getItem_ok {key : String} {value found : PyJson F} :
    value.getItem key = .ok found ↔
      ∃ entries, value = .dict entries ∧ List.lookup key entries = some found := by
  cases value with
  | dict entries =>
    rw [getItem_dict]
    constructor
    · intro held
      exact ⟨entries, rfl, held⟩
    · rintro ⟨_, same, held⟩
      cases same
      exact held
  | _ =>
    constructor
    · intro read
      cases read
    · rintro ⟨_, same, _⟩
      cases same

@[simp] theorem get_dict (key : String) (entries : List (String × PyJson F)) :
    (PyJson.dict entries).get key = .ok (List.lookup key entries) := rfl

theorem get_ok {key : String} {value : PyJson F} {found : Option (PyJson F)}
    (read : value.get key = .ok found) :
    ∃ entries, value = .dict entries ∧ List.lookup key entries = found := by
  cases value with
  | dict entries => exact ⟨entries, rfl, Except.ok.inj read⟩
  | _ => cases read

theorem dictItems_ok {value : PyJson F} {entries : List (String × PyJson F)} :
    value.dictItems = .ok entries ↔ value = .dict entries := by
  cases value <;> simp [PyJson.dictItems]

theorem readActivity_succeeds {activity : PyJson F} :
    Succeeds (readActivity activity) ↔
      ∃ fields, activity = .dict fields ∧ (List.lookup "mask" fields).isSome = true := by
  unfold readActivity
  rw [succeeds_bind]
  constructor
  · rintro ⟨mask, held, _⟩
    obtain ⟨fields, rfl, found⟩ := getItem_ok.mp held
    exact ⟨fields, rfl, Option.isSome_of_eq_some found⟩
  · rintro ⟨fields, rfl, present⟩
    obtain ⟨mask, found⟩ := Option.isSome_iff_exists.mp present
    exact ⟨mask, (getItem_dict ..).mpr found, succeeds_bind.mpr ⟨_, get_dict .., succeeds_pure _⟩⟩

theorem readUsername_ok {item : PyJson F} {user : PyJson F × PyJson F} :
    readUsername item = .ok user ↔ ∃ fields, item = .dict fields ∧
      List.lookup "username" fields = some user.1 ∧ user.1.hashable = true ∧ user.2 = item := by
  unfold readUsername
  constructor
  · intro read
    obtain ⟨username, usernameRead, read⟩ := bind_ok read
    obtain ⟨fields, rfl, held⟩ := getItem_ok.mp usernameRead
    split at read
    · rename_i hashable
      cases read
      exact ⟨fields, rfl, held, hashable, rfl⟩
    · cases read
  · obtain ⟨username, entry⟩ := user
    rintro ⟨fields, rfl, held, hashable, rfl⟩
    exact bind_of_ok ((getItem_dict ..).mpr held) (if_pos hashable)

theorem readUsers_ok {entries : List (String × PyJson F)} {users : List (PyJson F × PyJson F)} :
    readUsers (.dict entries) = .ok users ↔ UsersListed entries users := by
  unfold readUsers
  constructor
  · intro read
    obtain ⟨listed, listedRead, read⟩ := bind_ok read
    obtain ⟨items, iterated, read⟩ := bind_ok read
    have named := (mapM_ok read).imp fun _ _ => readUsername_ok.mp
    exact ⟨listed, items, (getItem_dict ..).mp listedRead, iterated, named⟩
  · rintro ⟨listed, items, held, iterated, named⟩
    refine bind_of_ok ((getItem_dict ..).mpr held) ?_
    refine bind_of_ok iterated ?_
    exact mapM_of_ok (named.imp fun _ _ => readUsername_ok.mpr)

variable [PyFloat F]

@[simp] theorem getOr_dict (key : String) (default : PyJson F) (entries : List (String × PyJson F)) :
    (PyJson.dict entries).getOr key default = .ok (fieldOr entries key default) := rfl

theorem projectDailyLimits_succeeds {dailyLimits : List Int} {days : PyJson F} :
    Succeeds (projectDailyLimits dailyLimits days) ↔ DaysWithin dailyLimits.length days := by
  unfold projectDailyLimits DaysWithin
  rw [succeeds_bind]
  apply exists_congr
  intro items
  apply and_congr_right
  intro _
  rw [succeeds_mapM]
  apply forall₂_congr
  intro day _
  rw [succeeds_bind]
  apply exists_congr
  intro number
  apply and_congr_right
  intro _
  dsimp only
  generalize shown : (if number - 1 < 0 then number - 1 + (dailyLimits.length : Int) else number - 1) = index
  split
  · rename_i inside
    cases found : dailyLimits[index.toNat]? with
    | none =>
      rw [List.getElem?_eq_none_iff] at found
      simp only [not_succeeds_error, false_iff]
      split at shown <;> omega
    | some limit =>
      obtain ⟨bound, _⟩ := List.getElem?_eq_some_iff.mp found
      simp only [succeeds_ok, true_iff]
      split at shown <;> omega
  · rename_i outside
    simp only [not_succeeds_error, false_iff]
    split at shown <;> omega

theorem readHourRecord_succeeds {interval : PyJson F} :
    Succeeds (readHourRecord interval) ↔ HourRecordReadable interval := by
  unfold readHourRecord HourRecordReadable
  constructor
  · intro succeeds
    obtain ⟨hour, hourIn, succeeds⟩ := succeeds_bind.mp succeeds
    obtain ⟨hourNumber, hourNumeral, succeeds⟩ := succeeds_bind.mp succeeds
    obtain ⟨startMin, startIn, succeeds⟩ := succeeds_bind.mp succeeds
    obtain ⟨startNumber, startNumeral, succeeds⟩ := succeeds_bind.mp succeeds
    obtain ⟨endMin, endIn, succeeds⟩ := succeeds_bind.mp succeeds
    obtain ⟨endNumber, endNumeral, _⟩ := succeeds_bind.mp succeeds
    obtain ⟨entries, rfl, hourHeld⟩ := getItem_ok.mp hourIn
    refine ⟨entries, rfl, ?_⟩
    intro key listed
    simp only [List.mem_cons, List.not_mem_nil, or_false] at listed
    rcases listed with rfl | rfl | rfl
    · exact ⟨hour, hourHeld, hourNumber, hourNumeral⟩
    · exact ⟨startMin, (getItem_dict ..).mp startIn, startNumber, startNumeral⟩
    · exact ⟨endMin, (getItem_dict ..).mp endIn, endNumber, endNumeral⟩
  · rintro ⟨entries, rfl, fields⟩
    obtain ⟨hour, hourHeld, hourNumber, hourNumeral⟩ := fields "hour" (by simp)
    obtain ⟨startMin, startHeld, startNumber, startNumeral⟩ := fields "start_min" (by simp)
    obtain ⟨endMin, endHeld, endNumber, endNumeral⟩ := fields "end_min" (by simp)
    refine succeeds_bind.mpr ⟨hour, (getItem_dict ..).mpr hourHeld, ?_⟩
    refine succeeds_bind.mpr ⟨hourNumber, hourNumeral, ?_⟩
    refine succeeds_bind.mpr ⟨startMin, (getItem_dict ..).mpr startHeld, ?_⟩
    refine succeeds_bind.mpr ⟨startNumber, startNumeral, ?_⟩
    refine succeeds_bind.mpr ⟨endMin, (getItem_dict ..).mpr endHeld, ?_⟩
    refine succeeds_bind.mpr ⟨endNumber, endNumeral, ?_⟩
    exact succeeds_bind.mpr ⟨_, get_dict .., succeeds_pure _⟩

theorem readAllowedHours_succeeds {allowedHours : PyJson F} :
    Succeeds (readAllowedHours allowedHours) ↔ AllowedHoursReadable allowedHours := by
  unfold readAllowedHours AllowedHoursReadable
  rw [succeeds_bind]
  apply exists_congr
  intro entries
  rw [dictItems_ok, succeeds_mapM]
  apply and_congr_right
  intro _
  apply forall₂_congr
  intro entry _
  rw [succeeds_bind]
  apply exists_congr
  intro intervals
  apply and_congr_right
  intro _
  constructor
  · intro succeeds interval listed
    obtain ⟨records, read, _⟩ := succeeds_bind.mp succeeds
    exact readHourRecord_succeeds.mp (succeeds_mapM.mp ⟨records, read⟩ interval listed)
  · intro readable
    obtain ⟨records, read⟩ := succeeds_mapM.mpr fun interval listed =>
      readHourRecord_succeeds.mpr (readable interval listed)
    exact succeeds_bind.mpr ⟨records, read, succeeds_pure _⟩

theorem ints_ok {items : List (PyJson F)} {numbers : List Int} (read : items.mapM PyJson.toInt = .ok numbers) :
    numbers.length = items.length ∧ ∀ item ∈ items, Numeral item :=
  ⟨(mapM_ok read).length_eq.symm, fun item listed => succeeds_mapM.mp ⟨numbers, read⟩ item listed⟩

theorem fieldOr_truthy_or_default (entries : List (String × PyJson F)) (key : String) (default : PyJson F) :
    (fieldOr entries key default).truthy = true ∨ fieldOr entries key default = default := by
  unfold fieldOr
  cases found : (List.lookup key entries).filter PyJson.truthy with
  | none => exact .inr rfl
  | some value => exact .inl (Option.filter_eq_some_iff.mp found).2

theorem projected_succeeds {limits days : PyJson F} {β : Type} {next : Except PyException β} :
    Succeeds (limits.iter >>= fun items => items.mapM PyJson.toInt >>= fun numbers =>
        projectDailyLimits numbers days >>= fun _ => next) ↔
      (∃ items, limits.iter = .ok items ∧ (∀ limit ∈ items, Numeral limit) ∧ DaysWithin items.length days) ∧
        Succeeds next := by
  constructor
  · intro succeeds
    obtain ⟨items, read, succeeds⟩ := succeeds_bind.mp succeeds
    obtain ⟨numbers, converted, succeeds⟩ := succeeds_bind.mp succeeds
    obtain ⟨projected, indexed, later⟩ := succeeds_bind.mp succeeds
    obtain ⟨count, numerals⟩ := ints_ok converted
    have within := projectDailyLimits_succeeds.mp ⟨projected, indexed⟩
    rw [count] at within
    exact ⟨⟨items, read, numerals, within⟩, later⟩
  · rintro ⟨⟨items, read, numerals, within⟩, later⟩
    obtain ⟨numbers, converted⟩ := succeeds_mapM.mpr numerals
    obtain ⟨count, _⟩ := ints_ok converted
    rw [← count] at within
    obtain ⟨projected, indexed⟩ := projectDailyLimits_succeeds.mpr within
    refine succeeds_bind.mpr ⟨items, read, ?_⟩
    refine succeeds_bind.mpr ⟨numbers, converted, ?_⟩
    exact succeeds_bind.mpr ⟨projected, indexed, later⟩

theorem readPlayTime_succeeds {playtime : PyJson F} (given : playtime.truthy = true ∨ playtime = .dict []) :
    Succeeds (readPlayTime playtime) ↔ PlayTimeReadable playtime := by
  rcases given with truthy | rfl
  · unfold readPlayTime
    rw [if_pos truthy]
    constructor
    · intro succeeds
      obtain ⟨enabled, read, succeeds⟩ := succeeds_bind.mp succeeds
      obtain ⟨entries, rfl, _⟩ := get_ok read
      obtain ⟨days, activities⟩ := projected_succeeds.mp succeeds
      obtain ⟨_, given, activities⟩ := succeeds_bind.mp activities
      cases given
      obtain ⟨items, listed, activities⟩ := succeeds_bind.mp activities
      obtain ⟨pairs, taken, _⟩ := succeeds_bind.mp activities
      refine ⟨entries, rfl, fun _ => ⟨days, items, listed, fun activity inside => ?_⟩⟩
      exact readActivity_succeeds.mp (succeeds_mapM.mp ⟨pairs, taken⟩ activity inside)
    · rintro ⟨entries, rfl, readable⟩
      have filled : entries ≠ [] := by
        rintro rfl
        cases truthy
      obtain ⟨days, items, listed, fields⟩ := readable filled
      obtain ⟨pairs, taken⟩ := succeeds_mapM.mpr fun activity inside =>
        readActivity_succeeds.mpr (fields activity inside)
      refine succeeds_bind.mpr ⟨_, get_dict .., ?_⟩
      refine projected_succeeds.mpr ⟨days, ?_⟩
      refine succeeds_bind.mpr ⟨_, getOr_dict .., ?_⟩
      refine succeeds_bind.mpr ⟨items, listed, ?_⟩
      exact succeeds_bind.mpr ⟨pairs, taken, succeeds_pure _⟩
  · have skipped : readPlayTime (.dict [] : PyJson F) = .ok () := if_neg Bool.false_ne_true
    have empty : PlayTimeReadable (.dict [] : PyJson F) := ⟨[], rfl, fun filled => absurd rfl filled⟩
    rw [skipped]
    exact iff_of_true (succeeds_ok ()) empty

theorem readPolicy_reads {policy : PyJson F} {accepted ok : Bool} (read : readPolicy policy accepted = .ok ok) :
    ∃ count, PolicyReadable policy count ∧ ok = (accepted && count = 7) := by
  unfold readPolicy at read
  obtain ⟨limits, limitsHeld, read⟩ := bind_ok read
  obtain ⟨entries, rfl, held⟩ := getItem_ok.mp limitsHeld
  obtain ⟨items, listed, read⟩ := bind_ok read
  obtain ⟨dailyLimits, converted, read⟩ := bind_ok read
  obtain ⟨count, numerals⟩ := ints_ok converted
  split at read
  · rename_i seven
    obtain ⟨_, given, read⟩ := bind_ok read
    cases given
    obtain ⟨projected, indexed, read⟩ := bind_ok read
    obtain ⟨weekly, weeklyHeld, read⟩ := bind_ok read
    obtain ⟨weeklyLimit, weeklyNumeral, read⟩ := bind_ok read
    obtain ⟨monthly, monthlyHeld, read⟩ := bind_ok read
    obtain ⟨monthlyLimit, monthlyNumeral, read⟩ := bind_ok read
    obtain ⟨_, given, read⟩ := bind_ok read
    cases given
    obtain ⟨hours, hoursRead, read⟩ := bind_ok read
    obtain ⟨_, given, read⟩ := bind_ok read
    cases given
    obtain ⟨_, playtimeRead, read⟩ := bind_ok read
    have within := projectDailyLimits_succeeds.mp ⟨projected, indexed⟩
    rw [seven] at within
    have playtime := (readPlayTime_succeeds (fieldOr_truthy_or_default entries "playtime" _)).mp
      ⟨_, playtimeRead⟩
    have week : WeekReadable entries :=
      { weekdays := within
        weekly := ⟨weekly, (getItem_dict ..).mp weeklyHeld, weeklyLimit, weeklyNumeral⟩
        monthly := ⟨monthly, (getItem_dict ..).mp monthlyHeld, monthlyLimit, monthlyNumeral⟩
        allowedHours := readAllowedHours_succeeds.mp ⟨hours, hoursRead⟩
        playtime }
    have same : accepted = ok := pure_ok read
    refine ⟨7, ⟨entries, limits, items, rfl, held, listed, numerals, count.symm.trans seven, fun _ => week⟩, ?_⟩
    simp [same]
  · rename_i other
    have rejected : false = ok := pure_ok read
    refine ⟨items.length, ⟨entries, limits, items, rfl, held, listed, numerals, rfl, ?_⟩, ?_⟩
    · intro seven
      exact absurd (count.trans seven) other
    · rw [count] at other
      simp [← rejected, other]

theorem readPolicy_of_readable {policy : PyJson F} {accepted : Bool} {count : Nat}
    (readable : PolicyReadable policy count) :
    readPolicy policy accepted = .ok (accepted && count = 7) := by
  obtain ⟨entries, limits, items, rfl, held, listed, numerals, rfl, whole⟩ := readable
  obtain ⟨dailyLimits, converted⟩ := succeeds_mapM.mpr numerals
  obtain ⟨count, _⟩ := ints_ok converted
  unfold readPolicy
  refine bind_of_ok ((getItem_dict ..).mpr held) ?_
  refine bind_of_ok listed ?_
  refine bind_of_ok converted ?_
  rw [count]
  by_cases seven : items.length = 7
  · rw [if_pos seven, decide_eq_true seven, Bool.and_true]
    have week := whole seven
    have within := week.weekdays
    rw [← seven, ← count] at within
    obtain ⟨projected, indexed⟩ := projectDailyLimits_succeeds.mpr within
    obtain ⟨weekly, weeklyHeld, weeklyLimit, weeklyNumeral⟩ := week.weekly
    obtain ⟨monthly, monthlyHeld, monthlyLimit, monthlyNumeral⟩ := week.monthly
    obtain ⟨hours, hoursRead⟩ := readAllowedHours_succeeds.mpr week.allowedHours
    obtain ⟨_, playtimeRead⟩ := (readPlayTime_succeeds (fieldOr_truthy_or_default entries "playtime" _)).mpr
      week.playtime
    refine bind_of_ok (getOr_dict ..) ?_
    refine bind_of_ok indexed ?_
    refine bind_of_ok ((getItem_dict ..).mpr weeklyHeld) ?_
    refine bind_of_ok weeklyNumeral ?_
    refine bind_of_ok ((getItem_dict ..).mpr monthlyHeld) ?_
    refine bind_of_ok monthlyNumeral ?_
    refine bind_of_ok (getOr_dict ..) ?_
    refine bind_of_ok hoursRead ?_
    refine bind_of_ok (getOr_dict ..) ?_
    exact bind_of_ok playtimeRead rfl
  · rw [if_neg seven, decide_eq_false seven, Bool.and_false]
    rfl

theorem int_abs (a : Int) : (PyNum.int a : PyNum F).abs = .int |a| := by
  simp only [PyNum.abs]
  congr 1
  split
  · rename_i negative
    exact (abs_of_neg negative).symm
  · rename_i nonneg
    exact (abs_of_nonneg (not_lt.mp nonneg)).symm

theorem planNum_ints (observed : Observation) (target : HubTarget) (appliedOffsetS : Int)
    (forceAbsolute : Bool) (cfg : ConvergenceConfig) :
    let plan := plan observed target appliedOffsetS forceAbsolute cfg
    planNum observed (.int target.limitTodayS) (.int target.globalSpentS) forceAbsolute cfg =
      .ok ({ op := plan.op, seconds := .int plan.seconds, newAppliedOffsetS := .int plan.newAppliedOffsetS } :
        PlanNum F) := by
  have absolute : (forceAbsolute || decide (observed.limitTodayS < observed.balanceS) ||
      (PyNum.int (correction observed target) : PyNum F).abs.above cfg.hardResetThresholdS) = true ↔
      needsAbsolute observed target forceAbsolute cfg := by
    rw [int_abs]
    simp only [PyNum.above, needsAbsolute, Bool.or_eq_true, decide_eq_true_eq, or_assoc, gt_iff_lt]
  change (if (forceAbsolute || decide (observed.limitTodayS < observed.balanceS) ||
      (PyNum.int (correction observed target) : PyNum F).abs.above cfg.hardResetThresholdS) = true then _
    else if (PyNum.int (correction observed target) : PyNum F).above cfg.deadbandS = true then _
    else if (PyNum.int (correction observed target) : PyNum F).below (-cfg.deadbandS) = true then _
    else _ : Except PyException (PlanNum F)) = _
  simp only [absolute]
  simp only [PyNum.above, PyNum.below, decide_eq_true_eq, plan, gt_iff_lt]
  by_cases sets : needsAbsolute observed target forceAbsolute cfg
  · simp only [if_pos sets]
    rfl
  · simp only [if_neg sets]
    by_cases consumes : cfg.deadbandS < correction observed target
    · simp only [if_pos consumes]
      rfl
    · simp only [if_neg consumes]
      by_cases refunds : correction observed target < -cfg.deadbandS
      · simp only [if_pos refunds]
        rfl
      · simp only [if_neg refunds]
        rfl

theorem convergeOn_succeeds {observed : Observed} {limit spent : PyJson F} :
    Succeeds (convergeOn observed.obs observed.forceAbsolute limit spent) ↔
      FiguresReadable observed limit spent := by
  unfold convergeOn FiguresReadable
  rw [succeeds_bind]
  apply exists_congr
  intro globalSpentS
  rw [succeeds_bind, ← exists_and_left]

theorem readPush_succeeds {given : Option (PyJson F)} {entries : List (String × PyJson F)} {accepted : Bool} :
    Succeeds (readPush given accepted (.dict entries)) ↔
      ∀ policy, given.filter PyJson.truthy = some policy → ∃ count, PolicyReadable policy count ∧
        (accepted = true → count = 7 → (List.lookup "policy_version" entries).isSome = true) := by
  unfold readPush
  split
  · rename_i policy carried
    constructor
    · intro succeeds _ same
      cases carried.symm.trans same
      obtain ⟨applied, read, succeeds⟩ := succeeds_bind.mp succeeds
      obtain ⟨count, readable, outcome⟩ := readPolicy_reads read
      refine ⟨count, readable, fun taken seven => ?_⟩
      rw [taken, decide_eq_true seven] at outcome
      rw [outcome] at succeeds
      obtain ⟨version, held, _⟩ := succeeds_bind.mp succeeds
      exact Option.isSome_of_eq_some ((getItem_dict ..).mp held)
    · intro readable
      obtain ⟨count, policyReadable, version⟩ := readable policy carried
      refine succeeds_bind.mpr ⟨_, readPolicy_of_readable policyReadable, ?_⟩
      by_cases taken : accepted = true ∧ count = 7
      · obtain ⟨found, held⟩ := Option.isSome_iff_exists.mp (version taken.1 taken.2)
        rw [taken.1, decide_eq_true taken.2]
        exact succeeds_bind.mpr ⟨found, (getItem_dict ..).mpr held, succeeds_pure _⟩
      · have refused : (accepted && decide (count = 7)) = false := by
          simpa using taken
        rw [refused]
        exact succeeds_pure _
  · rename_i absent
    refine iff_of_true (succeeds_ok ()) ?_
    intro policy carried
    rw [absent] at carried
    cases carried

theorem readEntry_succeeds {observed : Observed} {accepted : Bool} {entry : PyJson F} :
    Succeeds (readEntry observed accepted entry) ↔
      ∃ entries, entry = .dict entries ∧ EntryReadable observed accepted entries := by
  unfold readEntry
  constructor
  · intro succeeds
    obtain ⟨limit, limitRead, succeeds⟩ := succeeds_bind.mp succeeds
    obtain ⟨entries, rfl, limitHeld⟩ := getItem_ok.mp limitRead
    obtain ⟨spent, spentRead, succeeds⟩ := succeeds_bind.mp succeeds
    have spentHeld := (getItem_dict ..).mp spentRead
    obtain ⟨_, given, succeeds⟩ := succeeds_bind.mp succeeds
    cases given
    refine ⟨entries, rfl, ?_⟩
    split at succeeds
    · rename_i observes
      obtain ⟨planned, converged, _⟩ := succeeds_bind.mp succeeds
      have figures := convergeOn_succeeds.mp ⟨planned, converged⟩
      refine ⟨⟨limit, spent, limitHeld, spentHeld, figures⟩, fun enforces => ?_⟩
      rw [observes] at enforces
      cases enforces
    · obtain ⟨_, given, succeeds⟩ := succeeds_bind.mp succeeds
      cases given
      obtain ⟨pushed, push, succeeds⟩ := succeeds_bind.mp succeeds
      obtain ⟨planned, converged, _⟩ := succeeds_bind.mp succeeds
      have figures := convergeOn_succeeds.mp ⟨planned, converged⟩
      exact ⟨⟨limit, spent, limitHeld, spentHeld, figures⟩, fun _ => readPush_succeeds.mp ⟨pushed, push⟩⟩
  · rintro ⟨entries, rfl, readable⟩
    obtain ⟨limit, spent, limitHeld, spentHeld, figures⟩ := readable.figures
    obtain ⟨planned, converged⟩ := convergeOn_succeeds.mpr figures
    refine succeeds_bind.mpr ⟨limit, (getItem_dict ..).mpr limitHeld, ?_⟩
    refine succeeds_bind.mpr ⟨spent, (getItem_dict ..).mpr spentHeld, ?_⟩
    refine succeeds_bind.mpr ⟨_, get_dict .., ?_⟩
    split
    · exact succeeds_bind.mpr ⟨planned, converged, succeeds_pure _⟩
    · rename_i enforces
      refine succeeds_bind.mpr ⟨_, get_dict .., ?_⟩
      obtain ⟨pushed, push⟩ := readPush_succeeds.mpr (readable.policy (Bool.eq_false_iff.mpr enforces))
      refine succeeds_bind.mpr ⟨pushed, push, ?_⟩
      exact succeeds_bind.mpr ⟨planned, converged, succeeds_pure _⟩

end TimekprProof
