import TimekprHub.Agent.HubAnswers
import TimekprHub.Library.PyJson

namespace TimekprModel

inductive UserField
  | day
  | cumLocalS
  | rawPrevS
  | appliedOffsetS
  | policyVersionApplied
  | policyRevisionApplied
  | lastEnforcement
  | lastPolicyPushError
  | lastEffectiveLimitTodayS
  | lastGlobalSpentS
  | lastHubContactUtc
  | lastOfflinePolicy
  | lastOfflineGraceS
  | lastOfflineCapS
  | cumLocalAtContactS
  | lastTickUtc
  | pendingSpans
  deriving DecidableEq, Repr

namespace UserField

def all : List UserField :=
  [day, cumLocalS, rawPrevS, appliedOffsetS, policyVersionApplied, policyRevisionApplied, lastEnforcement,
    lastPolicyPushError, lastEffectiveLimitTodayS, lastGlobalSpentS, lastHubContactUtc, lastOfflinePolicy,
    lastOfflineGraceS, lastOfflineCapS, cumLocalAtContactS, lastTickUtc, pendingSpans]

def name : UserField → String
  | day => "day"
  | cumLocalS => "cum_local_s"
  | rawPrevS => "raw_prev_s"
  | appliedOffsetS => "applied_offset_s"
  | policyVersionApplied => "policy_version_applied"
  | policyRevisionApplied => "policy_revision_applied"
  | lastEnforcement => "last_enforcement"
  | lastPolicyPushError => "last_policy_push_error"
  | lastEffectiveLimitTodayS => "last_effective_limit_today_s"
  | lastGlobalSpentS => "last_global_spent_s"
  | lastHubContactUtc => "last_hub_contact_utc"
  | lastOfflinePolicy => "last_offline_policy"
  | lastOfflineGraceS => "last_offline_grace_s"
  | lastOfflineCapS => "last_offline_cap_s"
  | cumLocalAtContactS => "cum_local_at_contact_s"
  | lastTickUtc => "last_tick_utc"
  | pendingSpans => "pending_spans"

variable {F : Type} [Zero F]

def default : UserField → PyJson F
  | day | policyRevisionApplied | lastEnforcement => .str ""
  | cumLocalS | rawPrevS | appliedOffsetS | policyVersionApplied | lastEffectiveLimitTodayS | lastGlobalSpentS
  | cumLocalAtContactS => .int 0
  | lastPolicyPushError => .none
  | lastHubContactUtc | lastTickUtc => .float 0
  | lastOfflinePolicy => .str "capped"
  | lastOfflineGraceS => .int 900
  | lastOfflineCapS => .int 1800
  | pendingSpans => .list []

end UserField

/-- A `UserState` object: each attribute holds what it was given, which the dataclass does not check. -/
abbrev UserObject (F : Type) := UserField → PyJson F

structure StateObject (F : Type) where
  users : Dict String (UserObject F) := .empty
  hubTz : String := ""

variable {F : Type}

def knownFields : List String := UserField.all.map UserField.name

section Construct

variable [Zero F]

def defaultUser : UserObject F := UserField.default

/-- `UserState(**arguments)`: an argument that is no field is a TypeError. -/
def constructUser (arguments : List (String × PyJson F)) : Except PyException (UserObject F) :=
  if ∀ argument ∈ arguments, argument.1 ∈ knownFields then
    .ok fun field => (List.lookup field.name arguments).getD field.default
  else .error .typeError

end Construct

def asdict (user : UserObject F) : List (String × PyJson F) :=
  UserField.all.map fun field => (field.name, (user field).asdictInner)

def statePayload (hubTz : String) (users : List (String × List (String × PyJson F))) : PyJson F :=
  .dict [("hub_tz", .str hubTz), ("users", .dict (users.map fun user => (user.1, .dict user.2)))]

def StateObject.payload (state : StateObject F) : PyJson F :=
  statePayload state.hubTz (state.users.entries.map fun user => (user.1, asdict user.2))

def StateObject.save (dumps : PyJson F → List UInt8) (state : StateObject F) : List UInt8 := dumps state.payload

inductive StateFile
  | missing
  /-- Reading it is an OSError. -/
  | unreadable
  | content (bytes : List UInt8)

namespace StateFile

variable [Zero F]

/-- The body of the loop over the users: an entry that is no dict is left out. -/
def loadUser : PyJson F → Option (UserObject F)
  | .dict fields =>
    match constructUser (fields.filter fun field => field.1 ∈ knownFields) with
    | .ok user => some user
    | .error _ => some defaultUser
  | _ => none

def loadUsers (items : List (String × PyJson F)) : Dict String (UserObject F) :=
  items.foldl
    (fun users item =>
      match loadUser item.2 with
      | some user => users.set item.1 user
      | none => users)
    .empty

def loadHubTz (raw : PyJson F) : Except PyException String := do
  let hubTz ← raw.get "hub_tz"
  match hubTz with
  | some (.str hubTz) => return hubTz
  | _ => return ""

def loadRaw (raw : PyJson F) : Except PyException (StateObject F) := do
  let hubTz ← loadHubTz raw
  let users ← raw.get "users"
  let items ← (users.getD (.dict [])).dictItems
  return { users := loadUsers items, hubTz }

/-- `loads` is `json.loads` of the decoded text. Of what it raises only a JSONDecodeError is caught. -/
def load (loads : List UInt8 → Except LoadsError (PyJson F)) : StateFile → Except PyException (StateObject F)
  | missing | unreadable => .ok {}
  | content bytes =>
    match loads bytes with
    | .ok raw => loadRaw raw
    | .error .jsonDecodeError => .ok {}
    | .error raised => .error (.loads raised)

end StateFile

def LastEnforcement.value : LastEnforcement → String
  | never => ""
  | enforce => "enforce"
  | observe => "observe"
  | revoked => "revoked"

section Tick

variable (timestamp : Instant → F) (isoformat : Instant → String)

def ActiveSpan.object (span : ActiveSpan) : PyJson F :=
  .dict [("start", .str (isoformat span.start)), ("end", .str (isoformat span.stop)), ("burned_s", .int span.burnedS)]

def UserState.object (user : UserState) : UserObject F
  | .day => .str user.day
  | .cumLocalS => .int user.cumLocalS
  | .rawPrevS => .int user.rawPrevS
  | .appliedOffsetS => .int user.appliedOffsetS
  | .policyVersionApplied => .int user.policyVersionApplied
  | .policyRevisionApplied => .str user.policyRevisionApplied
  | .lastEnforcement => .str user.lastEnforcement.value
  | .lastPolicyPushError => user.lastPolicyPushError.elim .none .str
  | .lastEffectiveLimitTodayS => .int user.lastEffectiveLimitTodayS
  | .lastGlobalSpentS => .int user.lastGlobalSpentS
  | .lastHubContactUtc => .float (timestamp user.lastHubContactUtc)
  | .lastOfflinePolicy => .str user.lastOfflinePolicy.value
  | .lastOfflineGraceS => .int user.lastOfflineGraceS
  | .lastOfflineCapS => .int user.lastOfflineCapS
  | .cumLocalAtContactS => .int user.cumLocalAtContactS
  | .lastTickUtc => .float (timestamp user.lastTickUtc)
  | .pendingSpans => .list (user.pendingSpans.map (ActiveSpan.object isoformat))

def AgentState.object (state : AgentState) : StateObject F where
  users := state.users.mapValues (UserState.object timestamp isoformat)
  hubTz := state.hubTz

end Tick

def EditOf (user : UserObject F) (entry : List (String × PyJson F)) : Prop :=
  ∀ field value, (UserField.name field, value) ∈ entry → value = user field

def UserObject.restrict [Zero F] (user : UserObject F) (entry : List (String × PyJson F)) : UserObject F :=
  fun field => if field.name ∈ entry.map Prod.fst then user field else field.default

/-- The users of the file that are objects are loaded with the known keys as they stand. The names of an
    object differ. -/
def KeepsUsers [Zero F] (raw : PyJson F) (state : StateObject F) : Prop :=
  ∀ items, raw.get "users" = .ok (some (.dict items)) → (items.map Prod.fst).Nodup →
    ∀ username fields, (username, .dict fields) ∈ items →
      ∃ user, state.users.get? username = some user ∧
        ∀ field, user field = (List.lookup field.name fields).getD field.default

def StartsKeeping [Zero F] (loads : List UInt8 → Except LoadsError (PyJson F)) (bytes : List UInt8) : Prop :=
  ∃ state, StateFile.load loads (.content bytes) = .ok state ∧ ∀ raw, loads bytes = .ok raw → KeepsUsers raw state

def Startable : Except LoadsError (PyJson F) → Prop
  | .error raised => raised = .jsonDecodeError
  | .ok raw => ∃ entries, raw = .dict entries ∧
      ∀ users, List.lookup "users" entries = some users → ∃ items, users = .dict items

structure WholeFloat where
  value : Int

instance : Zero WholeFloat := ⟨⟨0⟩⟩

def kidUser : UserObject WholeFloat
  | .day => .str "2026-01-01"
  | .cumLocalS => .int 500
  | .lastTickUtc => .float ⟨1767268800⟩
  | .pendingSpans => .list [.dict [("start", .str "2026-01-01T11:59:00+00:00"),
      ("end", .str "2026-01-01T12:00:00+00:00"), ("burned_s", .int 60)]]
  | field => field.default

def kidState : StateObject WholeFloat where
  users := ⟨[("kid", kidUser)], by decide⟩
  hubTz := "Europe/Oslo"

def kidText : List UInt8 :=
  ("\x7b\"hub_tz\": \"Europe/Oslo\", \"users\": \x7b\"kid\": \x7b\"day\": \"2026-01-01\", \"cum_local_s\": 500, " ++
    "\"raw_prev_s\": 0, \"applied_offset_s\": 0, \"policy_version_applied\": 0, " ++
    "\"policy_revision_applied\": \"\", \"last_enforcement\": \"\", \"last_policy_push_error\": null, " ++
    "\"last_effective_limit_today_s\": 0, \"last_global_spent_s\": 0, \"last_hub_contact_utc\": 0.0, " ++
    "\"last_offline_policy\": \"capped\", \"last_offline_grace_s\": 900, \"last_offline_cap_s\": 1800, " ++
    "\"cum_local_at_contact_s\": 0, \"last_tick_utc\": 1767268800.0, \"pending_spans\": [\x7b\"start\": " ++
    "\"2026-01-01T11:59:00+00:00\", \"end\": \"2026-01-01T12:00:00+00:00\", " ++
    "\"burned_s\": 60\x7d]\x7d\x7d\x7d").toUTF8.toList

def loadsOf {F : Type} (text : List UInt8) (value : PyJson F) (bytes : List UInt8) :
    Except LoadsError (PyJson F) :=
  if bytes = text then .ok value else .error .jsonDecodeError

end TimekprModel

namespace TimekprProof

open TimekprModel

theorem name_known (field : UserField) : field.name ∈ knownFields := by
  cases field <;> decide

theorem mem_all (field : UserField) : field ∈ UserField.all := by
  cases field <;> decide

theorem name_injective {field other : UserField} (same : field.name = other.name) : field = other := by
  have distinct : (UserField.all.map UserField.name).Nodup := by decide
  exact List.inj_on_of_nodup_map distinct (mem_all field) (mem_all other) same

section Load

variable {F : Type} [Zero F]

def userOf (fields : List (String × PyJson F)) : UserObject F :=
  fun field => (List.lookup field.name fields).getD field.default

theorem loadUser_dict (fields : List (String × PyJson F)) :
    StateFile.loadUser (.dict fields) = some (userOf fields) := by
  have known : ∀ argument ∈ fields.filter fun field => field.1 ∈ knownFields, argument.1 ∈ knownFields := by
    intro argument listed
    exact of_decide_eq_true (List.mem_filter.mp listed).2
  have same : (fun field : UserField =>
      (List.lookup field.name (fields.filter fun field => field.1 ∈ knownFields)).getD field.default) =
        userOf fields := by
    funext field
    have looked := Dict.lookup_filter (fun key => decide (key ∈ knownFields)) field.name fields
    rw [looked, if_pos (decide_eq_true (name_known field)), userOf]
  simp only [StateFile.loadUser, constructUser, if_pos known, same]

theorem loadUsers_eq (items : List (String × PyJson F)) :
    StateFile.loadUsers items =
      Dict.ofList (items.filterMap fun item => (StateFile.loadUser item.2).map (Prod.mk item.1)) := by
  unfold StateFile.loadUsers Dict.ofList
  rw [List.foldl_filterMap]
  congr 1
  funext users item
  cases StateFile.loadUser item.2 <;> rfl

theorem loadUsers_dicts (users : List (String × List (String × PyJson F))) :
    StateFile.loadUsers (users.map fun user => (user.1, .dict user.2)) =
      Dict.ofList (users.map fun user => (user.1, userOf user.2)) := by
  rw [loadUsers_eq, List.filterMap_map]
  congr 1
  induction users with
  | nil => rfl
  | cons user rest ih =>
    rw [List.map_cons, ← ih]
    simp [loadUser_dict]

theorem loadRaw_payload (hubTz : String) (users : List (String × List (String × PyJson F))) :
    StateFile.loadRaw (statePayload hubTz users) =
      .ok { users := Dict.ofList (users.map fun user => (user.1, userOf user.2)), hubTz } := by
  rw [← loadUsers_dicts]
  rfl

theorem userOf_edit {user : UserObject F} {entry : List (String × PyJson F)} (edit : EditOf user entry) :
    userOf entry = user.restrict entry := by
  funext field
  unfold userOf UserObject.restrict
  cases found : List.lookup field.name entry with
  | none => rw [if_neg (Dict.lookup_eq_none.mp found), Option.getD_none]
  | some value =>
    have member := Dict.mem_of_lookup found
    rw [if_pos (List.mem_map_of_mem member), Option.getD_some]
    exact edit field value member

omit [Zero F] in
theorem asdict_edit (user : UserObject F) : EditOf user (asdict user) := by
  intro field value listed
  obtain ⟨other, _, same⟩ := List.mem_map.mp listed
  obtain ⟨names, values⟩ := Prod.mk.inj same
  rw [← values, name_injective names, PyJson.asdictInner_eq]

theorem userOf_asdict (user : UserObject F) : userOf (asdict user) = user := by
  rw [userOf_edit (asdict_edit user)]
  funext field
  apply if_pos
  rw [asdict, List.map_map]
  exact List.mem_map_of_mem (mem_all field)

theorem load_content {loads : List UInt8 → Except LoadsError (PyJson F)} {bytes : List UInt8} {raw : PyJson F}
    (parsed : loads bytes = .ok raw) : StateFile.load loads (.content bytes) = StateFile.loadRaw raw := by
  simp only [StateFile.load, parsed]

theorem loadRaw_edited (state : StateObject F) (edits : String → List (String × PyJson F))
    (edited : ∀ username user, state.users.get? username = some user → EditOf user (edits username)) :
    StateFile.loadRaw (statePayload state.hubTz (state.users.keys.map fun username => (username, edits username))) =
      .ok { state with users := state.users.mapWithKey fun username user => user.restrict (edits username) } := by
  have users : state.users.entries.map (fun entry => (entry.1, userOf (edits entry.1))) =
      state.users.entries.map fun entry => (entry.1, UserObject.restrict entry.2 (edits entry.1)) := by
    apply List.map_congr_left
    intro entry listed
    have held := (Dict.get?_eq_some state.users entry.1 entry.2).mpr listed
    rw [userOf_edit (edited entry.1 entry.2 held)]
  have nodup : ((state.users.entries.map fun entry =>
      (entry.1, UserObject.restrict entry.2 (edits entry.1))).map Prod.fst).Nodup :=
    (state.users.mapWithKey fun username user => user.restrict (edits username)).nodup
  rw [loadRaw_payload, List.map_map, Dict.keys, List.map_map]
  have same : Dict.ofList (state.users.entries.map fun entry => (entry.1, userOf (edits entry.1))) =
      state.users.mapWithKey fun username user => user.restrict (edits username) := by
    apply Dict.eq_of_entries
    rw [users, Dict.entries_ofList nodup]
    rfl
  rw [← same]
  rfl

theorem loadRaw_saved (state : StateObject F) : StateFile.loadRaw state.payload = .ok state := by
  have users : state.users.entries.map (fun entry => (entry.1, userOf (asdict entry.2))) = state.users.entries := by
    rw [List.map_congr_left (g := id), List.map_id]
    intro entry _
    rw [userOf_asdict]
    rfl
  have same : Dict.ofList (state.users.entries.map fun entry => (entry.1, userOf (asdict entry.2))) =
      state.users := by
    apply Dict.eq_of_entries
    rw [users, Dict.entries_ofList state.users.nodup]
  rw [StateObject.payload, loadRaw_payload, List.map_map]
  exact congrArg (fun users => Except.ok { state with users }) same

/-- Agent state survives a restart and a change of version: what was saved is loaded, and where entries have
    lost some known keys or got unknown ones, the lost fields are at their defaults and all else is kept. -/
theorem state_survives_restart (dumps : PyJson F → List UInt8)
    (loads : List UInt8 → Except LoadsError (PyJson F)) (state : StateObject F)
    (roundTrips : loads (dumps state.payload) = .ok state.payload) :
    StateFile.load loads (.content (state.save dumps)) = .ok state ∧
      ∀ (edits : String → List (String × PyJson F)) (bytes : List UInt8),
        (∀ username user, state.users.get? username = some user → EditOf user (edits username)) →
        loads bytes = .ok (statePayload state.hubTz
          (state.users.keys.map fun username => (username, edits username))) →
        StateFile.load loads (.content bytes) =
          .ok { state with
            users := state.users.mapWithKey fun username user => user.restrict (edits username) } := by
  constructor
  · rw [StateObject.save, load_content roundTrips]
    exact loadRaw_saved state
  · intro edits bytes edited parsed
    rw [load_content parsed]
    exact loadRaw_edited state edits edited

theorem state_survives_restart_kid :
    StateFile.load (loadsOf kidText kidState.payload) (.content (kidState.save fun _ => kidText)) = .ok kidState :=
  (state_survives_restart (fun _ => kidText) (loadsOf kidText kidState.payload) kidState (if_pos rfl)).1

section Tick

variable {timestamp : Instant → F} {isoformat : Instant → String}

omit [Zero F] in
theorem span_object_injective (isoformat_injective : Function.Injective isoformat) :
    Function.Injective (ActiveSpan.object isoformat : ActiveSpan → PyJson F) := by
  intro span other same
  simp only [ActiveSpan.object, PyJson.dict.injEq, List.cons.injEq, Prod.mk.injEq, PyJson.str.injEq,
    PyJson.int.injEq, true_and, and_true] at same
  obtain ⟨start, stop, burned⟩ := same
  cases span
  cases other
  simp only [ActiveSpan.mk.injEq]
  exact ⟨isoformat_injective start, isoformat_injective stop, burned⟩

omit [Zero F] in
theorem object_injective (timestamp_injective : Function.Injective timestamp)
    (isoformat_injective : Function.Injective isoformat) :
    Function.Injective (UserState.object timestamp isoformat) := by
  intro user other same
  have at_field : ∀ field, UserState.object timestamp isoformat user field =
      UserState.object timestamp isoformat other field := fun field => congrFun same field
  have enforcement : user.lastEnforcement = other.lastEnforcement := by
    have text := PyJson.str.inj (at_field .lastEnforcement)
    revert text
    cases user.lastEnforcement <;> cases other.lastEnforcement <;> simp [LastEnforcement.value]
  have offline : user.lastOfflinePolicy = other.lastOfflinePolicy := by
    have text := PyJson.str.inj (at_field .lastOfflinePolicy)
    revert text
    cases user.lastOfflinePolicy <;> cases other.lastOfflinePolicy <;> simp [OfflinePolicy.value]
  have pushError : user.lastPolicyPushError = other.lastPolicyPushError := by
    have value := at_field .lastPolicyPushError
    simp only [UserState.object] at value
    revert value
    cases user.lastPolicyPushError <;> cases other.lastPolicyPushError <;> simp
  have spans : user.pendingSpans = other.pendingSpans :=
    (span_object_injective isoformat_injective).list_map (PyJson.list.inj (at_field .pendingSpans))
  have contact := timestamp_injective (PyJson.float.inj (at_field .lastHubContactUtc))
  have tick := timestamp_injective (PyJson.float.inj (at_field .lastTickUtc))
  have day := PyJson.str.inj (at_field .day)
  have revision := PyJson.str.inj (at_field .policyRevisionApplied)
  have cum := PyJson.int.inj (at_field .cumLocalS)
  have raw := PyJson.int.inj (at_field .rawPrevS)
  have offset := PyJson.int.inj (at_field .appliedOffsetS)
  have version := PyJson.int.inj (at_field .policyVersionApplied)
  have limit := PyJson.int.inj (at_field .lastEffectiveLimitTodayS)
  have spent := PyJson.int.inj (at_field .lastGlobalSpentS)
  have grace := PyJson.int.inj (at_field .lastOfflineGraceS)
  have cap := PyJson.int.inj (at_field .lastOfflineCapS)
  have atContact := PyJson.int.inj (at_field .cumLocalAtContactS)
  cases user
  cases other
  simp only [UserState.mk.injEq]
  exact ⟨day, cum, raw, offset, version, revision, enforcement, pushError, limit, spent, contact, offline, grace, cap,
    atContact, tick, spans⟩

theorem restart_keeps_user (timestamp_injective : Function.Injective timestamp)
    (isoformat_injective : Function.Injective isoformat) {dumps : PyJson F → List UInt8}
    {loads : List UInt8 → Except LoadsError (PyJson F)} {state : AgentState} {loaded : StateObject F}
    (roundTrips : loads (dumps (state.object timestamp isoformat).payload) =
      .ok (state.object timestamp isoformat).payload)
    (restarted : StateFile.load loads (.content ((state.object timestamp isoformat).save dumps)) = .ok loaded)
    (username : String) (user : UserState) :
    loaded.users.get? username = some (user.object timestamp isoformat) ↔
      state.users.get? username = some user := by
  rw [StateObject.save, load_content roundTrips, loadRaw_saved] at restarted
  cases restarted
  rw [AgentState.object, Dict.get?_mapValues, Option.map_eq_some_iff]
  constructor
  · rintro ⟨held, found, same⟩
    rw [found, object_injective timestamp_injective isoformat_injective same]
  · intro found
    exact ⟨user, found, rfl⟩

end Tick

/-- Names differing, a user is loaded from its own entry alone. -/
theorem loadUsers_get? {items : List (String × PyJson F)} (distinct : (items.map Prod.fst).Nodup)
    {username : String} {fields : List (String × PyJson F)} (listed : (username, .dict fields) ∈ items) :
    (StateFile.loadUsers items).get? username = some (userOf fields) := by
  have nodup := distinct.sublist (Dict.keys_filterMap_sublist items StateFile.loadUser)
  rw [loadUsers_eq, Dict.get?_ofList nodup, Dict.lookup_eq_some nodup]
  apply List.mem_filterMap.mpr
  refine ⟨_, listed, ?_⟩
  rw [loadUser_dict, Option.map_some]

theorem loadRaw_keeps {raw : PyJson F} {state : StateObject F} (loaded : StateFile.loadRaw raw = .ok state) :
    KeepsUsers raw state := by
  intro items held distinct username fields listed
  obtain ⟨hubTz, _, loaded⟩ := Fallible.bind_ok loaded
  obtain ⟨users, found, loaded⟩ := Fallible.bind_ok loaded
  have same : (.ok users : Except PyException _) = .ok (some (.dict items)) := found.symm.trans held
  cases same
  cases loaded
  exact ⟨userOf fields, loadUsers_get? distinct listed, fun field => rfl⟩

theorem loadRaw_returns_iff (raw : PyJson F) :
    (∃ state, StateFile.loadRaw raw = .ok state) ↔ Startable (.ok raw) := by
  constructor
  · rintro ⟨state, loaded⟩
    obtain ⟨hubTz, _, loaded⟩ := Fallible.bind_ok loaded
    obtain ⟨users, found, loaded⟩ := Fallible.bind_ok loaded
    obtain ⟨items, listed, _⟩ := Fallible.bind_ok loaded
    cases raw with
    | dict entries =>
      refine ⟨entries, rfl, ?_⟩
      intro held stored
      rw [PyJson.get, stored] at found
      cases found
      cases held with
      | dict items => exact ⟨items, rfl⟩
      | _ => cases listed
    | _ => cases found
  · rintro ⟨entries, rfl, objects⟩
    have hubTz : ∃ hubTz, StateFile.loadHubTz (.dict entries) = .ok hubTz := by
      unfold StateFile.loadHubTz
      simp only [PyJson.get, bind, Except.bind]
      split
      · exact ⟨_, rfl⟩
      · exact ⟨_, rfl⟩
    obtain ⟨hubTz, told⟩ := hubTz
    cases stored : List.lookup "users" entries with
    | none =>
      refine ⟨{ users := StateFile.loadUsers [], hubTz }, ?_⟩
      rw [StateFile.loadRaw, told]
      simp only [PyJson.get, stored]
      rfl
    | some users =>
      obtain ⟨items, rfl⟩ := objects users stored
      refine ⟨{ users := StateFile.loadUsers items, hubTz }, ?_⟩
      rw [StateFile.loadRaw, told]
      simp only [PyJson.get, stored]
      rfl

/-- The agent starts, with the users of the file, exactly with the contents that are no JSON and those that
    are an object whose users are one, if it has any. -/
theorem starts_keeping_iff (loads : List UInt8 → Except LoadsError (PyJson F)) (bytes : List UInt8) :
    StartsKeeping loads bytes ↔ Startable (loads bytes) := by
  unfold StartsKeeping
  cases parsed : loads bytes with
  | ok raw =>
    rw [← loadRaw_returns_iff, load_content parsed]
    constructor
    · rintro ⟨state, loaded, _⟩
      exact ⟨state, loaded⟩
    · rintro ⟨state, loaded⟩
      refine ⟨state, loaded, ?_⟩
      intro other same
      cases same
      exact loadRaw_keeps loaded
  | error raised =>
    cases raised with
    | jsonDecodeError =>
      refine iff_of_true ⟨{}, ?_, nofun⟩ rfl
      simp only [StateFile.load, parsed]
    | _ =>
      refine iff_of_false ?_ nofun
      rintro ⟨state, loaded, _⟩
      simp only [StateFile.load, parsed] at loaded
      cases loaded

end Load

/-- The text `[]` is JSON, and a list has no `get`. -/
theorem list_content_stops_agent :
    ¬ StartsKeeping (loadsOf [0x5b, 0x5d] (.list [] : PyJson WholeFloat)) [0x5b, 0x5d] := by
  rintro ⟨state, loaded, _⟩
  cases loaded

end TimekprProof
