import TimekprHub.Hub.AggregateQueries

namespace TimekprModel

def sumSeconds (rows : List Grant) : Int := (rows.map Grant.seconds).sum

namespace HubTables

variable (tables : HubTables)

def grantsTotal (userId : UserId) (day : Date) : Int :=
  (sqlSum ((tables.grants.filter fun row => row.userId = userId ∧ row.day = day).map Grant.seconds)).getD 0

def grantsTotalsBatch (userIds : List UserId) (day : Date) : Dict UserId Int :=
  if userIds = [] then .empty
  else
    .ofList (Relational.aggregate Grant.userId sumSeconds
      (tables.grants.filter fun row => row.userId ∈ userIds ∧ row.day = day))

def grantsTotalsHistory (userId : UserId) (startDay endDay : Date) : Dict Date Int :=
  .ofList (Relational.aggregate Grant.day sumSeconds
    (tables.grants.filter fun row => row.userId = userId ∧ startDay ≤ row.day ∧ row.day ≤ endDay))

/-- `scalar_one_or_none`: `uq_day_overrides_user_day` leaves one row at most. -/
def dayOverride (userId : UserId) (day : Date) : Option Int := tables.dayOverrides.get? (userId, day)

def dayOverridesBatch (userIds : List UserId) (day : Date) : Dict UserId Int :=
  if userIds = [] then .empty
  else
    .ofList ((tables.dayOverrides.entries.filter fun row => row.1.1 ∈ userIds ∧ row.1.2 = day).map
      fun row => (row.1.1, row.2))

def dayOverridesHistory (userId : UserId) (startDay endDay : Date) : Dict Date Int :=
  .ofList ((tables.dayOverrides.entries.filter fun row =>
    row.1.1 = userId ∧ startDay ≤ row.1.2 ∧ row.1.2 ≤ endDay).map fun row => (row.1.2, row.2))

def gateReleasesBatch (userIds : List UserId) (day : Date) : List UserId :=
  if userIds = [] then []
  else (tables.gateReleases.filter fun row => row.1 ∈ userIds ∧ row.2 = day).map Prod.fst

def gateReleasesHistory (userId : UserId) (startDay endDay : Date) : List Date :=
  (tables.gateReleases.filter fun row => row.1 = userId ∧ startDay ≤ row.2 ∧ row.2 ≤ endDay).map Prod.snd

def dayHourOverridesHistory (userId : UserId) (startDay endDay : Date) :
    Dict Date (List AllowedHourInterval) :=
  .ofList ((tables.dayHourOverrides.entries.filter fun row =>
    row.1.1 = userId ∧ startDay ≤ row.1.2 ∧ row.1.2 ≤ endDay).map fun row => (row.1.2, row.2))

end HubTables

end TimekprModel

namespace TimekprProof

open TimekprModel

section Queries

variable (tables : HubTables) (userId : UserId)

theorem grants_batch_agrees {userIds : List UserId} (listed : userId ∈ userIds) (day : Date) :
    ((tables.grantsTotalsBatch userIds day).get? userId).getD 0 = tables.grantsTotal userId day := by
  have some : userIds ≠ [] := List.ne_nil_of_mem listed
  have none : sumSeconds [] = 0 := rfl
  rw [HubTables.grantsTotalsBatch, if_neg some, Dict.get?_ofList (Relational.aggregate_nodup ..),
    Relational.getD_lookup_aggregate _ _ _ _ none, HubTables.grantsTotal, sqlSum_getD, sumSeconds,
    Relational.filter_batch _ Grant.userId Grant.day listed]

theorem grants_history_agrees {startDay endDay day : Date} (within : startDay ≤ day ∧ day ≤ endDay) :
    ((tables.grantsTotalsHistory userId startDay endDay).get? day).getD 0 = tables.grantsTotal userId day := by
  have none : sumSeconds [] = 0 := rfl
  rw [HubTables.grantsTotalsHistory, Dict.get?_ofList (Relational.aggregate_nodup ..),
    Relational.getD_lookup_aggregate _ _ _ _ none, HubTables.grantsTotal, sqlSum_getD, sumSeconds,
    Relational.filter_window _ Grant.userId Grant.day userId within]

theorem overrides_batch_agrees {userIds : List UserId} (listed : userId ∈ userIds) (day : Date) :
    (tables.dayOverridesBatch userIds day).get? userId = tables.dayOverride userId day := by
  have some : userIds ≠ [] := List.ne_nil_of_mem listed
  rw [HubTables.dayOverridesBatch, if_neg some, HubTables.dayOverride]
  refine tables.dayOverrides.get?_ofList_part (fun key => decide (key.1 ∈ userIds ∧ key.2 = day))
    Prod.fst ?_ (userId, day) ?_
  · intro one other keptOne keptOther same
    have onDay := (of_decide_eq_true keptOne).2
    rw [← (of_decide_eq_true keptOther).2] at onDay
    exact Prod.ext same onDay
  · exact decide_eq_true ⟨listed, rfl⟩

theorem overrides_history_agrees {startDay endDay day : Date} (within : startDay ≤ day ∧ day ≤ endDay) :
    (tables.dayOverridesHistory userId startDay endDay).get? day = tables.dayOverride userId day := by
  rw [HubTables.dayOverridesHistory, HubTables.dayOverride]
  refine tables.dayOverrides.get?_ofList_part
    (fun key => decide (key.1 = userId ∧ startDay ≤ key.2 ∧ key.2 ≤ endDay)) Prod.snd ?_ (userId, day) ?_
  · intro one other keptOne keptOther same
    have own := (of_decide_eq_true keptOne).1
    rw [← (of_decide_eq_true keptOther).1] at own
    exact Prod.ext own same
  · exact decide_eq_true ⟨rfl, within⟩

theorem releases_batch_agrees {userIds : List UserId} (listed : userId ∈ userIds) (day : Date) :
    userId ∈ tables.gateReleasesBatch userIds day ↔ tables.isGateReleased userId day = true := by
  have some : userIds ≠ [] := List.ne_nil_of_mem listed
  rw [HubTables.gateReleasesBatch, if_neg some, HubTables.isGateReleased, decide_eq_true_eq, List.mem_map]
  constructor
  · rintro ⟨row, member, rfl⟩
    obtain ⟨held, kept⟩ := List.mem_filter.mp member
    rw [← (of_decide_eq_true kept).2]
    exact held
  · intro held
    exact ⟨(userId, day), List.mem_filter.mpr ⟨held, decide_eq_true ⟨listed, rfl⟩⟩, rfl⟩

theorem releases_history_agrees {startDay endDay day : Date} (within : startDay ≤ day ∧ day ≤ endDay) :
    day ∈ tables.gateReleasesHistory userId startDay endDay ↔ tables.isGateReleased userId day = true := by
  rw [HubTables.gateReleasesHistory, HubTables.isGateReleased, decide_eq_true_eq, List.mem_map]
  constructor
  · rintro ⟨row, member, rfl⟩
    obtain ⟨held, kept⟩ := List.mem_filter.mp member
    rw [← (of_decide_eq_true kept).1]
    exact held
  · intro held
    exact ⟨(userId, day), List.mem_filter.mpr ⟨held, decide_eq_true ⟨rfl, within⟩⟩, rfl⟩

theorem effective_daily_limit_rows {row : UserRow} (policy : Policy) (day : Date) :
    effectiveDailyLimit policy (tables.user userId row) day =
      combineLimit ((tables.dayOverride userId day).getD (baseDailyLimit policy day))
        (tables.grantsTotal userId day) (isGatedWeekday (tables.user userId row) day)
        (tables.isGateReleased userId day) := by
  have grants : grantsTotal (tables.user userId row) day = tables.grantsTotal userId day := by
    rw [HubTables.grantsTotal, sqlSum_getD]
    unfold grantsTotal HubTables.user
    rw [List.filter_map, List.map_map, List.filter_filter]
    change (List.map Grant.seconds (List.filter _ _)).sum = _
    congr
    funext grant
    rw [Bool.eq_iff_iff]
    simp only [Function.comp_apply, Bool.and_eq_true, decide_eq_true_eq]
    exact and_comm
  unfold effectiveDailyLimit
  rw [grants]
  -- The release is looked at only on a gated day, and counts only there.
  cases gated : isGatedWeekday (tables.user userId row) day <;> rfl

end Queries

end TimekprProof
