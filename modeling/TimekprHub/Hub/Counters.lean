import TimekprHub.Hub.Aggregate
import TimekprHub.Hub.SyncRows

namespace TimekprModel

namespace HubStore

variable (store : HubStore)

def counters : Dict CounterKey Int := store.usageCounters.mapValues UsageCounter.spentSeconds

end HubStore

end TimekprModel

namespace TimekprProof

open TimekprModel

def ofDay (userId : UserId) (day : Date) (entry : CounterKey × Int) : Bool :=
  entry.1.userId = userId ∧ entry.1.day = day

theorem counters_get? (store : HubStore) (key : CounterKey) : store.counters.get? key = store.spent key :=
  Dict.get?_mapValues store.usageCounters UsageCounter.spentSeconds key

theorem dayCounters_eq (store : HubStore) (userId : UserId) (day : Date) :
    store.dayCounters userId day =
      (store.counters.entries.filter (ofDay userId day)).map Prod.snd := by
  simp only [HubStore.dayCounters, HubStore.counters, Dict.mapValues, List.filter_map, List.map_map]
  rfl

theorem mem_dayCounters (store : HubStore) (userId : UserId) (day : Date) (seconds : Int) :
    seconds ∈ store.dayCounters userId day ↔
      ∃ deviceId, store.spent ⟨userId, deviceId, day⟩ = some seconds := by
  rw [dayCounters_eq, List.mem_map]
  constructor
  · rintro ⟨⟨⟨user, deviceId, date⟩, held⟩, member, rfl⟩
    obtain ⟨listed, own⟩ := List.mem_filter.mp member
    obtain ⟨rfl, rfl⟩ := of_decide_eq_true own
    refine ⟨deviceId, ?_⟩
    rw [← counters_get?]
    exact (Dict.get?_eq_some _ _ _).mpr listed
  · rintro ⟨deviceId, held⟩
    rw [← counters_get?] at held
    refine ⟨(⟨userId, deviceId, day⟩, seconds), List.mem_filter.mpr ⟨?_, ?_⟩, rfl⟩
    · exact (Dict.get?_eq_some _ _ _).mp held
    · simp [ofDay]

theorem dayCounters_perm {store other : HubStore} (same : ∀ key, store.spent key = other.spent key)
    (userId : UserId) (day : Date) :
    (store.dayCounters userId day).Perm (other.dayCounters userId day) := by
  rw [dayCounters_eq, dayCounters_eq]
  apply List.Perm.map
  apply List.Perm.filter
  apply Dict.entries_perm
  intro key
  rw [counters_get?, counters_get?, same]

theorem dayCounters_upsert (store : HubStore) (key : CounterKey) (spentSeconds : Int)
    (activityState : ActivityState) : ∃ others,
    (store.dayCounters key.userId key.day).Perm ((store.spent key).toList ++ others) ∧
      ((store.upsertUsageCounter key spentSeconds activityState).dayCounters key.userId key.day).Perm
        (HighWater.merge (store.spent key) spentSeconds :: others) := by
  have own : ∀ seconds, ofDay key.userId key.day (key, seconds) = true := by
    intro seconds
    simp [ofDay]
  refine ⟨((store.counters.others key).filter (ofDay key.userId key.day)).map Prod.snd, ?_, ?_⟩
  · have entries := Dict.entries_perm_others store.counters key
    have counted := (entries.filter (ofDay key.userId key.day)).map Prod.snd
    rw [← dayCounters_eq, counters_get?, List.filter_append, List.map_append] at counted
    refine counted.trans (List.Perm.append_right _ (List.Perm.of_eq ?_))
    cases store.spent key with
    | none => rfl
    | some seconds => simp [own]
  · have set : ∀ other, (store.upsertUsageCounter key spentSeconds activityState).spent other =
        (store.counters.set key (HighWater.merge (store.spent key) spentSeconds)).get? other := by
      intro other
      rw [upsertUsageCounter_spent, Dict.get?_set, counters_get?]
      simp only [eq_comm]
    have same : (store.upsertUsageCounter key spentSeconds activityState).counters.entries.Perm
        (store.counters.set key (HighWater.merge (store.spent key) spentSeconds)).entries := by
      apply Dict.entries_perm
      intro other
      rw [counters_get?, set]
    have entries := same.trans (Dict.entries_set_perm store.counters key _)
    have counted := (entries.filter (ofDay key.userId key.day)).map Prod.snd
    rw [← dayCounters_eq, List.filter_cons_of_pos (own _), List.map_cons] at counted
    exact counted

theorem parallel_eq_of_spent {store other : HubStore} (same : ∀ key, store.spent key = other.spent key)
    (userId : UserId) (day : Date) :
    store.globalSpentParallel userId day = other.globalSpentParallel userId day :=
  (dayCounters_perm same userId day).sum_eq

theorem roundedSeconds_mono {length longer : Int} (le : length ≤ longer) :
    HubStore.roundedSeconds length ≤ HubStore.roundedSeconds longer := by
  simp only [HubStore.roundedSeconds, second]
  omega

end TimekprProof
