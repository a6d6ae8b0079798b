import TimekprHub.Core.Digest
import TimekprHub.Hub.Household

namespace TimekprModel

open Intervals (Span Covered)

def userSpans (rows : List ActivityInterval) (userId : UserId) : List Span :=
  (rows.filter fun row => row.userId = userId).map ActivityInterval.range

def SpansKept (store : HubStore) (deviceId : DeviceId) (reqs : List SyncUserRequest) : Prop :=
  ∀ req ∈ reqs, ∀ span ∈ req.activeSpans, span.start < span.stop →
    Covered (userSpans store.activityIntervals (store.userOf deviceId req.username))
      ⟨span.start, span.stop⟩

/-- A reported span whose (device, end) key is taken lies in the union of its user's rows stored before
    and its user's spans of the request whose key is free. -/
def TakenSpansCovered (store : HubStore) (deviceId : DeviceId) (day : Date)
    (reqs : List SyncUserRequest) : Prop :=
  ∀ row, store.ReportedTaken deviceId day reqs row → ∀ t, row.start ≤ t → t < row.stop →
    ∃ other, (other ∈ store.activityIntervals ∨ store.ReportedFree deviceId day reqs other) ∧
      other.userId = row.userId ∧ other.start ≤ t ∧ t < other.stop

end TimekprModel

namespace TimekprProof

open TimekprModel
open Intervals (Covered)

theorem spansKept_iff_rows (store : HubStore) (deviceId : DeviceId) (day : Date)
    (reqs : List SyncUserRequest) : SpansKept store deviceId reqs ↔
      ∀ row ∈ store.reportedRows deviceId day reqs,
        Covered (userSpans store.activityIntervals row.userId) row.range := by
  constructor
  · intro kept row member
    obtain ⟨req, listed, span, reported, proper, rfl⟩ := mem_reportedRows.mp member
    exact kept req listed span reported proper
  · intro covered req listed span reported proper
    exact covered _ (mem_reportedRows.mpr ⟨req, listed, span, reported, proper, rfl⟩)

theorem covered_userSpans_iff {rows : List ActivityInterval} {userId : UserId} {span : Intervals.Span} :
    Covered (userSpans rows userId) span ↔ ∀ t, span.start ≤ t → t < span.stop →
      ∃ other ∈ rows, other.userId = userId ∧ other.start ≤ t ∧ t < other.stop := by
  constructor
  · intro covered t after before
    obtain ⟨_, listed, inside⟩ := covered t after before
    obtain ⟨other, kept, rfl⟩ := List.mem_map.mp listed
    obtain ⟨member, own⟩ := List.mem_filter.mp kept
    exact ⟨other, member, of_decide_eq_true own, inside⟩
  · intro rowAt t after before
    obtain ⟨other, member, own, inside⟩ := rowAt t after before
    have kept : other ∈ rows.filter fun row => row.userId = userId :=
      List.mem_filter.mpr ⟨member, decide_eq_true own⟩
    exact ⟨other.range, List.mem_map_of_mem kept, inside⟩

/-- Nothing reported is lost exactly when every span whose key is taken is covered without it. -/
theorem spans_kept_iff {settings : Settings} {digest : PolicyPayload → String} {store later : HubStore}
    {deviceId : DeviceId} {req : SyncRequest} {now : Instant} {response : SyncResponse}
    (accepted : sync settings digest store deviceId req now = some (later, response)) :
    SpansKept later deviceId req.users ↔
      TakenSpansCovered store deviceId (canonicalStamp now settings.tz).day req.users := by
  have recorded := sync_recorded accepted
  have rows := reportedRows_congr (recorded.userOf deviceId) (canonicalStamp now settings.tz).day req.users
  rw [spansKept_iff_rows later deviceId (canonicalStamp now settings.tz).day, rows]
  simp only [covered_userSpans_iff, recorded_rows recorded]
  constructor
  · rintro kept row ⟨earlier, rest, split, _⟩
    apply kept
    rw [split]
    exact List.mem_append_right _ (List.mem_cons_self ..)
  · intro covered row reported
    rcases reported_free_or_taken reported with free | taken
    · intro t after before
      exact ⟨row, .inr free, rfl, after, before⟩
    · exact covered row taken

end TimekprProof

namespace TimekprModel

def siblingsRequest : SyncRequest :=
  (draftTick (fun _ => some utc) "UTC" {}
    [("ann", some kidObservation), ("ben", some kidObservation)] (noonPlus 0)).request "0.1" (noonPlus 0)

end TimekprModel

namespace TimekprProof

open TimekprModel
open Intervals (Covered)

theorem spans_kept_iff_siblings :
    ∃ later response,
      sync {} tallyDigest laptopStore "laptop" siblingsRequest (noonPlus 1) = some (later, response) ∧
      (SpansKept later "laptop" siblingsRequest.users ↔
        TakenSpansCovered laptopStore "laptop" (canonicalStamp (noonPlus 1) utc).day
          siblingsRequest.users) := by
  have answered : (sync {} tallyDigest laptopStore "laptop" siblingsRequest (noonPlus 1)).isSome := by
    decide
  obtain ⟨⟨later, response⟩, accepted⟩ := Option.isSome_iff_exists.mp answered
  exact ⟨later, response, accepted, spans_kept_iff accepted⟩

/-- The second child's ten minutes end where the first child's do, and are lost. -/
theorem sibling_span_lost :
    ∃ later response,
      sync {} tallyDigest laptopStore "laptop" siblingsRequest (noonPlus 1) = some (later, response) ∧
      ¬ SpansKept later "laptop" siblingsRequest.users := by
  have answered : ((sync {} tallyDigest laptopStore "laptop" siblingsRequest (noonPlus 1)).map
      fun reply => userSpans reply.1.activityIntervals (reply.1.userOf "laptop" "ben")) = some [] := by
    decide
  obtain ⟨⟨later, response⟩, accepted, none⟩ := Option.map_eq_some_iff.mp answered
  refine ⟨later, response, accepted, fun kept => ?_⟩
  have lost : siblingsRequest.users[1]?.map (fun req => (req.username, req.activeSpans)) =
      some ("ben", [⟨noonPlus (-600), noonPlus 0, 600⟩]) := by
    decide
  obtain ⟨req, listed, same⟩ := Option.map_eq_some_iff.mp lost
  obtain ⟨name, spans⟩ := Prod.mk.inj same
  have covered := kept req (List.mem_of_getElem? listed) ⟨noonPlus (-600), noonPlus 0, 600⟩
    (by rw [spans]; exact List.mem_singleton_self _) (by decide)
  rw [name, none] at covered
  obtain ⟨other, member, _⟩ := covered (noonPlus (-600)) (le_refl _) (by decide)
  cases member

end TimekprProof
