import TimekprHub.Core.Digest
import TimekprHub.Hub.Household

namespace TimekprModel

universe u

variable {σ : Type u}

def ActivityInterval.OnItsDay (tz : ZoneInfo) (row : ActivityInterval) : Prop :=
  ∀ t, row.start ≤ t → t < row.stop → localDate t tz = row.day

def FiledOnTheirDay (settings : Settings) (house : Household) : Prop :=
  ∀ row ∈ house.store.activityIntervals, row.OnItsDay settings.tz

/-- Every span a committed sync is the first to bring lies in the day the hub's clock shows. -/
def NewSpansToday (settings : Settings) (digest : PolicyPayload → String) (house : Household) :
    HouseholdAction σ → Prop
  | .administer _ _ => True
  | .tick tick =>
    let today := (canonicalStamp tick.hubNow settings.tz).day
    let reqs := (tick.request (house.agents tick.deviceId)).users
    house.committed settings digest tick ≠ none →
      ∀ row, house.store.ReportedFree tick.deviceId today reqs row →
        ∀ t, row.start ≤ t → t < row.stop → localDate t settings.tz = today

end TimekprModel

namespace TimekprProof

open TimekprModel

universe u

variable {σ : Type u}

theorem step_filed_iff (settings : Settings) (digest : PolicyPayload → String) (house : Household)
    (action : HouseholdAction σ) :
    FiledOnTheirDay settings (house.step settings digest action) ↔
      FiledOnTheirDay settings house ∧ NewSpansToday settings digest house action := by
  cases action with
  | administer users devices => exact (and_iff_left trivial).symm
  | tick tick =>
    rcases step_store settings digest house tick with ⟨same, refused⟩ | ⟨response, answer, recorded⟩
    · have idle : NewSpansToday settings digest house (.tick tick) := fun commits => absurd refused commits
      rw [FiledOnTheirDay, same]
      exact (and_iff_left idle).symm
    · constructor
      · intro filed
        constructor
        · intro row stored
          exact filed row ((recorded_rows recorded row).mpr (.inl stored))
        · intro _ row free
          have placed := filed row ((recorded_rows recorded row).mpr (.inr free))
          rwa [ActivityInterval.OnItsDay, reportedFree_day free] at placed
      · rintro ⟨filed, today⟩ row stored
        rcases (recorded_rows recorded row).mp stored with old | free
        · exact filed row old
        · have committed : house.committed settings digest tick ≠ none := by
            rw [answer]
            exact Option.some_ne_none _
          rw [ActivityInterval.OnItsDay, reportedFree_day free]
          exact today committed row free

/-- From a household whose rows are on their days, every run keeps them there exactly when each
    committed sync brings only spans of the hub's current day. -/
theorem filed_on_day_iff (settings : Settings) (digest : PolicyPayload → String) (house : Household)
    (actions : List (HouseholdAction σ)) (filed : FiledOnTheirDay settings house) :
    FiledOnTheirDay settings (Runs.run (Household.step settings digest) house actions) ↔
      Runs.StepsMeet (Household.step settings digest) (NewSpansToday settings digest) house actions := by
  rw [Runs.run_invariant_iff (step_filed_iff settings digest)]
  exact and_iff_right filed

theorem laptop_filed : FiledOnTheirDay {} laptopHousehold :=
  fun _ member => absurd member List.not_mem_nil

/-- Twenty minutes without the hub at noon. -/
def noonGap : List (HouseholdAction TimekprConfig) :=
  [.tick (laptopTick (noonPlus 0) (noonPlus 1) .lost), .tick (laptopTick (noonPlus 1200) (noonPlus 1201) .heard)]

theorem noon_gap_filed : FiledOnTheirDay {} (Runs.run (Household.step {} tallyDigest) laptopHousehold noonGap) := by
  have stored : (Runs.run (Household.step {} tallyDigest) laptopHousehold noonGap).store.activityIntervals =
      [⟨"kid", "laptop", Date.ofYmd 2027 1 1, noonPlus (-600), noonPlus 0, noonPlus 0⟩] := by
    decide
  intro row member
  rw [stored] at member
  rw [List.mem_singleton.mp member]
  intro t begins ends
  have today : ∀ t : Int, 1798804200000000 ≤ t → t < 1798804800000000 → t / 86400000000 = 20819 := by omega
  show (t + 0) / (86400 * second) + epochOrdinal = Date.ofYmd 2027 1 1
  rw [Int.add_zero, show (86400 * second : Int) = 86400000000 by decide, today t begins ends]
  decide

theorem filed_on_day_iff_gap :
    Runs.StepsMeet (Household.step {} tallyDigest) (NewSpansToday {} tallyDigest) laptopHousehold noonGap :=
  (filed_on_day_iff {} tallyDigest laptopHousehold noonGap laptop_filed).mp noon_gap_filed

/-- Ten minutes before midnight the hub cannot be reached; ten minutes after it, the buffered span is
    filed under the new day. -/
theorem buffered_span_filed_a_day_late :
    ¬ FiledOnTheirDay {} (Runs.run (Household.step {} tallyDigest) laptopHousehold
      [.tick (laptopTick (noonPlus 42600) (noonPlus 42601) .lost),
        .tick (laptopTick (noonPlus 43800) (noonPlus 43801) .heard)]) := by
  have stored : (Runs.run (Household.step {} tallyDigest) laptopHousehold
      [.tick (laptopTick (noonPlus 42600) (noonPlus 42601) .lost),
        .tick (laptopTick (noonPlus 43800) (noonPlus 43801) .heard)]).store.activityIntervals =
      [⟨"kid", "laptop", Date.ofYmd 2027 1 2, noonPlus 42000, noonPlus 42600, noonPlus 42600⟩] := by
    decide
  intro filed
  have placed := filed _ (by rw [stored]; exact List.mem_singleton_self _)
  have evening := placed (noonPlus 42000) (le_refl _) (by decide)
  exact absurd evening (by decide)

end TimekprProof
