import TimekprHub.Core.Policy

namespace TimekprModel

def unrestrictedWireIntervals : List AllowedHourInterval :=
  (intervalsToHours unrestricted).filterMap AllowedHourInterval.ofRecord?

/-- A day that is absent or empty is filled in as unrestricted. -/
def standingHours (allowedHours : AllowedHoursMap) (day : Weekday) : List AllowedHourInterval :=
  match allowedHours.get? day.token with
  | none | some [] => unrestrictedWireIntervals
  | some intervals => intervals

def materializeAllowedHours (allowedHours : AllowedHoursMap) : AllowedHoursMap where
  entries := weekdayTokens.map fun day => (day.token, standingHours allowedHours day)
  nodup := by
    rw [List.map_map]
    exact List.Nodup.map Weekday.token_injective (by decide)

/-- An override for a day the user may not log in at all never takes effect. -/
def withDayHourOverride (payload : PolicyPayload) (weekday : Weekday)
    (intervals : List AllowedHourInterval) : PolicyPayload :=
  let materialized := materializeAllowedHours payload.allowedHours
  let days := if payload.allowedWeekdays = [] then weekdayTokens else payload.allowedWeekdays
  { payload with
    allowedHours := if weekday ∈ days then materialized.set weekday.token intervals else materialized }

/-- The version and the digest of the whole payload. `digest` stands for the eight bytes of BLAKE2s
    over the payload's canonical JSON. -/
def policyRevision (digest : PolicyPayload → String) (payload : PolicyPayload) : String :=
  toString payload.version ++ "-" ++ digest payload

theorem policyRevision_ne_empty (digest : PolicyPayload → String) (payload : PolicyPayload) :
    policyRevision digest payload ≠ "" := by
  intro empty
  have chars := congrArg String.toList empty
  simp [policyRevision] at chars

theorem get?_materialize (allowedHours : AllowedHoursMap) (day : Weekday) :
    (materializeAllowedHours allowedHours).get? day.token = some (standingHours allowedHours day) := by
  rw [Dict.get?_eq_some]
  exact List.mem_map_of_mem day.mem_tokens

end TimekprModel
