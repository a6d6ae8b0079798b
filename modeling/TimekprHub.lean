import TimekprHub.Core.Convergence
import TimekprHub.Timekpr.FakeDaemon
import TimekprHub.Core.PlanEffect
import TimekprHub.Core.Quiescence
import TimekprHub.Pool.Overshoot
import TimekprHub.Core.EffectivePolicy
import TimekprHub.Agent.Enforcer
import TimekprHub.Agent.PolicyPush
import TimekprHub.Agent.PushPlan
import TimekprHub.Timekpr.Config
import TimekprHub.Agent.PushEffect
import TimekprHub.Agent.WeekdayReadback
import TimekprHub.Agent.State
import TimekprHub.Agent.Tick
import TimekprHub.Agent.TickFrame
import TimekprHub.Agent.QuietTick
import TimekprHub.Agent.Relinquish
import TimekprHub.Hub.Policy
import TimekprHub.Library.RevisionGate
import TimekprHub.Hub.PolicyGate
import TimekprHub.Hub.Aggregate
import TimekprHub.Hub.Sync
import TimekprHub.Hub.SyncRows
import TimekprHub.Hub.SpanLoss
import TimekprHub.Hub.Household
import TimekprHub.Hub.SpanDays
import TimekprHub.Hub.DayCharge
import TimekprHub.Timekpr.CreditBound
import TimekprHub.Agent.OfflineEstimate
import TimekprHub.Agent.PushConverge
import TimekprHub.Hub.Counters
import TimekprHub.Hub.Accounting
import TimekprHub.Agent.DraftUser
import TimekprHub.Library.GroupedSum
import TimekprHub.Hub.SpanBudget
import TimekprHub.Hub.BurnOnce
import TimekprHub.Hub.AdminDeletion
import TimekprHub.Hub.UserLocks
import TimekprHub.Agent.PushSettled
import TimekprHub.Agent.TickCalls
import TimekprHub.Hub.CrashRestart
import TimekprHub.Hub.PooledWindows
import TimekprHub.Hub.FirstSetup
import TimekprHub.Hub.PasswordChange
import TimekprHub.Library.Relational
import TimekprHub.Hub.AggregateQueries
import TimekprHub.Hub.LimitQueries
import TimekprHub.Hub.Summaries
import TimekprHub.Hub.EnrollSeed
import TimekprHub.Hub.PolicyForm
import TimekprHub.Hub.ToldHours
import TimekprHub.Hub.EditorDays
import TimekprHub.Hub.PolicyVersions
import TimekprHub.Library.PyJson
import TimekprHub.Agent.AnswerReading
import TimekprHub.Agent.HubClient
import TimekprHub.Agent.UncheckedTick
import TimekprHub.Agent.AnswerSafety
import TimekprHub.Agent.HubAnswers
import TimekprHub.Core.IntervalRecords
import TimekprHub.Core.MergedHours
import TimekprHub.Hub.EditorHours
import TimekprHub.Hub.EditorRoundTrip
import TimekprHub.Hub.EditorActivities
import TimekprHub.Hub.FormErrors
import TimekprHub.Agent.PushFields
import TimekprHub.Hub.EffectiveHours
import TimekprHub.Agent.PartialPush
import TimekprHub.Agent.StuckSetter
import TimekprHub.Agent.SpanOrder
import TimekprHub.Agent.DayCounter
import TimekprHub.Core.Timestamps
import TimekprHub.Hub.MalformedReports
import TimekprHub.Core.IntervalUnion
import TimekprHub.Core.HoursInverse
import TimekprHub.Core.CalendarWindows
import TimekprHub.Agent.OutageBuffer
import TimekprHub.Hub.PolicyLog
import TimekprHub.Hub.EnrollCodes
import TimekprHub.Library.ClaimOnce
import TimekprHub.Agent.EnvFile
import TimekprHub.Agent.StateFile
import TimekprHub.Hub.DeviceRegistry
import TimekprHub.Hub.DeviceDeletion
import TimekprHub.Library.EventLog
import TimekprHub.Core.DateText
import TimekprHub.Hub.AdminActions
import TimekprHub.Hub.AdminAccess
import TimekprHub.Hub.AuditReplay
import TimekprHub.Hub.AuditLimits
import TimekprHub.Agent.OfflineBudget
