import AdRules.Command.Daemon
import AdRules.Command.Listener
import AdRules.Evaluation.Sketch
import AdRules.Http.Interface
import AdRules.Json.Printer
import AdRules.Main
import AdRules.Proofs.AtMostOnce
import AdRules.Proofs.StoredRules
import AdRules.Timestamp.Iso
import AdRules.Proofs.Counters
import AdRules.Proofs.RuleTurn
import AdRules.Proofs.RulePass
import AdRules.Proofs.SyncCourse
import AdRules.Proofs.Parts
import AdRules.Proofs.Refusals
import AdRules.Proofs.Synchronisation
import AdRules.Proofs.Checks
import AdRules.Proofs.Rechecks
import AdRules.Proofs.NumberLine
import AdRules.Proofs.TriggerMeaning
import AdRules.Proofs.DraftedRules
import AdRules.Proofs.SoundRules
import AdRules.Proofs.StrayHalves
import AdRules.Proofs.Interference
import AdRules.Proofs.Tables
import AdRules.Proofs.RowReading
import AdRules.Proofs.KeptRows
import AdRules.Proofs.CreatedRules
import AdRules.Proofs.Connections
import AdRules.Proofs.Sending
import AdRules.Proofs.Discipline
import AdRules.Proofs.Recording
import AdRules.Proofs.FailedWrites
import AdRules.Proofs.LogConstraints
import AdRules.Proofs.Deletion
import AdRules.Proofs.DamagedConditions
import AdRules.Proofs.TypedRows
import AdRules.Proofs.LoadedRules
import AdRules.Proofs.Assignments
import AdRules.Proofs.RenewedRules
import AdRules.Proofs.PartialUpdates
import AdRules.Proofs.Readings
import AdRules.Proofs.AppendOnly
import AdRules.Proofs.Keeping
import AdRules.Proofs.Callers
import AdRules.Proofs.Requests
import AdRules.Proofs.Applications
import AdRules.Proofs.FiniteMetrics
import AdRules.Proofs.SafeReadings
import AdRules.Proofs.Revalidation
import AdRules.Proofs.TimeOrder
import AdRules.Proofs.CampaignRows
import AdRules.Proofs.LogOrder
import AdRules.Proofs.SingleWrites
import AdRules.Proofs.SchedulerRuns
import AdRules.Proofs.CorruptedRules
import AdRules.Proofs.AnswerStatus
import AdRules.Proofs.NearestDoubles
import AdRules.Proofs.DecimalNotation
import AdRules.Proofs.NumbersInText
import AdRules.Proofs.InsightsReading
import AdRules.Proofs.NegativeFigures
import AdRules.Proofs.MonotoneTriggers
import AdRules.Proofs.UnusableRows
import AdRules.Proofs.DuplicateChecks
import AdRules.Proofs.ShownValues
import AdRules.Proofs.ToolAnswers
import AdRules.Proofs.ToolCalls
import AdRules.Proofs.CycleHistories
import AdRules.Proofs.SyncInterval
import AdRules.Proofs.ApplicationHistories
import AdRules.Proofs.RuleListings
