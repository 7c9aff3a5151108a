import Notetaker.SecretFlow
import Notetaker.Watchdog
import Notetaker.StorageProbe
import Notetaker.CallBots
import Notetaker.BotProcess
import Notetaker.BrowserUse
import Notetaker.BotMain
import Notetaker.BotConsent
import Notetaker.ApiSystem
import Notetaker.TransitionSystem
import Notetaker.JsonText
import Notetaker.CallStatus
import Notetaker.JsonRoundTrip
import Notetaker.PythonUuid
import Notetaker.CallRecord
import Notetaker.CallService
import Notetaker.RowTransactions
import Notetaker.CallTransitions
import Notetaker.Admission
import Notetaker.AdmissionSafety
import Notetaker.BotContainers
import Notetaker.RunnerTasks
import Notetaker.RunnerInvariant
import Notetaker.WebhookDispatch
import Notetaker.StoredAudio
import Notetaker.BotEnvironment
import Notetaker.StaleCutoff
import Notetaker.PollingLoop
import Notetaker.BotLifecycle
import Notetaker.MeetLoop
import Notetaker.TextRegex
import Notetaker.BotPage
import Notetaker.MeetStates
import Notetaker.ZoomLoop
import Notetaker.ZoomStates
import Notetaker.RecordingEnds
import Notetaker.TerminalNotices
import Notetaker.Deepgram
import Notetaker.MaximalRuns
import Notetaker.TranscriptParsing
import Notetaker.WebhookDelivery
import Notetaker.WebhookFreshness
import Notetaker.RunnerClock
import Notetaker.CallWrites
import Notetaker.WorkerSystem
import Notetaker.CallWellFormed
import Notetaker.WebhookSnapshot
import Notetaker.Retention
import Notetaker.RetentionPolicy
import Notetaker.RetentionRuns
import Notetaker.SecondRunner
import Notetaker.SecondRunnerSafety
import Notetaker.LifecycleMachine
import Notetaker.BotResult
import Notetaker.OutcomeAgreement
import Notetaker.BotLog
import Notetaker.StreamOutput
import Notetaker.ResultLine
import Notetaker.WordSegments
import Notetaker.WebhookContract
import Notetaker.TranscriptionService
import Notetaker.Interleaving
import Notetaker.PythonBytes
import Notetaker.SpawnedBot
import Notetaker.ExitHandling
import Notetaker.LoopDecisions
import Notetaker.LoopHistory
import Notetaker.JustifiedOutcomes
import Notetaker.EmptyRoom
import Notetaker.BestEffort
import Notetaker.EventMonitor
import Notetaker.JoinFlow
import Notetaker.RecorderUse
import Notetaker.RecordingFinalised
import Notetaker.LoopTermination
import Notetaker.RecordingSignal
import Notetaker.Effectful
import Notetaker.SweepIsolation
import Notetaker.ProfileCopy
import Notetaker.FailureReason
import Notetaker.ChatAnnouncement
import Notetaker.RegexSpans
import Notetaker.ZoomCounts
import Notetaker.AloneSignals
import Notetaker.FloatRounding
import Notetaker.FloatRepr
import Notetaker.JsonTree
import Notetaker.JsonFloats
import Notetaker.WebhookBody
import Notetaker.CreateRequest
