import ToggleSync.Backup.Files
import ToggleSync.Drill
import ToggleSync.Http.Session
import ToggleSync.Stub
import ToggleSync.Wire.Report
import ToggleSync.Proofs.PollingRun
import ToggleSync.Proofs.Moves
import ToggleSync.Proofs.FetchLoops
import ToggleSync.Proofs.CoordinatorSteps
import ToggleSync.Proofs.ActivePath
import ToggleSync.Proofs.JsonText
import ToggleSync.Proofs.StateText
import ToggleSync.Proofs.TagCoherence
import ToggleSync.Proofs.FailureWindow
import ToggleSync.Proofs.UsageCounts
import ToggleSync.Proofs.StreamingRun
import ToggleSync.Proofs.ReadySignal
import ToggleSync.Proofs.SignalMoves
import ToggleSync.Proofs.Readiness
import ToggleSync.Proofs.LastChange
import ToggleSync.Proofs.BackupPaths
import ToggleSync.Proofs.StoredTag
import ToggleSync.Proofs.RestoredState
import ToggleSync.Proofs.TaskRuns
import ToggleSync.Proofs.TaskHistory
import ToggleSync.Proofs.TaskLaw
import ToggleSync.Proofs.TaskOrder
import ToggleSync.Proofs.TaskTurns
import ToggleSync.Proofs.StreamBrackets
import ToggleSync.Proofs.FirstQuestion
import ToggleSync.Proofs.CallsUnderWay
import ToggleSync.Proofs.CallMoves
import ToggleSync.Proofs.ReadyOnce
import ToggleSync.Proofs.Disposal
import ToggleSync.Proofs.BucketShares
import ToggleSync.Proofs.FailedFetches
import ToggleSync.Proofs.ExactReading
import ToggleSync.Proofs.UnknownMembers
import ToggleSync.Proofs.InstantText
import ToggleSync.Proofs.WireText
import ToggleSync.Proofs.ToggleOrder
import ToggleSync.Proofs.StreamAttempts
import ToggleSync.Proofs.StreamCourse
import ToggleSync.Proofs.StartFailures
import ToggleSync.Proofs.LoadedBackup
import ToggleSync.Proofs.TasksAside
import ToggleSync.Proofs.TaskReplacement
import ToggleSync.Proofs.FailedStart
import ToggleSync.Proofs.VolumePlaces
import ToggleSync.Proofs.MissingDirectories
import ToggleSync.Proofs.FileSteps
import ToggleSync.Proofs.FileReplacement
import ToggleSync.Proofs.ReachedVariants
import ToggleSync.Proofs.StickyVariants
import ToggleSync.Proofs.SortedEntries
import ToggleSync.Proofs.Fingerprints
import ToggleSync.Proofs.BuiltContexts
import ToggleSync.Proofs.ReconnectDelay
import ToggleSync.Proofs.ClientReads
import ToggleSync.Proofs.StubAnswers
import ToggleSync.Proofs.PathParts
import ToggleSync.Proofs.StorageDirectory
