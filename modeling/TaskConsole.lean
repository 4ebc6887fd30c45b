import TaskConsole.Main
import TaskConsole.Transcript
import TaskConsole.Proofs.Bookkeeping
import TaskConsole.Proofs.TaskCodec
import TaskConsole.Proofs.Draining
import TaskConsole.Proofs.Deferral
import TaskConsole.Proofs.Answers
import TaskConsole.Proofs.Pinning
import TaskConsole.Proofs.SavedRecords
import TaskConsole.Proofs.FollowUps
import TaskConsole.Proofs.Succession
import TaskConsole.Proofs.Quiescence
import TaskConsole.Dashboard.Rounds
import TaskConsole.Proofs.Screens
import TaskConsole.Proofs.JsonGrammar
import TaskConsole.Proofs.Noise
import TaskConsole.Proofs.Selection
import TaskConsole.Proofs.Endpoints
import TaskConsole.Proofs.KeyPresses
import TaskConsole.Proofs.Listings
import TaskConsole.Proofs.Verdicts
import TaskConsole.Proofs.TaskLists
import TaskConsole.Proofs.Toggles
import TaskConsole.Proofs.Blanks
import TaskConsole.Proofs.RepairedText
import TaskConsole.Proofs.ErrorTexts
import TaskConsole.Proofs.Slashes
import TaskConsole.Proofs.SilentSenders
import TaskConsole.Proofs.TaskFields
import TaskConsole.Proofs.BlankMessages
import TaskConsole.Proofs.NumericFields
import TaskConsole.Proofs.AnnouncedPorts
import TaskConsole.Proofs.ResolvedSettings
import TaskConsole.Proofs.ListRows
import TaskConsole.Proofs.Scrolling
import TaskConsole.Proofs.ZoneCuts
