import DependencyAtlas.Main
import DependencyAtlas.Stage.Ensemble
import DependencyAtlas.Proofs.Actions
import DependencyAtlas.Proofs.Stage.Outside
import DependencyAtlas.Proofs.Session.Requests
import DependencyAtlas.Proofs.Session.Running
import DependencyAtlas.Proofs.Session.SingleFlight
import DependencyAtlas.Proofs.Stage.Holding
import DependencyAtlas.Proofs.Stage.OneLive
import DependencyAtlas.Proofs.Graph.Documents
import DependencyAtlas.Proofs.Graph.Refusals
import DependencyAtlas.Proofs.Session.Reports
import DependencyAtlas.Proofs.Json.Proper
import DependencyAtlas.Proofs.Value.Text
import DependencyAtlas.Proofs.Graph.RoundTrip
import DependencyAtlas.Proofs.Stage.Rendering
import DependencyAtlas.Proofs.Layout.Faults
import DependencyAtlas.Proofs.Stage.Shown
import DependencyAtlas.Proofs.Stage.FailedRender
import DependencyAtlas.Proofs.Layout.Packing
import DependencyAtlas.Proofs.Session.Sharing
import DependencyAtlas.Proofs.Session.Verbose
import DependencyAtlas.Proofs.Settings.Files
import DependencyAtlas.Proofs.Stage.Views
import DependencyAtlas.Proofs.Console.Markup
import DependencyAtlas.Proofs.Session.Printing
import DependencyAtlas.Proofs.Console.Tags
import DependencyAtlas.Proofs.Scan.Replies
import DependencyAtlas.Proofs.Session.Submitting
import DependencyAtlas.Proofs.Session.Outcome
import DependencyAtlas.Proofs.Decimal.Negation
import DependencyAtlas.Proofs.Stage.Success
import DependencyAtlas.Proofs.Stage.Highlight
import DependencyAtlas.Proofs.Stage.Built
import DependencyAtlas.Proofs.Stage.Reopening
import DependencyAtlas.Proofs.Console.Spinning
import DependencyAtlas.Proofs.Session.Hearing
import DependencyAtlas.Proofs.Session.Telling
import DependencyAtlas.Proofs.Files.Disk
import DependencyAtlas.Proofs.Session.Paging
import DependencyAtlas.Proofs.Session.Exporting
import DependencyAtlas.Proofs.Session.Commands
import DependencyAtlas.Proofs.Program.Lines
import DependencyAtlas.Proofs.Program.Conversation
import DependencyAtlas.Proofs.Layout.Independence
import DependencyAtlas.Proofs.Stage.FailedRedraw
import DependencyAtlas.Proofs.Stage.Seeding
import DependencyAtlas.Proofs.Layout.Frames
import DependencyAtlas.Proofs.Drawing.Extents
import DependencyAtlas.Proofs.Layout.Separation
import DependencyAtlas.Proofs.Layout.Displacement
import DependencyAtlas.Proofs.Status
import DependencyAtlas.Proofs.Settings.Shielding
import DependencyAtlas.Proofs.Session.Timeouts
import DependencyAtlas.Proofs.Stage.Taps
import DependencyAtlas.Proofs.Stage.Whole
import DependencyAtlas.Proofs.Session.Reached
import DependencyAtlas.Proofs.Session.Selecting
import DependencyAtlas.Proofs.Session.Reading
import DependencyAtlas.Proofs.Text.Trim
import DependencyAtlas.Proofs.Files.Ways
import DependencyAtlas.Proofs.Files.Only
import DependencyAtlas.Proofs.Session.Overlooking
import DependencyAtlas.Proofs.Session.Sight
import DependencyAtlas.Proofs.Session.Sound
import DependencyAtlas.Proofs.Session.Saving
import DependencyAtlas.Proofs.Session.Apart
import DependencyAtlas.Proofs.Session.Turns
import DependencyAtlas.Proofs.Failing
import DependencyAtlas.Proofs.Stage.Failing
import DependencyAtlas.Proofs.Session.Serious
import DependencyAtlas.Proofs.Session.Opening
import DependencyAtlas.Proofs.Program.FollowUps
import DependencyAtlas.Proofs.Program.FirstScan
import DependencyAtlas.Proofs.Program.Scanning
