import ReleaseNotes.GitHub.Catalogue
import ReleaseNotes.Main
import ReleaseNotes.Models
import ReleaseNotes.Proofs.Dialogue.Abort
import ReleaseNotes.Proofs.Dialogue.Cap
import ReleaseNotes.Proofs.Dialogue.History
import ReleaseNotes.Proofs.Dialogue.Scripts
import ReleaseNotes.Proofs.Version.Raising
import ReleaseNotes.Server.Serve
import ReleaseNotes.Proofs.Release.Succession
import ReleaseNotes.Proofs.Json.Reading
import ReleaseNotes.Proofs.Json.RoundTrip
import ReleaseNotes.Proofs.Tool.Written
import ReleaseNotes.Proofs.Release.Monotony
import ReleaseNotes.Proofs.Server.Releases
import ReleaseNotes.Proofs.LanguageModel.Replies
import ReleaseNotes.Proofs.Server.Changelogs
import ReleaseNotes.Json.Layout
import ReleaseNotes.Proofs.Release.RoundTrip
import ReleaseNotes.Proofs.CommandLine.Outcomes
import ReleaseNotes.Proofs.GitHub.Reach
import ReleaseNotes.Proofs.Dialogue.Log
import ReleaseNotes.Proofs.Tool.Scanning
import ReleaseNotes.Proofs.Version.Least
import ReleaseNotes.Proofs.Retry.Law
import ReleaseNotes.Proofs.Release.Placement
import ReleaseNotes.Proofs.Impact.Summing
import ReleaseNotes.Proofs.GitHub.Payloads
import ReleaseNotes.Proofs.Tool.Outcomes
import ReleaseNotes.Proofs.Tool.Patches
import ReleaseNotes.Proofs.Prompt.Grouping
import ReleaseNotes.Proofs.Settings.Fields
import ReleaseNotes.Proofs.Yaml.Depth
import ReleaseNotes.Proofs.Settings.Outcomes
import ReleaseNotes.Proofs.Tool.Registering
import ReleaseNotes.Proofs.Text.Matching
import ReleaseNotes.Proofs.Yaml.Merging
import ReleaseNotes.Proofs.Yaml.Scalars
