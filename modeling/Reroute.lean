import Reroute.Main
import Reroute.Proofs.Json.Layout
import Reroute.Proofs.Json.Ascii
import Reroute.Proofs.Json.Joined
import Reroute.Proofs.RuleFile.RoundTrip
import Reroute.Proofs.Disk.Trail
import Reroute.Proofs.Store.Ready
import Reroute.Proofs.Store.Runs
import Reroute.Proofs.Match.Regex
import Reroute.Proofs.Match.FirstMatch
import Reroute.Proofs.Serve.Freshness
import Reroute.Proofs.Match.HostPath
import Reroute.Proofs.Store.Saved
import Reroute.Proofs.Store.Shadows
import Reroute.Proofs.Command.Route
import Reroute.Proofs.Store.Failures
import Reroute.Proofs.Command.Failures
import Reroute.Proofs.Serve.Replacement
import Reroute.Proofs.Serve.Batches
import Reroute.Proofs.Store.Distinct
import Reroute.Proofs.Command.Numbering
import Reroute.Proofs.Rule.Classes
import Reroute.Proofs.Rule.Reasons
import Reroute.Proofs.Rule.Advice
import Reroute.Proofs.Match.Authority
import Reroute.Proofs.Match.Captures
import Reroute.Proofs.Match.Substitution
import Reroute.Proofs.Url.Appended
import Reroute.Proofs.Document.Shown
import Reroute.Proofs.RuleFile.Grammar
import Reroute.Proofs.Json.Canonical
import Reroute.Proofs.Match.Version
import Reroute.Proofs.Text.Utf8
import Reroute.Proofs.Text.Lines
import Reroute.Proofs.Text.Points
import Reroute.Proofs.Command.Rewriting
import Reroute.Proofs.Yaml.Cursor
import Reroute.Proofs.Yaml.Quoted
import Reroute.Proofs.Yaml.Quotes
import Reroute.Proofs.Yaml.Plain
import Reroute.Proofs.Yaml.Scanning
import Reroute.Proofs.Yaml.Entries
import Reroute.Proofs.Yaml.Written
import Reroute.Proofs.Yaml.Composing
import Reroute.Proofs.Yaml.Building
import Reroute.Proofs.Store.Exported
import Reroute.Proofs.Match.OwnSource
import Reroute.Proofs.Store.Again
import Reroute.Proofs.Serve.Probes
import Reroute.Proofs.Panel.Tags
import Reroute.Proofs.Match.Reading
