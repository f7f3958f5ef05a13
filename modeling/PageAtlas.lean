import PageAtlas.Main
import PageAtlas.Graph.Store
import PageAtlas.Json.Reader
import PageAtlas.Log.Template
import PageAtlas.Timing
import PageAtlas.Proofs.Resolution.Outcome
import PageAtlas.Proofs.Resolution.Related
import PageAtlas.Proofs.Locator.Scan
import PageAtlas.Proofs.Locator.Trail
import PageAtlas.Proofs.Resolution.Agreement
import PageAtlas.Proofs.Locator.Evaluation
import PageAtlas.Proofs.Resolution.TextQuery
import PageAtlas.Proofs.Path.Token
import PageAtlas.Proofs.Path.HopText
import PageAtlas.Proofs.Path.RoundTrip
import PageAtlas.Proofs.Graph.Check
import PageAtlas.Proofs.Resolution.Checked
import PageAtlas.Proofs.Definition.Page
import PageAtlas.Proofs.Graph.Store
import PageAtlas.Proofs.Resolution.Exactness
import PageAtlas.Proofs.Locator.Composed
import PageAtlas.Proofs.Resolution.Cardinality
import PageAtlas.Proofs.Resolution.Strict
import PageAtlas.Proofs.Definition.Accepted
import PageAtlas.Proofs.Locator.Changing
import PageAtlas.Proofs.Definition.Address
import PageAtlas.Proofs.Path.Continued
import PageAtlas.Proofs.Resolution.FirstFailure
import PageAtlas.Proofs.Locator.Reading
import PageAtlas.Proofs.Resolution.Reading
import PageAtlas.Proofs.Resolution.Narrowing
import PageAtlas.Proofs.Resolution.Mounting
import PageAtlas.Proofs.Definition.Language
import PageAtlas.Proofs.Definition.Built
import PageAtlas.Proofs.Command.Visit
import PageAtlas.Proofs.Definition.Selectors
import PageAtlas.Proofs.Command.Vouched
import PageAtlas.Proofs.Path.Decomposition
import PageAtlas.Proofs.Path.Grammar
import PageAtlas.Proofs.Log.Loggers
import PageAtlas.Proofs.Log.Traced
import PageAtlas.Proofs.Command.Resolve
import PageAtlas.Proofs.Text.Pattern
import PageAtlas.Proofs.Definition.Substitution
import PageAtlas.Proofs.Definition.Hint
import PageAtlas.Proofs.Command.Parse
import PageAtlas.Proofs.Graph.Registration
import PageAtlas.Proofs.Definition.Faithful
import PageAtlas.Proofs.Definition.Loaded
import PageAtlas.Proofs.Command.Element
import PageAtlas.Proofs.Definition.Reported
import PageAtlas.Proofs.Resolution.Position
import PageAtlas.Proofs.Resolution.Printed
import PageAtlas.Proofs.Log.Record
import PageAtlas.Proofs.Command.Described
import PageAtlas.Proofs.Settings.Decided
import PageAtlas.Proofs.Log.Setup
