import RelDirectory.Backend
import RelDirectory.Binary64
import RelDirectory.Binary64.Shortest
import RelDirectory.Catalog
import RelDirectory.Catalog.Document
import RelDirectory.Coercion
import RelDirectory.Command
import RelDirectory.Command.Line
import RelDirectory.Command.Options
import RelDirectory.Directory
import RelDirectory.Directory.Configuration
import RelDirectory.Directory.Search
import RelDirectory.Dn
import RelDirectory.Failure
import RelDirectory.Files
import RelDirectory.Filter
import RelDirectory.Identifier
import RelDirectory.Json
import RelDirectory.Json.Decode
import RelDirectory.Json.Document
import RelDirectory.Json.Number
import RelDirectory.Json.Parser
import RelDirectory.Json.Printer
import RelDirectory.Keyed
import RelDirectory.Ldif.Apply
import RelDirectory.Ldif.Reader
import RelDirectory.Ldif.Record
import RelDirectory.Log
import RelDirectory.Main
import RelDirectory.Proofs.Effect
import RelDirectory.Proofs.Keyed
import RelDirectory.Proofs.Memory
import RelDirectory.Server
import RelDirectory.Server.Decode
import RelDirectory.Settings
import RelDirectory.Settings.Document
import RelDirectory.Settings.Yaml
import RelDirectory.Statement
import RelDirectory.Step
import RelDirectory.Store
import RelDirectory.Store.Like
import RelDirectory.Store.Memory
import RelDirectory.Store.Rehearsal
import RelDirectory.Store.Session
import RelDirectory.Table
import RelDirectory.Text.Base64
import RelDirectory.Text.Blank
import RelDirectory.Text.Calendar
import RelDirectory.Text.Case
import RelDirectory.Text.Case.Table
import RelDirectory.Text.Digits
import RelDirectory.Text.Quoted
import RelDirectory.Text.Quoted.Table
import RelDirectory.Text.Split
import RelDirectory.Text.Utf8
import RelDirectory.Timestamp
import RelDirectory.Value
import RelDirectory.Word64
import RelDirectory.Yaml.Cursor
import RelDirectory.Yaml.Node
import RelDirectory.Yaml.Scalar
import RelDirectory.Yaml.Token
import RelDirectory.Proofs.Locator
import RelDirectory.Proofs.Ldif.Outcome
import RelDirectory.Proofs.Growth
import RelDirectory.Proofs.Ldif.Writes
import RelDirectory.Proofs.Ldif.Creation
import RelDirectory.Proofs.Ldif.Change
import RelDirectory.Proofs.Ldif.Edit
import RelDirectory.Proofs.Ldif.Rerun
import RelDirectory.Proofs.Ldif.Run
import RelDirectory.Proofs.Ldif.Reapply
import RelDirectory.Proofs.DistinctDns
import RelDirectory.Proofs.Calls
import RelDirectory.Proofs.Like
import RelDirectory.Proofs.Ldif.Absent
import RelDirectory.Proofs.Ldif.Values
import RelDirectory.Proofs.Ldif.Reading
import RelDirectory.Proofs.Ldif.Blocks
import RelDirectory.Proofs.Lookups
import RelDirectory.Proofs.TakenDns
import RelDirectory.Proofs.Endings
import RelDirectory.Proofs.Search
import RelDirectory.Proofs.Ldif.Frame
import RelDirectory.Proofs.Base64
import RelDirectory.Proofs.Lines
import RelDirectory.Proofs.Ldif.Writing
import RelDirectory.Proofs.Ldif.Layout
import RelDirectory.Proofs.Tokens
import RelDirectory.Proofs.Requests
import RelDirectory.Proofs.Ldif.Along
import RelDirectory.Proofs.Ldif.Identity
import RelDirectory.Proofs.Ldif.Containers
import RelDirectory.Proofs.Dn.Components
import RelDirectory.Proofs.Dn.Display
import RelDirectory.Proofs.Dn.Quoting
import RelDirectory.Proofs.Ldif.Import
import RelDirectory.Proofs.Ldif.Independent
import RelDirectory.Proofs.FirstMatch
import RelDirectory.Proofs.Conversion
import RelDirectory.Proofs.Reflection
import RelDirectory.Proofs.Ldif.Congruence
import RelDirectory.Proofs.Undiscovered
import RelDirectory.Proofs.Cache
import RelDirectory.Proofs.Attributes
import RelDirectory.Proofs.Ldif.NewRows
import RelDirectory.Proofs.Ldif.LetterCase
import RelDirectory.Proofs.Ldif.Union
import RelDirectory.Proofs.Grammar
import RelDirectory.Proofs.UnknownColumns
import RelDirectory.Proofs.Ldif.Grouping
import RelDirectory.Proofs.Ldif.ObjectClasses
import RelDirectory.Proofs.Ldif.Boundaries
import RelDirectory.Proofs.LatestDefinition
import RelDirectory.Proofs.GeneralizedTime
import RelDirectory.Proofs.Replies
import RelDirectory.Proofs.Moments
import RelDirectory.Proofs.Json.Scalars
import RelDirectory.Proofs.Json.Reading
import RelDirectory.Proofs.Json.Documents
import RelDirectory.Proofs.AllowedClients
import RelDirectory.Proofs.ScriptProperties
import RelDirectory.Proofs.AuthDocument
import RelDirectory.Proofs.WholeColumns
import RelDirectory.Proofs.KeptNames
