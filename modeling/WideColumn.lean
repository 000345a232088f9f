import WideColumn.FileTree
import WideColumn.Layout.Index
import WideColumn.Layout.Table
import WideColumn.Layout.UserType
import WideColumn.Overrides.OfToml
import WideColumn.Version
import WideColumn.Proofs.Attempt
import WideColumn.Proofs.Identifier.Spelling
import WideColumn.Proofs.Identifier.Written
import WideColumn.Proofs.Identifier.Switching
import WideColumn.Proofs.Text.Words
import WideColumn.Proofs.Text.SnakeCase
import WideColumn.Proofs.Identifier.TypeNames
import WideColumn.Proofs.Registry.Indexes
import WideColumn.Proofs.Registry.Visit
import WideColumn.Proofs.Registry.Sound
import WideColumn.Proofs.Registry.Reachable
import WideColumn.Proofs.Registry.Faults
import WideColumn.Proofs.Registry.Success
import WideColumn.Proofs.Resolution.Structure
import WideColumn.Proofs.Resolution.Shapes
import WideColumn.Proofs.Resolution.Nesting
import WideColumn.Proofs.Registry.Lookup
import WideColumn.Proofs.Registry.Roots
import WideColumn.Proofs.Layout.Embedding
import WideColumn.Proofs.Layout.Agreement
import WideColumn.Proofs.Layout.Stability
import WideColumn.Proofs.Layout.RootOrder
import WideColumn.Proofs.Layout.Flattening
import WideColumn.Proofs.Layout.Refusal
import WideColumn.Proofs.Layout.Collecting
import WideColumn.Proofs.Layout.Targets
import WideColumn.Proofs.Registry.Revisions
import WideColumn.Proofs.Registry.Verified
import WideColumn.Proofs.Layout.IndexColumns
import WideColumn.Proofs.Resolution.Modes
import WideColumn.Proofs.Resolution.Stores
import WideColumn.Proofs.Resolution.Elements
import WideColumn.Proofs.Registry.Reseeding
import WideColumn.Proofs.Registry.Redescription
import WideColumn.Proofs.Registry.Stopping
import WideColumn.Proofs.Registry.Handles
import WideColumn.Proofs.Layout.Mentions
import WideColumn.Proofs.Layout.KeyColumns
import WideColumn.Proofs.Layout.KeyScalars
import WideColumn.Proofs.Registry.Quoting
import WideColumn.Proofs.Layout.Fields
import WideColumn.Proofs.Layout.ColumnTexts
import WideColumn.Proofs.Layout.Stores
import WideColumn.Proofs.Registry.Commuting
import WideColumn.Proofs.Registry.Repeating
import WideColumn.Proofs.Registry.Unquoting
import WideColumn.Proofs.Registry.Walk
import WideColumn.Proofs.Registry.Questions
import WideColumn.Proofs.Registry.Ending
import WideColumn.Proofs.Resolution.BareTypes
import WideColumn.Proofs.Resolution.Fallback
import WideColumn.Proofs.DataType.Written
import WideColumn.Proofs.DataType.Freezing
