import Schemata.Command.Run
import Schemata.Document.Json.Reader
import Schemata.Files.Tree
import Schemata.Main
import Schemata.Proofs.NameMap
import Schemata.Proofs.Order
import Schemata.Proofs.Success
import Schemata.Proofs.Naming.Abbreviation
import Schemata.Proofs.Naming.Separator
import Schemata.Proofs.Naming.Shape
import Schemata.Proofs.Naming.Collision
import Schemata.Proofs.Naming.Wordless
import Schemata.Proofs.ModelTables
import Schemata.Proofs.Compilable
import Schemata.Proofs.RelationLowering
import Schemata.Proofs.Step
import Schemata.Proofs.Pieces
import Schemata.Proofs.Compilation
import Schemata.Proofs.Text.Decoding
import Schemata.Proofs.Emission
import Schemata.Proofs.ReferentialIntegrity
import Schemata.Proofs.EntityView
import Schemata.Proofs.JoinSharing
import Schemata.Proofs.PathResolution
import Schemata.Proofs.ViewScope
import Schemata.Proofs.Text.ByteOrder
import Schemata.Proofs.GreedyOrder
import Schemata.Proofs.Cycle
import Schemata.Proofs.OrderOutcome
import Schemata.Proofs.InputOrder
import Schemata.Proofs.KahnLoop
import Schemata.Proofs.Dependencies
import Schemata.Proofs.ReferenceCycle
import Schemata.Proofs.RegistryGrowth
import Schemata.Proofs.Insertion
import Schemata.Proofs.ListingOrder
import Schemata.Proofs.DeclarationOrder
import Schemata.Proofs.WellFormedTables
import Schemata.Proofs.NamedTables
import Schemata.Proofs.UniqueConstraints
import Schemata.Proofs.IdentifierLimit
import Schemata.Proofs.JoinScope
import Schemata.Proofs.ViewColumns
import Schemata.Proofs.Decimal.Layout
import Schemata.Proofs.LookupRows
import Schemata.Proofs.FailFast
import Schemata.Proofs.TransparentHooks
import Schemata.Proofs.Rendering.Lexing
import Schemata.Proofs.Rendering.Legible
import Schemata.Proofs.Rendering.Table
import Schemata.Proofs.Rendering.View
import Schemata.Proofs.Rendering.Seed
import Schemata.Proofs.RelationNames
import Schemata.Proofs.TemplatePrinting
