import VizSession.Engine.Run
import VizSession.Main
import VizSession.Registry.Listing
import VizSession.Session.Run
import VizSession.Proofs.Objects
import VizSession.Proofs.Changes
import VizSession.Proofs.Numbering
import VizSession.Proofs.Survival
import VizSession.Proofs.Visibility
import VizSession.Proofs.Moves
import VizSession.Proofs.Calls
import VizSession.Proofs.Methods
import VizSession.Proofs.Liveness
import VizSession.Proofs.SingleConnection
import VizSession.Proofs.Names
import VizSession.Proofs.Providers
import VizSession.Proofs.Creations
import VizSession.Proofs.Handles
import VizSession.Proofs.StaleSlots
import VizSession.Proofs.Conformance
import VizSession.Proofs.References
import VizSession.Proofs.Representations
import VizSession.Proofs.Ownership
import VizSession.Proofs.ExportLog
import VizSession.Proofs.ExtensionPasses
import VizSession.Proofs.Leaks
import VizSession.Proofs.RegistryHistory
import VizSession.Proofs.Isolation
import VizSession.Proofs.Additions
import VizSession.Proofs.CallStyles
import VizSession.Proofs.Constructors
import VizSession.Proofs.JsonNumerals
import VizSession.Proofs.JsonTexts
import VizSession.Proofs.RoundTrips
import VizSession.Proofs.TomlStrings
import VizSession.Proofs.TomlDocuments
import VizSession.Proofs.ConfigForms
import VizSession.Proofs.Startup
import VizSession.Proofs.StoreOrder
import VizSession.Proofs.NameForms
import VizSession.Proofs.Commits
import VizSession.Proofs.DefaultViews
import VizSession.Proofs.SlotUpkeep
import VizSession.Proofs.GeneratedNames
import VizSession.Proofs.Deletion
import VizSession.Proofs.PropertyChanges
import VizSession.Proofs.Resets
import VizSession.Proofs.Reconnection
import VizSession.Proofs.Registrations
import VizSession.Proofs.RepeatedExtensions
import VizSession.Proofs.InputWiring
import VizSession.Proofs.Merges
import VizSession.Proofs.SlotWrites
import VizSession.Proofs.Forwarding
import VizSession.Proofs.ActiveViews
import VizSession.Proofs.EngineRuns
import VizSession.Proofs.Renderings
import VizSession.Proofs.NamedViews
import VizSession.Proofs.IdentifierGrammar
import VizSession.Proofs.DemoOutcome
import VizSession.Proofs.PropertyHistory
