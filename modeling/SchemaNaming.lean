import SchemaNaming.Fault.Stated
import SchemaNaming.Main
import SchemaNaming.Config.Save
import SchemaNaming.Proofs.Generator.Stacked
import SchemaNaming.Proofs.Generator.TypeNames
import SchemaNaming.Proofs.Pipeline.Overrides
import SchemaNaming.Proofs.Plugin.SingleExecution
import SchemaNaming.Proofs.Pipeline.Lifecycle
import SchemaNaming.Proofs.Pipeline.Configured
import SchemaNaming.Proofs.Pipeline.EnumNames
import SchemaNaming.Proofs.Plugin.Outcome
import SchemaNaming.Proofs.Plugin.Resolution
import SchemaNaming.Proofs.Plugin.DottedName
import SchemaNaming.Proofs.Plugin.Items
import SchemaNaming.Proofs.Plugin.Imports
import SchemaNaming.Proofs.Plugin.Lookup
import SchemaNaming.Proofs.Plugin.Caching
import SchemaNaming.Proofs.Plugin.Settled
import SchemaNaming.Proofs.Pipeline.Reapplied
import SchemaNaming.Proofs.Generator.Numbered
import SchemaNaming.Proofs.Plugin.FailedLoads
import SchemaNaming.Proofs.Plugin.DescriptorText
import SchemaNaming.Proofs.Config.Reloaded
import SchemaNaming.Proofs.Generator.Refusals
import SchemaNaming.Proofs.Config.Obstacles
import SchemaNaming.Proofs.Plugin.DescriptorForms
import SchemaNaming.Proofs.Generator.Outcomes
import SchemaNaming.Proofs.Generator.Logged
import SchemaNaming.Proofs.Generator.DefaultNames
import SchemaNaming.Proofs.Plugin.Aliases
import SchemaNaming.Proofs.Generator.SuppliedBase
import SchemaNaming.Proofs.Identifier.NumberSearch
import SchemaNaming.Proofs.Generator.HintSources
import SchemaNaming.Proofs.Identifier.Cleaned
import SchemaNaming.Proofs.Normalizer.Prefixed
import SchemaNaming.Proofs.Log.Setup
import SchemaNaming.Proofs.Generator.SpelledNames
