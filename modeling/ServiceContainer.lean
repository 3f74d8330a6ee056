import ServiceContainer.Main
import ServiceContainer.Module.Expansion
import ServiceContainer.Proofs.Commutation
import ServiceContainer.Proofs.Composition
import ServiceContainer.Proofs.DeclarationOrder
import ServiceContainer.Proofs.Disposal
import ServiceContainer.Proofs.Findings
import ServiceContainer.Proofs.FrontEnds
import ServiceContainer.Proofs.Hygiene
import ServiceContainer.Proofs.Identity
import ServiceContainer.Proofs.Lifespan
import ServiceContainer.Proofs.ManifestText
import ServiceContainer.Proofs.Output
import ServiceContainer.Proofs.Ownership
import ServiceContainer.Proofs.Selection
import ServiceContainer.Proofs.Strictness
import ServiceContainer.Proofs.Termination
import ServiceContainer.Sample.View
import ServiceContainer.Proofs.Collection
import ServiceContainer.Proofs.Stripping
import ServiceContainer.Proofs.KeyNames
import ServiceContainer.Proofs.Injection
import ServiceContainer.Proofs.Refusals
import ServiceContainer.Proofs.MarkerKinds
import ServiceContainer.Proofs.TypeNames
import ServiceContainer.Proofs.PathPrefixes
import ServiceContainer.Proofs.OptionLayers
import ServiceContainer.Proofs.TopLayer
import ServiceContainer.Proofs.Spacing
import ServiceContainer.Proofs.MarkerGrammar
import ServiceContainer.Proofs.LexicalKeys
