import ValueTypes.Files
import ValueTypes.Listing
import ValueTypes.Main
import ValueTypes.Proofs.SpecText
import ValueTypes.Proofs.Evaluation
import ValueTypes.Proofs.Resolution
import ValueTypes.Proofs.Run
import ValueTypes.Proofs.Build
import ValueTypes.Proofs.Conformance
import ValueTypes.Proofs.Recovery
import ValueTypes.Proofs.Inhabitation
import ValueTypes.Proofs.Lifetime
import ValueTypes.Proofs.Mentions
import ValueTypes.Proofs.Location
import ValueTypes.Proofs.Sharing
import ValueTypes.Proofs.Congruence
import ValueTypes.Proofs.Installation
import ValueTypes.Proofs.Idempotence
import ValueTypes.Proofs.Naming
import ValueTypes.Proofs.Declaration
import ValueTypes.Proofs.Events
import ValueTypes.Proofs.Factories
import ValueTypes.Proofs.Validation
import ValueTypes.Proofs.Caching
import ValueTypes.Proofs.Reentry
import ValueTypes.Proofs.Atomicity
import ValueTypes.Proofs.Fallback
import ValueTypes.Proofs.IntegerTexts
import ValueTypes.Proofs.WholeDoubles
import ValueTypes.Proofs.IntegerRoundTrip
import ValueTypes.Proofs.Words
import ValueTypes.Proofs.NormalKeys
import ValueTypes.Proofs.Widening
import ValueTypes.Proofs.Slices
import ValueTypes.Proofs.Suggestions
import ValueTypes.Proofs.LaterDeclarations
import ValueTypes.Proofs.WrittenTexts
import ValueTypes.Proofs.WrittenLines
import ValueTypes.Proofs.PlainDocuments
import ValueTypes.Proofs.WrittenTrees
import ValueTypes.Proofs.SavedConfigs
