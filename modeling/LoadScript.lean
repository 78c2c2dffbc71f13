import LoadScript.Main
import LoadScript.Proofs.Feature.RowPaths
import LoadScript.Proofs.Feature.Selection
import LoadScript.Proofs.Load.Profile
import LoadScript.Proofs.Parameters
import LoadScript.Proofs.Placeholders
import LoadScript.Proofs.Run.Regeneration
import LoadScript.Proofs.Run.Unmatched
import LoadScript.Proofs.Script.Origins
import LoadScript.Proofs.Script.StepOrder
import LoadScript.Proofs.Script.WellFormed
import LoadScript.Proofs.Vocabulary.Search
import LoadScript.Proofs.Feature.CanonicalTags
import LoadScript.Proofs.Feature.Discovery
import LoadScript.Proofs.Run.Environment
import LoadScript.Proofs.Script.ImportSections
import LoadScript.Proofs.Script.Options
import LoadScript.Proofs.Vocabulary.OrderItems
import LoadScript.Proofs.Vocabulary.WrittenNumbers
import LoadScript.Proofs.Counts
import LoadScript.Proofs.Number.Whole
import LoadScript.Proofs.Vocabulary.PercentileBounds
