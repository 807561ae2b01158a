import Nomenclator.Languages
import Nomenclator.Template.Engine
import Nomenclator.Proofs.Kotlin.ClassNames
import Nomenclator.Proofs.Kotlin.Conventions
import Nomenclator.Proofs.Kotlin.Folders
import Nomenclator.Proofs.Kotlin.SingleScan
import Nomenclator.Proofs.Kotlin.TextLiterals
import Nomenclator.Proofs.Kotlin.VariableNames
import Nomenclator.Proofs.Registry.Frame
import Nomenclator.Proofs.Settings.ForeignOptions
import Nomenclator.Proofs.Settings.Precedence
import Nomenclator.Proofs.Settings.Refusals
import Nomenclator.Proofs.Settings.Validation
import Nomenclator.Proofs.Word.TwoPasses
import Nomenclator.Proofs.Word.Boundaries
import Nomenclator.Proofs.Word.CanonicalNames
import Nomenclator.Proofs.Word.MarkScan
import Nomenclator.Proofs.Resolution.PropertyOrder
import Nomenclator.Proofs.Resolution.Instantiation
import Nomenclator.Proofs.Resolution.MissingElements
import Nomenclator.Proofs.Template.LineComments
import Nomenclator.Proofs.Value
