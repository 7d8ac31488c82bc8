import DocSelect.Json.Native
import DocSelect.Typed.Codec
import DocSelect.Selector.ToJson
import DocSelect.Config.Files
import DocSelect.Stored.Reader
import DocSelect.Store.Documents
import DocSelect.Store.Foreign
import DocSelect.Proofs.Meaning
import DocSelect.Proofs.TokenStructure
import DocSelect.Proofs.SelectorGrammar
import DocSelect.Proofs.ErrorText
import DocSelect.Proofs.ReadingAgreement
import DocSelect.Proofs.Placeholders
import DocSelect.Proofs.Readability
import DocSelect.Proofs.Rearrangement
import DocSelect.Proofs.StoredDocument
import DocSelect.Proofs.Independence
import DocSelect.Proofs.CorruptRows
import DocSelect.Proofs.Monotonicity
import DocSelect.Proofs.Defects
import DocSelect.Proofs.Alternation
import DocSelect.Proofs.IntegerOrder
import DocSelect.Proofs.Listing
import DocSelect.Proofs.TypedText
