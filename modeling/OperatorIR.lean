import OperatorIR.Text.Indent
import OperatorIR.Text.Quoted
import OperatorIR.Text.Outline
import OperatorIR.Number.Layout
import OperatorIR.ElementType.Vocabulary
import OperatorIR.AttrMap
import OperatorIR.AttrValue.Text
import OperatorIR.Node.ListAttr
import OperatorIR.Node.Text
import OperatorIR.Reader
import OperatorIR.Proofs.Insertions
import OperatorIR.Proofs.RegisterHistory
import OperatorIR.Proofs.AttrUpdate
import OperatorIR.Proofs.Resolution
import OperatorIR.Proofs.Dispatch
import OperatorIR.Proofs.NodeRun
import OperatorIR.Proofs.Nesting
import OperatorIR.Proofs.Overrides
import OperatorIR.Proofs.QuotedText
import OperatorIR.Proofs.Numeral
import OperatorIR.Proofs.OutlineReading
import OperatorIR.Proofs.Likeness
import OperatorIR.Proofs.Leaves
import OperatorIR.Proofs.DisplayText
import OperatorIR.Proofs.CompactText
import OperatorIR.Proofs.AttrHistory
import OperatorIR.Proofs.Locality
import OperatorIR.Proofs.Vocabularies
import OperatorIR.Proofs.Merging
import OperatorIR.Proofs.Equality
import OperatorIR.Proofs.ListingPass
import OperatorIR.Proofs.KindOrder
import OperatorIR.Proofs.Repetition
import OperatorIR.Proofs.Separators
import OperatorIR.Proofs.LabelText
import OperatorIR.Proofs.OneLine
import OperatorIR.Proofs.Messages
import OperatorIR.Proofs.IndentedLines
import OperatorIR.Proofs.SpreadText
import OperatorIR.Proofs.ReaderText
