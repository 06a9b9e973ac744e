import ColumnarReport.Main
import ColumnarReport.Session
import ColumnarReport.Proofs.NumericColumns
import ColumnarReport.Proofs.TemplateText
import ColumnarReport.Proofs.History
import ColumnarReport.Proofs.Sections
import ColumnarReport.Proofs.Truncation
import ColumnarReport.Proofs.Loading
import ColumnarReport.Proofs.ProgramOutcome
import ColumnarReport.Proofs.NumericBounds
import ColumnarReport.Proofs.PrintedAverage
import ColumnarReport.Proofs.UniqueCount
import ColumnarReport.Proofs.JavaIntegers
import ColumnarReport.Proofs.JavaStrings
import ColumnarReport.Proofs.Batching
import ColumnarReport.Proofs.SlotCells
import ColumnarReport.Proofs.NumericSlots
import ColumnarReport.Proofs.ListText
import ColumnarReport.Proofs.MethodWords
import ColumnarReport.Proofs.PreviewRows
import ColumnarReport.Proofs.JavaFloats
import ColumnarReport.Proofs.LastComponent
import ColumnarReport.Proofs.BoundText
import ColumnarReport.Proofs.SizeFigures
import ColumnarReport.Proofs.NestedTargets
