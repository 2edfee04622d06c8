import ResponseGate.Gate
import ResponseGate.Main
import ResponseGate.Proofs.AppendedLog
import ResponseGate.Proofs.CaseInvariance
import ResponseGate.Proofs.CatalogueMatching
import ResponseGate.Proofs.ChunkReads
import ResponseGate.Proofs.ErrorChannel
import ResponseGate.Proofs.EventTrail
import ResponseGate.Proofs.ExcusedOccurrences
import ResponseGate.Proofs.ExitStatus
import ResponseGate.Proofs.FaultThreshold
import ResponseGate.Proofs.GrammaticalTurns
import ResponseGate.Proofs.LargerTexts
import ResponseGate.Proofs.LineEndings
import ResponseGate.Proofs.PayloadClasses
import ResponseGate.Proofs.PositionalMessages
import ResponseGate.Proofs.Promises
import ResponseGate.Proofs.ReaderStates
import ResponseGate.Proofs.RecordShapes
import ResponseGate.Proofs.ReportComposition
import ResponseGate.Proofs.ReportLines
import ResponseGate.Proofs.Separators
import ResponseGate.Proofs.SpellingIndependence
import ResponseGate.Proofs.WrittenTurns
