import DeskCalculator.Main
import DeskCalculator.Proofs.Desk.Coherence
import DeskCalculator.Proofs.Evaluation.Phrase
import DeskCalculator.Proofs.Token.Runs
import DeskCalculator.Proofs.Token.Division
import DeskCalculator.Proofs.Postfix.Closing
import DeskCalculator.Proofs.Postfix.Group
import DeskCalculator.Proofs.Evaluation.Spacing
import DeskCalculator.Proofs.Evaluation.Literals
import DeskCalculator.Proofs.Desk.Pad
import DeskCalculator.Proofs.Desk.Deletion
import DeskCalculator.Proofs.Desk.Polish
import DeskCalculator.Proofs.Desk.Undo
import DeskCalculator.Proofs.Desk.Reset
import DeskCalculator.Proofs.Number.Display
import DeskCalculator.Proofs.Evaluation.Nothing
import DeskCalculator.Proofs.Desk.Evaluation
import DeskCalculator.Proofs.Number.Packed
import DeskCalculator.Proofs.Number.Reading
import DeskCalculator.Proofs.Evaluation.Readback
import DeskCalculator.Proofs.Number.Shortest
import DeskCalculator.Proofs.Postfix.Queue
import DeskCalculator.Proofs.Settings.Values
import DeskCalculator.Proofs.Journal.Trace
import DeskCalculator.Proofs.Desk.Frame
