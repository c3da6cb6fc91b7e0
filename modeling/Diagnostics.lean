import Diagnostics.Command.Run
import Diagnostics.Main
import Diagnostics.Message.OldForm
import Diagnostics.Patch.Apply
import Diagnostics.Proofs.Check.Success
import Diagnostics.Proofs.Command.ExitCode
import Diagnostics.Proofs.Hint.Edits
import Diagnostics.Proofs.Hint.Order
import Diagnostics.Proofs.Hint.Tail
import Diagnostics.Proofs.Log.Attribution
import Diagnostics.Proofs.Log.Emission
import Diagnostics.Proofs.Log.Grammar
import Diagnostics.Proofs.Log.Header
import Diagnostics.Proofs.Log.Printed
import Diagnostics.Proofs.Log.Prompt
import Diagnostics.Proofs.Log.Recovery
import Diagnostics.Proofs.Log.Scan
import Diagnostics.Proofs.Message.Columns
import Diagnostics.Proofs.Message.Fix
import Diagnostics.Proofs.Message.History
import Diagnostics.Proofs.Message.OldForm
import Diagnostics.Proofs.Message.Outcomes
import Diagnostics.Proofs.Message.Refusal
import Diagnostics.Proofs.Message.Replay
import Diagnostics.Proofs.Message.Validity
import Diagnostics.Proofs.Message.Within
import Diagnostics.Proofs.Number.Numeral
import Diagnostics.Proofs.Paint.Runs
import Diagnostics.Proofs.Paint.Stripping
import Diagnostics.Proofs.Patch.Application
import Diagnostics.Proofs.Patch.Commutation
import Diagnostics.Proofs.Patch.Ending
import Diagnostics.Proofs.Patch.FromFile
import Diagnostics.Proofs.Patch.Hunks
import Diagnostics.Proofs.Patch.RoundTrip
import Diagnostics.Proofs.Patch.Shape
import Diagnostics.Proofs.Patch.WholeText
import Diagnostics.Proofs.Patch.Written
import Diagnostics.Proofs.Render.Alignment
import Diagnostics.Proofs.Render.Caret
import Diagnostics.Proofs.Render.Colour
import Diagnostics.Proofs.Render.Suggestion
import Diagnostics.Proofs.Sarif.Conversion
import Diagnostics.Proofs.Sarif.Extraction
import Diagnostics.Proofs.Sarif.Places
import Diagnostics.Proofs.Sarif.ReadBack
import Diagnostics.Proofs.Sarif.Written
import Diagnostics.Proofs.Settings.Loading
import Diagnostics.Proofs.Text.Exchange
import Diagnostics.Proofs.Text.Pieces
import Diagnostics.Settings.Draft
import Diagnostics.Timestamp.Check
