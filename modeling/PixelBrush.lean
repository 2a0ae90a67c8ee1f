import PixelBrush.Text.CodeRange
import PixelBrush.Text.Letter
import PixelBrush.Text.Digit
import PixelBrush.Text.Blank
import PixelBrush.Text.Printable
import PixelBrush.Text.Lowercase
import PixelBrush.Text.Quoted
import PixelBrush.Text.Decimal
import PixelBrush.Text.LineBreak
import PixelBrush.Location
import PixelBrush.Value
import PixelBrush.Name
import PixelBrush.Arithmetic
import PixelBrush.Color
import PixelBrush.Operator
import PixelBrush.Command
import PixelBrush.Token
import PixelBrush.Token.LexicalError
import PixelBrush.Token.Cursor
import PixelBrush.Token.Lexer
import PixelBrush.Complaint
import PixelBrush.Token.Reading
import PixelBrush.Token.Stream
import PixelBrush.Node
import PixelBrush.Node.Parser
import PixelBrush.Table
import PixelBrush.Painting
import PixelBrush.Notification
import PixelBrush.Document
import PixelBrush.Fault
import PixelBrush.Painter
import PixelBrush.State
import PixelBrush.Evaluation
import PixelBrush.State.Labels
import PixelBrush.State.Event
import PixelBrush.State.Step
import PixelBrush.State.InPlace
import PixelBrush.State.Run
import PixelBrush.State.Display
import PixelBrush.Diagnosis
import PixelBrush.Session
import PixelBrush.Node.Outline
import PixelBrush.CommandLine.Invocation
import PixelBrush.CommandLine.Report
import PixelBrush.Main
import PixelBrush.Proofs.Grammar
import PixelBrush.Proofs.Grammar.Completeness
import PixelBrush.Proofs.Grammar.Correctness
import PixelBrush.Proofs.Attempt
import PixelBrush.Proofs.Effect
import PixelBrush.Proofs.Invariant
import PixelBrush.Proofs.Journal
import PixelBrush.Proofs.PainterAgreement
import PixelBrush.Proofs.Safety
import PixelBrush.Proofs.StepLimit
import PixelBrush.Proofs.Concatenation
import PixelBrush.Proofs.Segmentation.Correctness
import PixelBrush.Proofs.Source.RoundTrip
import PixelBrush.Proofs.Grammar.Restyling
import PixelBrush.Proofs.Painting
import PixelBrush.Proofs.Erasure
import PixelBrush.Proofs.Erasure.Run
import PixelBrush.Proofs.Source.Reading
import PixelBrush.Proofs.Layout
import PixelBrush.Proofs.Arity
import PixelBrush.Proofs.Failing
import PixelBrush.Proofs.Refusal
import PixelBrush.Proofs.Refusal.Run
import PixelBrush.Proofs.Lookahead
import PixelBrush.Proofs.Grammar.ViablePrefix
import PixelBrush.Proofs.Segmentation.Location
import PixelBrush.Proofs.Continuation
import PixelBrush.Proofs.Source.Concatenation
import PixelBrush.Proofs.Parts
import PixelBrush.Proofs.Growth
import PixelBrush.Proofs.Redefinition
import PixelBrush.Proofs.Tracing
import PixelBrush.Proofs.Jumps
import PixelBrush.Proofs.Display
import PixelBrush.Proofs.Observation
import PixelBrush.Proofs.Spelling
import PixelBrush.Proofs.Session
import PixelBrush.Proofs.Outline
import PixelBrush.Proofs.Blame
import PixelBrush.Proofs.InPlace
import PixelBrush.Proofs.Source.Order
import PixelBrush.Proofs.Kinds
import PixelBrush.Proofs.CommandLine
import PixelBrush.Proofs.Segmentation.Offset
import PixelBrush.Proofs.Segmentation.Failure
import PixelBrush.Proofs.Source.LineEnds
import PixelBrush.Proofs.Source.Spacing
import PixelBrush.Proofs.Truncation
import PixelBrush.Proofs.Counting
import PixelBrush.Proofs.ForwardJumps
import PixelBrush.Proofs.Options
import PixelBrush.Proofs.NestingLimit.Run
import PixelBrush.Proofs.Document
import PixelBrush.Proofs.Outline.Unambiguity
