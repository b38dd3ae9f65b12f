import DeskCalculator.Expr.Grammar
import DeskCalculator.Expr.Unbounded
import DeskCalculator.History.Trace
import DeskCalculator.Json.Shown
import DeskCalculator.Main
import DeskCalculator.Token.Segmentation
import DeskCalculator.Proofs.Parser.Room
import DeskCalculator.Proofs.Parser.Census
import DeskCalculator.Proofs.Parser.Juxtaposition
import DeskCalculator.Proofs.Evaluation
import DeskCalculator.Proofs.Parser.WellFormed
import DeskCalculator.Proofs.Parser.Substitution
import DeskCalculator.Proofs.Parser.Failures
import DeskCalculator.Proofs.Token.Lexemes
import DeskCalculator.Proofs.Decimal.Numeral
import DeskCalculator.Proofs.Containment
import DeskCalculator.Proofs.RoundTrip
import DeskCalculator.Proofs.Session.Refinement
import DeskCalculator.Proofs.Token.Uniqueness
import DeskCalculator.Proofs.Token.Joining
import DeskCalculator.Proofs.Parser.Vocabulary
import DeskCalculator.Proofs.Replay
import DeskCalculator.Proofs.History.Delivery
import DeskCalculator.Proofs.Json.Texts
import DeskCalculator.Proofs.Decimal.Words
import DeskCalculator.Proofs.History.Lines
import DeskCalculator.Proofs.History.Journaling
import DeskCalculator.Proofs.Session.Listening
import DeskCalculator.Proofs.History.Recording
import DeskCalculator.Proofs.Decimal.Nearest
import DeskCalculator.Proofs.Decimal.Range
import DeskCalculator.Proofs.Decimal.Interval
import DeskCalculator.Proofs.Decimal.FullText
import DeskCalculator.Proofs.History.Reading
import DeskCalculator.Proofs.Json.Behind
import DeskCalculator.Proofs.History.Appending
import DeskCalculator.Proofs.Settings.Containment
import DeskCalculator.Proofs.Settings.Usable
import DeskCalculator.Proofs.Parser.Naturality
import DeskCalculator.Proofs.Prediction
import DeskCalculator.Proofs.Session.Leaving
import DeskCalculator.Proofs.Session.Conversing
import DeskCalculator.Proofs.Session.Notifying
import DeskCalculator.Proofs.Parser.Limits
import DeskCalculator.Proofs.Evaluation.Turns
import DeskCalculator.Proofs.Evaluation.Depth
import DeskCalculator.Proofs.Parser.Neighbours
import DeskCalculator.Proofs.Token.Rejoining
import DeskCalculator.Proofs.Token.Stopping
import DeskCalculator.Proofs.Token.Spacing
import DeskCalculator.Proofs.LetterCase
import DeskCalculator.Proofs.BoundedStack.Capacity
import DeskCalculator.Proofs.History.Flushing
import DeskCalculator.Proofs.Json.Unfinished
import DeskCalculator.Proofs.History.Telling
import DeskCalculator.Proofs.History.Cutting
import DeskCalculator.Proofs.BoundedStack.Refinement
import DeskCalculator.Proofs.Parser.Layers
import DeskCalculator.Proofs.Decimal.Unpacked
import DeskCalculator.Proofs.DisplayText
import DeskCalculator.Proofs.Paths
import DeskCalculator.Proofs.Settings.Fields
import DeskCalculator.Proofs.Settings.Layering
