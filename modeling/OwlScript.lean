import OwlScript.Main
import OwlScript.Proofs.Parse.Grammar
import OwlScript.Proofs.Parse.ExpressionCompleteness
import OwlScript.Proofs.Parse.ProgramCompleteness
import OwlScript.Proofs.Parse.ExpressionSoundness
import OwlScript.Proofs.Parse.ProgramSoundness
import OwlScript.Proofs.Number.FloatOrder
import OwlScript.Proofs.Number.RoundingIntervals
import OwlScript.Proofs.Number.LiteralText
import OwlScript.Proofs.Text.PrefixCodes
import OwlScript.Proofs.Run.Comparison
import OwlScript.Proofs.Run.IntegerArithmetic
import OwlScript.Proofs.Program.Parts
import OwlScript.Proofs.Program.OutlineEntries
import OwlScript.Proofs.Run.OutputIndependence
import OwlScript.Proofs.Token.Progress
import OwlScript.Proofs.Token.Surroundings
import OwlScript.Proofs.Token.Lines
import OwlScript.Source.Buffer
import OwlScript.Proofs.Text.CharacterClasses
import OwlScript.Proofs.Source.CursorIndex
import OwlScript.Proofs.Token.Spans
import OwlScript.Proofs.Token.LongestSpans
import OwlScript.Proofs.Token.SpanScanning
import OwlScript.Proofs.Token.Partition
import OwlScript.Proofs.Token.OneLineFile
import OwlScript.Proofs.Token.Respelling
import OwlScript.Proofs.Shell.TypedLines
import OwlScript.Proofs.Shell.SideBySide
import OwlScript.Proofs.Shell.History
import OwlScript.Proofs.Run.StraightLine
import OwlScript.Proofs.Program.Displacement
import OwlScript.Proofs.Run.MentionedNames
import OwlScript.Proofs.Shell.Replies
import OwlScript.Proofs.Shell.BatchAgreement
import OwlScript.Proofs.Token.JoinedFiles
import OwlScript.Token.Scanner
import OwlScript.Proofs.Token.ScannerSteps
import OwlScript.Proofs.Token.ScannerTokens
import OwlScript.Proofs.Token.ScannerProgress
import OwlScript.Proofs.Parse.JoinedPrograms
import OwlScript.Parse.Descent
import OwlScript.Proofs.Parse.DescentSteps
import OwlScript.Proofs.Parse.DescentExpressions
import OwlScript.Proofs.Parse.DescentPrograms
import OwlScript.Proofs.Parse.OpenCalls
import OwlScript.Proofs.Parse.Bookkeeping
import OwlScript.Proofs.Parse.OptionalEnd
import OwlScript.Proofs.Parse.SpelledParts
import OwlScript.Proofs.Run.FailingNodes
import OwlScript.Proofs.Run.JoinedScripts
import OwlScript.Proofs.Script.Layout
import OwlScript.Proofs.Script.FaultPositions
import OwlScript.Proofs.Program.FaithfulOutline
import OwlScript.Proofs.Script.Reports
import OwlScript.Proofs.Script.BatchTruncation
import OwlScript.Proofs.Shell.SessionTruncation
import OwlScript.Proofs.Script.TokenListing
import OwlScript.Proofs.Shell.InputLines
import OwlScript.Proofs.Shell.DialogueCourse
import OwlScript.Proofs.Run.StoredRoom
import OwlScript.Proofs.Run.MemoryHistory
import OwlScript.Proofs.Shell.Spacing
import OwlScript.Proofs.Source.LineEndings
import OwlScript.Proofs.Parse.WalkedPrograms
import OwlScript.Proofs.Script.NumberLiterals
