import BinarySolver.Main
import BinarySolver.Proofs.Settle
import BinarySolver.Proofs.Verdict
import BinarySolver.Proofs.Folding
import BinarySolver.Proofs.Accounting
import BinarySolver.Proofs.BestEffort
import BinarySolver.Proofs.Range
import BinarySolver.Proofs.Ranking
import BinarySolver.Proofs.WellTyped
import BinarySolver.Proofs.WordTree
import BinarySolver.Proofs.Shape
import BinarySolver.Proofs.Nesting
import BinarySolver.Proofs.TypeTree
import BinarySolver.Proofs.Trim
import BinarySolver.Proofs.Splitting
import BinarySolver.Proofs.UniqueReading
import BinarySolver.Proofs.Grammar
import BinarySolver.Proofs.Reading
import BinarySolver.Proofs.EmittedType
import BinarySolver.Proofs.TreeSpelling
import BinarySolver.Proofs.SameType
import BinarySolver.Proofs.Transparency
import BinarySolver.Proofs.Ordering
import BinarySolver.Proofs.Refusal
import BinarySolver.Proofs.Symmetry
import BinarySolver.Proofs.Exchange
import BinarySolver.Proofs.Rereading
import BinarySolver.Proofs.PlainSpelling
import BinarySolver.Proofs.Aliasing
import BinarySolver.Proofs.DeclaringFile
import BinarySolver.Proofs.Outline
import BinarySolver.Proofs.AliasedMeeting
import BinarySolver.Proofs.AliasedEquality
import BinarySolver.Proofs.StringLiteral
import BinarySolver.Proofs.Rounding
import BinarySolver.Proofs.ExactValue
import BinarySolver.Proofs.WholeOperand
import BinarySolver.Proofs.ZeroDivisor
import BinarySolver.Proofs.WholeRemainder
import BinarySolver.Proofs.Places
import BinarySolver.Proofs.SourceGrowth
import BinarySolver.Proofs.IntegerFolding
import BinarySolver.Proofs.Shifting
import BinarySolver.Proofs.ShiftTyping
import BinarySolver.Proofs.Negation
import BinarySolver.Proofs.Signedness
import BinarySolver.Proofs.TruthValue
import BinarySolver.Proofs.AliasResolution
import BinarySolver.Proofs.Placelessness
import BinarySolver.Proofs.GenericAlias
import BinarySolver.Proofs.Meeting
import BinarySolver.Proofs.Assignment
import BinarySolver.Proofs.NumeralReading
import BinarySolver.Proofs.IntegerOperand
import BinarySolver.Proofs.Request
import BinarySolver.Proofs.TextOperand
import BinarySolver.Proofs.Pointing
import BinarySolver.Proofs.RequestPlaces
import BinarySolver.Proofs.FirstIdentifier
import BinarySolver.Proofs.Message
import BinarySolver.Proofs.MarkedRanges
