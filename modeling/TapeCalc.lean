import TapeCalc.Main
import TapeCalc.Text.Search.Lemmas
import TapeCalc.Proofs.Run
import TapeCalc.Proofs.Literal
import TapeCalc.Proofs.TextLiteral
import TapeCalc.Proofs.NumberLiteral
import TapeCalc.Proofs.Operator
import TapeCalc.Proofs.Step
import TapeCalc.Proofs.History
import TapeCalc.Proofs.Sequence
import TapeCalc.Proofs.Quotation
import TapeCalc.Proofs.Frame
import TapeCalc.Proofs.Expression
import TapeCalc.Proofs.Idiom
import TapeCalc.Proofs.Analysis
import TapeCalc.Proofs.Effect
import TapeCalc.Proofs.ReadEval
import TapeCalc.Proofs.Conservation
import TapeCalc.Proofs.Exchange
import TapeCalc.Proofs.Dialogue
import TapeCalc.Proofs.Deferral
import TapeCalc.Proofs.Farewell
import TapeCalc.Proofs.LineValue
import TapeCalc.Proofs.TextOperator
import TapeCalc.Proofs.IntegerText
import TapeCalc.Proofs.FloatOrder
import TapeCalc.Proofs.Order
import TapeCalc.Proofs.Remainder
import TapeCalc.Proofs.Addressing
import TapeCalc.Proofs.Countdown
import TapeCalc.Proofs.Configuration
import TapeCalc.Proofs.Listing
import TapeCalc.Proofs.Exactness
import TapeCalc.Proofs.Infinity
import TapeCalc.Proofs.Cursor
import TapeCalc.Proofs.Silence
import TapeCalc.Proofs.Reentry
