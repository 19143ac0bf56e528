import Querysmith.Database.Grid
import Querysmith.Main
import Querysmith.Session
import Querysmith.Store
import Querysmith.Proofs.Binding
import Querysmith.Proofs.SessionRuns
import Querysmith.Proofs.Shape
import Querysmith.Proofs.Reading
import Querysmith.Proofs.Faithful
import Querysmith.Proofs.Filtering
import Querysmith.Proofs.SelectionDocument
import Querysmith.Proofs.Lexing
import Querysmith.Proofs.Parsing
import Querysmith.Proofs.Statements
import Querysmith.Proofs.StoreSteps
import Querysmith.Proofs.StoreRuns
import Querysmith.Proofs.TimestampReading
import Querysmith.Proofs.FaithfulWrites
import Querysmith.Proofs.SelectionGrammar
import Querysmith.Proofs.LiteralLists
import Querysmith.Proofs.Exchange
import Querysmith.Proofs.Logging
import Querysmith.Proofs.DryRun
import Querysmith.Proofs.Refusals
import Querysmith.Proofs.DocumentText
import Querysmith.Proofs.QuestionMarks
import Querysmith.Proofs.TableNames
import Querysmith.Proofs.OrderedWrites
import Querysmith.Proofs.Conjunction
import Querysmith.Proofs.DocumentValues
import Querysmith.Proofs.StoredForm
import Querysmith.Proofs.RowLookup
import Querysmith.Proofs.GridReading
import Querysmith.Proofs.ResultRuns
import Querysmith.Proofs.JournalModes
import Querysmith.Proofs.TimestampFormats
