import MqlMySql.Library.SlotTable
import MqlMySql.Library.Run
import MqlMySql.Library.Fallible
import MqlMySql.Model.Text
import MqlMySql.Model.Host
import MqlMySql.Model.DllState
import MqlMySql.Model.Action
import MqlMySql.Model.ConnectionCalls
import MqlMySql.Model.CursorCalls
import MqlMySql.Model.Exported
import MqlMySql.Spec.Cells
import MqlMySql.Spec.ConnectionCalls
import MqlMySql.Spec.Execute
import MqlMySql.Spec.CursorCalls
import MqlMySql.Spec.CursorReads
import MqlMySql.Spec.Registry
import MqlMySql.Spec.Refinement
import MqlMySql.Spec.Protocol
import MqlMySql.Spec.Server
import MqlMySql.Properties.CursorBinding
import MqlMySql.Properties.CursorIds
import MqlMySql.Properties.DeadConnection
import MqlMySql.Properties.ErrorTruth
import MqlMySql.Library.Lockstep
import MqlMySql.Properties.Interference
import MqlMySql.Properties.Readiness
import MqlMySql.Properties.ResultSets
import MqlMySql.Library.Holding
import MqlMySql.Library.Program
import MqlMySql.Model.Classes
import MqlMySql.Model.Client
import MqlMySql.Properties.Batches
import MqlMySql.Properties.ConnectionObjects
import MqlMySql.Properties.CredentialCopies
import MqlMySql.Properties.CursorLeaks
import MqlMySql.Properties.CursorNumbers
import MqlMySql.Properties.CursorObjects
import MqlMySql.Properties.FieldAccess
import MqlMySql.Properties.HandleLeaks
import MqlMySql.Properties.HandleTables
import MqlMySql.Library.Agreement
import MqlMySql.Library.Buffer
import MqlMySql.Model.Buffers
import MqlMySql.Model.Procedures
import MqlMySql.Properties.RowOrder
import MqlMySql.Properties.TextTrip
import MqlMySql.Properties.WrapperAgreement
import MqlMySql.Library.Alongside
import MqlMySql.Library.Pairing
import MqlMySql.Model.Terminal
import MqlMySql.Spec.Marks
import MqlMySql.Spec.Shadows
import MqlMySql.Spec.Credentials
import MqlMySql.Properties.OwnErrors
import MqlMySql.Spec.LibrarySteps
import MqlMySql.Properties.ConnectReports
import MqlMySql.Properties.RowsEnd
import MqlMySql.Spec.ErrorCells
import MqlMySql.Properties.PairedErrors
import MqlMySql.Library.Conduct
import MqlMySql.Library.Pool
import MqlMySql.Model.Accesses
import MqlMySql.Library.Atomicity
import MqlMySql.Library.Lending
import MqlMySql.Library.Ensures
import MqlMySql.Model.Threads
import MqlMySql.Model.Scripts
import MqlMySql.Spec.Alone
import MqlMySql.Spec.Conduct
import MqlMySql.Spec.Order
import MqlMySql.Spec.Loans
import MqlMySql.Spec.Readers
import MqlMySql.Properties.MutualExclusion
import MqlMySql.Properties.ThreadSlots
import MqlMySql.Properties.ThreadCursors
import MqlMySql.Properties.WholeCalls
import MqlMySql.Properties.DisconnectRace
import MqlMySql.Properties.SettledScripts
import MqlMySql.Properties.RowsShown
import MqlMySql.Library.Trail
import MqlMySql.Spec.Standing
import MqlMySql.Spec.Answers
import MqlMySql.Spec.LostResults
import MqlMySql.Spec.Standings
import MqlMySql.Properties.Conversations
