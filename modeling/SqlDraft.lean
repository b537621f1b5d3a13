import SqlDraft.Journal.Run
import SqlDraft.Proofs.Backslashes
import SqlDraft.Proofs.Colouring
import SqlDraft.Proofs.Containment
import SqlDraft.Proofs.Delivery
import SqlDraft.Proofs.Distinctness
import SqlDraft.Proofs.FailedSetup
import SqlDraft.Proofs.Grouping
import SqlDraft.Proofs.Leading
import SqlDraft.Proofs.Limits
import SqlDraft.Proofs.LondonTime
import SqlDraft.Proofs.Muting
import SqlDraft.Proofs.NumericLiterals
import SqlDraft.Proofs.Pairwise
import SqlDraft.Proofs.Parameters
import SqlDraft.Proofs.Relocation
import SqlDraft.Proofs.Reuse
import SqlDraft.Proofs.Scanning
import SqlDraft.Proofs.Stopping
import SqlDraft.Proofs.Target
import SqlDraft.Proofs.Views
import SqlDraft.Proofs.Writes
import SqlDraft.Settings.Engine
import SqlDraft.Sql.Method
import SqlDraft.Value.Construction
