import SqlEngine.Main
import SqlEngine.Proofs.Batches
import SqlEngine.Proofs.Uniqueness
import SqlEngine.Proofs.Deeds
import SqlEngine.Proofs.Numbering
import SqlEngine.Proofs.Identifiers
import SqlEngine.Proofs.Links
import SqlEngine.Proofs.Serving
import SqlEngine.Proofs.Attendance
import SqlEngine.Proofs.Stopping
import SqlEngine.Proofs.SerialEngine
import SqlEngine.Proofs.Shells
import SqlEngine.Proofs.Commits
import SqlEngine.Proofs.Templates
import SqlEngine.Proofs.Completeness
import SqlEngine.Proofs.Readback
import SqlEngine.Proofs.Splitting
import SqlEngine.Proofs.Faults
import SqlEngine.Proofs.Independence
import SqlEngine.Proofs.Answers
import SqlEngine.Proofs.Wildcards
import SqlEngine.Proofs.Sorting
import SqlEngine.Proofs.Orders
import SqlEngine.Proofs.Queries
import SqlEngine.Proofs.Streams
import SqlEngine.Proofs.Servers
import SqlEngine.Proofs.Insertions
import SqlEngine.Proofs.WellTyped
import SqlEngine.Proofs.Clauses
import SqlEngine.Proofs.Chosen
import SqlEngine.Proofs.Magnitudes
import SqlEngine.Proofs.Memberships
import SqlEngine.Proofs.Queueing
import SqlEngine.Proofs.Connections
import SqlEngine.Proofs.Amounts
import SqlEngine.Proofs.Placeholders
import SqlEngine.Proofs.GuardedStatements
import SqlEngine.Proofs.Recognition
import SqlEngine.Proofs.Repetition
import SqlEngine.Proofs.Keys
