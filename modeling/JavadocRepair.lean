import JavadocRepair.Failure
import JavadocRepair.Main
import JavadocRepair.Proofs.Log.Diagnostic
import JavadocRepair.Proofs.Log.Scan
import JavadocRepair.Proofs.Repair.History
import JavadocRepair.Proofs.Repair.BottomUp
import JavadocRepair.Proofs.Repair.Abort
import JavadocRepair.Proofs.Repair.Independence
import JavadocRepair.Proofs.Files.Path
import JavadocRepair.Proofs.Log.Line
import JavadocRepair.Proofs.Failure.Run
import JavadocRepair.Proofs.Pattern.Overflow
import JavadocRepair.Proofs.Pattern.Readers
import JavadocRepair.Proofs.Configuration.Schema
import JavadocRepair.Proofs.Failure.Configuration
import JavadocRepair.Proofs.Files.Rewriting
import JavadocRepair.Proofs.Repair.Concatenation
import JavadocRepair.Proofs.Repair.InMemory
import JavadocRepair.Proofs.Document.Length
import JavadocRepair.Proofs.Configuration.Format
import JavadocRepair.Proofs.Log.Extension
import JavadocRepair.Proofs.Frame
import JavadocRepair.Proofs.Repair.Insertion
import JavadocRepair.Proofs.Comment.Insertion
import JavadocRepair.Proofs.Log.Outcome
import JavadocRepair.Proofs.Configuration.Admitted
import JavadocRepair.Proofs.Repair.Accounting
import JavadocRepair.Proofs.Configuration.Breach
import JavadocRepair.Proofs.Configuration.Report
