import LinkStubs.Main
import LinkStubs.Proofs.Appending
import LinkStubs.Proofs.Agreement
import LinkStubs.Proofs.Calls
import LinkStubs.Proofs.Collisions
import LinkStubs.Proofs.Declaration
import LinkStubs.Proofs.Libraries
import LinkStubs.Proofs.Refinement
import LinkStubs.Proofs.Rollback
import LinkStubs.Proofs.Symbols
import LinkStubs.Proofs.Untouched
import LinkStubs.Proofs.Variadic
import LinkStubs.Proofs.Diagnosis
import LinkStubs.Proofs.Checking
import LinkStubs.Proofs.LineEnds
import LinkStubs.Proofs.Size
import LinkStubs.Proofs.Arguments
import LinkStubs.Proofs.Reports
import LinkStubs.Proofs.Annotation
import LinkStubs.Proofs.Blanks
import LinkStubs.Proofs.FileScope
import LinkStubs.Proofs.Camel
import LinkStubs.Proofs.Repeats
import LinkStubs.Proofs.Exports
import LinkStubs.Proofs.Numbering
import LinkStubs.Proofs.Forwarding
import LinkStubs.Proofs.ExitStatus
import LinkStubs.Proofs.Containment
