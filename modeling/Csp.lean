import Csp.Collector.Call
import Csp.Entity.Sealed
import Csp.Main
import Csp.Proofs.Collector.Building
import Csp.Proofs.Collector.Sound
import Csp.Proofs.Collector.Tables
import Csp.Proofs.Diagram.BinaryTree
import Csp.Proofs.Diagram.Trim
import Csp.Proofs.Diagram.Unreachable
import Csp.Proofs.Making.Again
import Csp.Proofs.Malformed
import Csp.Proofs.NormalForm
import Csp.Proofs.Precedence
import Csp.Proofs.Rebuilding
import Csp.Proofs.Reordering
import Csp.Proofs.Term.Canonical
import Csp.Proofs.Unambiguous
import Csp.Proofs.Collector.Verbosity
import Csp.Proofs.Keys
import Csp.Proofs.Views
import Csp.Proofs.Collector.Expansion
import Csp.Proofs.RowPatterns
