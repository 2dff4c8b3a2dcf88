import MmlScan.Command.FileTree
import MmlScan.Main
import MmlScan.Pattern.CachePool
import MmlScan.Scanner.Pool
import MmlScan.Proofs.Bytes
import MmlScan.Proofs.Table
import MmlScan.Proofs.Matching
import MmlScan.Proofs.Anchoring
import MmlScan.Proofs.Literal
import MmlScan.Proofs.Operation
import MmlScan.Proofs.Gate
import MmlScan.Proofs.Pending
import MmlScan.Proofs.Termination
import MmlScan.Proofs.Unfolding
import MmlScan.Proofs.Scanning
import MmlScan.Proofs.View
import MmlScan.Proofs.Stack
import MmlScan.Proofs.Safety
import MmlScan.Proofs.Clamping
import MmlScan.Proofs.History
import MmlScan.Proofs.Accounting
import MmlScan.Proofs.Rewind
import MmlScan.Proofs.Bracket
import MmlScan.Proofs.Sharing
import MmlScan.Proofs.Directive
import MmlScan.Proofs.Header
import MmlScan.Proofs.Displacement
import MmlScan.Proofs.Expanding
import MmlScan.Proofs.Outcomes
import MmlScan.Proofs.RoundTrip
import MmlScan.Proofs.Trimming
import MmlScan.Proofs.Backtracking
import MmlScan.Proofs.Quoting
import MmlScan.Proofs.Numeral
import MmlScan.Proofs.Numbers
import MmlScan.Proofs.Folding
import MmlScan.Proofs.Words
import MmlScan.Proofs.FailedReads
import MmlScan.Proofs.Hygiene
import MmlScan.Proofs.Reports
import MmlScan.Proofs.ReportLines
import MmlScan.Proofs.Divergence
import MmlScan.Proofs.Checking
import MmlScan.Proofs.Memoization
import MmlScan.Proofs.CommandLine
import MmlScan.Proofs.CharSet
