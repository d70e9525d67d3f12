import Dirlang.Constant.Pool
import Dirlang.Files.Catalog
import Dirlang.Main
import Dirlang.Operand.Text
import Dirlang.Script.Run
import Dirlang.Proofs.Store.Runs
import Dirlang.Proofs.Machine.Log
import Dirlang.Proofs.Machine.Dangling
import Dirlang.Proofs.Machine.Events
import Dirlang.Proofs.Machine.Rendering
import Dirlang.Proofs.Machine.ScopedOpen
import Dirlang.Proofs.Dir.LifeCycle
import Dirlang.Proofs.Machine.Isolation
import Dirlang.Proofs.Machine.Visiting
import Dirlang.Proofs.Machine.CurrentDir
import Dirlang.Proofs.Machine.Enumeration
import Dirlang.Proofs.Machine.Failing
import Dirlang.Proofs.Machine.Constants
import Dirlang.Proofs.Machine.Balance
import Dirlang.Proofs.Machine.Lending
import Dirlang.Proofs.Operand.Variables
import Dirlang.Proofs.Operand.Text
import Dirlang.Proofs.CommandLine.Commands
import Dirlang.Proofs.Machine.Rooted
import Dirlang.Proofs.Machine.Matches
import Dirlang.Proofs.Machine.Resolved
import Dirlang.Proofs.Glob.Report
import Dirlang.Proofs.Machine.Registered
import Dirlang.Proofs.Machine.Naming
import Dirlang.Proofs.Text.Json
