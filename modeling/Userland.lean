import Userland.Main
import Userland.Scenario.Respond
import Userland.Proofs.Boot.Plan
import Userland.Proofs.Terminal.Drain
import Userland.Proofs.Files.Store
import Userland.Proofs.Service.Failure
import Userland.Proofs.Text.Utf8
import Userland.Proofs.Supervisor.Binding
import Userland.Proofs.Supervisor.Ledger
import Userland.Proofs.Supervisor.Stamping
import Userland.Proofs.Worker.Exit
