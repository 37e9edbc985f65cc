import Eno.Api.V1
import Eno.Flowcontrol.Synthesis
import Eno.Flowcontrol.Store
import Eno.Flowcontrol.Cluster
import Eno.Flowcontrol.Progress
import Eno.Reconciliation.Patch
import Eno.Reconciliation.Resource
import Eno.Reconciliation.Controller
import Eno.Reconciliation.FastPath
import Eno.Reconciliation.Run
import Eno.Reconciliation.WriteBuffer
import Eno.Watchdog.Controller
