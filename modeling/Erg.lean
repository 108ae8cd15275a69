import Erg.GoString
import Erg.Wire
import Erg.BranchName
import Erg.Asana
import Erg.AsanaPagination
import Erg.Linear
import Erg.AsanaTracker
import Erg.LinearTracker
import Erg.RemoveLabel
import Erg.Queue
import Erg.Interleaving
import Erg.QueueRefinement
import Erg.AfterRun
import Erg.Paths
import Erg.Cmd
