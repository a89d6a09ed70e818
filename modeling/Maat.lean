import Maat.Scenario
import Maat.Pipeline.Process
import Maat.Pipeline.SignSend
import Maat.Pipeline.Tree
import Maat.Pipeline.Flow
import Maat.Entry
import Maat.Dispatch.Graph
import Maat.Dispatch.Shim
import Maat.Dispatch.Remote
import Maat.Dispatch.Phase
import Maat.Dispatch.Evidence
import Maat.Netstat.CString
import Maat.Netstat.InetNtop
import Maat.Netstat.Line
import Maat.Netstat.Raw6
import Maat.Netstat.Measure
