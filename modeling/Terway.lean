import Terway.Types
import Terway.Store
import Terway.NetConf
import Terway.Service
import Terway.Crd
import Terway.Effect
import Terway.AllocIP
import Terway.Rollback
import Terway.ReleaseIP
import Terway.Pending
import Terway.GetIPInfo
import Terway.Reply
import Terway.Agreement
import Terway.GC.Classify
import Terway.GC.Tick
import Terway.GC.Faults
import Terway.Pool
import Terway.Consistency
import Terway.Lifecycle
import Terway.Mapping
import Terway.Records
import Terway.PeriodCheck
import Terway.PodCall
import Terway.Interleaving
import Terway.WriteLock
import Terway.Progress
import Terway.MidCall
import Terway.Reuse
