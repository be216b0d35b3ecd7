import AdisImu.Util
import AdisImu.Chip
import AdisImu.Device
import AdisImu.Transport
import AdisImu.Field
import AdisImu.Accessors
import AdisImu.Diag
import AdisImu.Burst
import AdisImu.Config
import AdisImu.Rejection
import AdisImu.Lifecycle
import AdisImu.PageCache
import AdisImu.SyncClock
import AdisImu.HandleSteps
import AdisImu.UpScale
import AdisImu.RegisterMap
import AdisImu.FieldStore
import AdisImu.Bringup
import AdisImu.AtomicRuns
import AdisImu.PageSelects
import AdisImu.HandleFrame
import AdisImu.ErrorPaths
import AdisImu.SettleDelays
import AdisImu.ConfigStore
import AdisImu.DeviceFrame
import AdisImu.Diagnostics
