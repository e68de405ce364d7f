import PlatformEventFilter.Lib.Ask
import PlatformEventFilter.Lib.Base64
import PlatformEventFilter.Lib.Bimap
import PlatformEventFilter.Lib.Bits
import PlatformEventFilter.Lib.Json
import PlatformEventFilter.Lib.Table
import PlatformEventFilter.Lib.Run
import PlatformEventFilter.Lib.Split
import PlatformEventFilter.Types
import PlatformEventFilter.Config
import PlatformEventFilter.LoadSafety
import PlatformEventFilter.Monitor
import PlatformEventFilter.Frame
import PlatformEventFilter.Persist
import PlatformEventFilter.EntryNo
import PlatformEventFilter.Selector
import PlatformEventFilter.Signals
import PlatformEventFilter.Cells
import PlatformEventFilter.Lan
import PlatformEventFilter.Dbus
import PlatformEventFilter.Match
import PlatformEventFilter.RowTests
import PlatformEventFilter.Action
import PlatformEventFilter.Lookups
import PlatformEventFilter.Authority
import PlatformEventFilter.Steps
import PlatformEventFilter.MailRecord
import PlatformEventFilter.Trap
import PlatformEventFilter.SnmpStatus
import PlatformEventFilter.Parallel
import PlatformEventFilter.Policies
import PlatformEventFilter.Postpone
import PlatformEventFilter.SensorTree
import PlatformEventFilter.SensorNum
import PlatformEventFilter.SensorName
import PlatformEventFilter.SensorPath
import PlatformEventFilter.SensorBuilds
import PlatformEventFilter.Encryption
import PlatformEventFilter.KeySave
import PlatformEventFilter.LanSetters
import PlatformEventFilter.CommStr
import PlatformEventFilter.LanPersist
import PlatformEventFilter.LanTable
import PlatformEventFilter.TestDestination
import PlatformEventFilter.Destination
import PlatformEventFilter.RetryConfig
import PlatformEventFilter.TrapSession
import PlatformEventFilter.History
import PlatformEventFilter.LiveTables
import PlatformEventFilter.Response
import PlatformEventFilter.Isolation
import PlatformEventFilter.Restart
import PlatformEventFilter.SensorTypes
import PlatformEventFilter.LanLive
import PlatformEventFilter.MailTarget
import PlatformEventFilter.Provenance
import PlatformEventFilter.Delivery
import PlatformEventFilter.UserKeys
