import Lxcri.Text
import Lxcri.FilePath
import Lxcri.Spec
import Lxcri.Config
import Lxcri.Devices
import Lxcri.DeviceFile
import Lxcri.Steps
import Lxcri.Limits
import Lxcri.Configure
import Lxcri.Os
import Lxcri.Runtime
import Lxcri.Lifecycle
import Lxcri.Confinement
import Lxcri.Persistence
import Lxcri.Protocol
import Lxcri.Monitors
