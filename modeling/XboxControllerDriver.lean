import XboxControllerDriver.Packets
import XboxControllerDriver.Hid
import XboxControllerDriver.ReportDescriptor
import XboxControllerDriver.State
import XboxControllerDriver.Pipes
import XboxControllerDriver.Transfers
import XboxControllerDriver.Lifecycle
import XboxControllerDriver.Configuration
import XboxControllerDriver.Bringup
import XboxControllerDriver.UserClient
import XboxControllerDriver.DeviceDescription
