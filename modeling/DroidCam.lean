import DroidCam.AdbDevices
import DroidCam.Stopping
import DroidCam.VideoSlots
import DroidCam.VideoOwnership
import DroidCam.VideoDelivery
import DroidCam.VideoLifetime
import DroidCam.VideoFraming
import DroidCam.StreamLayout
import DroidCam.SharedFrames
import DroidCam.Orientation
import DroidCam.FrameAdmission
import DroidCam.SpeexFrames
import DroidCam.AudioTransfer
import DroidCam.GuiControls
import DroidCam.HeapQueueRuns
import DroidCam.CliControls
import DroidCam.SettingsLines
import DroidCam.Loopback.Allocation
import DroidCam.Loopback.Attributes
import DroidCam.Loopback.Controls
import DroidCam.Loopback.Delivery
import DroidCam.Loopback.Geometry
import DroidCam.Loopback.Interference
import DroidCam.Loopback.Lifecycle
import DroidCam.Loopback.Mapping
import DroidCam.Loopback.Positions
import DroidCam.Loopback.Remapping
import DroidCam.Loopback.Repeats
import DroidCam.Loopback.Teardown
import DroidCam.Loopback.Wakeup
import DroidCam.AudioSession
import DroidCam.ServerSession
import DroidCam.Pipeline
import DroidCam.DeviceSearch
import DroidCam.SoundSearch
import DroidCam.CommandLine
