import MultiBandFst.Frames
import MultiBandFst.Simulator
import MultiBandFst.MacQueue
import MultiBandFst.RegularWifiMac
import MultiBandFst.Handshake
import MultiBandFst.LinkLoss
import MultiBandFst.CountdownLifecycle
import MultiBandFst.Device
import MultiBandFst.TechnologyTable
import MultiBandFst.BandSwitch
import MultiBandFst.DeviceRun
import MultiBandFst.SessionPair
import MultiBandFst.DevicePair
import MultiBandFst.TargetBand
import MultiBandFst.Completion
import MultiBandFst.Conservation
import MultiBandFst.Capabilities
import MultiBandFst.CapabilityElements
import MultiBandFst.StandardConfiguration
