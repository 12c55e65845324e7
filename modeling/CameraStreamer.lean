import CameraStreamer.Lib.Bytes
import CameraStreamer.Lib.Incremental
import CameraStreamer.Lib.Runs
import CameraStreamer.Lib.Knowledge
import CameraStreamer.Lib.Lines
import CameraStreamer.Lib.Find
import CameraStreamer.Lib.GstLaunch
import CameraStreamer.Json
import CameraStreamer.Config
import CameraStreamer.Pipeline
import CameraStreamer.ZoomCrop
import CameraStreamer.SettingHandlers
import CameraStreamer.ControlDispatch
import CameraStreamer.SecureRecord
import CameraStreamer.SecureWire
import CameraStreamer.RecordStream
import CameraStreamer.HostInbound
import CameraStreamer.SecureHandshake
import CameraStreamer.ServeSession
import CameraStreamer.EndpointBuffer
import CameraStreamer.SessionThreads
import CameraStreamer.VideoLoop
import CameraStreamer.UsbStreams
import CameraStreamer.RtspLaunch
import CameraStreamer.SensorSettings
import CameraStreamer.ControlTunnel
import CameraStreamer.ControlCarriers
import CameraStreamer.KeyAgreement
import CameraStreamer.HandshakeCodecs
import CameraStreamer.Handshakes
import CameraStreamer.RecordWriter
import CameraStreamer.SessionSecurity
import CameraStreamer.SwupdateIpc
import CameraStreamer.SwupdateClient
import CameraStreamer.UpdateAttempts
import CameraStreamer.PublishedStatus
import CameraStreamer.UpdateServer
import CameraStreamer.UpdateTunnel
import CameraStreamer.MainLoop
import CameraStreamer.MetaBroadcast
import CameraStreamer.MountMedia
import CameraStreamer.Watchdog
import CameraStreamer.FrameCounts
import CameraStreamer.Lib.Raster
import CameraStreamer.Snapshot
import CameraStreamer.ResourceMonitor
import CameraStreamer.QtJson
import CameraStreamer.UpdateClient
import CameraStreamer.ControlClient
import CameraStreamer.WhiteBalance
import CameraStreamer.Calibration
import CameraStreamer.FfsGadget
import CameraStreamer.V4l2Device
import CameraStreamer.TriggerHandlers
import CameraStreamer.BarrenCameras
import CameraStreamer.ControlNumbers
import CameraStreamer.IspLaunch
import CameraStreamer.ConfigInvariant
import CameraStreamer.SessionStart
import CameraStreamer.LocalTunnel
import CameraStreamer.TunnelSockets
import CameraStreamer.BridgeLoop
import CameraStreamer.VideoSinks
import CameraStreamer.Lib.Variant
import CameraStreamer.UpdateLink
import CameraStreamer.UpdateProgress
import CameraStreamer.ControlServer
import CameraStreamer.ControlLink
import CameraStreamer.ControlReplies
import CameraStreamer.SecureLink
import CameraStreamer.SecureTunnel
import CameraStreamer.Lib.Effects
import CameraStreamer.Lib.Flow
import CameraStreamer.CameraPipeline
import CameraStreamer.Lib.Fanout
import CameraStreamer.PipelineRuns
