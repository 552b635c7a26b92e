import NasaCpp.Apps.BridgeRuns
import NasaCpp.Apps.BridgeSchedule
import NasaCpp.Apps.BridgeThreads
import NasaCpp.Apps.BridgeViews
import NasaCpp.Apps.BufferLimit
import NasaCpp.Apps.FsvList
import NasaCpp.Apps.MainLoop
import NasaCpp.Apps.TcpClient
import NasaCpp.Apps.Watchdog
import NasaCpp.Bridge.Collections
import NasaCpp.Bridge.CommandPayload
import NasaCpp.Bridge.Entries
import NasaCpp.Bridge.HassBridge
import NasaCpp.Bridge.MqttHandler
import NasaCpp.Bridge.Publications
import NasaCpp.Bridge.Registration
import NasaCpp.Bridge.TopicMaps
import NasaCpp.Bridge.WriteGuard
import NasaCpp.General.Feed
import NasaCpp.General.Fields
import NasaCpp.General.Framer
import NasaCpp.General.Grouping
import NasaCpp.General.LastEntry
import NasaCpp.General.Machine
import NasaCpp.General.Maps
import NasaCpp.General.Numeral
import NasaCpp.General.Parts
import NasaCpp.General.PolynomialDivision
import NasaCpp.General.Rounding
import NasaCpp.General.ShiftRegister
import NasaCpp.General.StepFunction
import NasaCpp.Handler.Confirmation
import NasaCpp.Handler.Echo
import NasaCpp.Handler.Known
import NasaCpp.Handler.LifeCycle
import NasaCpp.Handler.MsgHandler
import NasaCpp.Handler.WireHeader
import NasaCpp.Protocol.Agreement
import NasaCpp.Protocol.Checksum
import NasaCpp.Protocol.ChecksumDivision
import NasaCpp.Protocol.Codec
import NasaCpp.Protocol.Component
import NasaCpp.Protocol.ErrorDetection
import NasaCpp.Protocol.Frame
import NasaCpp.Protocol.Framing
import NasaCpp.Protocol.LogText
import NasaCpp.Protocol.Reencoding
import NasaCpp.Protocol.Remainder
import NasaCpp.Protocol.Resynchronisation
import NasaCpp.Protocol.RoundTrip
import NasaCpp.Protocol.StructureMessages
import NasaCpp.Protocol.Tiling
import NasaCpp.Protocol.Types
import NasaCpp.Protocol.WireValue
import NasaCpp.Web.Announcements
import NasaCpp.Web.BrowserSync
import NasaCpp.Web.BusToBrowser
import NasaCpp.Web.Charts
import NasaCpp.Web.CommandRoundTrip
import NasaCpp.Web.Debounce
import NasaCpp.Web.Discovery
import NasaCpp.Web.Drawer
import NasaCpp.Web.Energy
import NasaCpp.Web.Entities
import NasaCpp.Web.History
import NasaCpp.Web.Hub
import NasaCpp.Web.MeanOrder
import NasaCpp.Web.MqttBridge
import NasaCpp.Web.Registry
import NasaCpp.Web.Resample
import NasaCpp.Web.Restart
import NasaCpp.Web.Restored
import NasaCpp.Web.Retention
import NasaCpp.Web.SampleLog
import NasaCpp.Web.Samples
import NasaCpp.Web.SamplingLaw
import NasaCpp.Web.ScaleTemplate
import NasaCpp.Web.Server
import NasaCpp.Web.SessionFeed
import NasaCpp.Web.Stepper
import NasaCpp.Web.Storage
import NasaCpp.Web.StoredStates
import NasaCpp.Web.Subscriptions
import NasaCpp.Web.Template
import NasaCpp.Web.Timeline
import NasaCpp.Web.TopicIndex
import NasaCpp.Web.WaterLaw
