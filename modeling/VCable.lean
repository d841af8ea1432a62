import VCable.AudioBufferList
import VCable.AudioBufferSlots
import VCable.BoundedQueues
import VCable.ChannelMatrix
import VCable.ChannelMixing
import VCable.ClampedControl
import VCable.ConnectAtomicity
import VCable.Daemon
import VCable.DaemonDevices
import VCable.DaemonInvariants
import VCable.DaemonRequests
import VCable.DaemonRoutes
import VCable.DaemonRuns
import VCable.DaemonServing
import VCable.DaemonWiring
import VCable.DeletionGuard
import VCable.DirectedWalks
import VCable.DisconnectAtomicity
import VCable.DriverAudio
import VCable.DriverClock
import VCable.DriverCommands
import VCable.DriverConfigurationChanges
import VCable.DriverDevices
import VCable.DriverInventory
import VCable.DriverIo
import VCable.DriverPersistence
import VCable.DriverProperties
import VCable.DriverPropertyAgreement
import VCable.DriverRunningDevices
import VCable.DriverSections
import VCable.DriverTable
import VCable.DriverTableRuns
import VCable.EndpointIdentifiers
import VCable.EndpointListing
import VCable.EscapeGrammar
import VCable.EscapedLists
import VCable.FallibleState
import VCable.FillLevelControl
import VCable.FilledLists
import VCable.FrameStreams
import VCable.HandleTables
import VCable.IndependentParts
import VCable.IntegerText
import VCable.IoProcs
import VCable.LabelledSteps
import VCable.ListSelections
import VCable.LoopbackRing
import VCable.LoopbackRuns
import VCable.OrderedMaps
import VCable.PcmCallbacks
import VCable.PcmCapture
import VCable.PcmDriftControl
import VCable.PcmLoopback
import VCable.PcmLoopbackSides
import VCable.PcmLossless
import VCable.PcmPlayback
import VCable.PcmPriming
import VCable.PcmResampler
import VCable.PcmResamplerFill
import VCable.PcmResamplerPosition
import VCable.PcmRing
import VCable.PcmRingRuns
import VCable.PcmStreamRuns
import VCable.Protocol
import VCable.ProtocolRoundTrip
import VCable.ReplySizes
import VCable.RequestReplies
import VCable.RestartFidelity
import VCable.RingBuffer
import VCable.RingBufferFifo
import VCable.RouteRetention
import VCable.RouterAlignment
import VCable.RouterCallback
import VCable.RouterClockDrift
import VCable.RouterDelivery
import VCable.RouterIsolation
import VCable.RouterLinks
import VCable.RouterMixing
import VCable.RouterNetwork
import VCable.RouterPreparation
import VCable.RouterResampler
import VCable.RouterRingRuns
import VCable.RouterRings
import VCable.RouterSessions
import VCable.RouterValidation
import VCable.RouterWiring
import VCable.RoutingConsistency
import VCable.RoutingGraph
import VCable.RoutingGraphCalls
import VCable.RoutingGraphCycles
import VCable.RoutingGraphOrder
import VCable.RoutingGraphRuns
import VCable.RowMajor
import VCable.SeparatedLists
import VCable.StateFile
import VCable.StateFileRoundTrip
import VCable.StateFileSafety
import VCable.Utf8Text
import VCable.WorklistSearch
import VCable.WrappingIndex
