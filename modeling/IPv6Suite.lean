import IPv6Suite.ARPDelivery
import IPv6Suite.AccessRuns
import IPv6Suite.AddrRemoval
import IPv6Suite.AddrResRelease
import IPv6Suite.AddrShift
import IPv6Suite.AddrTruncate
import IPv6Suite.BURetransmission
import IPv6Suite.BindingAcknowledgement
import IPv6Suite.BindingLifetime
import IPv6Suite.BindingResync
import IPv6Suite.CareOfTest
import IPv6Suite.DestCacheUpdate
import IPv6Suite.ExpiryTiming
import IPv6Suite.HeaderAccess
import IPv6Suite.HopLimit
import IPv6Suite.IPAddressResolver
import IPv6Suite.IPReassembly
import IPv6Suite.IPv6CDSRun
import IPv6Suite.IPv6Fragmentation
import IPv6Suite.IPv6Multicast
import IPv6Suite.InitTimeouts
import IPv6Suite.LifetimeRule
import IPv6Suite.ListenerReports
import IPv6Suite.MLDv2CheckTimer
import IPv6Suite.MapSelection
import IPv6Suite.MessageReceiver
import IPv6Suite.MobileRouterSafety
import IPv6Suite.MobilityHeaderBase
import IPv6Suite.NDMessageLength
import IPv6Suite.OtherAddresses
import IPv6Suite.PacketRequests
import IPv6Suite.PendingQueue
import IPv6Suite.PrefixExpiry
import IPv6Suite.RTPOutages
import IPv6Suite.RTPReports
import IPv6Suite.ReceivedStream
import IPv6Suite.RelayFrames
import IPv6Suite.RelayUnitRuns
import IPv6Suite.RelinquishedPrefixes
import IPv6Suite.RoutedDelivery
import IPv6Suite.RoutingFileReading
import IPv6Suite.RtrAdNeighbour
import IPv6Suite.RtrAdTiming
import IPv6Suite.TCPIndications
import IPv6Suite.TCPMain
import IPv6Suite.TCPReset
import IPv6Suite.TCPRetransmission
import IPv6Suite.TCPRttMeasurement
import IPv6Suite.TCPSendData
import IPv6Suite.TCPSendQueue
import IPv6Suite.TCPSendWindow
import IPv6Suite.TCPSlowStart
import IPv6Suite.TCPTimeWait
import IPv6Suite.UDPProcessing
import IPv6Suite.VoipLosses
import IPv6Suite.WirelessReliability
