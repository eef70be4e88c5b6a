import RadioWindow.Basic
import RadioWindow.WindowClock
import RadioWindow.BoundedQueue
import RadioWindow.PacketQueue
import RadioWindow.PriorityPacketQueue
import RadioWindow.Radio
import RadioWindow.RadioInterface
import RadioWindow.RadioInterfaceQueue
import RadioWindow.RadioInterfaceTime
import RadioWindow.Admission
import RadioWindow.Ownership
import RadioWindow.Capacity
import RadioWindow.Termination
import RadioWindow.QueueStatistics
import RadioWindow.Eviction
import RadioWindow.Drain
import RadioWindow.Counters
import RadioWindow.ConfigSurface
import RadioWindow.AdmissionPolicy
import RadioWindow.Conservation
import RadioWindow.Accounting
import RadioWindow.Delivery
import RadioWindow.ExpiryThreshold
import RadioWindow.Rejection
import RadioWindow.TimeWindowPlugin
import RadioWindow.PluginCalls
import RadioWindow.Sleep
import RadioWindow.PriorityOrder
import RadioWindow.Console
import RadioWindow.Metrics
import RadioWindow.RefusedSend
import RadioWindow.PluginStats
import RadioWindow.SendOrder
