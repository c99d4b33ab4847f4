import ImsiCatcher.Machine
import ImsiCatcher.Unwinding
import ImsiCatcher.Iteration
import ImsiCatcher.Rearrangement
import ImsiCatcher.OrderStatistics
import ImsiCatcher.DifferenceTree
import ImsiCatcher.Exploration
import ImsiCatcher.Columns
import ImsiCatcher.Conveyor
import ImsiCatcher.Stuffing
import ImsiCatcher.ExchangeSort
import ImsiCatcher.TimingWheel
import ImsiCatcher.PeriodicSlots
import ImsiCatcher.Text
import ImsiCatcher.Regex
import ImsiCatcher.Octets
import ImsiCatcher.NetworkOrder
import ImsiCatcher.Masks
import ImsiCatcher.FrequencyList
import ImsiCatcher.SystemInformation
import ImsiCatcher.SysinfoBlock
import ImsiCatcher.CatcherMachine
import ImsiCatcher.Handlers
import ImsiCatcher.BandIndex
import ImsiCatcher.SweepProgress
import ImsiCatcher.CatcherStep
import ImsiCatcher.Reception
import ImsiCatcher.SysinfoCore
import ImsiCatcher.CatcherReports
import ImsiCatcher.MeanLevel
import ImsiCatcher.Isolation
import ImsiCatcher.ChannelRequests
import ImsiCatcher.NeighbourMarks
import ImsiCatcher.FrequencyFormats
import ImsiCatcher.NeighbourLine
import ImsiCatcher.ExtendedLists
import ImsiCatcher.CellIdentity
import ImsiCatcher.LogLines
import ImsiCatcher.BaseStation
import ImsiCatcher.ScanThread
import ImsiCatcher.Sightings
import ImsiCatcher.SightingList
import ImsiCatcher.StationRecord
import ImsiCatcher.ScanDelivery
import ImsiCatcher.RoundTrip
import ImsiCatcher.CutOutput
import ImsiCatcher.Ccch
import ImsiCatcher.MobileAllocation
import ImsiCatcher.PchThread
import ImsiCatcher.PchReadings
import ImsiCatcher.PchRetries
import ImsiCatcher.Assignments
import ImsiCatcher.PagingRequest
import ImsiCatcher.Pagings
import ImsiCatcher.Controller
import ImsiCatcher.Session
import ImsiCatcher.PchScanStarts
import ImsiCatcher.ScanExclusion
import ImsiCatcher.SweepLock
import ImsiCatcher.PchBatch
import ImsiCatcher.Evidence
import ImsiCatcher.ScanEvidence
import ImsiCatcher.Rules
import ImsiCatcher.LocalAreaDatabase
import ImsiCatcher.Evaluation
import ImsiCatcher.Verdicts
import ImsiCatcher.GroupTally
import ImsiCatcher.RuleMemories
import ImsiCatcher.DiscoveryOrder
import ImsiCatcher.ChangeRules
import ImsiCatcher.PchVerdicts
import ImsiCatcher.Outcomes
import ImsiCatcher.RuleSession
import ImsiCatcher.RecordChanges
import ImsiCatcher.StaleVerdicts
import ImsiCatcher.Projects
import ImsiCatcher.ContextRules
import ImsiCatcher.GroupVotes
import ImsiCatcher.LookupConsistency
import ImsiCatcher.LocationFiles
import ImsiCatcher.SightingCounts
import ImsiCatcher.UserScan
import ImsiCatcher.CsvExport
import ImsiCatcher.Sercomm
import ImsiCatcher.SercommFrames
import ImsiCatcher.SerialLine
import ImsiCatcher.L1Socket
import ImsiCatcher.L1Link
import ImsiCatcher.Tlv
import ImsiCatcher.L1ctl
import ImsiCatcher.Rsl
import ImsiCatcher.Layer23
import ImsiCatcher.GsmTime
import ImsiCatcher.Phone
import ImsiCatcher.PhoneJobs
import ImsiCatcher.Errands
import ImsiCatcher.ScanProtocol
import ImsiCatcher.ScanSafety
import ImsiCatcher.ScanSweep
import ImsiCatcher.ScanLiveness
import ImsiCatcher.ScanLinks
import ImsiCatcher.TdmaSched
import ImsiCatcher.TdmaCalendar
import ImsiCatcher.TdmaBookings
import ImsiCatcher.SchedGsmtime
import ImsiCatcher.PrimRach
import ImsiCatcher.L1Sync
import ImsiCatcher.L1SyncFrames
import ImsiCatcher.RachBursts
import ImsiCatcher.L1SyncPhone
