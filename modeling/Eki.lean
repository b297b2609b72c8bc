import Eki.Trip.Accounting
import Eki.Trip.Completion
import Eki.Ride.GhostRide
import Eki.Ride.AutomaticService
import Eki.Ride.ReturnOnce
import Eki.Ride.Abandonment
import Eki.Ride.Restoration
import Eki.Worker.Fencing
import Eki.Telemetry.Ordering
import Eki.Telemetry.Retirement
import Eki.Ride.RestoreQueue
import Eki.Http.RunOnce
import Eki.Privacy.LeavesNothing
import Eki.Authorization.DeniedFirst
import Eki.Feedback.Cooldown
import Eki.Fleet.RouteEdits
import Eki.Firmware.WrittenOnce
import Eki.Firmware.QueueRecovers
import Eki.Firmware.SamePlausibility
import Eki.Devices.RateBudget
import Eki.Chat.StoredOnce
import Eki.Chat.NoRemains
import Eki.Devices.HonoursRevocation
import Eki.Retention.SparesReferenced
import Eki.Firmware.Installable
import Eki.Live.DeltasAgree
import Eki.Reads.ReadsFenced
import Eki.Live.ColdSafe
import Eki.Ride.AppendOnlyHistory
import Eki.Fleet.LocationsForward
import Eki.Ride.DisplayAgrees
import Eki.Live.FilteredEvents
import Eki.Routing.OneProbe
import Eki.Routing.Corroboration
import Eki.Live.FullPasses
import Eki.Routing.OrderedStops
import Eki.Work.NeededWrites
import Eki.Live.SweepCycles
import Eki.Work.LatestServed
import Eki.Firmware.NeverStale
import Eki.Firmware.ThreeAgree
import Eki.Routing.RouteCovered
import Eki.Chat.RateWindows
import Eki.Firmware.ReuseSafe
import Eki.PassengerMap.ArrivalOrder
import Eki.PassengerMap.MarkerNeverBack
import Eki.Chat.MasksSpans
import Eki.Firmware.Freshness
import Eki.Firmware.Calendar
import Eki.PassengerMap.LiveBusHealth
import Eki.Routing.RouteEditor
import Eki.Library.Json
import Eki.Telemetry.IngestDeadline
import Eki.Fleet.ReconciliationPages
