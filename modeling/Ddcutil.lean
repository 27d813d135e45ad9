import Ddcutil.ApiCalls
import Ddcutil.ApiQuiesceRuns
import Ddcutil.ApiResultsRuns
import Ddcutil.AppWatch
import Ddcutil.Asciify
import Ddcutil.BufferCalls
import Ddcutil.BusOpenRuns
import Ddcutil.BusProbeRuns
import Ddcutil.CapabilitiesPrint
import Ddcutil.CapabilitiesReportSafe
import Ddcutil.CapabilitiesString
import Ddcutil.CapabilitiesThreads
import Ddcutil.CmdOneMore
import Ddcutil.ConfigFileRuns
import Ddcutil.CrossDisplay
import Ddcutil.DetectDisplaysRuns
import Ddcutil.DeviceIdNames
import Ddcutil.DisplayFeaturesRuns
import Ddcutil.DisplayLockRules
import Ddcutil.DisplaysApart
import Ddcutil.DisplaysCacheRuns
import Ddcutil.DrefCalls
import Ddcutil.DrmConnectorName
import Ddcutil.Dsa2Counts
import Ddcutil.Dsa2Save
import Ddcutil.DumploadRoundTrip
import Ddcutil.DynFormatters
import Ddcutil.DynamicFeaturesRuns
import Ddcutil.EdidDelivery
import Ddcutil.ErrorDetailRuns
import Ddcutil.ExecutionStats
import Ddcutil.Failsim
import Ddcutil.FeatureSetChoice
import Ddcutil.HexText
import Ddcutil.HidMonitor
import Ddcutil.HidUsages
import Ddcutil.I2cExecute
import Ddcutil.ImplicitType
import Ddcutil.OpenDisplays
import Ddcutil.PublishedRefsRuns
import Ddcutil.ScreenChange
import Ddcutil.SetvcpRuns
import Ddcutil.StatusEventsRuns
import Ddcutil.StringCuts
import Ddcutil.TracedFunctionStackRuns
import Ddcutil.TryDataRuns
import Ddcutil.VspecText
import Ddcutil.WatchLifecycleRuns
import Ddcutil.WireTables
import Ddcutil.WriteOnlyErrors
import Ddcutil.XdgUtil
