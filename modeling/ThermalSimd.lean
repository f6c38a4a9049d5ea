import ThermalSimd.Admission
import ThermalSimd.Attestation
import ThermalSimd.BridgeFreshness
import ThermalSimd.BridgeUsers
import ThermalSimd.FusionLifecycle
import ThermalSimd.SafetySnapshot
import ThermalSimd.SelectorCooldown
import ThermalSimd.StopRetry
import ThermalSimd.Patcher
import ThermalSimd.MonitorCounters
import ThermalSimd.Dispatch
import ThermalSimd.DispatchCancel
import ThermalSimd.Exporter
import ThermalSimd.ExporterRollback
import ThermalSimd.ExporterStop
import ThermalSimd.ConfigScope
import ThermalSimd.ConfigLoad
import ThermalSimd.ConfigActivation
import ThermalSimd.CliPrecedence
import ThermalSimd.CliOptions
import ThermalSimd.PerfBackoff
import ThermalSimd.LlcEpochs
import ThermalSimd.PerfArithmetic
import ThermalSimd.HotterForecasts
import ThermalSimd.WideningCost
import ThermalSimd.CoefficientScope
import ThermalSimd.SensorIdentity
import ThermalSimd.Bus
import ThermalSimd.BasicAuth
import ThermalSimd.Kernels
import ThermalSimd.HistoryStore
import ThermalSimd.LegacyTemperature
import ThermalSimd.ConfigSkip
import ThermalSimd.ReadExact
