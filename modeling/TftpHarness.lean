import TftpHarness.Wraparound
import TftpHarness.Recovery
import TftpHarness.StrayTid
import TftpHarness.Download
import TftpHarness.Upload
import TftpHarness.Completion
import TftpHarness.Store
import TftpHarness.Codec
import TftpHarness.Retransmission
import TftpHarness.ServerTid
import TftpHarness.GroundTruth
import TftpHarness.Passthrough
import TftpHarness.Isolation
import TftpHarness.Verdicts
import TftpHarness.Capabilities
import TftpHarness.Comparison
import TftpHarness.Reception
import TftpHarness.Window
import TftpHarness.Noise
import TftpHarness.FinalBlock
import TftpHarness.OackSurvival
import TftpHarness.ServedPath
import TftpHarness.Overwrite
import TftpHarness.LineEnds
import TftpHarness.RequestedOack
import TftpHarness.Throttle
import TftpHarness.BuiltJson
import TftpHarness.Accounting
import TftpHarness.Resilience
import TftpHarness.LostFinalAck
import TftpHarness.Degradation
import TftpHarness.OverallVerdict
import TftpHarness.InjectionAccounts
import TftpHarness.WrapDetection
import TftpHarness.RangeDraws
import TftpHarness.JsonConformance
import TftpHarness.ComparisonMarkup
import TftpHarness.ObservedDownload
import TftpHarness.ObservedUpload
import TftpHarness.SharedServer
import TftpHarness.Fingerprint
import TftpHarness.Fixtures
import TftpHarness.Subprocess
import TftpHarness.RunReport
import TftpHarness.WellFormedReport
