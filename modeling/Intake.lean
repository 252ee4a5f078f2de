import Intake.Unicode.Property
import Intake.Unicode.Script
import Intake.Text.Utf8
import Intake.Text.Lowercase
import Intake.Text.Quoted
import Intake.Decimal.Shortest
import Intake.Acknowledgement.Ledger
import Intake.Shutdown.Timeline
import Intake.Json.Reader
import Intake.Json.Printer
import Intake.Condition
import Intake.Config.Decoding
import Intake.Config.Encoding
import Intake.Config.Validation
import Intake.Toml.Reader
import Intake.Writing
import Intake.Metrics.Endpoint
import Intake.CommandLine
import Intake.Main
import Intake.Proofs.PumpDelivery
import Intake.Proofs.GuardConveyance
import Intake.Proofs.GuardTransparency
import Intake.Proofs.SerialRefinement
import Intake.Proofs.StagePoise
import Intake.Proofs.StageReceipts
import Intake.Proofs.StageProgress
import Intake.Proofs.StageSilence
import Intake.Proofs.StageSparing
import Intake.Proofs.StageFlight
import Intake.Proofs.InputFaults
import Intake.Proofs.Utf8Text
import Intake.Proofs.GuardSuccession
import Intake.Proofs.LineFraming
import Intake.Proofs.StageWindingUp
import Intake.Proofs.StageCleanup
import Intake.Proofs.BlockFraming
import Intake.Proofs.ConditionHistory
import Intake.Proofs.LineDelivery
import Intake.Proofs.MessageWriting
import Intake.Proofs.WritingRuns
import Intake.Proofs.WritingTermination
import Intake.Proofs.WritingOut
import Intake.Proofs.ShutdownHistory
import Intake.Proofs.DeliveryHistory
import Intake.Proofs.ConfigRoundTrip
import Intake.Proofs.CaselessComparison
import Intake.Proofs.WholeMatch
import Intake.Proofs.PumpTally
import Intake.Proofs.StageAbandonment
import Intake.Proofs.NestedGuards
import Intake.Proofs.SerialProgress
import Intake.Proofs.WrittenLines
import Intake.Proofs.ConditionLaws
import Intake.Proofs.ConditionFaults
import Intake.Proofs.JsonData
import Intake.Proofs.ConfigSpellings
import Intake.Proofs.ConfigMisfits
import Intake.Proofs.PartComparison
import Intake.Proofs.AsciiCase
import Intake.Proofs.StoppedReading
