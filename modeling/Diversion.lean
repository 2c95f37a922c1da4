import Diversion.Bytes
import Diversion.Error
import Diversion.Rule.Operand
import Diversion.Rule.Field
import Diversion.Rule.Test
import Diversion.Rule.Target
import Diversion.Rule.Record
import Diversion.Address
import Diversion.Packet.View
import Diversion.Filter.Program
import Diversion.Filter.Compile
import Diversion.Filter.Eval
import Diversion.Text.Decimal
import Diversion.Json.Value
import Diversion.Json.Reader
import Diversion.Settings
import Diversion.Filter.Reach
import Diversion.Hook
import Diversion.Checksum
import Diversion.Text.Hex
import Diversion.Metrics
import Diversion.Text.IpLiteral
import Diversion.Report
import Diversion.Rule.Spec
import Diversion.Text.Unicode
import Diversion.Json.Unexpected
import Diversion.Json.Decode
import Diversion.Rule.List
import Diversion.Config
import Diversion.Queue
import Diversion.Context
import Diversion.Cli.Spec
import Diversion.Cli.Parse
import Diversion.Disk
import Diversion.Toml
import Diversion.Text.Integer
import Diversion.Config.Sources
import Diversion.Cli.Run
import Diversion.Main
import Diversion.Proofs.Compile
import Diversion.Proofs.Eval
import Diversion.Proofs.Reach
import Diversion.Proofs.Queue
import Diversion.Proofs.Aging
import Diversion.Proofs.Reads
import Diversion.Proofs.Context
import Diversion.Proofs.Capacity
import Diversion.Proofs.Checksum
import Diversion.Proofs.Parse
import Diversion.Proofs.Wire
import Diversion.Proofs.FieldValues
import Diversion.Proofs.RepairFrame
import Diversion.Proofs.HexText
import Diversion.Proofs.AddressRules
import Diversion.Proofs.WordOrder
