import ProtoCheck.Main
import ProtoCheck.Proofs.Header
import ProtoCheck.Proofs.Path
import ProtoCheck.Proofs.Schema.Scanning
import ProtoCheck.Proofs.Validation
import ProtoCheck.Proofs.Validation.Batch
import ProtoCheck.Proofs.Validation.Noninterference
import ProtoCheck.Proofs.Validation.Rejection
import ProtoCheck.Proofs.Path.Ascent
import ProtoCheck.Proofs.Path.Join
import ProtoCheck.Proofs.Schema.Confinement
import ProtoCheck.Proofs.Schema.Operand
import ProtoCheck.Proofs.Config
import ProtoCheck.Proofs.Log
import ProtoCheck.Proofs.Validation.Records
import ProtoCheck.Proofs.Run
import ProtoCheck.Proofs.Header.Bytes
import ProtoCheck.Proofs.Report
import ProtoCheck.Proofs.Run.Level
import ProtoCheck.Proofs.Run.Verdict
import ProtoCheck.Proofs.Config.Unusable
import ProtoCheck.Proofs.Report.Command
import ProtoCheck.Proofs.Report.Recovery
import ProtoCheck.Proofs.Validation.Annotation
import ProtoCheck.Proofs.Schema.Search
import ProtoCheck.Proofs.Schema.Blame
import ProtoCheck.Proofs.Schema.Commented
import ProtoCheck.Proofs.Schema.Uncommented
import ProtoCheck.Proofs.Schema.Roundtrip
import ProtoCheck.Proofs.Descriptor.Lookup
import ProtoCheck.Proofs.Log.Root
import ProtoCheck.Proofs.Config.Located
import ProtoCheck.Proofs.Yaml.Pointer
import ProtoCheck.Proofs.Path.Normal
import ProtoCheck.Proofs.Store.Memory
