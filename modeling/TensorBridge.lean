import TensorBridge.Memory.Script
import TensorBridge.Library.Script
import TensorBridge.Simulation.Host
import TensorBridge.Main
import TensorBridge.Proofs.Session.Discipline
import TensorBridge.Proofs.Session.Refusal
import TensorBridge.Proofs.Session.Storage
import TensorBridge.Proofs.Session.Construction
import TensorBridge.Proofs.Session.Fallback
import TensorBridge.Proofs.Session.Invocation
import TensorBridge.Proofs.Session.Availability
import TensorBridge.Proofs.Memory.Tidiness
import TensorBridge.Proofs.Library.Disabled
import TensorBridge.Proofs.Library.Discovery
import TensorBridge.Proofs.Library.Unloading
import TensorBridge.Proofs.Native.Statuses
import TensorBridge.Proofs.Literal.RoundTrip
import TensorBridge.Proofs.Tensor.Overflow
import TensorBridge.Proofs.Tensor.Views
import TensorBridge.Proofs.Tensor.Values
import TensorBridge.Proofs.CommandLine.Cleanup
import TensorBridge.Proofs.CommandLine.Planning
import TensorBridge.Proofs.Report
import TensorBridge.Proofs.Literal.HalfPrecision
