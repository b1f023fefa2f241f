import ClassModel.Token.Coverage
import ClassModel.Operator.Evaluate
import ClassModel.Report
import ClassModel.Report.Log
import ClassModel.Standard.Exceptions
import ClassModel.Library.Override
import ClassModel.Library.Run
import ClassModel.Signature.Header
import ClassModel.Signature.Member
import ClassModel.Diagnostic
import ClassModel.Compile
import ClassModel.Summary
import ClassModel.Main
import ClassModel.Proofs.Canonical
import ClassModel.Proofs.Permuted
import ClassModel.Proofs.Extended
import ClassModel.Proofs.Slots
import ClassModel.Proofs.Subtyping
import ClassModel.Proofs.Ancestry
import ClassModel.Proofs.Virtual
import ClassModel.Proofs.Variance
import ClassModel.Proofs.Scoped
import ClassModel.Proofs.Strictness
import ClassModel.Proofs.Terminating
import ClassModel.Proofs.Skipped
import ClassModel.Proofs.Nesting
import ClassModel.Proofs.Defaults
import ClassModel.Proofs.Storage
import ClassModel.Proofs.Overload
import ClassModel.Proofs.Signature
import ClassModel.Proofs.Partition
import ClassModel.Proofs.RoundTrip
import ClassModel.Proofs.Integral
import ClassModel.Proofs.Visible
import ClassModel.Proofs.Cycles
import ClassModel.Proofs.Effective
import ClassModel.Proofs.Bounds
import ClassModel.Proofs.Accepted
import ClassModel.Proofs.Separator
import ClassModel.Proofs.WrittenSupertypes
import ClassModel.Proofs.Literal
import ClassModel.Proofs.StaticValues
import ClassModel.Proofs.Redefined
import ClassModel.Proofs.Respelled
import ClassModel.Proofs.Keyed
import ClassModel.Proofs.Formals
import ClassModel.Proofs.Arrays
import ClassModel.Proofs.Boxing
import ClassModel.Proofs.Numeral
import ClassModel.Proofs.Reordered
