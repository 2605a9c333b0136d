import Stencil.Main
import Stencil.Server
import Stencil.Expression.Call
import Stencil.Proofs.Expression.Writing
import Stencil.Proofs.Expression.Partition
import Stencil.Proofs.Expression.Closing
import Stencil.Proofs.Path.Definite
import Stencil.Proofs.Build.Call
import Stencil.Proofs.Build.DepthLimit
import Stencil.Proofs.Json.RoundTrip
import Stencil.Proofs.Expression.Weave
import Stencil.Proofs.Build.Splice
import Stencil.Proofs.Cast
import Stencil.Proofs.Function.Result
import Stencil.Proofs.Build.Conformance
import Stencil.Proofs.Batch.Protocol
import Stencil.Proofs.Batch.Past
import Stencil.Proofs.Batch.Causality
import Stencil.Proofs.Build.Plain
import Stencil.Proofs.Build.Breakdown
import Stencil.Proofs.Batch.Writable
import Stencil.Proofs.Json.Grammar
import Stencil.Proofs.Json.Standard
import Stencil.Proofs.Decimal.Finite
import Stencil.Proofs.Function.Finite
import Stencil.Proofs.Build.Finite
import Stencil.Proofs.Batch.WellFormed
import Stencil.Proofs.Http.Dispatch
import Stencil.Proofs.Http.Answer
import Stencil.Proofs.Http.Line
import Stencil.Proofs.Http.Wire
import Stencil.Proofs.Http.Jar
import Stencil.Proofs.Http.Merge
import Stencil.Proofs.Http.Independence
import Stencil.Proofs.Build.Refusal
import Stencil.Proofs.Build.Threshold
import Stencil.Proofs.Server.Answer
import Stencil.Proofs.Console.Report
import Stencil.Proofs.Build.Mirror
import Stencil.Proofs.Build.Rebuild
import Stencil.Proofs.Build.Quoted
import Stencil.Proofs.Build.Gap
import Stencil.Proofs.Json.Literal
import Stencil.Proofs.Batch.Header
import Stencil.Proofs.Batch.Shape
import Stencil.Proofs.Settings
import Stencil.Proofs.Cast.Text
import Stencil.Proofs.Decimal.Nearest
import Stencil.Proofs.Function.Sum
import Stencil.Proofs.Decimal.Exact
import Stencil.Proofs.Function.Extremes
import Stencil.Proofs.Decimal.Rounding
import Stencil.Proofs.Function.Average
import Stencil.Proofs.Server.Cause
import Stencil.Proofs.Server.Line
import Stencil.Proofs.Console.Markup
import Stencil.Proofs.Http.Failure
import Stencil.Proofs.Cli.Batch
