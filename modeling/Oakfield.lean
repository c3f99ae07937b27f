import Oakfield.Context.DriftSuppression
import Oakfield.Context.FieldGrowth
import Oakfield.Context.NormBudget
import Oakfield.Context.PlanRuns
import Oakfield.Context.SplitAtomicity
import Oakfield.Context.StepMetrics
import Oakfield.Cpu.BuiltGraphs
import Oakfield.Cpu.ComplexOperands
import Oakfield.Cpu.ConstantReads
import Oakfield.Cpu.DoubleConversion
import Oakfield.Cpu.IntegerAgreement
import Oakfield.Cpu.PassStart
import Oakfield.Cpu.RealScalars
import Oakfield.Field.BufferCopies
import Oakfield.Field.FluxLensShells
import Oakfield.Field.Layout
import Oakfield.Field.PatchTiles
import Oakfield.Field.PatchView
import Oakfield.Field.PromotionValues
import Oakfield.Field.TopologyCharge
import Oakfield.GraphIR.Hermitian
import Oakfield.GraphIR.Validation
import Oakfield.Integrator.DriftPurity
import Oakfield.Integrator.FailedStep
import Oakfield.Integrator.Registry
import Oakfield.Integrator.Rkf45Tableau
import Oakfield.Integrator.TimestepRun
import Oakfield.Integrator.Workspace
import Oakfield.KernelIR.Locality
import Oakfield.KernelIR.MathviewBounds
import Oakfield.KernelIR.Reachability
import Oakfield.KernelIR.RealDouble
import Oakfield.KernelIR.Sha256Stream
import Oakfield.Library.BitReversal
import Oakfield.Library.Correlation
import Oakfield.Library.Fourier
import Oakfield.Library.GaussJordan
import Oakfield.Library.LocalFit
import Oakfield.Library.Play
import Oakfield.Library.SpectralFlow
import Oakfield.Logging.AsyncLogger
import Oakfield.Neural.FaithfulView
import Oakfield.Neural.ProcessResponse
import Oakfield.Noise.Seed
import Oakfield.Noise.SharedCapacity
import Oakfield.Noise.Source
import Oakfield.Operator.Ownership
import Oakfield.Operator.PlanCompleteness
import Oakfield.Operators.BoundaryIndex
import Oakfield.Operators.ConvolutionParts
import Oakfield.Operators.ConvolutionPaths
import Oakfield.Operators.ConvolutionRuns
import Oakfield.Operators.ConvolutionValues
import Oakfield.Operators.DeclaredAccesses
import Oakfield.Operators.Dispersion
import Oakfield.Operators.DriftMemory
import Oakfield.Operators.FftPlan
import Oakfield.Operators.FftPlane
import Oakfield.Operators.FftRadix2
import Oakfield.Operators.FftTransform
import Oakfield.Operators.FractionalMemoryResponse
import Oakfield.Operators.HystereticMemory
import Oakfield.Operators.LaplacianDiffusion
import Oakfield.Operators.LinearDissipative
import Oakfield.Operators.LinearSpectralFusion
import Oakfield.Operators.MinimalConvolution
import Oakfield.Operators.Savgol
import Oakfield.Operators.SavgolExact
import Oakfield.Operators.SavgolRuns
import Oakfield.Operators.SievePrimes
import Oakfield.Operators.SpectralApply
import Oakfield.Operators.SpectralFlows
import Oakfield.Operators.SpectralGrowth
import Oakfield.Operators.SpectralPasses
import Oakfield.Operators.SpectralRuns
import Oakfield.Operators.SpectralWork
import Oakfield.Operators.StaticCache
