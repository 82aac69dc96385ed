import AsmJit.Core.Operand
import AsmJit.Core.Emitter
import AsmJit.Core.Spec.EmitterState
import AsmJit.A64.InstDB
import AsmJit.A64.InstApi.Text
import AsmJit.A64.InstApi.RWInfo
import AsmJit.A64.Spec.Search
import AsmJit.A64.Spec.Text
import AsmJit.A64.Spec.RWInfo
