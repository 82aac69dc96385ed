/-
  `a64::InstInternal::validate` and `queryRWInfo` (`arm/a64instapi.cpp`, "Validate" and
  "QueryRWInfo").

  `queryRWInfo` fills the caller's `InstRWInfo`: first its header, then one `OpRWInfo` per
  operand, by one of two loops: one over a register list (an instruction flagged
  `kInstFlagConsecutive` with more than two operands) and one for every other instruction. The
  loops share their header and differ in their bodies, so the model has one loop, `rwLoop`, and
  the two bodies, `consecutiveOp` and `generalOp`; the parts the bodies share are `OpRWInfo.init`
  and `OpRWInfo.addMemFlags`.

  The caller's `InstRWInfo` is passed in and the filled one returned, so that the members the
  function does not write keep the caller's values. The operands are the list the pointer points
  to. The model returns `none` where the source has undefined behaviour: reading an operand past
  the end of the list, writing an `OpRWInfo` past the six of `InstRWInfo` (an `opCount` above
  `kMaxOpCount`), or shifting a `uint64_t` by 64 bits or more.

  The model is the release build. `arch` is read only by
  `ASMJIT_ASSERT(Environment::isFamilyARM(arch))`, which a release build compiles out, so it is
  left out.
-/
import AsmJit.A64.InstDB
import Mathlib.Data.Fin.VecNotation

namespace AsmJit.OpRWInfo

/-- A 64-bit byte mask with every byte set. -/
def kAllBytes : Nat := 0xFFFFFFFFFFFFFFFF

/-- The part both loops share for a register or memory operand: the flags of its slot without
`kZExt`, no physical register, no size, and the byte masks of the whole operand for what the flags
read and write. The lead count keeps its value. -/
def init (op : OpRWInfo) (rwFlags : OpRWFlags) : OpRWInfo :=
  let op := { op with
    opFlags := rwFlags \ OpRWFlags.kZExt, physId := kIdBad, rmSize := 0, reserved := 0 }
  let rByteMask := if op.isRead then kAllBytes else 0
  let wByteMask := if op.isWrite then kAllBytes else 0
  { op with readByteMask := rByteMask, writeByteMask := wByteMask, extendByteMask := 0 }

/-- The memory branch both loops share: `kMemBaseRead` for a base register, `kMemIndexRead` for an
index register, and `kMemIndexWrite` too for the index of a pre- or post-indexed operand. -/
def addMemFlags (op : OpRWInfo) (memOp : Mem) : OpRWInfo :=
  let op := if memOp.hasBase then op.addOpFlags OpRWFlags.kMemBaseRead else op
  if memOp.hasIndex then
    (op.addOpFlags OpRWFlags.kMemIndexRead).addOpFlags
      (if memOp.isPreOrPost then OpRWFlags.kMemIndexWrite else OpRWFlags.kNone)
  else op

end AsmJit.OpRWInfo

namespace AsmJit.A64

/-- `InstInternal::validate()`: not written for AArch64 yet, it accepts every instruction, with
any `ValidationFlags`. -/
def validate (_inst : BaseInst) (_operands : List Operand) (_opCount _validationFlags : Nat) :
    Error :=
  .kErrorOk

/-! ### The tables -/

section Tables

open OpRWFlags

/-- `instRWInfoData`: the `OpRWFlags` of the six operand slots of each row, `R`, `W` and `X`
standing for `kRead`, `kWrite` and `kRW`. -/
def instRWInfoData : RWInfoIndex → Fin kMaxOpCount → OpRWFlags
  | .kRWI_R => ![kRead, kRead, kRead, kRead, kRead, kRead]
  | .kRWI_RW => ![kRead, kWrite, kRead, kRead, kRead, kRead]
  | .kRWI_RX => ![kRead, kRW, kRead, kRead, kRead, kRead]
  | .kRWI_RRW => ![kRead, kRead, kWrite, kRead, kRead, kRead]
  | .kRWI_RWX => ![kRead, kWrite, kRW, kRead, kRead, kRead]
  | .kRWI_W => ![kWrite, kRead, kRead, kRead, kRead, kRead]
  | .kRWI_WRW => ![kWrite, kRead, kWrite, kRead, kRead, kRead]
  | .kRWI_WRX => ![kWrite, kRead, kRW, kRead, kRead, kRead]
  | .kRWI_WRRW => ![kWrite, kRead, kRead, kWrite, kRead, kRead]
  | .kRWI_WRRX => ![kWrite, kRead, kRead, kRW, kRead, kRead]
  | .kRWI_WW => ![kWrite, kWrite, kRead, kRead, kRead, kRead]
  | .kRWI_X => ![kRW, kRead, kRead, kRead, kRead, kRead]
  | .kRWI_XRX => ![kRW, kRead, kRW, kRead, kRead, kRead]
  | .kRWI_XXRRX => ![kRW, kRW, kRead, kRead, kRW, kRead]
  | .kRWI_LDn => ![kWrite, kRead, kRead, kRead, kRead, kRead]
  | .kRWI_STn => ![kRead, kWrite, kRead, kRead, kRead, kRead]
  | .kRWI_TODO => ![kRead, kRead, kRead, kRead, kRead, kRead]

end Tables

/-- `elementTypeSize`: the size in bytes of an element of each element type. -/
def elementTypeSize : Fin 8 → Nat := ![0, 1, 2, 4, 8, 4, 4, 0]

/-- Modelled from the spec: `Support::lsbMask<uint32_t>(n)` (declared in `core/support.h`, which
is not among the sources) is the 32-bit mask of the `n` low bits. -/
def lsbMask (n : Nat) : Nat := (2 ^ n - 1) % 2 ^ 32

/-! ### The loop bodies -/

/-- The body of the loop over a register list, for operand `i` of `opCount`: every operand but
the last takes the flags of slot 0, the last the flags of slot 1; the first register records how
many registers follow it, the others are marked consecutive. -/
def consecutiveOp (rwInfo : Fin kMaxOpCount → OpRWFlags) (opCount i : Nat) (srcOp : Operand)
    (op : OpRWInfo) : OpRWInfo :=
  let rwFlags := if i < opCount - 1 then rwInfo 0 else rwInfo 1
  match srcOp with
  | .reg _ =>
    let op := op.init rwFlags
    if i = 0 then { op with consecutiveLeadCount := (opCount - 1) % 2 ^ 8 }
    else op.addOpFlags OpRWFlags.kConsecutive
  | .mem memOp => (op.init rwFlags).addMemFlags memOp
  | _ => OpRWInfo.reset

/-- `uint64_t(lsbMask<uint32_t>(elementSize)) << (elementIndex * elementSize)`: the bytes of one
element of a vector register, or `none` for a shift of 64 bits or more. -/
def accessMask (elementSize elementIndex : Nat) : Option Nat :=
  let shift := elementIndex * elementSize
  if 64 ≤ shift then none else some ((lsbMask elementSize <<< shift) % 2 ^ 64)

/-- The body of the other loop, for an operand with the flags `rwFlags` of its slot: a vector
register with an element index keeps only the bytes of that element in its masks. -/
def generalOp (rwFlags : OpRWFlags) (srcOp : Operand) (op : OpRWInfo) : Option OpRWInfo :=
  match srcOp with
  | .reg reg =>
    let op := op.init rwFlags
    if reg.hasElementIndex then
      (accessMask (elementTypeSize reg.elementType) reg.elementIndex).map fun mask =>
        { op with
          readByteMask := op.readByteMask &&& mask, writeByteMask := op.writeByteMask &&& mask }
    else some op
  | .mem memOp => some ((op.init rwFlags).addMemFlags memOp)
  | _ => some OpRWInfo.reset

/-! ### The loops -/

/-- One pass of a loop: operand `i` fills slot `i` of `out->_operands`, from the slot's old
value. -/
def rwStep (body : Fin kMaxOpCount → Operand → OpRWInfo → Option OpRWInfo)
    (operands : List Operand) (i : Nat) (slots : Fin kMaxOpCount → OpRWInfo) :
    Option (Fin kMaxOpCount → OpRWInfo) :=
  if h : i < kMaxOpCount then
    match operands[i]? with
    | none => none
    | some srcOp => (body ⟨i, h⟩ srcOp (slots ⟨i, h⟩)).map (Function.update slots ⟨i, h⟩)
  else none

/-- `for (uint32_t i = 0; i < n; i++)` over the operands, with the loop body `body`. -/
def rwLoop (body : Fin kMaxOpCount → Operand → OpRWInfo → Option OpRWInfo)
    (operands : List Operand) : Nat → (Fin kMaxOpCount → OpRWInfo) →
      Option (Fin kMaxOpCount → OpRWInfo)
  | 0, slots => some slots
  | n + 1, slots => (rwLoop body operands n slots).bind (rwStep body operands n)

/-- Whether `queryRWInfo` runs the loop over a register list. -/
def isConsecutive (db : InstDB) (instInfo : InstInfo) (opCount : Nat) : Bool :=
  instInfo.hasFlag db.kInstFlagConsecutive && decide (2 < opCount)

/-- The loop body `queryRWInfo` runs for the instruction `instInfo` and `opCount` operands. -/
def rwBody (db : InstDB) (instInfo : InstInfo) (opCount : Nat) :
    Fin kMaxOpCount → Operand → OpRWInfo → Option OpRWInfo :=
  let rwInfo := instRWInfoData instInfo.rwInfoIndex
  if isConsecutive db instInfo opCount then
    fun i srcOp op => some (consecutiveOp rwInfo opCount i srcOp op)
  else fun i srcOp op => generalOp (rwInfo i) srcOp op

/-- `InstInternal::queryRWInfo()`. -/
def queryRWInfo (db : InstDB) (inst : BaseInst) (operands : List Operand) (opCount : Nat)
    (out : InstRWInfo) : Option (Error × InstRWInfo) :=
  if h : isDefinedId db inst.id then
    let out := { out with
      instFlags := 0, opCount := opCount % 2 ^ 8, rmFeature := 0, extraReg := RegOnly.reset,
      readFlags := 0, writeFlags := 0 }
    let instInfo := db.instInfoTable.get ⟨inst.id, h⟩
    (rwLoop (rwBody db instInfo opCount) operands opCount out.operands).map fun slots =>
      (.kErrorOk, { out with operands := slots })
  else some (.kErrorInvalidInstruction, out)

end AsmJit.A64
