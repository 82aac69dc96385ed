/-
  Operands, instructions and read/write information, as `asmjit/core` declares them for the
  AArch64 instruction API (`arm/a64instapi.cpp`) and for `BaseEmitter` (`core/emitter.h`).

  The headers that declare these types (`core/operand.h`, `core/inst.h`, `arm/a64operand.h`)
  are not among the sources, so each type keeps only the members that the modelled functions
  read or write, under their names in the source. A register operand is the element fields of
  its signature, a memory operand the presence of its base and index and its offset mode. An
  `OpRWFlags` value is a finite set of named flags: the proofs use only that the flags are
  distinct, never their bit values.
-/
import Mathlib.Data.Finset.Basic

namespace AsmJit

/-- `Error`, restricted to the codes the modelled functions return. -/
inductive Error
  | kErrorOk
  | kErrorInvalidInstruction
deriving DecidableEq, Repr

/-- `InstOptions`, a 32-bit set of instruction options (prefixes, hints). -/
abbrev InstOptions := BitVec 32

/-- `InstOptions::kNone`. -/
def InstOptions.kNone : InstOptions := 0

/-- `Globals::kMaxOpCount`: an instruction has at most six operands. -/
abbrev kMaxOpCount : Nat := 6

/-- `BaseReg::kIdBad`, the physical id of an unassigned register. -/
def kIdBad : Nat := 0xFF

/-! ### Operands -/

/-- `RegOnly`: the signature and id of a register without the rest of an operand. -/
structure RegOnly where
  signature : Nat
  id : Nat
deriving DecidableEq, Repr

/-- The value `RegOnly::reset()` leaves: both members zero, no register. -/
def RegOnly.reset : RegOnly := ⟨0, 0⟩

/-- A register operand, as `a64::Vec` reads its signature: the element-index flag, the 3-bit
element type and the 4-bit element index. A general-purpose register has the flag clear. -/
structure Reg where
  hasElementIndex : Bool
  elementType : Fin 8
  elementIndex : Fin 16
deriving DecidableEq, Repr

/-- The offset mode of an AArch64 memory operand: a plain offset, pre-index or post-index. -/
inductive OffsetMode
  | kFixed
  | kPreIndex
  | kPostIndex
deriving DecidableEq, Repr

/-- A memory operand, `a64::Mem`: whether it has a base and an index register, and its offset
mode. -/
structure Mem where
  hasBase : Bool
  hasIndex : Bool
  offsetMode : OffsetMode
deriving DecidableEq, Repr

/-- `Mem::isPreOrPost()`: the operand writes its address back. -/
def Mem.isPreOrPost (m : Mem) : Bool := m.offsetMode != .kFixed

/-- `Operand_`, by the kind its signature stores. -/
inductive Operand
  | none
  | reg (r : Reg)
  | mem (m : Mem)
  | imm
  | label
deriving DecidableEq, Repr

/-- `Operand_::isRegOrMem()`. -/
def Operand.isRegOrMem : Operand → Bool
  | .reg _ | .mem _ => true
  | _ => false

/-- `BaseInst`: the instruction id with the options and extra register it carries. -/
structure BaseInst where
  /-- The instruction id (`InstId`, a `uint32_t`). -/
  id : Nat
  options : InstOptions
  extraReg : RegOnly
deriving DecidableEq, Repr

/-! ### Read/write information -/

/-- The `OpRWFlags` bits that `a64instapi.cpp` tests or sets. -/
inductive OpRWFlag
  | read
  | write
  | zExt
  | consecutive
  | memBaseRead
  | memBaseWrite
  | memIndexRead
  | memIndexWrite
deriving DecidableEq, Repr

/-- `OpRWFlags`: a set of `OpRWFlag` bits. -/
abbrev OpRWFlags := Finset OpRWFlag

namespace OpRWFlags

def kNone : OpRWFlags := ∅
def kRead : OpRWFlags := {.read}
def kWrite : OpRWFlags := {.write}
def kRW : OpRWFlags := {.read, .write}
def kZExt : OpRWFlags := {.zExt}
def kConsecutive : OpRWFlags := {.consecutive}
def kMemBaseRead : OpRWFlags := {.memBaseRead}
def kMemBaseWrite : OpRWFlags := {.memBaseWrite}
def kMemIndexRead : OpRWFlags := {.memIndexRead}
def kMemIndexWrite : OpRWFlags := {.memIndexWrite}

end OpRWFlags

/-- `OpRWInfo`: what an instruction does with one operand. The byte masks are `uint64_t`
values, one bit per byte of the register or memory location. -/
structure OpRWInfo where
  opFlags : OpRWFlags
  physId : Nat
  rmSize : Nat
  consecutiveLeadCount : Nat
  reserved : Nat
  readByteMask : Nat
  writeByteMask : Nat
  extendByteMask : Nat
deriving DecidableEq

namespace OpRWInfo

/-- `OpRWInfo::reset()`: every member zero. -/
def reset : OpRWInfo := ⟨∅, 0, 0, 0, 0, 0, 0, 0⟩

/-- `OpRWInfo::isRead()`. -/
def isRead (op : OpRWInfo) : Bool := decide (OpRWFlag.read ∈ op.opFlags)

/-- `OpRWInfo::isWrite()`. -/
def isWrite (op : OpRWInfo) : Bool := decide (OpRWFlag.write ∈ op.opFlags)

/-- `OpRWInfo::addOpFlags()`. -/
def addOpFlags (op : OpRWInfo) (flags : OpRWFlags) : OpRWInfo :=
  { op with opFlags := op.opFlags ∪ flags }

@[simp] theorem addOpFlags_opFlags (op : OpRWInfo) (flags : OpRWFlags) :
    (op.addOpFlags flags).opFlags = op.opFlags ∪ flags := rfl

@[simp] theorem addOpFlags_readByteMask (op : OpRWInfo) (flags : OpRWFlags) :
    (op.addOpFlags flags).readByteMask = op.readByteMask := rfl

@[simp] theorem addOpFlags_writeByteMask (op : OpRWInfo) (flags : OpRWFlags) :
    (op.addOpFlags flags).writeByteMask = op.writeByteMask := rfl

@[simp] theorem addOpFlags_extendByteMask (op : OpRWInfo) (flags : OpRWFlags) :
    (op.addOpFlags flags).extendByteMask = op.extendByteMask := rfl

@[simp] theorem addOpFlags_consecutiveLeadCount (op : OpRWInfo) (flags : OpRWFlags) :
    (op.addOpFlags flags).consecutiveLeadCount = op.consecutiveLeadCount := rfl

end OpRWInfo

/-- `InstRWInfo`: the result of `queryRWInfo`, with one `OpRWInfo` per operand slot. -/
structure InstRWInfo where
  instFlags : Nat
  opCount : Nat
  rmFeature : Nat
  extraReg : RegOnly
  readFlags : Nat
  writeFlags : Nat
  operands : Fin kMaxOpCount → OpRWInfo

end AsmJit
