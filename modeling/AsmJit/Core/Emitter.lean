/-
  The transient per-instruction state of `BaseEmitter` (`core/emitter.h`): the options, the
  extra register and the inline comment that decorate the next instruction only, next to the
  sticky `_forcedInstOptions`.

  `BaseEmitter σ` keeps the four members these functions touch; `other` stands for every other
  member of the class (emitter type and flags, code holder, logger, ...), of any type `σ`, which
  none of them reads or writes. Each setter and reset is the inline member function of the
  header. `EmitterOp` names them, so that a client's sequence of calls is a list that `exec`
  runs from any emitter.
-/
import AsmJit.Core.Operand

namespace AsmJit

/-- `BaseEmitter::State`: what `_grabState` hands to the instruction being emitted. The
comment is a borrowed `const char*`; `none` is the null pointer. -/
structure State where
  options : InstOptions
  extraReg : RegOnly
  comment : Option String
deriving DecidableEq, Repr

/-- The members of `BaseEmitter` that the transient-state functions touch, and `other`, every
other member. -/
@[ext]
structure BaseEmitter (σ : Type) where
  forcedInstOptions : InstOptions
  instOptions : InstOptions
  extraReg : RegOnly
  inlineComment : Option String
  other : σ

namespace BaseEmitter

variable {σ : Type}

/-- `BaseEmitter::setInstOptions()`. -/
def setInstOptions (e : BaseEmitter σ) (options : InstOptions) : BaseEmitter σ :=
  { e with instOptions := options }

/-- `BaseEmitter::addInstOptions()`. -/
def addInstOptions (e : BaseEmitter σ) (options : InstOptions) : BaseEmitter σ :=
  { e with instOptions := e.instOptions ||| options }

/-- `BaseEmitter::resetInstOptions()`. -/
def resetInstOptions (e : BaseEmitter σ) : BaseEmitter σ :=
  { e with instOptions := InstOptions.kNone }

/-- `BaseEmitter::setExtraReg()`: both overloads copy the register's signature and id. -/
def setExtraReg (e : BaseEmitter σ) (reg : RegOnly) : BaseEmitter σ :=
  { e with extraReg := reg }

/-- `BaseEmitter::resetExtraReg()`. -/
def resetExtraReg (e : BaseEmitter σ) : BaseEmitter σ :=
  { e with extraReg := RegOnly.reset }

/-- `BaseEmitter::setInlineComment()`. -/
def setInlineComment (e : BaseEmitter σ) (s : Option String) : BaseEmitter σ :=
  { e with inlineComment := s }

/-- `BaseEmitter::resetInlineComment()`. -/
def resetInlineComment (e : BaseEmitter σ) : BaseEmitter σ :=
  { e with inlineComment := none }

/-- `BaseEmitter::resetState()`: the three transient resets, in the header's order. -/
def resetState (e : BaseEmitter σ) : BaseEmitter σ :=
  e.resetInstOptions.resetExtraReg.resetInlineComment

/-- `BaseEmitter::_grabState()`: the pending state, with the forced options merged in, and the
emitter after `resetState`. -/
def grabState (e : BaseEmitter σ) : State × BaseEmitter σ :=
  (⟨e.instOptions ||| e.forcedInstOptions, e.extraReg, e.inlineComment⟩, e.resetState)

/-- Modelled from the spec: `_emitOpArray`, which `emitOpArray` forwards to, is defined in
`emitter.cpp` and the subclasses, not among the sources. The emit it dispatches to merges the
forced options into the pending state and clears it, as `_grabState` does; the state the
instruction is emitted with is returned in place of the emit's error. -/
def emitOpArray (e : BaseEmitter σ) : State × BaseEmitter σ :=
  e.grabState

/-- `BaseEmitter::emitInst()`: the instruction's options and extra register become the pending
ones, and `_emitOpArray` emits the instruction. -/
def emitInst (e : BaseEmitter σ) (inst : BaseInst) : State × BaseEmitter σ :=
  ((e.setInstOptions inst.options).setExtraReg inst.extraReg).emitOpArray

@[simp] theorem resetState_forcedInstOptions (e : BaseEmitter σ) :
    e.resetState.forcedInstOptions = e.forcedInstOptions := rfl

@[simp] theorem resetState_instOptions (e : BaseEmitter σ) :
    e.resetState.instOptions = InstOptions.kNone := rfl

@[simp] theorem resetState_extraReg (e : BaseEmitter σ) :
    e.resetState.extraReg = RegOnly.reset := rfl

@[simp] theorem resetState_inlineComment (e : BaseEmitter σ) :
    e.resetState.inlineComment = none := rfl

@[simp] theorem resetState_other (e : BaseEmitter σ) : e.resetState.other = e.other := rfl

end BaseEmitter

/-! ### Sequences of calls -/

/-- A call to one of the transient-state member functions of `BaseEmitter`. -/
inductive EmitterOp
  | setInstOptions (options : InstOptions)
  | addInstOptions (options : InstOptions)
  | resetInstOptions
  | setExtraReg (reg : RegOnly)
  | resetExtraReg
  | setInlineComment (s : Option String)
  | resetInlineComment
  | resetState
  | grabState
deriving DecidableEq, Repr

namespace BaseEmitter

variable {σ : Type}

/-- One call on `e`: the emitter after it, and the `State` it returned when it was
`_grabState`. -/
def step (e : BaseEmitter σ) : EmitterOp → Option State × BaseEmitter σ
  | .setInstOptions options => (none, e.setInstOptions options)
  | .addInstOptions options => (none, e.addInstOptions options)
  | .resetInstOptions => (none, e.resetInstOptions)
  | .setExtraReg reg => (none, e.setExtraReg reg)
  | .resetExtraReg => (none, e.resetExtraReg)
  | .setInlineComment s => (none, e.setInlineComment s)
  | .resetInlineComment => (none, e.resetInlineComment)
  | .resetState => (none, e.resetState)
  | .grabState => (some e.grabState.1, e.grabState.2)

/-- The emitter after the calls `ops`, made in order from `e`. -/
def exec (e : BaseEmitter σ) : List EmitterOp → BaseEmitter σ
  | [] => e
  | op :: ops => exec (e.step op).2 ops

/-- The states that the `_grabState` calls among `ops` return, in order. -/
def grabs (e : BaseEmitter σ) : List EmitterOp → List State
  | [] => []
  | op :: ops => (e.step op).1.toList ++ grabs (e.step op).2 ops

@[simp] theorem exec_nil (e : BaseEmitter σ) : e.exec [] = e := rfl

@[simp] theorem exec_cons (e : BaseEmitter σ) (op : EmitterOp) (ops : List EmitterOp) :
    e.exec (op :: ops) = (e.step op).2.exec ops := rfl

theorem exec_append (e : BaseEmitter σ) (xs ys : List EmitterOp) :
    e.exec (xs ++ ys) = (e.exec xs).exec ys := by
  induction xs generalizing e with
  | nil => rfl
  | cons op xs ih => exact ih _

end BaseEmitter

end AsmJit
