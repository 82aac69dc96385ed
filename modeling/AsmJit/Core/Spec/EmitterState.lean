import AsmJit.Core.Emitter

/-!
## The transient state of `BaseEmitter` never leaks

The header's functions are read as a state machine over `BaseEmitter σ` (`BaseEmitter.exec`).
Its specification reads the pending state off the history of calls instead: a member holds
the value of the most recent call that writes it (`lastWrite`), and the options also collect
every `addInstOptions` made after that call (`pendingOptions`).

* `exec_instOptions`, `exec_extraReg`, `exec_inlineComment`: the machine computes exactly these
  values, from any emitter, for any sequence of calls.
* `exec_grabState`: after a `_grabState` the emitter is `e.resetState`, whatever calls came
  before; so the states grabbed later do not depend on them (`grabs_append_grabState`).
* `grabState_exec`: the whole contract, what each grab returns and what survives it.
-/

namespace AsmJit

namespace EmitterOp

/-- The value a call stores into the next instruction's options, when it stores one. -/
def instOptionsWrite : EmitterOp → Option InstOptions
  | .setInstOptions options => some options
  | .resetInstOptions | .resetState | .grabState => some InstOptions.kNone
  | _ => none

/-- The value a call stores into the extra register, when it stores one. -/
def extraRegWrite : EmitterOp → Option RegOnly
  | .setExtraReg reg => some reg
  | .resetExtraReg | .resetState | .grabState => some RegOnly.reset
  | _ => none

/-- The value a call stores into the inline comment, when it stores one. -/
def inlineCommentWrite : EmitterOp → Option (Option String)
  | .setInlineComment s => some s
  | .resetInlineComment | .resetState | .grabState => some none
  | _ => none

/-- The options an `addInstOptions` call adds; `kNone` for every other call. -/
def addedOptions : EmitterOp → InstOptions
  | .addInstOptions options => options
  | _ => InstOptions.kNone

end EmitterOp

/-- The value stored by the most recent call among `ops` that stores one, or `init`. -/
def lastWrite {α : Type} (write : EmitterOp → Option α) (init : α) (ops : List EmitterOp) : α :=
  (ops.reverse.findSome? write).getD init

/-- The options pending after `ops`: those of the most recent call that sets or resets them
(`init` if there is none), or'd with every `addInstOptions` made after it. -/
def pendingOptions (init : InstOptions) (ops : List EmitterOp) : InstOptions :=
  ((ops.reverse.takeWhile (·.instOptionsWrite.isNone)).map EmitterOp.addedOptions).foldr
    (fun added acc => acc ||| added) (lastWrite EmitterOp.instOptionsWrite init ops)

theorem lastWrite_append_singleton {α : Type} (write : EmitterOp → Option α) (init : α)
    (ops : List EmitterOp) (op : EmitterOp) :
    lastWrite write init (ops ++ [op]) = (write op).getD (lastWrite write init ops) := by
  cases h : write op <;> simp [lastWrite, List.findSome?_cons, h]

theorem pendingOptions_append_singleton (init : InstOptions) (ops : List EmitterOp)
    (op : EmitterOp) :
    pendingOptions init (ops ++ [op]) =
      op.instOptionsWrite.getD (pendingOptions init ops ||| op.addedOptions) := by
  cases h : op.instOptionsWrite <;>
    simp [pendingOptions, lastWrite_append_singleton, List.takeWhile_cons, h]

namespace BaseEmitter

variable {σ : Type}

/-! ### One call -/

@[simp] theorem step_forcedInstOptions (e : BaseEmitter σ) (op : EmitterOp) :
    (e.step op).2.forcedInstOptions = e.forcedInstOptions := by
  cases op <;> rfl

@[simp] theorem step_other (e : BaseEmitter σ) (op : EmitterOp) :
    (e.step op).2.other = e.other := by
  cases op <;> rfl

theorem step_instOptions (e : BaseEmitter σ) (op : EmitterOp) :
    (e.step op).2.instOptions = op.instOptionsWrite.getD (e.instOptions ||| op.addedOptions) := by
  cases op
  -- the calls that leave the options alone add `kNone`
  case setExtraReg | resetExtraReg | setInlineComment | resetInlineComment =>
    exact BitVec.or_zero.symm
  all_goals rfl

theorem step_extraReg (e : BaseEmitter σ) (op : EmitterOp) :
    (e.step op).2.extraReg = op.extraRegWrite.getD e.extraReg := by
  cases op <;> rfl

theorem step_inlineComment (e : BaseEmitter σ) (op : EmitterOp) :
    (e.step op).2.inlineComment = op.inlineCommentWrite.getD e.inlineComment := by
  cases op <;> rfl

/-! ### Runs -/

theorem exec_append_singleton (e : BaseEmitter σ) (ops : List EmitterOp) (op : EmitterOp) :
    e.exec (ops ++ [op]) = ((e.exec ops).step op).2 := by
  rw [exec_append]; rfl

@[simp] theorem exec_forcedInstOptions (e : BaseEmitter σ) (ops : List EmitterOp) :
    (e.exec ops).forcedInstOptions = e.forcedInstOptions := by
  induction ops generalizing e with
  | nil => rfl
  | cons op ops ih => simp [ih]

@[simp] theorem exec_other (e : BaseEmitter σ) (ops : List EmitterOp) :
    (e.exec ops).other = e.other := by
  induction ops generalizing e with
  | nil => rfl
  | cons op ops ih => simp [ih]

theorem exec_instOptions (e : BaseEmitter σ) (ops : List EmitterOp) :
    (e.exec ops).instOptions = pendingOptions e.instOptions ops := by
  induction ops using List.reverseRecOn with
  | nil => rfl
  | append_singleton ops op ih =>
    rw [exec_append_singleton, step_instOptions, ih, pendingOptions_append_singleton]

theorem exec_extraReg (e : BaseEmitter σ) (ops : List EmitterOp) :
    (e.exec ops).extraReg = lastWrite EmitterOp.extraRegWrite e.extraReg ops := by
  induction ops using List.reverseRecOn with
  | nil => rfl
  | append_singleton ops op ih =>
    rw [exec_append_singleton, step_extraReg, ih, lastWrite_append_singleton]

theorem exec_inlineComment (e : BaseEmitter σ) (ops : List EmitterOp) :
    (e.exec ops).inlineComment = lastWrite EmitterOp.inlineCommentWrite e.inlineComment ops := by
  induction ops using List.reverseRecOn with
  | nil => rfl
  | append_singleton ops op ih =>
    rw [exec_append_singleton, step_inlineComment, ih, lastWrite_append_singleton]

/-- **No leak.** After a `_grabState`, the emitter is `e.resetState` whatever calls came
before it. -/
theorem exec_grabState (e : BaseEmitter σ) (ops : List EmitterOp) :
    e.exec (ops ++ [.grabState]) = e.resetState := by
  rw [exec_append_singleton]
  ext <;> simp [step, grabState]

theorem exec_resetState (e : BaseEmitter σ) (ops : List EmitterOp) :
    e.exec (ops ++ [.resetState]) = e.resetState := by
  rw [exec_append_singleton]
  ext <;> simp [step]

theorem grabs_append (e : BaseEmitter σ) (xs ys : List EmitterOp) :
    e.grabs (xs ++ ys) = e.grabs xs ++ (e.exec xs).grabs ys := by
  induction xs generalizing e with
  | nil => rfl
  | cons op xs ih => simp [grabs, ih]

/-- The states grabbed after a `_grabState` depend only on `e.resetState` and the later calls. -/
theorem grabs_append_grabState (e : BaseEmitter σ) (pre post : List EmitterOp) :
    e.grabs (pre ++ .grabState :: post) =
      e.grabs (pre ++ [.grabState]) ++ e.resetState.grabs post := by
  rw [← List.singleton_append, ← List.append_assoc, grabs_append, exec_grabState]

/-! ### The contract -/

/-- **The transient-state contract.** From any emitter `e`, after any calls `ops`, a
`_grabState` returns the forced options or'd with the pending ones, and the extra register and
comment of the most recent call that wrote them (what `e` held when no call did). After a grab,
and after a `resetState`, the emitter is `e.resetState`; no call changes the forced options or
any other member; and the states grabbed after a grab do not depend on the calls before it. -/
theorem grabState_exec (e : BaseEmitter σ) (ops post : List EmitterOp) :
    (e.exec ops).grabState.1 =
        ⟨e.forcedInstOptions ||| pendingOptions e.instOptions ops,
          lastWrite EmitterOp.extraRegWrite e.extraReg ops,
          lastWrite EmitterOp.inlineCommentWrite e.inlineComment ops⟩ ∧
      e.exec (ops ++ [.grabState]) = e.resetState ∧
      e.exec (ops ++ [.resetState]) = e.resetState ∧
      (e.exec ops).forcedInstOptions = e.forcedInstOptions ∧ (e.exec ops).other = e.other ∧
      e.grabs (ops ++ .grabState :: post) =
        e.grabs (ops ++ [.grabState]) ++ e.resetState.grabs post := by
  refine ⟨?_, exec_grabState e ops, exec_resetState e ops, exec_forcedInstOptions e ops,
    exec_other e ops, grabs_append_grabState e ops post⟩
  simp only [grabState, exec_instOptions, exec_extraReg, exec_inlineComment,
    exec_forcedInstOptions, BitVec.or_comm]

/-- Options pending in the starting emitter reach the first grab when no call resets them: the
grab returns them, not `kNone`. -/
theorem grabState_sees_pending_options_of_start :
    ((⟨0, 1, RegOnly.reset, none, ()⟩ : BaseEmitter Unit).exec []).grabState.1 ≠
      ⟨0 ||| pendingOptions InstOptions.kNone [],
        lastWrite EmitterOp.extraRegWrite RegOnly.reset [],
        lastWrite EmitterOp.inlineCommentWrite none []⟩ := by
  decide

end BaseEmitter

end AsmJit
