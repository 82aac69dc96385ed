import AsmJit.A64.InstApi.RWInfo

/-!
## Correctness of `queryRWInfo`

* `rwLoop_slot`, `rwLoop_isSome_iff`: a run of the loop fills each slot `i < n` by its body, from
  operand `i` and the slot's old value alone, leaves the other slots, and faults exactly when
  `n` is above six, the list is short, or a body faults.
* `consecutiveOp_spec`, `generalOp_spec`: the flags and byte masks each loop body gives one
  operand.
* `queryRWInfo_isSome_iff`: exactly when the query faults.
* `queryRWInfo_post_index_writeback`: a post-indexed load whose writeback is flagged on its index
  register.
* `queryRWInfo_general`: the flags and byte masks of every operand on the general loop, an
  element-indexed register getting exactly the bytes of its element; `queryRWInfo_element_masks`
  replays element-indexed registers whose masks are not the bytes of their element.
* `queryRWInfo_independent_of_out`: of what `out` held, a filled slot keeps at most its lead
  count.
-/

namespace AsmJit.OpRWInfo

/-! ### One operand -/

/-- The byte masks of an operand follow its flags: the bytes `mask` where the flags read or
write, none where they do not, and no extended bytes. -/
def MasksFollowFlags (op : OpRWInfo) (mask : Nat) : Prop :=
  op.readByteMask = (if OpRWFlag.read ∈ op.opFlags then mask else 0) ∧
    op.writeByteMask = (if OpRWFlag.write ∈ op.opFlags then mask else 0) ∧ op.extendByteMask = 0

@[simp] theorem init_opFlags (op : OpRWInfo) (rwFlags : OpRWFlags) :
    (op.init rwFlags).opFlags = rwFlags \ OpRWFlags.kZExt := rfl

@[simp] theorem init_consecutiveLeadCount (op : OpRWInfo) (rwFlags : OpRWFlags) :
    (op.init rwFlags).consecutiveLeadCount = op.consecutiveLeadCount := rfl

theorem mem_init_opFlags {op : OpRWInfo} {rwFlags : OpRWFlags} {x : OpRWFlag}
    (hx : x ≠ .zExt) : x ∈ (op.init rwFlags).opFlags ↔ x ∈ rwFlags := by
  simp [OpRWFlags.kZExt, hx]

theorem init_masksFollowFlags (op : OpRWInfo) (rwFlags : OpRWFlags) :
    (op.init rwFlags).MasksFollowFlags kAllBytes :=
  ⟨by simp [init, isRead], by simp [init, isWrite], rfl⟩

theorem MasksFollowFlags.addOpFlags {op : OpRWInfo} {mask : Nat} (h : op.MasksFollowFlags mask)
    {flags : OpRWFlags} (hr : OpRWFlag.read ∉ flags) (hw : OpRWFlag.write ∉ flags) :
    (op.addOpFlags flags).MasksFollowFlags mask := by
  obtain ⟨h₁, h₂, h₃⟩ := h
  exact ⟨by simpa [hr] using h₁, by simpa [hw] using h₂, h₃⟩

theorem mem_addMemFlags {op : OpRWInfo} {memOp : Mem} {x : OpRWFlag} :
    x ∈ (op.addMemFlags memOp).opFlags ↔ x ∈ op.opFlags ∨
      x = .memBaseRead ∧ memOp.hasBase ∨ x = .memIndexRead ∧ memOp.hasIndex ∨
        x = .memIndexWrite ∧ memOp.hasIndex ∧ memOp.isPreOrPost := by
  rcases memOp with ⟨_ | _, _ | _, _ | _ | _⟩ <;>
    simp [addMemFlags, Mem.isPreOrPost, OpRWFlags.kMemBaseRead, OpRWFlags.kMemIndexRead,
      OpRWFlags.kMemIndexWrite, OpRWFlags.kNone]

theorem addMemFlags_eq (op : OpRWInfo) (memOp : Mem) :
    op.addMemFlags memOp = { op with opFlags := (op.addMemFlags memOp).opFlags } := by
  rcases memOp with ⟨_ | _, _ | _, _⟩ <;> rfl

theorem MasksFollowFlags.addMemFlags {op : OpRWInfo} {mask : Nat} (h : op.MasksFollowFlags mask)
    (memOp : Mem) : (op.addMemFlags memOp).MasksFollowFlags mask := by
  obtain ⟨h₁, h₂, h₃⟩ := h
  rw [addMemFlags_eq]
  exact ⟨by simpa [mem_addMemFlags] using h₁, by simpa [mem_addMemFlags] using h₂, h₃⟩

theorem kAllBytes_land {mask : Nat} (h : mask < 2 ^ 64) : kAllBytes &&& mask = mask := by
  rw [Nat.and_comm]
  exact Nat.and_pow_two_sub_one_of_lt_two_pow h

/-- Narrowing the masks of a whole operand to the bytes `mask`. -/
theorem MasksFollowFlags.narrow {op : OpRWInfo} (h : op.MasksFollowFlags kAllBytes) {mask : Nat}
    (hmask : mask < 2 ^ 64) :
    MasksFollowFlags { op with
      readByteMask := op.readByteMask &&& mask,
      writeByteMask := op.writeByteMask &&& mask } mask := by
  obtain ⟨h₁, h₂, h₃⟩ := h
  refine ⟨?_, ?_, h₃⟩ <;> dsimp only
  · rw [h₁]; split_ifs <;> simp [kAllBytes_land hmask]
  · rw [h₂]; split_ifs <;> simp [kAllBytes_land hmask]

/-- `init` reads the slot's old value only for its lead count: every other member is written. -/
theorem init_congr {op op' : OpRWInfo} (h : op.consecutiveLeadCount = op'.consecutiveLeadCount)
    (rwFlags : OpRWFlags) : op.init rwFlags = op'.init rwFlags := by
  cases op; cases op'; cases h; rfl

end AsmJit.OpRWInfo

namespace AsmJit.A64

/-! ### The loop -/

section Loop

variable {body : Fin kMaxOpCount → Operand → OpRWInfo → Option OpRWInfo} {operands : List Operand}

theorem rwStep_eq_some {i : Nat} {slots slots' : Fin kMaxOpCount → OpRWInfo} :
    rwStep body operands i slots = some slots' ↔
      ∃ (h : i < kMaxOpCount) (srcOp : Operand) (op : OpRWInfo), operands[i]? = some srcOp ∧
        body ⟨i, h⟩ srcOp (slots ⟨i, h⟩) = some op ∧ Function.update slots ⟨i, h⟩ op = slots' := by
  unfold rwStep
  split_ifs with h
  · cases operands[i]? <;> simp [h]
  · simp [h]

/-- **One run of the loop.** A run over `n` operands fills each slot `i < n` by the body, from
operand `i` and the slot's old value, and leaves the slots from `n` on as they were. -/
theorem rwLoop_slot {n : Nat} {slots slots' : Fin kMaxOpCount → OpRWInfo}
    (h : rwLoop body operands n slots = some slots') (i : Fin kMaxOpCount) :
    (i.val < n → ∃ srcOp, operands[i.val]? = some srcOp ∧
        body i srcOp (slots i) = some (slots' i)) ∧
      (n ≤ i.val → slots' i = slots i) := by
  induction n generalizing slots' with
  | zero =>
    cases h
    exact ⟨fun h => absurd h (Nat.not_lt_zero _), fun _ => rfl⟩
  | succ n ih =>
    obtain ⟨g, hg, hstep⟩ := Option.bind_eq_some.1 h
    obtain ⟨hn, srcOp, op, hsrc, hbody, rfl⟩ := rwStep_eq_some.1 hstep
    obtain ⟨ih₁, ih₂⟩ := ih hg
    by_cases hin : i = ⟨n, hn⟩
    · -- the slot of this pass still held its old value
      subst hin
      refine ⟨fun _ => ⟨srcOp, hsrc, ?_⟩, fun h => absurd h (by simp)⟩
      rw [Function.update_same, ← ih₂ le_rfl]
      exact hbody
    · have hne : i.val ≠ n := fun h => hin (Fin.ext h)
      rw [Function.update_noteq hin]
      exact ⟨fun h => ih₁ (by omega), fun h => ih₂ (by omega)⟩

/-- **When the loop faults.** A run over `n` operands returns exactly when `n` is at most six,
the list holds `n` operands, and no body faults. -/
theorem rwLoop_isSome_iff {n : Nat} {slots : Fin kMaxOpCount → OpRWInfo} :
    (rwLoop body operands n slots).isSome ↔
      n ≤ kMaxOpCount ∧ n ≤ operands.length ∧
        ∀ (i : Fin kMaxOpCount) (srcOp : Operand), i.val < n → operands[i.val]? = some srcOp →
          (body i srcOp (slots i)).isSome := by
  induction n with
  | zero => simp [rwLoop]
  | succ n ih =>
    rw [rwLoop]
    cases hg : rwLoop body operands n slots with
    | none =>
      rw [hg] at ih
      simp only [Option.none_bind, Option.isSome_none, Bool.false_eq_true, false_iff] at ih ⊢
      rintro ⟨h₁, h₂, h₃⟩
      exact ih ⟨by omega, by omega, fun i srcOp hi => h₃ i srcOp (by omega)⟩
    | some g =>
      obtain ⟨h₁, h₂, h₃⟩ := ih.1 (by rw [hg]; rfl)
      simp only [Option.some_bind]
      unfold rwStep
      split_ifs with hn
      · cases hsrc : operands[n]? with
        | none =>
          have := List.getElem?_eq_none_iff.1 hsrc
          exact iff_of_false (by simp) fun h => by omega
        | some srcOp =>
          have hlen : n < operands.length := (List.getElem?_eq_some_iff.1 hsrc).1
          -- slot `n` still holds its old value
          rw [Option.isSome_map', (rwLoop_slot hg ⟨n, hn⟩).2 le_rfl]
          refine ⟨fun hb => ⟨hn, hlen, fun i src hi hs => ?_⟩, fun ⟨_, _, h⟩ =>
            h ⟨n, hn⟩ srcOp (Nat.lt_succ_self n) hsrc⟩
          rcases Nat.lt_succ_iff_lt_or_eq.1 hi with hi | hi
          · exact h₃ i src hi hs
          · obtain rfl : i = ⟨n, hn⟩ := Fin.ext hi
            obtain rfl : src = srcOp := Option.some.inj (hs.symm.trans hsrc)
            exact hb
      · exact iff_of_false (by simp) fun h => hn (by omega)

end Loop

/-! ### The tables and the element masks -/

theorem elementTypeSize_cases (t : Fin 8) :
    elementTypeSize t = 0 ∨ elementTypeSize t = 1 ∨ elementTypeSize t = 2 ∨
      elementTypeSize t = 4 ∨ elementTypeSize t = 8 := by
  revert t
  decide

theorem accessMask_eq_none_iff {elementSize elementIndex : Nat} :
    accessMask elementSize elementIndex = none ↔ 64 ≤ elementIndex * elementSize := by
  unfold accessMask
  dsimp only
  split_ifs with h <;> simp [h]

/-- **The bytes of one element.** Where the shift is below 64, the mask of element `k` of a
vector of elements of `elementTypeSize t` bytes is exactly the bytes `[k * z, (k + 1) * z)`. -/
theorem accessMask_testBit {t : Fin 8} {k mask : Nat}
    (h : accessMask (elementTypeSize t) k = some mask) (j : Nat) :
    mask.testBit j ↔ k * elementTypeSize t ≤ j ∧ j < (k + 1) * elementTypeSize t := by
  unfold accessMask at h
  dsimp only at h
  split_ifs at h with hs
  cases h
  -- an element size divides 64, so the element ends at byte 64 at the latest
  have hend : (k + 1) * elementTypeSize t ≤ 64 := by
    rcases elementTypeSize_cases t with h | h | h | h | h <;> rw [h] at hs ⊢ <;> omega
  have hlsb : lsbMask (elementTypeSize t) = 2 ^ elementTypeSize t - 1 := by
    rcases elementTypeSize_cases t with h | h | h | h | h <;> rw [h] <;> rfl
  rw [Nat.add_one_mul] at hend ⊢
  rw [hlsb, Nat.testBit_mod_two_pow, Nat.testBit_shiftLeft, Nat.testBit_two_pow_sub_one]
  simp only [Bool.and_eq_true, decide_eq_true_eq]
  omega

theorem accessMask_lt {elementSize elementIndex mask : Nat}
    (h : accessMask elementSize elementIndex = some mask) : mask < 2 ^ 64 := by
  unfold accessMask at h
  dsimp only at h
  split_ifs at h
  cases h
  exact Nat.mod_lt _ (Nat.two_pow_pos 64)

/-! ### The loop bodies -/

theorem rwBody_of_isConsecutive {db : InstDB} {instInfo : InstInfo} {opCount : Nat}
    (h : isConsecutive db instInfo opCount = true) (i : Fin kMaxOpCount) (srcOp : Operand)
    (op : OpRWInfo) :
    rwBody db instInfo opCount i srcOp op =
      some (consecutiveOp (instRWInfoData instInfo.rwInfoIndex) opCount i srcOp op) := by
  simp [rwBody, h]

theorem rwBody_of_not_isConsecutive {db : InstDB} {instInfo : InstInfo} {opCount : Nat}
    (h : isConsecutive db instInfo opCount = false) (i : Fin kMaxOpCount) (srcOp : Operand)
    (op : OpRWInfo) :
    rwBody db instInfo opCount i srcOp op =
      generalOp (instRWInfoData instInfo.rwInfoIndex i) srcOp op := by
  simp [rwBody, h]

theorem rwBody_isSome_iff {db : InstDB} {instInfo : InstInfo} {opCount : Nat}
    {i : Fin kMaxOpCount} {srcOp : Operand} {op : OpRWInfo} :
    (rwBody db instInfo opCount i srcOp op).isSome ↔
      (isConsecutive db instInfo opCount = false → ∀ reg : Reg, srcOp = .reg reg →
        reg.hasElementIndex = true →
          reg.elementIndex.val * elementTypeSize reg.elementType < 64) := by
  cases hc : isConsecutive db instInfo opCount
  · rw [rwBody_of_not_isConsecutive hc]
    cases srcOp with
    | reg reg =>
      cases he : reg.hasElementIndex
      · simp [generalOp, he]
      · simp [generalOp, he, Option.isSome_iff_ne_none, accessMask_eq_none_iff]
    | _ => simp [generalOp]
  · simp [rwBody_of_isConsecutive hc]

/-- Both bodies read the slot's old value only for its lead count. -/
theorem rwBody_congr {db : InstDB} {instInfo : InstInfo} {opCount : Nat} {i : Fin kMaxOpCount}
    {srcOp : Operand} {op op' : OpRWInfo}
    (h : op.consecutiveLeadCount = op'.consecutiveLeadCount) :
    rwBody db instInfo opCount i srcOp op = rwBody db instInfo opCount i srcOp op' := by
  cases hc : isConsecutive db instInfo opCount
  · rw [rwBody_of_not_isConsecutive hc, rwBody_of_not_isConsecutive hc]
    cases srcOp <;> simp only [generalOp, OpRWInfo.init_congr h]
  · rw [rwBody_of_isConsecutive hc, rwBody_of_isConsecutive hc]
    cases srcOp <;> simp only [consecutiveOp, OpRWInfo.init_congr h]

/-- Whatever the slot held, both bodies write the same members other than the lead count. -/
theorem rwBody_map_leadCount {db : InstDB} {instInfo : InstInfo} {opCount : Nat}
    {i : Fin kMaxOpCount} {srcOp : Operand} (op op' : OpRWInfo) :
    (rwBody db instInfo opCount i srcOp op).map (fun o => { o with consecutiveLeadCount := 0 }) =
      (rwBody db instInfo opCount i srcOp op').map
        (fun o => { o with consecutiveLeadCount := 0 }) := by
  cases hc : isConsecutive db instInfo opCount
  · rw [rwBody_of_not_isConsecutive hc, rwBody_of_not_isConsecutive hc]
    cases srcOp with
    | reg reg =>
      cases he : reg.hasElementIndex
      · simp only [generalOp, he]; rfl
      · simp only [generalOp, he, if_true]
        cases accessMask (elementTypeSize reg.elementType) reg.elementIndex <;> rfl
    | mem memOp => rcases memOp with ⟨_ | _, _ | _, _⟩ <;> rfl
    | _ => rfl
  · rw [rwBody_of_isConsecutive hc, rwBody_of_isConsecutive hc]
    cases srcOp with
    | reg reg =>
      by_cases h0 : (i : Nat) = 0 <;> simp only [consecutiveOp, h0, if_true, if_false] <;> rfl
    | mem memOp => rcases memOp with ⟨_ | _, _ | _, _⟩ <;> rfl
    | _ => rfl

/-- The body of the loop over a register list fills a register or memory operand with the byte
masks of the whole operand and the reads and writes of slot 0, or of slot 1 for the last
operand; the first register records the registers that follow it, and the others are flagged
consecutive. -/
theorem consecutiveOp_spec (rwInfo : Fin kMaxOpCount → OpRWFlags) (opCount i : Nat)
    {srcOp : Operand} (hrm : srcOp.isRegOrMem = true) (op : OpRWInfo)
    (hcount : opCount - 1 < 2 ^ 8) :
    (consecutiveOp rwInfo opCount i srcOp op).MasksFollowFlags OpRWInfo.kAllBytes ∧
      (∀ x, x = OpRWFlag.read ∨ x = OpRWFlag.write →
        (x ∈ (consecutiveOp rwInfo opCount i srcOp op).opFlags ↔
          x ∈ if i < opCount - 1 then rwInfo 0 else rwInfo 1)) ∧
      ∀ reg, srcOp = .reg reg →
        if i = 0 then (consecutiveOp rwInfo opCount i srcOp op).consecutiveLeadCount = opCount - 1
        else OpRWFlag.consecutive ∈ (consecutiveOp rwInfo opCount i srcOp op).opFlags := by
  have hzext : ∀ x, x = OpRWFlag.read ∨ x = OpRWFlag.write → x ≠ .zExt := by
    rintro x (rfl | rfl) <;> decide
  cases srcOp with
  | reg reg =>
    by_cases h0 : i = 0
    · simp only [consecutiveOp, if_pos h0]
      exact ⟨OpRWInfo.init_masksFollowFlags _ _,
        fun x hx => OpRWInfo.mem_init_opFlags (hzext x hx), fun _ _ => Nat.mod_eq_of_lt hcount⟩
    · simp only [consecutiveOp, if_neg h0]
      refine ⟨(OpRWInfo.init_masksFollowFlags _ _).addOpFlags (by decide) (by decide),
        fun x hx => ?_, fun _ _ => by simp [OpRWFlags.kConsecutive]⟩
      rcases hx with rfl | rfl <;> simp [OpRWFlags.kConsecutive, OpRWFlags.kZExt]
  | mem memOp =>
    refine ⟨(OpRWInfo.init_masksFollowFlags _ _).addMemFlags memOp, fun x hx => ?_,
      fun _ h => nomatch h⟩
    rw [consecutiveOp, OpRWInfo.mem_addMemFlags, OpRWInfo.mem_init_opFlags (hzext x hx)]
    rcases hx with rfl | rfl <;> simp
  | _ => cases hrm

/-- The body of the other loop fills a register or memory operand with the reads and writes of
its own slot, keeps its lead count, and gives it the byte masks of the whole operand, or of one
element for an element-indexed register. -/
theorem generalOp_spec {rwFlags : OpRWFlags} {srcOp : Operand} (hrm : srcOp.isRegOrMem = true)
    {op op' : OpRWInfo} (h : generalOp rwFlags srcOp op = some op') :
    (∀ x, x = OpRWFlag.read ∨ x = OpRWFlag.write → (x ∈ op'.opFlags ↔ x ∈ rwFlags)) ∧
      op'.consecutiveLeadCount = op.consecutiveLeadCount ∧
      ((∀ reg, srcOp = .reg reg → reg.hasElementIndex = false) →
        op'.MasksFollowFlags OpRWInfo.kAllBytes) ∧
      ∀ reg, srcOp = .reg reg → reg.hasElementIndex = true →
        ∃ mask, accessMask (elementTypeSize reg.elementType) reg.elementIndex = some mask ∧
          op'.MasksFollowFlags mask := by
  have hzext : ∀ x, x = OpRWFlag.read ∨ x = OpRWFlag.write → x ≠ .zExt := by
    rintro x (rfl | rfl) <;> decide
  cases srcOp with
  | reg reg =>
    cases he : reg.hasElementIndex
    · simp only [generalOp, he] at h
      cases h
      exact ⟨fun x hx => OpRWInfo.mem_init_opFlags (hzext x hx), rfl,
        fun _ => OpRWInfo.init_masksFollowFlags _ _, fun _ h he' => by cases h; simp [he] at he'⟩
    · simp only [generalOp, he, if_true] at h
      obtain ⟨mask, hmask, rfl⟩ := Option.map_eq_some'.1 h
      exact ⟨fun x hx => @OpRWInfo.mem_init_opFlags op rwFlags x (hzext x hx), rfl,
        fun h => absurd (h reg rfl) (by simp [he]), fun _ h _ => by
          cases h
          exact ⟨mask, hmask, (OpRWInfo.init_masksFollowFlags _ _).narrow (accessMask_lt hmask)⟩⟩
  | mem memOp =>
    cases h
    refine ⟨fun x hx => ?_, OpRWInfo.addMemFlags_eq _ _ ▸ rfl,
      fun _ => (OpRWInfo.init_masksFollowFlags _ _).addMemFlags memOp, fun _ h => nomatch h⟩
    rw [OpRWInfo.mem_addMemFlags, OpRWInfo.mem_init_opFlags (hzext x hx)]
    rcases hx with rfl | rfl <;> simp
  | _ => cases hrm

/-! ### A sample table -/

/-- A table with `ldr` (id 1, its row `kRWI_W`) and a load of a register list (id 2, its row
`kRWI_LDn`, flagged `kInstFlagConsecutive`). Names play no part in `queryRWInfo`. -/
def loadDB : InstDB where
  instInfoTable := #[⟨0, .kRWI_R, 0⟩, ⟨0, .kRWI_W, 0⟩, ⟨0, .kRWI_LDn, 1⟩]
  nameData := [0]
  instNameIndex := mkArray 26 ⟨0, 0⟩
  instNameIndex_size := Array.size_mkArray _ _
  kMaxNameSize := 0
  kInstFlagConsecutive := 1

/-- An `InstRWInfo` with every member zero. -/
def blankRWInfo : InstRWInfo := ⟨0, 0, 0, RegOnly.reset, 0, 0, fun _ => OpRWInfo.reset⟩

/-! ### `queryRWInfo` -/

section Query

variable {db : InstDB} {inst : BaseInst} {operands : List Operand} {opCount : Nat}
  {out out' : InstRWInfo}

theorem queryRWInfo_of_defined (h : isDefinedId db inst.id) :
    queryRWInfo db inst operands opCount out =
      (rwLoop (rwBody db (db.instInfoTable.get ⟨inst.id, h⟩) opCount) operands opCount
          out.operands).map fun slots =>
        (.kErrorOk, { out with
          instFlags := 0, opCount := opCount % 2 ^ 8, rmFeature := 0, extraReg := RegOnly.reset,
          readFlags := 0, writeFlags := 0, operands := slots }) := by
  rw [queryRWInfo, dif_pos h]

theorem queryRWInfo_of_not_defined (h : ¬isDefinedId db inst.id) :
    queryRWInfo db inst operands opCount out = some (.kErrorInvalidInstruction, out) := by
  rw [queryRWInfo, dif_neg h]

/-- A query that succeeds ran the loop of its instruction over the slots of `out`. -/
theorem queryRWInfo_eq_ok (hq : queryRWInfo db inst operands opCount out = some (.kErrorOk, out')) :
    ∃ instInfo, db.instInfoTable[inst.id]? = some instInfo ∧
      rwLoop (rwBody db instInfo opCount) operands opCount out.operands = some out'.operands := by
  by_cases h : isDefinedId db inst.id
  · rw [queryRWInfo_of_defined h] at hq
    obtain ⟨slots, hslots, hq⟩ := Option.map_eq_some'.1 hq
    cases hq
    exact ⟨_, Array.getElem?_lt _ h, hslots⟩
  · rw [queryRWInfo_of_not_defined h] at hq
    cases hq

/-- **When `queryRWInfo` faults.** It returns exactly when, for a defined instruction, there are
at most six operands, the list holds them all, and, on the loop that is not over a register
list, no element-indexed register shifts its mask by 64 bits or more. -/
theorem queryRWInfo_isSome_iff (db : InstDB) (inst : BaseInst) (operands : List Operand)
    (opCount : Nat) (out : InstRWInfo) :
    (queryRWInfo db inst operands opCount out).isSome ↔
      ∀ instInfo, db.instInfoTable[inst.id]? = some instInfo →
        opCount ≤ kMaxOpCount ∧ opCount ≤ operands.length ∧
          (isConsecutive db instInfo opCount = false →
            ∀ (i : Nat) (reg : Reg), i < opCount → operands[i]? = some (.reg reg) →
              reg.hasElementIndex = true →
                reg.elementIndex.val * elementTypeSize reg.elementType < 64) := by
  by_cases h : isDefinedId db inst.id
  · have hinfo : db.instInfoTable[inst.id]? = some (db.instInfoTable.get ⟨inst.id, h⟩) :=
      Array.getElem?_lt _ h
    rw [queryRWInfo_of_defined h, Option.isSome_map', rwLoop_isSome_iff]
    constructor
    · rintro ⟨h₁, h₂, h₃⟩ instInfo hi
      obtain rfl := Option.some.inj (hi.symm.trans hinfo)
      exact ⟨h₁, h₂, fun hc i reg hi hreg he =>
        rwBody_isSome_iff.1 (h₃ ⟨i, by omega⟩ _ hi hreg) hc reg rfl he⟩
    · intro hall
      obtain ⟨h₁, h₂, h₃⟩ := hall _ hinfo
      exact ⟨h₁, h₂, fun i srcOp hi hsrc => rwBody_isSome_iff.2 fun hc reg hreg he =>
        h₃ hc i reg hi (hreg ▸ hsrc) he⟩
  · rw [queryRWInfo_of_not_defined h]
    refine iff_of_true rfl fun instInfo hi => absurd ?_ h
    obtain ⟨hlt, -⟩ := Array.getElem?_eq_some_iff.1 hi
    exact hlt

/-! ### Memory operands -/

/-- `ld1 {v0.16b}, [x1], x2` writes its base `x1` back and only reads its index `x2`, yet its
memory operand is flagged as writing its index, and not its base. -/
theorem queryRWInfo_post_index_writeback :
    ((queryRWInfo loadDB ⟨2, 0, RegOnly.reset⟩
        [.reg ⟨false, 1, 0⟩, .mem ⟨true, true, .kPostIndex⟩] 2 blankRWInfo).map fun r =>
          (r.1, (r.2.operands 1).opFlags)) =
      some (.kErrorOk, {.read, .memBaseRead, .memIndexRead, .memIndexWrite}) := by
  decide

/-! ### Byte masks -/

/-- Slot `i` of a successful query is the body of its loop, run on operand `i`. -/
theorem queryRWInfo_slot (hq : queryRWInfo db inst operands opCount out = some (.kErrorOk, out'))
    {instInfo : InstInfo} (hinfo : db.instInfoTable[inst.id]? = some instInfo)
    {i : Fin kMaxOpCount} {srcOp : Operand} (hi : i.val < opCount)
    (hsrc : operands[i.val]? = some srcOp) :
    opCount ≤ kMaxOpCount ∧
      rwBody db instInfo opCount i srcOp (out.operands i) = some (out'.operands i) := by
  obtain ⟨instInfo', hinfo', hloop⟩ := queryRWInfo_eq_ok hq
  obtain rfl := Option.some.inj (hinfo'.symm.trans hinfo)
  obtain ⟨src, hs, hbody⟩ := (rwLoop_slot hloop i).1 hi
  obtain rfl := Option.some.inj (hs.symm.trans hsrc)
  exact ⟨(rwLoop_isSome_iff.1 (by rw [hloop]; rfl)).1, hbody⟩

/-- **The other loop.** Every register or memory operand gets the reads and writes of its own
slot of its row and keeps the lead count `out` held. It gets the byte masks of the whole operand,
except a vector register with an element index `k` of elements of `z` bytes: its masks are the
bytes `[k * z, (k + 1) * z)`. -/
theorem queryRWInfo_general
    (hq : queryRWInfo db inst operands opCount out = some (.kErrorOk, out'))
    {instInfo : InstInfo} (hinfo : db.instInfoTable[inst.id]? = some instInfo)
    (hcons : isConsecutive db instInfo opCount = false) (i : Fin kMaxOpCount) {srcOp : Operand}
    (hi : i.val < opCount) (hsrc : operands[i.val]? = some srcOp)
    (hrm : srcOp.isRegOrMem = true) :
    (∀ x, x = OpRWFlag.read ∨ x = OpRWFlag.write →
        (x ∈ (out'.operands i).opFlags ↔ x ∈ instRWInfoData instInfo.rwInfoIndex i)) ∧
      (out'.operands i).consecutiveLeadCount = (out.operands i).consecutiveLeadCount ∧
      ((∀ reg, srcOp = .reg reg → reg.hasElementIndex = false) →
        (out'.operands i).MasksFollowFlags OpRWInfo.kAllBytes) ∧
      ∀ reg, srcOp = .reg reg → reg.hasElementIndex = true →
        ∃ mask, (out'.operands i).MasksFollowFlags mask ∧
          ∀ j, mask.testBit j ↔ reg.elementIndex.val * elementTypeSize reg.elementType ≤ j ∧
            j < (reg.elementIndex.val + 1) * elementTypeSize reg.elementType := by
  have hbody := (queryRWInfo_slot hq hinfo hi hsrc).2
  rw [rwBody_of_not_isConsecutive hcons] at hbody
  obtain ⟨hflags, hlead, hwhole, hlane⟩ := generalOp_spec hrm hbody
  refine ⟨hflags, hlead, hwhole, fun reg hreg he => ?_⟩
  obtain ⟨mask, hmask, hfollow⟩ := hlane reg hreg he
  exact ⟨mask, hfollow, accessMask_testBit hmask⟩

theorem element_load_masks :
    ∃ out', queryRWInfo loadDB ⟨1, 0, RegOnly.reset⟩
        [.reg ⟨true, 3, 1⟩, .mem ⟨true, false, .kFixed⟩] 2 blankRWInfo = some (.kErrorOk, out') ∧
      ∃ mask, (out'.operands 0).MasksFollowFlags mask ∧ ∀ j, mask.testBit j ↔ 4 ≤ j ∧ j < 8 := by
  have hq : queryRWInfo loadDB ⟨1, 0, RegOnly.reset⟩
      [.reg ⟨true, 3, 1⟩, .mem ⟨true, false, .kFixed⟩] 2 blankRWInfo = some (.kErrorOk, _) := rfl
  obtain ⟨-, -, -, hlane⟩ := queryRWInfo_general hq rfl rfl 0 (by decide) rfl rfl
  obtain ⟨mask, hmask, hbits⟩ := hlane _ rfl rfl
  exact ⟨_, hq, mask, hmask, fun j => hbits j⟩

/-- Element-indexed registers whose byte masks are not the bytes of their element: the registers
of `ld3 {v0.s, v1.s, v2.s}[1], [x0]`, on the loop over a register list, are written in every
byte; element 1 of a vector of element type 0 is written in no byte; and for element 8 of a
vector of 8-byte elements, which `validate` accepts, the query shifts a 64-bit mask by 64. -/
theorem queryRWInfo_element_masks :
    ((queryRWInfo loadDB ⟨2, 0, RegOnly.reset⟩
        [.reg ⟨true, 3, 1⟩, .reg ⟨true, 3, 1⟩, .reg ⟨true, 3, 1⟩, .mem ⟨true, false, .kFixed⟩] 4
          blankRWInfo).map fun r => ((r.2.operands 0).opFlags, (r.2.operands 0).writeByteMask)) =
        some ({.write}, OpRWInfo.kAllBytes) ∧
      ((queryRWInfo loadDB ⟨1, 0, RegOnly.reset⟩
        [.reg ⟨true, 0, 1⟩, .mem ⟨true, false, .kFixed⟩] 2 blankRWInfo).map fun r =>
          ((r.2.operands 0).opFlags, (r.2.operands 0).writeByteMask)) = some ({.write}, 0) ∧
      (∀ validationFlags, validate ⟨1, 0, RegOnly.reset⟩
        [.reg ⟨true, 4, 8⟩, .mem ⟨true, false, .kFixed⟩] 2 validationFlags = .kErrorOk) ∧
      queryRWInfo loadDB ⟨1, 0, RegOnly.reset⟩ [.reg ⟨true, 4, 8⟩, .mem ⟨true, false, .kFixed⟩] 2
        blankRWInfo = none :=
  ⟨by decide, by decide, fun _ => rfl, rfl⟩

/-- A slot of `out` whose members all hold stale values. -/
def staleRWInfo : InstRWInfo :=
  ⟨1, 1, 1, RegOnly.reset, 1, 1, fun _ => ⟨{.write, .consecutive}, 3, 8, 5, 1, 7, 7, 7⟩⟩

/-- **What the query reads of `out`.** Two successful queries of one instruction and operand
list, into any two `out`s, fill every slot below `opCount` with the same members except the lead
count; and where the two slots held the same lead count, with the same slot. So the only member
of a filled slot that can carry over what the caller's `out` held is `consecutiveLeadCount`. -/
theorem queryRWInfo_independent_of_out {out₁ out₂ r₁ r₂ : InstRWInfo}
    (hq₁ : queryRWInfo db inst operands opCount out₁ = some (.kErrorOk, r₁))
    (hq₂ : queryRWInfo db inst operands opCount out₂ = some (.kErrorOk, r₂))
    (i : Fin kMaxOpCount) (hi : i.val < opCount) :
    { r₁.operands i with consecutiveLeadCount := 0 } =
        { r₂.operands i with consecutiveLeadCount := 0 } ∧
      ((out₁.operands i).consecutiveLeadCount = (out₂.operands i).consecutiveLeadCount →
        r₁.operands i = r₂.operands i) := by
  obtain ⟨instInfo, hinfo, hloop⟩ := queryRWInfo_eq_ok hq₁
  obtain ⟨srcOp, hsrc, -⟩ := (rwLoop_slot hloop i).1 hi
  have h₁ := (queryRWInfo_slot hq₁ hinfo hi hsrc).2
  have h₂ := (queryRWInfo_slot hq₂ hinfo hi hsrc).2
  refine ⟨Option.some.inj ?_, fun h => Option.some.inj ?_⟩
  · simpa only [h₁, h₂, Option.map_some'] using
      @rwBody_map_leadCount db instInfo opCount i srcOp (out₁.operands i) (out₂.operands i)
  · rw [← h₁, ← h₂, rwBody_congr h]

theorem ldr_stale_out :
    ∃ r₁ r₂, queryRWInfo loadDB ⟨1, 0, RegOnly.reset⟩
        [.reg ⟨false, 1, 0⟩, .mem ⟨true, false, .kFixed⟩] 2 blankRWInfo = some (.kErrorOk, r₁) ∧
      queryRWInfo loadDB ⟨1, 0, RegOnly.reset⟩
        [.reg ⟨false, 1, 0⟩, .mem ⟨true, false, .kFixed⟩] 2 staleRWInfo = some (.kErrorOk, r₂) ∧
      { r₁.operands 1 with consecutiveLeadCount := 0 } =
        { r₂.operands 1 with consecutiveLeadCount := 0 } ∧
      (r₂.operands 1).consecutiveLeadCount = 5 := by
  have hq₁ : queryRWInfo loadDB ⟨1, 0, RegOnly.reset⟩
      [.reg ⟨false, 1, 0⟩, .mem ⟨true, false, .kFixed⟩] 2 blankRWInfo = some (.kErrorOk, _) := rfl
  have hq₂ : queryRWInfo loadDB ⟨1, 0, RegOnly.reset⟩
      [.reg ⟨false, 1, 0⟩, .mem ⟨true, false, .kFixed⟩] 2 staleRWInfo = some (.kErrorOk, _) := rfl
  exact ⟨_, _, hq₁, hq₂, (queryRWInfo_independent_of_out hq₁ hq₂ 1 (by decide)).1, rfl⟩

end Query

end AsmJit.A64
