/-
  The generated AArch64 instruction database, as `arm/a64instapi.cpp` reads it.

  The tables themselves (`a64instdb.cpp`) and the header declaring them (`a64instdb_p.h`) are
  not among the sources, so `InstDB` takes them as data: the instruction table indexed by
  instruction id, the name data, the per-letter name index, and the two constants of the
  database that the API reads. An entry keeps the members the API reads: where its name starts
  in the name data, which row of `instRWInfoData` describes its operands, and its flags.
  `instNameIndex` is declared with 26 entries, one per letter, and `InstDB` carries that size.
  Instruction ids (`InstId`, a `uint32_t`) are `Nat`s.
-/
import AsmJit.Core.Operand

namespace AsmJit.A64

/-- The rows of `instRWInfoData` (`kRWI_R` to `kRWI_TODO`), in the order of the table. -/
inductive RWInfoIndex
  | kRWI_R | kRWI_RW | kRWI_RX | kRWI_RRW | kRWI_RWX | kRWI_W | kRWI_WRW | kRWI_WRX
  | kRWI_WRRW | kRWI_WRRX | kRWI_WW | kRWI_X | kRWI_XRX | kRWI_XXRRX
  | kRWI_LDn | kRWI_STn | kRWI_TODO
deriving DecidableEq, Repr

/-- `InstDB::InstInfo`, the members of a table entry that the API reads. -/
structure InstInfo where
  nameDataIndex : Nat
  rwInfoIndex : RWInfoIndex
  flags : Nat
deriving DecidableEq, Repr

/-- `InstInfo::hasFlag()`. -/
def InstInfo.hasFlag (info : InstInfo) (flag : Nat) : Bool := info.flags &&& flag != 0

/-- `InstDB::InstNameIndex`: the ids `[start, end)` of the instructions whose name starts with
one letter; `start = 0` marks a letter no name starts with. -/
structure InstNameIndex where
  start : UInt16
  «end» : UInt16
deriving DecidableEq, Repr

/-- The generated database. -/
structure InstDB where
  /-- `InstDB::_instInfoTable`, indexed by instruction id; its size is `Inst::_kIdCount`. -/
  instInfoTable : Array InstInfo
  /-- `InstDB::_nameData`: the names, each a run of bytes ended by a NUL. -/
  nameData : List UInt8
  /-- `InstDB::instNameIndex`, one bucket per letter `a` to `z`. -/
  instNameIndex : Array InstNameIndex
  instNameIndex_size : instNameIndex.size = 26
  /-- `InstDB::kMaxNameSize`, the length of the longest name. -/
  kMaxNameSize : Nat
  /-- `InstDB::kInstFlagConsecutive`, the flag of instructions taking a register list. -/
  kInstFlagConsecutive : Nat

/-- `Inst::kIdNone`, the id `stringToInstId` returns when no instruction matches. -/
def kIdNone : Nat := 0

/-- `Inst::isDefinedId()`: the id has an entry in the table. -/
def isDefinedId (db : InstDB) (instId : Nat) : Prop := instId < db.instInfoTable.size

instance (db : InstDB) (instId : Nat) : Decidable (isDefinedId db instId) :=
  inferInstanceAs (Decidable (instId < _))

namespace InstDB

/-- The NUL-terminated string at `_nameData + offset`, without its NUL. -/
def nameAt (db : InstDB) (offset : Nat) : List UInt8 :=
  (db.nameData.drop offset).takeWhile (· != 0)

/-- The name of the instruction `instId`: the string its entry points to, empty for an id
with no entry. -/
def name (db : InstDB) (instId : Nat) : List UInt8 :=
  match db.instInfoTable[instId]? with
  | some info => db.nameAt info.nameDataIndex
  | none => []

theorem name_of_lt {db : InstDB} {instId : Nat} (h : instId < db.instInfoTable.size) :
    db.name instId = db.nameAt (db.instInfoTable.get ⟨instId, h⟩).nameDataIndex := by
  simp [name, Array.getElem?_lt _ h]

theorem name_of_size_le {db : InstDB} {instId : Nat} (h : db.instInfoTable.size ≤ instId) :
    db.name instId = [] := by
  simp [name, Array.getElem?_size_le _ _ h]

theorem nameAt_not_mem_zero (db : InstDB) (offset : Nat) : 0 ∉ db.nameAt offset := by
  intro h
  simpa using List.mem_takeWhile_imp h

end InstDB

end AsmJit.A64
