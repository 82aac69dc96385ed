/-
  `a64::InstInternal::instIdToString` and `stringToInstId` (`arm/a64instapi.cpp`, "Text").

  `stringToInstId` picks the bucket of `instNameIndex` for the first letter of the string and
  runs a binary search over the bucket's entries, comparing names with `Support::cmpInstName`.
  The search loop is `searchLoop`, over any comparison: `cmp cur` compares the entry at index
  `cur`, and is `none` where reading entry `cur` falls outside `_instInfoTable`. Reads that fall
  outside a table are undefined behaviour in the source, and the model returns `none` for them,
  so that a function that returns `some` made no such read. The argument `arch` is unused by
  both functions and left out; `charIsSigned` says whether `char` is signed on the target.
-/
import AsmJit.A64.InstDB

namespace AsmJit.A64

/-- Modelled from the spec: `Support::cmpInstName` (declared in `core/support.h`, which is not
among the sources) compares the name `a` of a table entry with the `size` bytes `b` of the
string looked up as plain byte strings: in byte-lexicographic order of unsigned bytes, a proper
prefix first. The sign of the result is the order. The helper itself compares `size` bytes and
then reads the name's next byte, so it can read past the NUL that ends a name, and a key holding
a NUL byte may compare otherwise there; the model keeps to plain byte strings. -/
def cmpInstName : List UInt8 → List UInt8 → Int
  | [], [] => 0
  | [], _ :: _ => -1
  | _ :: _, [] => 1
  | x :: a, y :: b => if x = y then cmpInstName a b else (x.toNat : Int) - y.toNat

/-- `SIZE_MAX` of a 64-bit target: the length that asks for `strlen`. -/
def sizeMax : Nat := 2 ^ 64 - 1

/-- `strlen`: the number of bytes before the first NUL. -/
def strlen (s : List UInt8) : Nat := (s.takeWhile (· != 0)).length

/-- The length `stringToInstId` looks up: `len`, or `strlen(s)` when `len` is `SIZE_MAX`. -/
def lookupLength (s : List UInt8) (len : Nat) : Nat := if len = sizeMax then strlen s else len

/-- `uint32_t(c)` for a `char` holding the byte `b`: sign-extended where `char` is signed. -/
def charToUInt32 (charIsSigned : Bool) (b : UInt8) : Nat :=
  if charIsSigned && 128 ≤ b.toNat then b.toNat + (2 ^ 32 - 256) else b.toNat

/-- `uint32_t(s[0]) - 'a'`, the bucket of a string starting with the byte `c`, in 32-bit
unsigned arithmetic. -/
def letterIndex (charIsSigned : Bool) (c : UInt8) : Nat :=
  (charToUInt32 charIsSigned c + 2 ^ 32 - 'a'.toNat) % 2 ^ 32

/-! ### The bucket search -/

theorem shiftRight_one_lt {lim : Nat} (h : lim ≠ 0) : lim >>> 1 < lim := by
  rw [Nat.shiftRight_eq_div_pow]; omega

theorem sub_one_shiftRight_one_lt {lim : Nat} (h : lim ≠ 0) : (lim - 1) >>> 1 < lim := by
  rw [Nat.shiftRight_eq_div_pow]; omega

/-- The `for (lim = end - base; lim != 0; lim >>= 1)` loop of `stringToInstId`, from the window
of `lim` entries at `base`: probe `cur = base + (lim >> 1)`; below the string, go on with the
entries after `cur`; above it, with the entries before `cur`; equal, return `cur`. -/
def searchLoop (cmp : Nat → Option Int) (base lim : Nat) : Option Nat :=
  if lim = 0 then some kIdNone
  else
    let cur := base + (lim >>> 1)
    match cmp cur with
    | none => none
    | some result =>
      if result < 0 then searchLoop cmp (cur + 1) ((lim - 1) >>> 1)
      else if 0 < result then searchLoop cmp base (lim >>> 1)
      else some cur
termination_by lim
decreasing_by
  · exact sub_one_shiftRight_one_lt ‹_›
  · exact shiftRight_one_lt ‹_›

/-- The comparison `stringToInstId` makes at entry `cur`: read the entry, then compare its name
with `key`. -/
def compareEntry (db : InstDB) (key : List UInt8) (cur : Nat) : Option Int :=
  (db.instInfoTable[cur]?).map fun info => cmpInstName (db.nameAt info.nameDataIndex) key

/-- `InstInternal::stringToInstId()`. `s` is the buffer the pointer points to (`none` for a null
pointer) and `len` the length passed, `sizeMax` for a NUL-terminated string. -/
def stringToInstId (db : InstDB) (charIsSigned : Bool) (s : Option (List UInt8)) (len : Nat) :
    Option Nat :=
  match s with
  | none => some kIdNone
  | some s =>
    let len := lookupLength s len
    if len = 0 ∨ db.kMaxNameSize < len then some kIdNone
    else
      let letter := letterIndex charIsSigned (s.headD 0)
      if 'z'.toNat - 'a'.toNat < letter then some kIdNone
      else
        match db.instNameIndex[letter]? with
        | none => none
        | some bucket =>
          let index := bucket.start.toNat
          if index = 0 then some kIdNone
          else
            -- `(size_t)(end - base)`, a pointer difference taken as a 64-bit unsigned count
            searchLoop (compareEntry db (s.take len)) index
              ((bucket.«end».toNat + 2 ^ 64 - index) % 2 ^ 64)

/-- `InstInternal::instIdToString()`: append the instruction's name to `output`. `String::append`
is taken to succeed. -/
def instIdToString (db : InstDB) (instId : Nat) (output : List UInt8) : Error × List UInt8 :=
  if h : isDefinedId db instId then
    (.kErrorOk, output ++ db.nameAt (db.instInfoTable.get ⟨instId, h⟩).nameDataIndex)
  else (.kErrorInvalidInstruction, output)

end AsmJit.A64
