import AsmJit.A64.Spec.Search
import Mathlib.Tactic.IntervalCases

/-!
## Correctness of `stringToInstId` and `instIdToString`

* `stringToInstId_cases`: the function returns `kIdNone` at one of its early exits, or runs the
  bucket search over the bucket of the string's first letter.
* `stringToInstId_stays_in_bucket`: for any name index whose non-empty buckets lie inside the
  table, the function reads `instNameIndex` only below 26 and the table only inside the
  bucket, returns, and returns `kIdNone` or an id of the bucket.
* `NameIndexSorted.stringToInstId_spec`: over a name index sorted for a set of named
  instructions, each named by a string whose first byte is a letter, the lookup returns the
  named instruction whose name is the string read, and `kIdNone` when there is none.
* `stringToInstId_instIdToString`: when the named instructions are the defined ones other than
  `kIdNone`, looking a name up and printing an id are inverse.
* `stringToInstId_misses_names`: over the stricter layout `NameIndexLaidOut` of all defined
  instructions, `kIdNone` included, the lookup misses names: a bucket that holds `kIdNone` starts
  at 0 and reads as empty, and a name whose first byte is not a letter is in no bucket.
-/

namespace AsmJit.A64

/-! ### The bucket of a string -/

theorem charToUInt32_eq (charIsSigned : Bool) (b : UInt8) :
    charToUInt32 charIsSigned b = b.toNat ∨
      128 ≤ b.toNat ∧ charToUInt32 charIsSigned b = b.toNat + (2 ^ 32 - 256) := by
  unfold charToUInt32
  split_ifs with h
  · simp only [Bool.and_eq_true, decide_eq_true_eq] at h
    exact .inr ⟨h.2, rfl⟩
  · exact .inl rfl

theorem letterIndex_of_le {charIsSigned : Bool} {c : UInt8} (hlo : 'a'.toNat ≤ c.toNat)
    (hhi : c.toNat ≤ 'z'.toNat) : letterIndex charIsSigned c = c.toNat - 'a'.toNat := by
  have ha : 'a'.toNat = 97 := rfl
  have hz : 'z'.toNat = 122 := rfl
  unfold letterIndex
  rcases charToUInt32_eq charIsSigned c with h | ⟨h1, h⟩ <;> rw [h] <;> omega

theorem instNameIndex_getElem?_isSome (db : InstDB) {letter : Nat} (h : letter ≤ 25) :
    ∃ b, db.instNameIndex[letter]? = some b :=
  ⟨_, Array.getElem?_lt _ (by rw [db.instNameIndex_size]; omega)⟩

/-- **What `stringToInstId` does.** It returns `kIdNone` at an early exit (the length is out of
range, the first byte is not a letter, or the letter's bucket is empty), or it runs the search
over the bucket of the first letter. -/
theorem stringToInstId_cases (db : InstDB) (charIsSigned : Bool) (s : List UInt8) (len : Nat) :
    (stringToInstId db charIsSigned (some s) len = some kIdNone ∧
        (lookupLength s len = 0 ∨ db.kMaxNameSize < lookupLength s len ∨
          'z'.toNat - 'a'.toNat < letterIndex charIsSigned (s.headD 0) ∨
          ∃ b, db.instNameIndex[letterIndex charIsSigned (s.headD 0)]? = some b ∧
            b.start.toNat = 0)) ∨
      ∃ b, db.instNameIndex[letterIndex charIsSigned (s.headD 0)]? = some b ∧
        b.start.toNat ≠ 0 ∧ 1 ≤ lookupLength s len ∧ lookupLength s len ≤ db.kMaxNameSize ∧
        letterIndex charIsSigned (s.headD 0) ≤ 'z'.toNat - 'a'.toNat ∧
        stringToInstId db charIsSigned (some s) len =
          searchLoop (compareEntry db (s.take (lookupLength s len))) b.start.toNat
            ((b.«end».toNat + 2 ^ 64 - b.start.toNat) % 2 ^ 64) := by
  by_cases hlen : lookupLength s len = 0 ∨ db.kMaxNameSize < lookupLength s len
  · exact .inl ⟨by simp only [stringToInstId, hlen, if_true], by omega⟩
  by_cases hletter : 'z'.toNat - 'a'.toNat < letterIndex charIsSigned (s.headD 0)
  · exact .inl ⟨by simp only [stringToInstId, hlen, hletter, if_true, if_false],
      .inr (.inr (.inl hletter))⟩
  obtain ⟨b, hb⟩ := instNameIndex_getElem?_isSome db (Nat.le_of_not_lt hletter)
  by_cases h0 : b.start.toNat = 0
  · exact .inl ⟨by simp only [stringToInstId, hlen, hletter, hb, h0, if_true, if_false],
      .inr (.inr (.inr ⟨b, hb, h0⟩))⟩
  · exact .inr ⟨b, hb, h0, by omega, by omega, Nat.le_of_not_lt hletter,
      by simp only [stringToInstId, hlen, hletter, hb, h0, if_false]⟩

/-! ### Safety -/

/-- The non-empty buckets of the name index lie inside the table. -/
def BucketsInBounds (db : InstDB) : Prop :=
  ∀ (p : Nat) (b : InstNameIndex), db.instNameIndex[p]? = some b → b.start.toNat ≠ 0 →
    b.start.toNat ≤ b.«end».toNat ∧ b.«end».toNat ≤ db.instInfoTable.size

theorem compareEntry_isSome (db : InstDB) (key : List UInt8) {cur : Nat}
    (h : cur < db.instInfoTable.size) : (compareEntry db key cur).isSome := by
  simp [compareEntry, Array.getElem?_lt _ h]

/-- **`stringToInstId` stays inside its bucket.** For a name index whose non-empty buckets lie
inside the table, with names in any order: the loop, started on a bucket, returns `kIdNone` or
an id of the bucket for every comparison that can read the bucket's entries, so it compares
only entries of the bucket, whatever signs the comparisons return; and for every string, length
and signedness of `char`, `stringToInstId` makes no read outside `instNameIndex` or the table,
returns, and returns `kIdNone` or an id of the bucket of the string's first letter. -/
theorem stringToInstId_stays_in_bucket (db : InstDB) (hidx : BucketsInBounds db) :
    (∀ (p : Nat) (b : InstNameIndex), db.instNameIndex[p]? = some b → b.start.toNat ≠ 0 →
      ∀ cmp : Nat → Option Int,
        (∀ cur, b.start.toNat ≤ cur → cur < b.«end».toNat → (cmp cur).isSome) →
        ∃ r, searchLoop cmp b.start.toNat (b.«end».toNat - b.start.toNat) = some r ∧
          (r = kIdNone ∨ b.start.toNat ≤ r ∧ r < b.«end».toNat)) ∧
      ∀ (charIsSigned : Bool) (s : List UInt8) (len : Nat),
        ∃ r, stringToInstId db charIsSigned (some s) len = some r ∧
          (r = kIdNone ∨ ∃ b, db.instNameIndex[letterIndex charIsSigned (s.headD 0)]? = some b ∧
            b.start.toNat ≤ r ∧ r < b.«end».toNat) := by
  unfold BucketsInBounds at hidx
  have hloop : ∀ (p : Nat) (b : InstNameIndex), db.instNameIndex[p]? = some b →
      b.start.toNat ≠ 0 →
      ∀ cmp : Nat → Option Int,
      (∀ cur, b.start.toNat ≤ cur → cur < b.«end».toNat → (cmp cur).isSome) →
      ∃ r, searchLoop cmp b.start.toNat (b.«end».toNat - b.start.toNat) = some r ∧
        (r = kIdNone ∨ b.start.toNat ≤ r ∧ r < b.«end».toNat) := fun p b hb h0 cmp hcmp =>
    searchLoop_inBounds hcmp _ _ ⟨le_rfl, by have := hidx p b hb h0; omega⟩
  refine ⟨hloop, fun charIsSigned s len => ?_⟩
  rcases stringToInstId_cases db charIsSigned s len with ⟨h, -⟩ | ⟨b, hb, h0, -, -, -, h⟩
  · exact ⟨_, h, .inl rfl⟩
  · have hb' := hidx _ b hb h0
    have hend : b.«end».toNat < 2 ^ 16 := b.«end».val.isLt
    have hlim : (b.«end».toNat + 2 ^ 64 - b.start.toNat) % 2 ^ 64 =
        b.«end».toNat - b.start.toNat := by omega
    obtain ⟨r, hr, hr'⟩ := hloop _ b hb h0 (compareEntry db (s.take (lookupLength s len)))
      fun cur _ h2 => compareEntry_isSome db _ (by omega)
    exact ⟨r, by rw [h, hlim, hr], hr'.imp_right fun h => ⟨b, hb, h⟩⟩

/-! ### A sample table -/

/-- The 26 buckets of a name index, bucket `p` being `f p`. -/
def bucketsOf (f : Nat → InstNameIndex) : Array InstNameIndex := Array.ofFn fun p : Fin 26 => f p

theorem bucketsOf_size (f : Nat → InstNameIndex) : (bucketsOf f).size = 26 := Array.size_ofFn _

theorem bucketsOf_getElem? {f : Nat → InstNameIndex} {p : Nat} {b : InstNameIndex} :
    (bucketsOf f)[p]? = some b ↔ p < 26 ∧ f p = b := by
  simp [bucketsOf, Array.getElem?_eq_some_iff]

/-- The buckets of `sampleDB`: `a` holds ids 1 and 2, `b` holds id 3, and every other letter
has `⟨kIdNone, kIdNone + 1⟩`, as the generator writes for a letter no name starts with. -/
def sampleBuckets (p : Nat) : InstNameIndex :=
  if p = 0 then ⟨1, 3⟩ else if p = 1 then ⟨3, 4⟩ else ⟨0, 1⟩

/-- A table laid out as the generated one is: id 0 is `kIdNone` with the empty name, then
`add`, `adds` and `b`. -/
def sampleDB : InstDB where
  instInfoTable := #[⟨0, .kRWI_R, 0⟩, ⟨1, .kRWI_W, 0⟩, ⟨5, .kRWI_W, 0⟩, ⟨10, .kRWI_R, 0⟩]
  nameData := [0, 97, 100, 100, 0, 97, 100, 100, 115, 0, 98, 0]
  instNameIndex := bucketsOf sampleBuckets
  instNameIndex_size := bucketsOf_size _
  kMaxNameSize := 4
  kInstFlagConsecutive := 1

theorem sampleDB_bucket {p : Nat} {b : InstNameIndex} (hb : sampleDB.instNameIndex[p]? = some b) :
    b = sampleBuckets p := (bucketsOf_getElem?.1 hb).2.symm

theorem sampleBuckets_start (p : Nat) :
    (sampleBuckets p).start.toNat = if p = 0 then 1 else if p = 1 then 3 else 0 := by
  unfold sampleBuckets; split_ifs <;> rfl

theorem sampleBuckets_end (p : Nat) :
    (sampleBuckets p).«end».toNat = if p = 0 then 3 else if p = 1 then 4 else 1 := by
  unfold sampleBuckets; split_ifs <;> rfl

theorem sampleDB_size : sampleDB.instInfoTable.size = 4 := rfl

theorem sampleDB_bucketsInBounds : BucketsInBounds sampleDB := by
  intro p b hb
  rw [sampleDB_bucket hb, sampleBuckets_start, sampleBuckets_end, sampleDB_size]
  split_ifs <;> omega

theorem sampleDB_lookup_in_bucket : BucketsInBounds sampleDB ∧
    ∃ r, stringToInstId sampleDB true (some [97, 100, 100, 115, 0]) sizeMax = some r ∧
      (r = kIdNone ∨ ∃ b, sampleDB.instNameIndex[letterIndex true 97]? = some b ∧
        b.start.toNat ≤ r ∧ r < b.«end».toNat) :=
  ⟨sampleDB_bucketsInBounds, (stringToInstId_stays_in_bucket sampleDB
    sampleDB_bucketsInBounds).2 true [97, 100, 100, 115, 0] sizeMax⟩

/-! ### Sorted name tables -/

/-- The name's first byte is the letter `p` places after `a`. -/
def StartsWithLetter (name : List UInt8) (p : Nat) : Prop :=
  name.head?.map UInt8.toNat = some ('a'.toNat + p)

instance (name : List UInt8) (p : Nat) : Decidable (StartsWithLetter name p) :=
  inferInstanceAs (Decidable (_ = _))

theorem not_startsWithLetter_nil (p : Nat) : ¬StartsWithLetter [] p := by
  simp [StartsWithLetter]

theorem startsWithLetter_cons_iff {c : UInt8} {rest : List UInt8} {p : Nat} :
    StartsWithLetter (c :: rest) p ↔ c.toNat = 'a'.toNat + p := by
  simp only [StartsWithLetter, List.head?_cons, Option.map_some', Option.some.injEq]

/-- The generator's layout of the name index for the instructions `named`, as the lookup reads
it. A bucket starts at 0 exactly when no named instruction's name starts with its letter; the
lookup reads nothing else of such a bucket, and the generator writes `⟨kIdNone, kIdNone + 1⟩`
there. A bucket with any other start holds exactly the named instructions whose name starts with
its letter, in strictly increasing `cmpInstName` order. -/
structure NameIndexSorted (db : InstDB) (named : Nat → Prop) : Prop where
  /-- A bucket starts at 0 exactly when it is the bucket of no named instruction. -/
  start_eq_zero_iff : ∀ (p : Nat) (b : InstNameIndex), db.instNameIndex[p]? = some b →
    (b.start.toNat = 0 ↔ ∀ id, named id → ¬StartsWithLetter (db.name id) p)
  /-- A bucket the lookup searches holds exactly the named instructions of its letter. -/
  bucket_iff : ∀ (p : Nat) (b : InstNameIndex), db.instNameIndex[p]? = some b →
    b.start.toNat ≠ 0 → ∀ id,
      (b.start.toNat ≤ id ∧ id < b.«end».toNat) ↔ named id ∧ StartsWithLetter (db.name id) p
  /-- A bucket the lookup searches is sorted. -/
  sorted : ∀ (p : Nat) (b : InstNameIndex), db.instNameIndex[p]? = some b →
    b.start.toNat ≠ 0 → SortedNames db.name b.start.toNat b.«end».toNat
  /-- Every named instruction has a name of 1 to `kMaxNameSize` bytes. -/
  name_length : ∀ id, named id →
    1 ≤ (db.name id).length ∧ (db.name id).length ≤ db.kMaxNameSize

theorem lookupLength_le {s : List UInt8} {len : Nat} (hlen : len = sizeMax ∨ len ≤ s.length) :
    lookupLength s len ≤ s.length := by
  unfold lookupLength
  split_ifs
  · exact (List.takeWhile_sublist _).length_le
  · omega

theorem lookupLength_length {s : List UInt8} (h : 0 ∉ s) : lookupLength s s.length = s.length := by
  unfold lookupLength strlen
  split_ifs
  · rw [List.takeWhile_eq_self_iff.2 fun x hx => by simpa using ne_of_mem_of_not_mem hx h]
  · rfl

theorem compareEntry_of_lt (db : InstDB) (key : List UInt8) {cur : Nat}
    (h : cur < db.instInfoTable.size) :
    compareEntry db key cur = some (cmpInstName (db.name cur) key) := by
  simp [compareEntry, InstDB.name, Array.getElem?_lt _ h]

section Sorted

variable {db : InstDB} {named : Nat → Prop}

/-- A named instruction lies in the bucket of the first letter of its name, which the lookup
searches. -/
theorem NameIndexSorted.mem_bucket (hdb : NameIndexSorted db named)
    (hletter : ∀ id, named id → ∃ p < 26, StartsWithLetter (db.name id) p)
    {id : Nat} (hid : named id) (charIsSigned : Bool) :
    ∃ b, db.instNameIndex[letterIndex charIsSigned ((db.name id).headD 0)]? = some b ∧
      letterIndex charIsSigned ((db.name id).headD 0) ≤ 'z'.toNat - 'a'.toNat ∧
      b.start.toNat ≠ 0 ∧ b.start.toNat ≤ id ∧ id < b.«end».toNat := by
  obtain ⟨p, hp, hs⟩ := hletter id hid
  have ha : 'a'.toNat = 97 := rfl
  have hz : 'z'.toNat = 122 := rfl
  obtain ⟨b, hb⟩ := instNameIndex_getElem?_isSome db (show p ≤ 25 by omega)
  have h0 : b.start.toNat ≠ 0 := fun h => (hdb.start_eq_zero_iff p b hb).1 h id hid hs
  have hmem := (hdb.bucket_iff p b hb h0 id).2 ⟨hid, hs⟩
  cases hname : db.name id with
  | nil => exact absurd (hname ▸ hs) (not_startsWithLetter_nil p)
  | cons c rest =>
    rw [hname, startsWithLetter_cons_iff] at hs
    have hc : letterIndex charIsSigned c = p := by rw [letterIndex_of_le] <;> omega
    exact ⟨b, by simpa [hc] using hb, by simp [hc]; omega, h0, hmem⟩

/-- A bucket that does not start at 0 is a well-formed range: were `end < start`, it would hold
no named instruction, and would start at 0. -/
theorem NameIndexSorted.start_le_end (hdb : NameIndexSorted db named) {p : Nat}
    {b : InstNameIndex} (hb : db.instNameIndex[p]? = some b) (h0 : b.start.toNat ≠ 0) :
    b.start.toNat ≤ b.«end».toNat := by
  by_contra hlt
  exact h0 ((hdb.start_eq_zero_iff p b hb).2 fun id hid hs => by
    have := (hdb.bucket_iff p b hb h0 id).2 ⟨hid, hs⟩
    omega)

/-- A named instruction whose name is the string read lies in the bucket of the string's first
byte, and the length read is one the lookup accepts. -/
theorem NameIndexSorted.mem_key_bucket (hdb : NameIndexSorted db named)
    (hletter : ∀ id, named id → ∃ p < 26, StartsWithLetter (db.name id) p) {s : List UInt8}
    {len : Nat} (hlen : len = sizeMax ∨ len ≤ s.length) {id : Nat} (hid : named id)
    (hname : db.name id = s.take (lookupLength s len)) (charIsSigned : Bool) :
    1 ≤ lookupLength s len ∧ lookupLength s len ≤ db.kMaxNameSize ∧
      ∃ b, db.instNameIndex[letterIndex charIsSigned (s.headD 0)]? = some b ∧
        letterIndex charIsSigned (s.headD 0) ≤ 'z'.toNat - 'a'.toNat ∧
        b.start.toNat ≠ 0 ∧ b.start.toNat ≤ id ∧ id < b.«end».toNat := by
  have hl := hdb.name_length id hid
  rw [hname, List.length_take, Nat.min_eq_left (lookupLength_le hlen)] at hl
  have hhead : (db.name id).headD 0 = s.headD 0 := by
    rw [hname, List.headD_eq_head?_getD, List.head?_take, if_neg (by omega),
      List.headD_eq_head?_getD]
  have hb := hdb.mem_bucket hletter hid charIsSigned
  rw [hhead] at hb
  exact ⟨hl.1, hl.2, hb⟩

/-- **Lookup over a sorted name table.** Let `named` be instructions with entries, each with a
name whose first byte is a letter. Over a name index sorted for them, for a buffer holding the
`len` bytes read, `stringToInstId` returns `kIdNone` or a named instruction whose name is the
string read, and it returns every named instruction whose name is the string read. -/
theorem NameIndexSorted.stringToInstId_spec (hdb : NameIndexSorted db named)
    (hletter : ∀ id, named id → ∃ p < 26, StartsWithLetter (db.name id) p)
    (hdef : ∀ id, named id → isDefinedId db id)
    (charIsSigned : Bool) (s : List UInt8) (len : Nat) (hlen : len = sizeMax ∨ len ≤ s.length) :
    ∃ r, stringToInstId db charIsSigned (some s) len = some r ∧
      (r ≠ kIdNone → named r ∧ db.name r = s.take (lookupLength s len)) ∧
      ∀ id, named id → db.name id = s.take (lookupLength s len) → r = id := by
  rcases stringToInstId_cases db charIsSigned s len with ⟨h, hwhy⟩ | ⟨b, hb, h0, -, -, -, h⟩
  · -- an early exit: no named instruction has the key for its name
    refine ⟨kIdNone, h, fun h => absurd rfl h, fun id hid hname => ?_⟩
    obtain ⟨hl1, hl2, b, hb, hlt, hb0, -⟩ := hdb.mem_key_bucket hletter hlen hid hname charIsSigned
    rcases hwhy with h1 | h2 | h3 | ⟨b', hb', h0⟩
    · omega
    · omega
    · omega
    · -- the bucket of a named instruction does not start at 0
      obtain rfl : b = b' := Option.some.inj (hb.symm.trans hb')
      exact absurd h0 hb0
  · -- the search over the bucket, a window that the pointer difference measures exactly
    have hle := hdb.start_le_end hb h0
    have hend : b.«end».toNat < 2 ^ 16 := b.«end».val.isLt
    rw [show (b.«end».toNat + 2 ^ 64 - b.start.toNat) % 2 ^ 64 = b.«end».toNat - b.start.toNat
      by omega] at h
    have hcmp : ∀ cur, b.start.toNat ≤ cur → cur < b.«end».toNat →
        compareEntry db (s.take (lookupLength s len)) cur =
          some (cmpInstName (db.name cur) (s.take (lookupLength s len))) := fun cur h1 h2 =>
      compareEntry_of_lt db _ (hdef cur ((hdb.bucket_iff _ b hb h0 cur).1 ⟨h1, h2⟩).1)
    -- every named instruction with the key for its name lies in this bucket
    have hin : ∀ id, named id → db.name id = s.take (lookupLength s len) →
        b.start.toNat ≤ id ∧ id < b.«end».toNat := fun id hid hname' => by
      obtain ⟨-, -, b', hb', -, -, hb1, hb2⟩ :=
        hdb.mem_key_bucket hletter hlen hid hname' charIsSigned
      obtain rfl : b = b' := Option.some.inj (hb.symm.trans hb')
      exact ⟨hb1, hb2⟩
    rcases searchLoop_sorted hcmp (hdb.sorted _ b hb h0) b.start.toNat
        (b.«end».toNat - b.start.toNat) ⟨le_rfl, by omega⟩
        (fun (j : Nat) h1 (h2 : j < b.«end».toNat) _ => ⟨h1, by omega⟩)
      with ⟨r, hr, h1, h2, hname⟩ | ⟨hr, hnot⟩
    · refine ⟨r, h.trans hr, fun _ => ⟨((hdb.bucket_iff _ b hb h0 r).1 ⟨h1, h2⟩).1, hname⟩,
        fun id hid hname' => ?_⟩
      obtain ⟨hb1, hb2⟩ := hin id hid hname'
      exact SortedNames.eq_of_name_eq (hdb.sorted _ b hb h0) h1 h2 hb1 hb2
        (hname.trans hname'.symm)
    · refine ⟨kIdNone, h.trans hr, fun h => absurd rfl h, fun id hid hname' => ?_⟩
      obtain ⟨hb1, hb2⟩ := hin id hid hname'
      exact absurd hname' (hnot id hb1 hb2)

end Sorted

/-! ### Round trips -/

theorem instIdToString_of_defined {db : InstDB} {instId : Nat} (h : isDefinedId db instId)
    (output : List UInt8) :
    instIdToString db instId output = (.kErrorOk, output ++ db.name instId) := by
  rw [instIdToString, dif_pos h, InstDB.name_of_lt h]

theorem InstDB.name_not_mem_zero (db : InstDB) (instId : Nat) : 0 ∉ db.name instId := by
  unfold InstDB.name
  split
  · exact db.nameAt_not_mem_zero _
  · simp

/-- **Looking up and printing names are inverse.** Take a name index sorted for the defined
instructions other than `kIdNone`, whose names all start with a letter. For every buffer holding
the `len` bytes read, `stringToInstId` returns an id other than `kIdNone` exactly when it is the
defined instruction named by the string read, and `kIdNone` when there is none. Printing a
defined instruction other than `kIdNone` succeeds, and looking the printed name up gives the
instruction back; and printing an id the lookup returned appends exactly the string read. -/
theorem stringToInstId_instIdToString (db : InstDB)
    (hdb : NameIndexSorted db fun id => id ≠ kIdNone ∧ isDefinedId db id)
    (hletter : ∀ id, id ≠ kIdNone → isDefinedId db id → ∃ p < 26, StartsWithLetter (db.name id) p)
    (charIsSigned : Bool) :
    (∀ (s : List UInt8) (len : Nat), (len = sizeMax ∨ len ≤ s.length) →
      ∃ r, stringToInstId db charIsSigned (some s) len = some r ∧
        (∀ id, id ≠ kIdNone →
          (r = id ↔ isDefinedId db id ∧ db.name id = s.take (lookupLength s len))) ∧
        ((∀ id, id ≠ kIdNone → isDefinedId db id → db.name id ≠ s.take (lookupLength s len)) →
          r = kIdNone)) ∧
    (∀ instId, instId ≠ kIdNone → isDefinedId db instId →
      instIdToString db instId [] = (.kErrorOk, db.name instId) ∧
      stringToInstId db charIsSigned (some (db.name instId)) (db.name instId).length =
        some instId) ∧
    (∀ (s : List UInt8) (len : Nat) (id : Nat), (len = sizeMax ∨ len ≤ s.length) →
      stringToInstId db charIsSigned (some s) len = some id → id ≠ kIdNone →
      ∀ output, instIdToString db id output =
        (.kErrorOk, output ++ s.take (lookupLength s len))) := by
  have hspec := hdb.stringToInstId_spec (fun id h => hletter id h.1 h.2) (fun _ h => h.2)
    charIsSigned
  refine ⟨fun s len hlen => ?_, fun instId h0 hdef => ?_, fun s len id hlen hid h0 output => ?_⟩
  · obtain ⟨r, hr, hfound, huniq⟩ := hspec s len hlen
    refine ⟨r, hr, fun id h0 => ⟨?_, fun h => huniq id ⟨h0, h.1⟩ h.2⟩, fun hno => ?_⟩
    · rintro rfl
      exact ⟨(hfound h0).1.2, (hfound h0).2⟩
    · by_contra hr0
      exact hno r hr0 (hfound hr0).1.2 (hfound hr0).2
  · obtain ⟨r, hr, -, huniq⟩ := hspec (db.name instId) _ (.inr le_rfl)
    rw [lookupLength_length (db.name_not_mem_zero instId), List.take_length] at huniq
    exact ⟨by rw [instIdToString_of_defined hdef, List.nil_append],
      hr.trans (congrArg some (huniq instId ⟨h0, hdef⟩ rfl))⟩
  · obtain ⟨r, hr, hfound, -⟩ := hspec s len hlen
    obtain rfl : r = id := Option.some.inj (hr.symm.trans hid)
    rw [instIdToString_of_defined (hfound h0).1.2, (hfound h0).2]

theorem sampleDB_names :
    sampleDB.name 0 = [] ∧ sampleDB.name 1 = [97, 100, 100] ∧
      sampleDB.name 2 = [97, 100, 100, 115] ∧ sampleDB.name 3 = [98] := by
  decide

theorem sampleDB_startsWithLetter (id p : Nat) :
    StartsWithLetter (sampleDB.name id) p ↔ (id = 1 ∨ id = 2) ∧ p = 0 ∨ id = 3 ∧ p = 1 := by
  have ha : 'a'.toNat = 97 := rfl
  obtain ⟨h0, h1, h2, h3⟩ := sampleDB_names
  rcases Nat.lt_or_ge id 4 with hid | hid
  · interval_cases id
    · rw [h0]; exact iff_of_false (not_startsWithLetter_nil p) (by omega)
    · rw [h1, startsWithLetter_cons_iff, ha, show (97 : UInt8).toNat = 97 from rfl]; omega
    · rw [h2, startsWithLetter_cons_iff, ha, show (97 : UInt8).toNat = 97 from rfl]; omega
    · rw [h3, startsWithLetter_cons_iff, ha, show (98 : UInt8).toNat = 98 from rfl]; omega
  · rw [InstDB.name_of_size_le (show sampleDB.instInfoTable.size ≤ id from hid)]
    exact iff_of_false (not_startsWithLetter_nil p) (by omega)

theorem sampleDB_sorted :
    NameIndexSorted sampleDB fun id => id ≠ kIdNone ∧ isDefinedId sampleDB id where
  start_eq_zero_iff p b hb := by
    rw [sampleDB_bucket hb, sampleBuckets_start]
    constructor
    · intro h id _ hs
      rw [sampleDB_startsWithLetter] at hs
      split_ifs at h
      omega
    · intro hnot
      have h1 := hnot 1 ⟨by decide, by decide⟩
      have h3 := hnot 3 ⟨by decide, by decide⟩
      rw [sampleDB_startsWithLetter] at h1 h3
      split_ifs <;> omega
  bucket_iff p b hb h0 id := by
    rw [sampleDB_bucket hb, sampleBuckets_start] at h0
    rw [sampleDB_bucket hb, sampleBuckets_start, sampleBuckets_end, sampleDB_startsWithLetter,
      isDefinedId, sampleDB_size, kIdNone]
    split_ifs at h0 ⊢ <;> omega
  sorted p b hb h0 i j hi hij hj := by
    rw [sampleDB_bucket hb, sampleBuckets_start] at hi h0
    rw [sampleDB_bucket hb, sampleBuckets_end] at hj
    obtain ⟨-, h1, h2, -⟩ := sampleDB_names
    obtain ⟨rfl, rfl⟩ : i = 1 ∧ j = 2 := by split_ifs at hi hj h0 <;> omega
    rw [h1, h2]; decide
  name_length id hid := by
    obtain ⟨h0, hid⟩ := hid
    rw [isDefinedId, sampleDB_size] at hid
    obtain ⟨-, h1, h2, h3⟩ := sampleDB_names
    interval_cases id
    · exact absurd rfl h0
    all_goals simp [h1, h2, h3, show sampleDB.kMaxNameSize = 4 from rfl]

theorem sampleDB_letters (id : Nat) (h0 : id ≠ kIdNone) (hdef : isDefinedId sampleDB id) :
    ∃ p < 26, StartsWithLetter (sampleDB.name id) p := by
  rw [isDefinedId, sampleDB_size] at hdef
  rw [kIdNone] at h0
  by_cases h3 : id = 3
  · exact ⟨1, by omega, (sampleDB_startsWithLetter id 1).2 (by omega)⟩
  · exact ⟨0, by omega, (sampleDB_startsWithLetter id 0).2 (by omega)⟩

theorem sampleDB_round_trip :
    (NameIndexSorted sampleDB fun id => id ≠ kIdNone ∧ isDefinedId sampleDB id) ∧
      stringToInstId sampleDB false (some (sampleDB.name 2)) (sampleDB.name 2).length = some 2 :=
  ⟨sampleDB_sorted,
    ((stringToInstId_instIdToString sampleDB sampleDB_sorted sampleDB_letters false).2.1 2
      (by decide) (by decide)).2⟩

/-! ### Where the conditions fail -/

/-- A stricter layout than `NameIndexSorted`, constraining every bucket whether the lookup
searches it or not: bucket `p` holds exactly the named instructions whose name starts with the
`p`-th letter, in strictly increasing `cmpInstName` order; every named instruction has a name of
1 to `kMaxNameSize` bytes; and a bucket that holds no named instruction starts at 0. -/
structure NameIndexLaidOut (db : InstDB) (named : Nat → Prop) : Prop where
  bucket_iff : ∀ (p : Nat) (b : InstNameIndex), db.instNameIndex[p]? = some b → ∀ id,
    (b.start.toNat ≤ id ∧ id < b.«end».toNat) ↔ named id ∧ StartsWithLetter (db.name id) p
  sorted : ∀ (p : Nat) (b : InstNameIndex), db.instNameIndex[p]? = some b →
    SortedNames db.name b.start.toNat b.«end».toNat
  name_length : ∀ id, named id →
    1 ≤ (db.name id).length ∧ (db.name id).length ≤ db.kMaxNameSize
  empty_start : ∀ (p : Nat) (b : InstNameIndex), db.instNameIndex[p]? = some b →
    (∀ id, named id → ¬StartsWithLetter (db.name id) p) → b.start.toNat = 0

/-- The buckets of `cexDB`: `a` holds ids 0 and 1. -/
def cexBuckets (p : Nat) : InstNameIndex := if p = 0 then ⟨0, 2⟩ else ⟨0, 0⟩

/-- A table sorted for all its defined instructions, `a`, `ab` and `1x`: its bucket of `a`
starts at `kIdNone`, and `1x` starts with no letter. -/
def cexDB : InstDB where
  instInfoTable := #[⟨0, .kRWI_R, 0⟩, ⟨2, .kRWI_R, 0⟩, ⟨5, .kRWI_R, 0⟩]
  nameData := [97, 0, 97, 98, 0, 49, 120, 0]
  instNameIndex := bucketsOf cexBuckets
  instNameIndex_size := bucketsOf_size _
  kMaxNameSize := 2
  kInstFlagConsecutive := 1

theorem cexDB_names :
    cexDB.name 0 = [97] ∧ cexDB.name 1 = [97, 98] ∧ cexDB.name 2 = [49, 120] := by
  decide

theorem cexDB_bucket {p : Nat} {b : InstNameIndex} (hb : cexDB.instNameIndex[p]? = some b) :
    b = cexBuckets p := (bucketsOf_getElem?.1 hb).2.symm

theorem cexBuckets_start (p : Nat) : (cexBuckets p).start.toNat = 0 := by
  unfold cexBuckets; split_ifs <;> rfl

theorem cexBuckets_end (p : Nat) : (cexBuckets p).«end».toNat = if p = 0 then 2 else 0 := by
  unfold cexBuckets; split_ifs <;> rfl

theorem cexDB_size : cexDB.instInfoTable.size = 3 := rfl

theorem cexDB_startsWithLetter (id p : Nat) :
    StartsWithLetter (cexDB.name id) p ↔ id ≤ 1 ∧ p = 0 := by
  have ha : 'a'.toNat = 97 := rfl
  obtain ⟨h0, h1, h2⟩ := cexDB_names
  rcases Nat.lt_or_ge id 3 with hid | hid
  · interval_cases id
    · rw [h0, startsWithLetter_cons_iff, ha, show (97 : UInt8).toNat = 97 from rfl]; omega
    · rw [h1, startsWithLetter_cons_iff, ha, show (97 : UInt8).toNat = 97 from rfl]; omega
    · rw [h2, startsWithLetter_cons_iff, ha, show (49 : UInt8).toNat = 49 from rfl]; omega
  · rw [InstDB.name_of_size_le (show cexDB.instInfoTable.size ≤ id from hid)]
    exact iff_of_false (not_startsWithLetter_nil p) (by omega)

theorem cexDB_laidOut : NameIndexLaidOut cexDB (isDefinedId cexDB) where
  bucket_iff p b hb id := by
    rw [cexDB_bucket hb, cexBuckets_start, cexBuckets_end, cexDB_startsWithLetter, isDefinedId,
      cexDB_size]
    split_ifs <;> omega
  sorted p b hb i j hi hij hj := by
    rw [cexDB_bucket hb, cexBuckets_start] at hi
    rw [cexDB_bucket hb, cexBuckets_end] at hj
    obtain ⟨h0, h1, -⟩ := cexDB_names
    obtain ⟨rfl, rfl⟩ : i = 0 ∧ j = 1 := by split_ifs at hj <;> omega
    rw [h0, h1]; decide
  name_length id hid := by
    rw [isDefinedId, cexDB_size] at hid
    obtain ⟨h0, h1, h2⟩ := cexDB_names
    interval_cases id <;> simp [h0, h1, h2, show cexDB.kMaxNameSize = 2 from rfl]
  empty_start p b hb _ := by
    rw [cexDB_bucket hb, cexBuckets_start]

/-- With the bucket of `a` holding `kIdNone`, and a name starting with no letter, the table is
laid out for all its defined instructions, yet the names `ab` and `1x` it prints are not found. -/
theorem stringToInstId_misses_names :
    NameIndexLaidOut cexDB (isDefinedId cexDB) ∧
      instIdToString cexDB 1 [] = (.kErrorOk, [97, 98]) ∧
      stringToInstId cexDB false (some [97, 98]) 2 = some kIdNone ∧
      instIdToString cexDB 2 [] = (.kErrorOk, [49, 120]) ∧
      stringToInstId cexDB false (some [49, 120]) 2 = some kIdNone :=
  ⟨cexDB_laidOut, by decide, by decide, by decide, by decide⟩

end AsmJit.A64
