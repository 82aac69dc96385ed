import AsmJit.A64.InstApi.Text

/-!
## The bucket search of `stringToInstId`

* `searchLoop_inBounds`: from a window inside the bucket `[lo, hi)`, whatever signs the
  comparisons return, the loop compares only entries of the bucket, stops, and returns
  `kIdNone` or an index of the bucket. Each pass keeps `WindowInv` (`windowInv_after`,
  `windowInv_before`) and shrinks `lim` (`shiftRight_one_lt`, `sub_one_shiftRight_one_lt`).
* `searchLoop_sorted`: over a bucket whose names strictly increase in `cmpInstName` order, the
  loop returns the entry whose name is the key whenever the window holds it, and `kIdNone` when
  the bucket has no such entry.
-/

namespace AsmJit.A64

/-! ### `cmpInstName` -/

theorem cmpInstName_eq_zero_iff {a b : List UInt8} : cmpInstName a b = 0 ↔ a = b := by
  induction a generalizing b with
  | nil => cases b <;> simp [cmpInstName]
  | cons x a ih =>
    cases b with
    | nil => simp [cmpInstName]
    | cons y b =>
      by_cases hxy : x = y
      · simp [cmpInstName, hxy, ih]
      · have : x.toNat ≠ y.toNat := fun h => hxy (UInt8.toNat.inj h)
        simp only [cmpInstName, hxy, if_false, List.cons.injEq, false_and, iff_false]
        omega

theorem cmpInstName_self (a : List UInt8) : cmpInstName a a = 0 :=
  cmpInstName_eq_zero_iff.2 rfl

theorem cmpInstName_neg_iff {a b : List UInt8} : cmpInstName a b < 0 ↔ 0 < cmpInstName b a := by
  induction a generalizing b with
  | nil => cases b <;> simp [cmpInstName]
  | cons x a ih =>
    cases b with
    | nil => simp [cmpInstName]
    | cons y b =>
      by_cases hxy : x = y
      · simp [cmpInstName, hxy, ih]
      · simp only [cmpInstName, hxy, Ne.symm hxy, if_false]
        omega

/-! ### One pass of the loop -/

theorem shiftRight_one_eq (n : Nat) : n >>> 1 = n / 2 := Nat.shiftRight_eq_div_pow n 1

theorem searchLoop_zero (cmp : Nat → Option Int) (base : Nat) :
    searchLoop cmp base 0 = some kIdNone := by
  rw [searchLoop]; rfl

theorem searchLoop_of_neg {cmp : Nat → Option Int} {base lim : Nat} {result : Int}
    (hlim : lim ≠ 0) (h : cmp (base + lim >>> 1) = some result) (hr : result < 0) :
    searchLoop cmp base lim = searchLoop cmp (base + lim >>> 1 + 1) ((lim - 1) >>> 1) := by
  rw [searchLoop]; simp [hlim, h, hr]

theorem searchLoop_of_pos {cmp : Nat → Option Int} {base lim : Nat} {result : Int}
    (hlim : lim ≠ 0) (h : cmp (base + lim >>> 1) = some result) (hr : 0 < result) :
    searchLoop cmp base lim = searchLoop cmp base (lim >>> 1) := by
  rw [searchLoop]; simp [hlim, h, hr, not_lt.2 hr.le]

theorem searchLoop_of_eq {cmp : Nat → Option Int} {base lim : Nat} (hlim : lim ≠ 0)
    (h : cmp (base + lim >>> 1) = some 0) :
    searchLoop cmp base lim = some (base + lim >>> 1) := by
  rw [searchLoop]; simp [hlim, h]

/-! ### The window invariant -/

/-- The invariant of the loop over the bucket `[lo, hi)`: `lo ≤ base` and `base + lim ≤ hi`. -/
def WindowInv (lo hi base lim : Nat) : Prop := lo ≤ base ∧ base + lim ≤ hi

section Window

variable {lo hi base lim : Nat}

/-- The probed entry lies in the bucket. -/
theorem probe_mem (hinv : WindowInv lo hi base lim) (hlim : lim ≠ 0) :
    lo ≤ base + lim >>> 1 ∧ base + lim >>> 1 < hi := by
  unfold WindowInv at hinv; rw [shiftRight_one_eq]; omega

/-- Going on past the probed entry keeps the invariant. -/
theorem windowInv_after (hinv : WindowInv lo hi base lim) (hlim : lim ≠ 0) :
    WindowInv lo hi (base + lim >>> 1 + 1) ((lim - 1) >>> 1) := by
  unfold WindowInv at *; simp only [shiftRight_one_eq]; omega

/-- Going on before the probed entry keeps the invariant. -/
theorem windowInv_before (hinv : WindowInv lo hi base lim) :
    WindowInv lo hi base (lim >>> 1) := by
  unfold WindowInv at *; rw [shiftRight_one_eq]; omega

end Window

/-- **The loop stays in its bucket.** Started on a window inside `[lo, hi)`, with any comparison
that can read every entry of `[lo, hi)`, the loop returns, and returns `kIdNone` or an index of
`[lo, hi)`. The comparison may fail outside `[lo, hi)`, so the loop compares no entry there. -/
theorem searchLoop_inBounds {cmp : Nat → Option Int} {lo hi : Nat}
    (hcmp : ∀ cur, lo ≤ cur → cur < hi → (cmp cur).isSome) (base lim : Nat)
    (hinv : WindowInv lo hi base lim) :
    ∃ r, searchLoop cmp base lim = some r ∧ (r = kIdNone ∨ lo ≤ r ∧ r < hi) := by
  induction base, lim using searchLoop.induct cmp with
  | case1 base => exact ⟨kIdNone, searchLoop_zero cmp base, .inl rfl⟩
  | case2 base lim hlim cur hnone =>
    obtain ⟨h1, h2⟩ := probe_mem hinv hlim
    have := hcmp _ h1 h2
    simp [show cmp (base + lim >>> 1) = none from hnone] at this
  | case3 base lim hlim cur result h hr ih =>
    rw [searchLoop_of_neg hlim h hr]
    exact ih (windowInv_after hinv hlim)
  | case4 base lim hlim cur result h _ hr ih =>
    rw [searchLoop_of_pos hlim h hr]
    exact ih (windowInv_before hinv)
  | case5 base lim hlim cur result h hr hr' =>
    rw [show result = 0 by omega] at h
    exact ⟨_, searchLoop_of_eq hlim h, .inr (probe_mem hinv hlim)⟩

/-! ### Sorted buckets -/

/-- The names of the entries `[lo, hi)` strictly increase in `cmpInstName` order. -/
def SortedNames (names : Nat → List UInt8) (lo hi : Nat) : Prop :=
  ∀ i j, lo ≤ i → i < j → j < hi → cmpInstName (names i) (names j) < 0

/-- A strictly increasing bucket holds each name at most once. -/
theorem SortedNames.eq_of_name_eq {names : Nat → List UInt8} {lo hi i j : Nat}
    (hs : SortedNames names lo hi) (hi₁ : lo ≤ i) (hi₂ : i < hi) (hj₁ : lo ≤ j) (hj₂ : j < hi)
    (h : names i = names j) : i = j := by
  rcases Nat.lt_trichotomy i j with hij | hij | hij
  · have := hs i j hi₁ hij hj₂; rw [h, cmpInstName_self] at this; omega
  · exact hij
  · have := hs j i hj₁ hij hi₂; rw [h, cmpInstName_self] at this; omega

/-- **Binary search over a sorted bucket.** If every entry of `[lo, hi)` compares by its name,
the names strictly increase, and the window holds every entry named `key`, the loop returns an
entry named `key`, or `kIdNone` when the bucket holds none. -/
theorem searchLoop_sorted {cmp : Nat → Option Int} {names : Nat → List UInt8} {key : List UInt8}
    {lo hi : Nat} (hcmp : ∀ cur, lo ≤ cur → cur < hi → cmp cur = some (cmpInstName (names cur) key))
    (hs : SortedNames names lo hi) (base lim : Nat) (hinv : WindowInv lo hi base lim)
    (hkey : ∀ j, lo ≤ j → j < hi → names j = key → base ≤ j ∧ j < base + lim) :
    (∃ r, searchLoop cmp base lim = some r ∧ lo ≤ r ∧ r < hi ∧ names r = key) ∨
      (searchLoop cmp base lim = some kIdNone ∧ ∀ j, lo ≤ j → j < hi → names j ≠ key) := by
  induction base, lim using searchLoop.induct cmp with
  | case1 base =>
    refine .inr ⟨searchLoop_zero cmp base, fun j h1 h2 hj => ?_⟩
    have := hkey j h1 h2 hj; omega
  | case2 base lim hlim cur hnone =>
    obtain ⟨h1, h2⟩ := probe_mem hinv hlim
    simp [hcmp _ h1 h2] at hnone
  | case3 base lim hlim cur result h hr ih =>
    -- the probed name is below the key: every entry named `key` lies after it
    obtain ⟨h1, h2⟩ := probe_mem hinv hlim
    have hres := Option.some.inj ((hcmp _ h1 h2).symm.trans h)
    rw [searchLoop_of_neg hlim h hr]
    refine ih (windowInv_after hinv hlim) fun j hj₁ hj₂ hj => ?_
    obtain ⟨hb, he⟩ := hkey j hj₁ hj₂ hj
    have hcur : base + lim >>> 1 < j := by
      by_contra hle
      rcases Nat.lt_or_eq_of_le (Nat.le_of_not_lt hle) with hlt | heq
      · have := cmpInstName_neg_iff.1 (hs j _ hj₁ hlt h2); rw [hj] at this; omega
      · rw [← heq, hj, cmpInstName_self] at hres; omega
    rw [shiftRight_one_eq] at hcur ⊢; omega
  | case4 base lim hlim cur result h _ hr ih =>
    -- the probed name is above the key: every entry named `key` lies before it
    obtain ⟨h1, h2⟩ := probe_mem hinv hlim
    have hres := Option.some.inj ((hcmp _ h1 h2).symm.trans h)
    rw [searchLoop_of_pos hlim h hr]
    refine ih (windowInv_before hinv) fun j hj₁ hj₂ hj => ⟨(hkey j hj₁ hj₂ hj).1, ?_⟩
    by_contra hle
    rcases Nat.lt_or_eq_of_le (Nat.le_of_not_lt hle) with hlt | heq
    · have := hs _ j h1 hlt hj₂; rw [hj] at this; omega
    · rw [heq, hj, cmpInstName_self] at hres; omega
  | case5 base lim hlim cur result h hr hr' =>
    obtain ⟨h1, h2⟩ := probe_mem hinv hlim
    have hres := Option.some.inj ((hcmp _ h1 h2).symm.trans h)
    rw [show result = 0 by omega] at h hres
    exact .inl ⟨_, searchLoop_of_eq hlim h, h1, h2, cmpInstName_eq_zero_iff.1 hres⟩

end AsmJit.A64
