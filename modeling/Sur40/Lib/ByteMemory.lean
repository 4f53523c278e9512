import Mathlib.Data.List.GetD
import Mathlib.Data.List.Range
import Mathlib.Data.Nat.Notation
import Mathlib.Tactic.SplitIfs

/-!
# Byte memory

Memory as a function from addresses to bytes, with reads and writes of whole blocks. A copy
between overlapping blocks reads its source before it writes.

## Main definitions

* `Memory.read`, `Memory.write`, `Memory.move`: the operations.
* `Memory.Holds m p bs`: the bytes from `p` on begin with `bs`.
* `Memory.SameOutside n m m'`: the two memories differ only below `n`.
-/

namespace Devlib

/-- A byte for each address. -/
abbrev Memory := ℕ → UInt8

namespace Memory

/-- The `n` bytes at `p`. -/
def read (m : Memory) (p n : ℕ) : List UInt8 := (List.range n).map fun i => m (p + i)

/-- Put the block `bs` at `p`. -/
def write (m : Memory) (p : ℕ) (bs : List UInt8) : Memory :=
  fun q => if q < p then m q else bs.getD (q - p) (m q)

/-- Copy `n` bytes, the blocks may overlap. -/
def move (m : Memory) (dst src n : ℕ) : Memory := m.write dst (m.read src n)

/-- The bytes from `p` on begin with `bs`. -/
def Holds (m : Memory) (p : ℕ) (bs : List UInt8) : Prop := m.read p bs.length = bs

instance (m : Memory) (p : ℕ) (bs : List UInt8) : Decidable (m.Holds p bs) :=
  inferInstanceAs (Decidable (_ = _))

/-- The memories differ only below `n`. -/
def SameOutside (n : ℕ) (m m' : Memory) : Prop := ∀ q, n ≤ q → m' q = m q

variable {m m' m'' : Memory} {p q n k : ℕ} {as bs : List UInt8}

@[simp] theorem length_read (m : Memory) (p n : ℕ) : (m.read p n).length = n := by simp [read]

@[simp] theorem getElem_read (h : q < (m.read p n).length) : (m.read p n)[q] = m (p + q) := by
  simp [read]

@[simp] theorem read_zero (m : Memory) (p : ℕ) : m.read p 0 = [] := rfl

theorem read_add (m : Memory) (p n k : ℕ) : m.read p (n + k) = m.read p n ++ m.read (p + n) k := by
  simp only [read, List.range_add, List.map_append, List.map_map]
  congr 1
  apply List.map_congr_left
  intro i _
  exact congrArg m (Nat.add_assoc p n i).symm

theorem read_congr (h : ∀ i < n, m' (p + i) = m (p + i)) : m'.read p n = m.read p n := by
  apply List.map_congr_left
  intro i hi
  exact h i (List.mem_range.mp hi)

/-- Byte by byte. -/
theorem holds_iff : m.Holds p bs ↔ ∀ i (h : i < bs.length), m (p + i) = bs[i] := by
  constructor
  · intro h i hi
    have hread : (m.read p bs.length)[i]? = bs[i]? := by rw [h]
    simpa [read, hi] using hread
  · intro h
    apply List.ext_getElem (by simp)
    intro i _ hi
    rw [getElem_read, h i hi]

@[simp] theorem holds_nil : m.Holds p [] := rfl

/-- Two pieces, one behind the other. -/
theorem holds_append : m.Holds p (as ++ bs) ↔ m.Holds p as ∧ m.Holds (p + as.length) bs := by
  rw [Holds, Holds, Holds, List.length_append, read_add]
  constructor
  · intro h
    exact List.append_inj h (by simp)
  · rintro ⟨ha, hb⟩
    rw [ha, hb]

theorem holds_cons {b : UInt8} : m.Holds p (b :: bs) ↔ m p = b ∧ m.Holds (p + 1) bs := by
  rw [← List.singleton_append, holds_append]
  simp [Holds, read]

/-- What the memory holds does not depend on the rest of it. -/
theorem Holds.congr (h : m.Holds p bs) (hsame : ∀ i < bs.length, m' (p + i) = m (p + i)) :
    m'.Holds p bs := by
  rw [Holds, read_congr hsame]
  exact h

/-! ## Writing -/

theorem write_of_lt (h : q < p) : m.write p bs q = m q := if_pos h

theorem write_of_ge (h : p + bs.length ≤ q) : m.write p bs q = m q := by
  rw [write]
  split_ifs
  · rfl
  · rw [List.getD_eq_default _ _ (by omega)]

@[simp] theorem write_nil (m : Memory) (p : ℕ) : m.write p [] = m := by
  ext q : 1
  simp [write]

/-- What has been written is there. -/
theorem holds_write (m : Memory) (p : ℕ) (bs : List UInt8) : (m.write p bs).Holds p bs := by
  rw [holds_iff]
  intro i hi
  rw [write, if_neg (by omega), Nat.add_sub_cancel_left, List.getD_eq_getElem _ _ hi]

/-- A block that a write does not touch stays. -/
theorem Holds.write (h : m.Holds p as) (hdisjoint : p + as.length ≤ q ∨ q + bs.length ≤ p) :
    (m.write q bs).Holds p as := by
  apply h.congr
  intro i hi
  rcases hdisjoint with hbelow | habove
  · exact write_of_lt (by omega)
  · exact write_of_ge (by omega)

/-- Writing behind a block makes it longer. -/
theorem Holds.write_append (h : m.Holds p as) (hq : q = p + as.length) :
    (m.write q bs).Holds p (as ++ bs) := by
  subst hq
  exact holds_append.mpr ⟨h.write (.inl (Nat.le_refl _)), holds_write m _ bs⟩

/-- Replacing the bytes between two blocks by as many others. -/
theorem Holds.write_middle {cs : List UInt8} (h : m.Holds p (as ++ bs ++ cs))
    {bs' : List UInt8} (hlength : bs'.length = bs.length) (hq : q = p + as.length) :
    (m.write q bs').Holds p (as ++ bs' ++ cs) := by
  subst hq
  rw [holds_append, holds_append] at h ⊢
  obtain ⟨⟨ha, -⟩, hc⟩ := h
  refine ⟨⟨ha.write (.inl (Nat.le_refl _)), holds_write m _ bs'⟩, ?_⟩
  rw [List.length_append, hlength, ← List.length_append]
  apply hc.write
  right
  rw [List.length_append]
  omega

/-! ## The rest of the memory -/

theorem SameOutside.refl (n : ℕ) (m : Memory) : SameOutside n m m := fun _ _ => rfl

theorem SameOutside.trans (h : SameOutside n m m') (h' : SameOutside n m' m'') :
    SameOutside n m m'' := by
  intro q hq
  rw [h' q hq, h q hq]

theorem SameOutside.write (h : SameOutside n m m') (hle : p + bs.length ≤ n) :
    SameOutside n m (m'.write p bs) := by
  intro q hq
  rw [write_of_ge (by omega), h q hq]

end Memory

end Devlib
