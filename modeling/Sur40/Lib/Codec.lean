import Mathlib.Data.List.Basic
import Mathlib.Data.List.GetD
import Mathlib.Data.Nat.Notation

/-!
# Packed little-endian layouts

A `Codec` is a fixed-size byte layout together with the proof that decoding
undoes encoding, whatever bytes follow. Record layouts are built from scalar
ones with `seq` and `iso`, in declaration order and without padding, the way a
packed C struct is laid out.

## Main definitions

* `Codec α`: a layout of `α` in a fixed number of bytes.
* `u8`, `le16`, `le32`, `raw n`: the scalar layouts.
* `Codec.seq`, `Codec.iso`: concatenation, and a layout carried to a record type.
* `Codec.decode_block`: an element of an array of records.
-/

namespace Devlib

universe u v
variable {α : Type u} {β : Type v}

/-- A layout of `α` in `size` bytes. Decoding looks only at the first `size` bytes,
so it can be pointed into the middle of a larger buffer. -/
structure Codec (α : Type u) where
  size : ℕ
  encode : α → List UInt8
  decode : List UInt8 → α
  length_encode : ∀ a, (encode a).length = size
  decode_encode : ∀ a, decode (encode a) = a
  decode_append : ∀ bs rest, size ≤ bs.length → decode (bs ++ rest) = decode bs

attribute [simp] Codec.length_encode Codec.decode_encode

namespace Codec

@[simp] theorem decode_encode_append (c : Codec α) (a : α) (rest : List UInt8) :
    c.decode (c.encode a ++ rest) = a := by
  rw [c.decode_append _ _ (Nat.le_of_eq (c.length_encode a).symm), c.decode_encode]

/-- Two layouts one after the other. -/
def seq (c : Codec α) (d : Codec β) : Codec (α × β) where
  size := c.size + d.size
  encode p := c.encode p.1 ++ d.encode p.2
  decode bs := (c.decode bs, d.decode (bs.drop c.size))
  length_encode := by simp
  decode_encode := by
    intro p
    have hdrop : (c.encode p.1 ++ d.encode p.2).drop c.size = d.encode p.2 := by
      rw [← c.length_encode p.1, List.drop_left]
    simp [hdrop]
  decode_append := by
    intro bs rest h
    have hd := d.decode_append (bs.drop c.size) rest (by rw [List.length_drop]; omega)
    rw [c.decode_append bs rest (by omega), List.drop_append_of_le_length (by omega), hd]

/-- A layout seen through a record type with the same fields. -/
def iso (c : Codec α) (f : α → β) (g : β → α) (h : ∀ b, f (g b) = b) : Codec β where
  size := c.size
  encode b := c.encode (g b)
  decode bs := f (c.decode bs)
  length_encode := by simp
  decode_encode := by simp [h]
  decode_append := by
    intro bs rest hsize
    rw [c.decode_append bs rest hsize]

/-- The `i`-th record of an array that starts the buffer. -/
def block (c : Codec α) (bs : List UInt8) (i : ℕ) : α := c.decode (bs.drop (c.size * i))

theorem length_encodeAll (c : Codec α) (as : List α) :
    (as.flatMap c.encode).length = c.size * as.length := by
  induction as with
  | nil => simp
  | cons a as ih =>
      rw [List.flatMap_cons, List.length_append, ih, c.length_encode, List.length_cons,
        Nat.mul_succ, Nat.add_comm]

/-- A record that lies inside the received bytes does not depend on what follows. -/
theorem block_append (c : Codec α) (bs rest : List UInt8) (i : ℕ)
    (h : c.size * (i + 1) ≤ bs.length) : c.block (bs ++ rest) i = c.block bs i := by
  have hle : c.size * i ≤ bs.length := Nat.le_trans (Nat.mul_le_mul_left _ (Nat.le_succ i)) h
  rw [block, block, List.drop_append_of_le_length hle, c.decode_append]
  rw [List.length_drop]
  rw [Nat.mul_succ] at h
  omega

/-- Reading record `i` of an encoded array gives back the `i`-th element. -/
theorem decode_block (c : Codec α) (as : List α) (rest : List UInt8) (i : ℕ)
    (hi : i < as.length) : c.block (as.flatMap c.encode ++ rest) i = as[i] := by
  induction as generalizing i with
  | nil => simp at hi
  | cons a as ih =>
      cases i with
      | zero => simp [block, List.append_assoc]
      | succ i =>
          have hdrop : (c.encode a ++ (as.flatMap c.encode ++ rest)).drop (c.size * (i + 1)) =
              (as.flatMap c.encode ++ rest).drop (c.size * i) := by
            rw [Nat.mul_succ, Nat.add_comm, ← List.drop_drop, ← c.length_encode a,
              List.drop_left]
          have htail := ih i (by simpa using hi)
          simp only [block] at htail ⊢
          simpa [List.append_assoc, hdrop] using htail

end Codec

/-! ## Scalars -/

/-- One byte. -/
def u8 : Codec UInt8 where
  size := 1
  encode b := [b]
  decode bs := bs.getD 0 0
  length_encode := by simp
  decode_encode := by simp
  decode_append := by
    intro bs rest h
    rw [List.getD_append _ _ _ _ (by omega)]

theorem le16_split (v : UInt16) :
    (UInt8.ofNat v.toNat).toNat + 256 * (UInt8.ofNat (v.toNat / 256)).toNat = v.toNat := by
  have hv := v.toNat_lt
  rw [UInt8.toNat_ofNat', UInt8.toNat_ofNat']
  omega

theorem le32_split (v : UInt32) :
    (UInt8.ofNat v.toNat).toNat + 256 * (UInt8.ofNat (v.toNat / 256)).toNat +
      65536 * (UInt8.ofNat (v.toNat / 65536)).toNat +
      16777216 * (UInt8.ofNat (v.toNat / 16777216)).toNat = v.toNat := by
  have hv := v.toNat_lt
  rw [UInt8.toNat_ofNat', UInt8.toNat_ofNat', UInt8.toNat_ofNat', UInt8.toNat_ofNat']
  omega

/-- A 16-bit word, low byte first. -/
def le16 : Codec UInt16 where
  size := 2
  encode v := [UInt8.ofNat v.toNat, UInt8.ofNat (v.toNat / 256)]
  decode bs := UInt16.ofNat ((bs.getD 0 0).toNat + 256 * (bs.getD 1 0).toNat)
  length_encode := by simp
  decode_encode := by
    intro v
    simp only [List.getD_cons_zero, List.getD_cons_succ, le16_split, UInt16.ofNat_toNat]
  decode_append := by
    intro bs rest h
    rw [List.getD_append _ _ _ _ (by omega), List.getD_append _ _ _ _ (by omega)]

/-- A 32-bit word, low byte first. -/
def le32 : Codec UInt32 where
  size := 4
  encode v := [UInt8.ofNat v.toNat, UInt8.ofNat (v.toNat / 256),
    UInt8.ofNat (v.toNat / 65536), UInt8.ofNat (v.toNat / 16777216)]
  decode bs := UInt32.ofNat ((bs.getD 0 0).toNat + 256 * (bs.getD 1 0).toNat +
    65536 * (bs.getD 2 0).toNat + 16777216 * (bs.getD 3 0).toNat)
  length_encode := by simp
  decode_encode := by
    intro v
    simp only [List.getD_cons_zero, List.getD_cons_succ, le32_split, UInt32.ofNat_toNat]
  decode_append := by
    intro bs rest h
    rw [List.getD_append _ _ _ _ (by omega), List.getD_append _ _ _ _ (by omega),
      List.getD_append _ _ _ _ (by omega), List.getD_append _ _ _ _ (by omega)]

/-- `n` uninterpreted bytes. -/
def raw (n : ℕ) : Codec (Vector UInt8 n) where
  size := n
  encode v := v.toList
  decode bs := Vector.ofFn fun i => bs.getD i 0
  length_encode := by simp
  decode_encode := by
    intro v
    ext i hi
    simp
  decode_append := by
    intro bs rest h
    ext i hi
    simp [List.getElem?_append_left (show i < bs.length by omega)]

end Devlib
