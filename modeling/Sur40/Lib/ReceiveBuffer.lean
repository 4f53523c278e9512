import Sur40.Lib.Codec
import Mathlib.Data.List.Range

/-!
# Receive buffers

A transfer fills the first bytes of a buffer. What lies behind them is left over from
earlier transfers, so a reader has to stay within the bytes just received. Reads are
checked here: a reader that leaves this part of the buffer has no result.

## Main definitions

* `ReceiveBuffer`: a memory and the number of bytes just received.
* `ReceiveBuffer.read`, `Codec.load`: checked reads of bytes and of records.
* `foldlM_eq_some`: a loop all of whose reads succeed.
-/

namespace Devlib

universe u v
variable {α : Type u} {β : Type v}

/-- The memory of a transfer, with the number of bytes that the last one has put there. -/
structure ReceiveBuffer where
  mem : List UInt8
  received : UInt32
  received_le : received.toNat ≤ mem.length

namespace ReceiveBuffer

/-- The bytes just received. -/
def data (b : ReceiveBuffer) : List UInt8 := b.mem.take b.received.toNat

@[simp] theorem length_data (b : ReceiveBuffer) : b.data.length = b.received.toNat := by
  rw [data, List.length_take, Nat.min_eq_left b.received_le]

/-- Read `n` bytes at an offset, if all of them were just received. -/
def read (b : ReceiveBuffer) (off n : ℕ) : Option (List UInt8) :=
  if off + n ≤ b.received.toNat then some ((b.mem.drop off).take n) else none

theorem read_eq {b : ReceiveBuffer} {off n : ℕ} (h : off + n ≤ b.received.toNat) :
    b.read off n = some ((b.data.drop off).take n) := by
  rw [read, if_pos h, data, List.drop_take, List.take_take, Nat.min_eq_left (by omega)]

end ReceiveBuffer

/-- Read a record at an offset. -/
def Codec.load (c : Codec α) (b : ReceiveBuffer) (off : ℕ) : Option α :=
  (b.read off c.size).map c.decode

/-- A record that lies within the received bytes can be read, and is the one that
decoding these bytes gives. -/
theorem Codec.load_eq (c : Codec α) {b : ReceiveBuffer} {off : ℕ}
    (h : off + c.size ≤ b.received.toNat) : c.load b off = some (c.decode (b.data.drop off)) := by
  have hlen : c.size ≤ ((b.data.drop off).take c.size).length := by
    rw [List.length_take, List.length_drop, b.length_data]
    omega
  have hsplit : (b.data.drop off).take c.size ++ (b.data.drop off).drop c.size =
      b.data.drop off := List.take_append_drop _ _
  rw [load, ReceiveBuffer.read_eq h, Option.map_some, ← c.decode_append _ _ hlen, hsplit]

/-- A loop whose steps all succeed. -/
theorem foldlM_eq_some {f : β → α → Option β} {g : β → α → β} {as : List α}
    (h : ∀ a ∈ as, ∀ b, f b a = some (g b a)) (b : β) :
    as.foldlM f b = some (as.foldl g b) := by
  induction as generalizing b with
  | nil => rfl
  | cons a as ih =>
      rw [List.foldlM_cons, h a List.mem_cons_self, Option.bind_eq_bind, Option.bind_some,
        ih (fun a ha => h a (List.mem_cons_of_mem _ ha)), List.foldl_cons]

end Devlib
