import Sur40.Lib.Codec
import Mathlib.Logic.Function.Basic

/-!
# Memory written through framed blocks

A `Framing` is a header that announces an address and a length. A store that is fed
byte by byte takes a header, puts as many bytes as announced from that address on,
and takes the next header. If the blocks announce what they hold, each where the one
before it ends, the store ends up with their contents in a row.

## Main definitions

* `Framing`, `FramedStore`, `Framing.receive`: the store and what a byte does to it.
* `Framing.Tiles`: blocks that announce themselves properly.
* `writeBytes`, `readBytes`: a memory as a whole.
* `Framing.foldl_receive_tiles`: what such blocks leave in the memory.
-/

namespace Devlib

universe u
variable {H : Type u}

/-! ## Memories -/

/-- The memory with `bytes` written from `address` on. -/
def writeBytes (memory : ℕ → UInt8) (address : ℕ) (bytes : List UInt8) : ℕ → UInt8 :=
  fun x => if address ≤ x then bytes.getD (x - address) (memory x) else memory x

/-- `n` bytes from `address` on. -/
def readBytes (memory : ℕ → UInt8) (address n : ℕ) : List UInt8 :=
  (List.range n).map fun i => memory (address + i)

@[simp] theorem length_readBytes (memory : ℕ → UInt8) (address n : ℕ) :
    (readBytes memory address n).length = n := by
  simp [readBytes]

@[simp] theorem writeBytes_nil (memory : ℕ → UInt8) (address : ℕ) :
    writeBytes memory address [] = memory := by
  funext x
  simp [writeBytes]

theorem writeBytes_append (memory : ℕ → UInt8) (address : ℕ) (bs cs : List UInt8) :
    writeBytes (writeBytes memory address bs) (address + bs.length) cs =
      writeBytes memory address (bs ++ cs) := by
  funext x
  simp only [writeBytes]
  by_cases hx : address ≤ x
  · by_cases hx' : address + bs.length ≤ x
    · have hbs : bs.length ≤ x - address := by omega
      have hsub : x - (address + bs.length) = x - address - bs.length := by omega
      rw [if_pos hx', if_pos hx, if_pos hx, List.getD_append_right _ _ _ _ hbs,
        List.getD_eq_default _ _ hbs, hsub]
    · rw [if_neg hx', if_pos hx, if_pos hx, List.getD_append _ _ _ _ (by omega)]
  · rw [if_neg (by omega), if_neg hx, if_neg hx]

theorem writeBytes_singleton (memory : ℕ → UInt8) (address : ℕ) (b : UInt8) :
    writeBytes memory address [b] = Function.update memory address b := by
  funext x
  by_cases hx : x = address
  · simp [writeBytes, hx]
  · rw [Function.update_of_ne hx, writeBytes]
    split_ifs
    · exact List.getD_eq_default _ _ (by simp; omega)
    · rfl

/-- What has been written is read back. -/
theorem readBytes_writeBytes (memory : ℕ → UInt8) (address : ℕ) (bytes : List UInt8) :
    readBytes (writeBytes memory address bytes) address bytes.length = bytes := by
  apply List.ext_getElem
  · simp
  · intro i hi hi'
    simp [readBytes, writeBytes, hi']

/-! ## The store -/

/-- A header that announces an address and a length. -/
structure Framing (H : Type u) where
  header : Codec H
  address : H → ℕ
  length : H → ℕ
  size_pos : 0 < header.size

structure FramedStore where
  memory : ℕ → UInt8
  /-- The bytes of a header under way. -/
  header : List UInt8
  address : ℕ
  /-- What is missing of the block under way. -/
  remaining : ℕ

/-- A store that waits for a header. -/
def FramedStore.idle (memory : ℕ → UInt8) (address : ℕ) : FramedStore :=
  { memory, header := [], address, remaining := 0 }

namespace Framing

variable (F : Framing H)

/-- One byte. -/
def receive (s : FramedStore) (b : UInt8) : FramedStore :=
  if s.remaining = 0 then
    if (s.header ++ [b]).length < F.header.size then { s with header := s.header ++ [b] }
    else
      { s with
        header := []
        address := F.address (F.header.decode (s.header ++ [b]))
        remaining := F.length (F.header.decode (s.header ++ [b])) }
  else
    { s with
      memory := Function.update s.memory s.address b
      address := s.address + 1
      remaining := s.remaining - 1 }

theorem foldl_receive_partial (s : FramedStore) (hs : s.remaining = 0) (bs : List UInt8)
    (h : (s.header ++ bs).length < F.header.size) :
    bs.foldl F.receive s = { s with header := s.header ++ bs } := by
  induction bs generalizing s with
  | nil => simp
  | cons b bs ih =>
      have hlt : (s.header ++ [b]).length < F.header.size := by
        simp at h ⊢
        omega
      have hstep : F.receive s b = { s with header := s.header ++ [b] } := by
        rw [receive, if_pos hs, if_pos hlt]
      rw [List.foldl_cons, hstep, ih { s with header := s.header ++ [b] } hs (by simpa using h)]
      simp

/-- A whole header. -/
theorem foldl_receive_header (memory : ℕ → UInt8) (address : ℕ) (h : H) :
    (F.header.encode h).foldl F.receive (.idle memory address) =
      { memory, header := [], address := F.address h, remaining := F.length h } := by
  have hlength := F.header.length_encode h
  have hpos := F.size_pos
  have hne : F.header.encode h ≠ [] := List.ne_nil_of_length_pos (by omega)
  have hsplit := List.dropLast_append_getLast hne
  have hpartial := F.foldl_receive_partial (.idle memory address) rfl
    (F.header.encode h).dropLast (by simp [FramedStore.idle]; omega)
  rw [← hsplit, List.foldl_append, hpartial, List.foldl_cons, List.foldl_nil]
  simp only [FramedStore.idle, List.nil_append]
  rw [receive, if_pos rfl, hsplit, if_neg (by omega), F.header.decode_encode]

/-- Bytes of a block. -/
theorem foldl_receive_payload (bs : List UInt8) (memory : ℕ → UInt8) (address remaining : ℕ)
    (h : bs.length ≤ remaining) :
    bs.foldl F.receive { memory, header := [], address, remaining } =
      { memory := writeBytes memory address bs, header := [], address := address + bs.length,
        remaining := remaining - bs.length } := by
  induction bs generalizing memory address remaining with
  | nil => simp
  | cons b bs ih =>
      rw [List.length_cons] at h
      have hne : remaining ≠ 0 := by omega
      have hrest := ih (Function.update memory address b) (address + 1) (remaining - 1) (by omega)
      rw [List.foldl_cons, receive, if_neg hne, hrest, ← writeBytes_singleton]
      have hmemory := writeBytes_append memory address [b] bs
      simp only [List.length_singleton, List.singleton_append] at hmemory
      have haddress : address + 1 + bs.length = address + (bs.length + 1) := by omega
      have hremaining : remaining - 1 - bs.length = remaining - (bs.length + 1) := by omega
      rw [hmemory, List.length_cons, haddress, hremaining]

/-- Blocks that announce what they hold, one behind the other from `start` to `stop`. -/
def Tiles : ℕ → ℕ → List (List UInt8 × List UInt8) → Prop
  | start, stop, [] => start = stop
  | start, stop, b :: bs =>
      (∃ h, b.1 = F.header.encode h ∧ F.address h = start ∧ F.length h = b.2.length) ∧
        Tiles (start + b.2.length) stop bs

variable {F}

theorem Tiles.append {start middle stop : ℕ} {bs cs : List (List UInt8 × List UInt8)}
    (hbs : F.Tiles start middle bs) (hcs : F.Tiles middle stop cs) :
    F.Tiles start stop (bs ++ cs) := by
  induction bs generalizing start with
  | nil =>
      obtain rfl : start = middle := hbs
      exact hcs
  | cons b bs ih => exact ⟨hbs.1, ih hbs.2⟩

/-- Every block among them announces its length. -/
theorem Tiles.exists_header {start stop : ℕ} {bs : List (List UInt8 × List UInt8)}
    (h : F.Tiles start stop bs) {b : List UInt8 × List UInt8} (hb : b ∈ bs) :
    ∃ a, b.1 = F.header.encode a ∧ F.length a = b.2.length := by
  induction bs generalizing start with
  | nil => cases hb
  | cons c bs ih =>
      rcases List.mem_cons.mp hb with rfl | hb
      · obtain ⟨a, henc, -, hlength⟩ := h.1
        exact ⟨a, henc, hlength⟩
      · exact ih h.2 hb

/-- The bytes of the blocks, headers included. -/
def blockBytes (bs : List (List UInt8 × List UInt8)) : List UInt8 :=
  bs.flatMap fun b => b.1 ++ b.2

/-- Such blocks leave their contents in a row. -/
theorem foldl_receive_tiles {start stop : ℕ} {bs : List (List UInt8 × List UInt8)}
    (h : F.Tiles start stop bs) (memory : ℕ → UInt8) (address : ℕ) :
    ((blockBytes bs).foldl F.receive (.idle memory address)).memory =
      writeBytes memory start (bs.flatMap Prod.snd) := by
  induction bs generalizing start memory address with
  | nil => simp [blockBytes, FramedStore.idle]
  | cons b bs ih =>
      obtain ⟨⟨a, henc, haddress, hlength⟩, htail⟩ := h
      have hpayload := F.foldl_receive_payload b.2 memory start b.2.length (Nat.le_refl _)
      have hblock : (b.1 ++ b.2).foldl F.receive (.idle memory address) =
          .idle (writeBytes memory start b.2) (start + b.2.length) := by
        rw [henc, List.foldl_append, foldl_receive_header, haddress, hlength, hpayload,
          Nat.sub_self]
        rfl
      have hrest := ih htail (writeBytes memory start b.2) (start + b.2.length)
      simp only [blockBytes] at hrest ⊢
      rw [List.flatMap_cons, List.foldl_append, hblock, hrest, writeBytes_append,
        List.flatMap_cons]

end Framing
end Devlib
