import Mathlib.Algebra.Order.Group.Nat
import Mathlib.Data.List.Basic
import Mathlib.Data.Nat.Find
import Mathlib.Order.WellFounded
import Mathlib.Order.Monotone.Basic
import Mathlib.Tactic.Push
import Mathlib.Tactic.SplitIfs

/-!
# Packet streams and bulk transfers

An endpoint sends packets, each a list of bytes. A bulk transfer takes packets from
the stream until its room is used up or a packet arrives that is shorter than the
packet size. The device's messages are blocks of packets, sent back to back.

## Main definitions

* `bulkIn`: one bulk transfer.
* `FullPackets`, `received`: a stretch of packets of full size, and its bytes.
* `TailPackets`: the packets up to the end of a message.
* `bulkIn_fullPackets`, `bulkIn_message`, `bulkIn_hunt`: the rules.
* `blockStart`, `concatBlocks`: the stream that a sequence of blocks makes up.
-/

namespace Devlib

universe u
variable {α : Type u}

/-! ## Bulk transfers -/

/-- The result of a transfer: its bytes, whether a packet was larger than the room
that was left, and the position of the next packet. -/
structure BulkIn (α : Type u) where
  data : List α
  overflow : Bool
  pos : ℕ

def BulkIn.prepend (pkt : List α) (r : BulkIn α) : BulkIn α := { r with data := pkt ++ r.data }

/-- Take at most `fuel` packets. -/
def bulkPackets (P : ℕ) (pkts : ℕ → List α) : ℕ → ℕ → ℕ → BulkIn α
  | 0, pos, _ => { data := [], overflow := false, pos }
  | fuel + 1, pos, room =>
      let pkt := pkts pos
      if room = 0 then { data := [], overflow := false, pos }
      else if room < pkt.length then
        { data := pkt.take room, overflow := true, pos := pos + 1 }
      else if pkt.length < P then { data := pkt, overflow := false, pos := pos + 1 }
      else (bulkPackets P pkts fuel (pos + 1) (room - pkt.length)).prepend pkt

/-- A transfer of length `room`, with packets of size `P`. -/
def bulkIn (P : ℕ) (pkts : ℕ → List α) (pos room : ℕ) : BulkIn α :=
  bulkPackets P pkts room pos room

variable {P : ℕ} {pkts : ℕ → List α} {pos room : ℕ}

/-- More fuel than room changes nothing. -/
theorem bulkPackets_of_le (hP : 0 < P) {fuel : ℕ} (h : room ≤ fuel) :
    bulkPackets P pkts fuel pos room = bulkIn P pkts pos room := by
  rw [bulkIn]
  induction fuel using Nat.strong_induction_on generalizing pos room with
  | _ fuel ih =>
      cases room with
      | zero => cases fuel <;> rfl
      | succ room =>
          obtain ⟨fuel, rfl⟩ : ∃ n, fuel = n + 1 := ⟨fuel - 1, by omega⟩
          by_cases hshort : (pkts pos).length < P
          · simp only [bulkPackets, if_pos hshort]
          · simp only [bulkPackets, if_neg hshort]
            rw [ih fuel (by omega) (by omega), ih room (by omega) (by omega)]

theorem bulkIn_zero : bulkIn P pkts pos 0 = { data := [], overflow := false, pos } := rfl

/-- The next packet decides how the transfer goes on. -/
theorem bulkIn_of_pos (hP : 0 < P) (hroom : 0 < room) :
    bulkIn P pkts pos room =
      if room < (pkts pos).length then
        { data := (pkts pos).take room, overflow := true, pos := pos + 1 }
      else if (pkts pos).length < P then { data := pkts pos, overflow := false, pos := pos + 1 }
      else (bulkIn P pkts (pos + 1) (room - (pkts pos).length)).prepend (pkts pos) := by
  obtain ⟨n, rfl⟩ : ∃ n, room = n + 1 := ⟨room - 1, by omega⟩
  rw [bulkIn]
  by_cases hshort : (pkts pos).length < P
  · simp only [bulkPackets, if_pos hshort, if_neg (Nat.succ_ne_zero n)]
  · simp only [bulkPackets, if_neg hshort, if_neg (Nat.succ_ne_zero n)]
    rw [bulkPackets_of_le hP (by omega), bulkIn]

/-- The next packet does not fit. -/
theorem bulkIn_of_overflow (hP : 0 < P) (hroom : 0 < room) (h : room < (pkts pos).length) :
    bulkIn P pkts pos room =
      { data := (pkts pos).take room, overflow := true, pos := pos + 1 } := by
  rw [bulkIn_of_pos hP hroom, if_pos h]

/-- The next packet is short and ends the transfer. -/
theorem bulkIn_of_short (hroom : 0 < room) (hfit : (pkts pos).length ≤ room)
    (h : (pkts pos).length < P) :
    bulkIn P pkts pos room = { data := pkts pos, overflow := false, pos := pos + 1 } := by
  rw [bulkIn_of_pos (by omega) hroom, if_neg (by omega), if_pos h]

/-- The next packet is full and the transfer goes on. -/
theorem bulkIn_of_full (hP : 0 < P) (hfit : P ≤ room) (h : (pkts pos).length = P) :
    bulkIn P pkts pos room = (bulkIn P pkts (pos + 1) (room - P)).prepend (pkts pos) := by
  rw [bulkIn_of_pos hP (by omega), if_neg (by omega), if_neg (by omega), h]

/-! ## Stretches of packets -/

/-- The next `m` packets have full size. -/
def FullPackets (P : ℕ) (pkts : ℕ → List α) (pos m : ℕ) : Prop :=
  ∀ i < m, (pkts (pos + i)).length = P

/-- The bytes of the next `m` packets. -/
def received (pkts : ℕ → List α) (pos m : ℕ) : List α :=
  (List.range m).flatMap fun i => pkts (pos + i)

theorem received_succ (pkts : ℕ → List α) (pos m : ℕ) :
    received pkts pos (m + 1) = pkts pos ++ received pkts (pos + 1) m := by
  have hshift : ∀ i, pkts (pos + 1 + i) = pkts (pos + (i + 1)) :=
    fun i => congrArg pkts (by omega)
  simp [received, List.range_succ_eq_map, List.flatMap_map, hshift]

theorem FullPackets.tail {m : ℕ} (h : FullPackets P pkts pos (m + 1)) :
    FullPackets P pkts (pos + 1) m := by
  intro i hi
  have hshift : pos + 1 + i = pos + (i + 1) := by omega
  rw [hshift]
  exact h (i + 1) (by omega)

theorem FullPackets.length_received {m : ℕ} (h : FullPackets P pkts pos m) :
    (received pkts pos m).length = P * m := by
  induction m generalizing pos with
  | zero => rfl
  | succ m ih =>
      have hfirst : (pkts pos).length = P := h 0 (by omega)
      rw [received_succ, List.length_append, ih h.tail, hfirst, Nat.mul_succ, Nat.add_comm]

/-- A transfer passes over full packets. -/
theorem bulkIn_fullPackets (hP : 0 < P) {m : ℕ} (h : FullPackets P pkts pos m)
    (hfit : P * m ≤ room) :
    bulkIn P pkts pos room =
      (bulkIn P pkts (pos + m) (room - P * m)).prepend (received pkts pos m) := by
  induction m generalizing pos room with
  | zero => rfl
  | succ m ih =>
      have hfirst : (pkts pos).length = P := h 0 (by omega)
      rw [Nat.mul_succ] at hfit
      have hroom : room - P - P * m = room - P * (m + 1) := by
        rw [Nat.mul_succ]
        omega
      have hpos : pos + 1 + m = pos + (m + 1) := by omega
      rw [bulkIn_of_full hP (by omega) hfirst, ih h.tail (by omega), received_succ, hroom, hpos]
      simp [BulkIn.prepend]

/-- The packets pos, pos + 1, … carry the bytes `bs`. -/
def Carries (P : ℕ) (pkts : ℕ → List α) (pos : ℕ) (bs : List α) (m : ℕ) : Prop :=
  ∀ i < m, pkts (pos + i) = (bs.drop (P * i)).take P

theorem Carries.fullPackets {bs : List α} {m n : ℕ} (h : Carries P pkts pos bs n) (hm : m ≤ n)
    (hlen : P * m ≤ bs.length) : FullPackets P pkts pos m := by
  intro i hi
  have hi' : P * (i + 1) ≤ P * m := Nat.mul_le_mul_left P hi
  rw [Nat.mul_succ] at hi'
  rw [h i (by omega), List.length_take, List.length_drop]
  omega

theorem Carries.drop {bs : List α} {m : ℕ} (h : Carries P pkts pos bs m) (k : ℕ) :
    Carries P pkts (pos + k) (bs.drop (P * k)) (m - k) := by
  intro i hi
  rw [Nat.add_assoc, h (k + i) (by omega), List.drop_drop, Nat.mul_add]

theorem Carries.received {bs : List α} {m : ℕ} (h : Carries P pkts pos bs m) :
    received pkts pos m = bs.take (P * m) := by
  induction m generalizing pos bs with
  | zero => simp [Devlib.received]
  | succ m ih =>
      have hfirst : pkts pos = bs.take P := h 0 (by omega)
      have hrest := h.drop 1
      rw [Nat.mul_one, Nat.add_sub_cancel] at hrest
      rw [received_succ, ih hrest, hfirst, Nat.mul_succ, Nat.add_comm, List.take_add]

/-- A transfer as long as the message receives exactly the message. -/
theorem bulkIn_message (hP : 0 < P) {bs : List α} {m : ℕ} (h : Carries P pkts pos bs m)
    (hlong : P * m < bs.length + P) (hall : bs.length ≤ P * m) :
    bulkIn P pkts pos bs.length = { data := bs, overflow := false, pos := pos + m } := by
  cases m with
  | zero =>
      obtain rfl : bs = [] := List.eq_nil_of_length_eq_zero (by omega)
      rfl
  | succ m =>
      rw [Nat.mul_succ] at hlong hall
      have hfull := h.fullPackets (Nat.le_succ m) (by omega)
      have hinit : Carries P pkts pos bs m := fun i hi => h i (by omega)
      have hlast : pkts (pos + m) = bs.drop (P * m) := by
        rw [h m (by omega), List.take_of_length_le (by rw [List.length_drop]; omega)]
      have hlen : (pkts (pos + m)).length = bs.length - P * m := by
        rw [hlast, List.length_drop]
      have hdata : Devlib.received pkts pos m ++ pkts (pos + m) = bs := by
        rw [hinit.received, hlast, List.take_append_drop]
      rw [bulkIn_fullPackets hP hfull (by omega)]
      by_cases hshort : (pkts (pos + m)).length < P
      · rw [bulkIn_of_short (by omega) (by omega) hshort]
        simp [BulkIn.prepend, hdata, Nat.add_assoc]
      · have hrest : bs.length - P * m - P = 0 := by omega
        rw [bulkIn_of_full hP (by omega) (by omega), hrest, bulkIn_zero]
        simp [BulkIn.prepend, hdata, Nat.add_assoc]

/-! ## Hunting for the end of a message -/

/-- The packets up to the end of a message: full ones, then possibly a short one. None
has the length `h` of the marker that opens the next message. -/
structure TailPackets (P h : ℕ) (pkts : ℕ → List α) (pos m : ℕ) : Prop where
  full : ∀ i, i + 1 < m → (pkts (pos + i)).length = P
  le : ∀ i < m, (pkts (pos + i)).length ≤ P
  ne : ∀ i < m, (pkts (pos + i)).length ≠ h

theorem TailPackets.drop {h m : ℕ} (ht : TailPackets P h pkts pos m) (k : ℕ) :
    TailPackets P h pkts (pos + k) (m - k) where
  full i hi := by
    rw [Nat.add_assoc]
    exact ht.full (k + i) (by omega)
  le i hi := by
    rw [Nat.add_assoc]
    exact ht.le (k + i) (by omega)
  ne i hi := by
    rw [Nat.add_assoc]
    exact ht.ne (k + i) (by omega)

/-- A transfer of `c` packets, started before a marker of length `h`. Either it ends
before the marker, and its length tells so; or it ends with the marker. -/
theorem bulkIn_hunt {h c m : ℕ} (hh : 0 < h) (hP : h < P) (hc : 0 < c)
    (ht : TailPackets P h pkts pos m) (hmark : (pkts (pos + m)).length = h) :
    (∃ d data, bulkIn P pkts pos (P * c) = { data, overflow := false, pos := pos + d } ∧
      0 < d ∧ d ≤ m ∧ data.length % P ≠ h) ∨
    ∃ data, bulkIn P pkts pos (P * c) =
        { data := data ++ pkts (pos + m), overflow := false, pos := pos + m + 1 } ∧
      data.length = P * m ∧ m < c := by
  have hP0 : 0 < P := by omega
  have hroom : ∀ {n}, n < c → P * n + P ≤ P * c := by
    intro n hn
    rw [← Nat.mul_succ]
    exact Nat.mul_le_mul_left P hn
  by_cases hfull : FullPackets P pkts pos m
  · by_cases hlong : c ≤ m
    · -- the transfer is used up before the message is over
      have hfull' : FullPackets P pkts pos c := fun i hi => hfull i (by omega)
      refine .inl ⟨c, received pkts pos c, ?_, hc, hlong, ?_⟩
      · rw [bulkIn_fullPackets hP0 hfull' le_rfl, Nat.sub_self, bulkIn_zero]
        simp [BulkIn.prepend]
      · rw [hfull'.length_received, Nat.mul_mod_right]
        omega
    · have hfit := hroom (not_le.mp hlong)
      refine .inr ⟨received pkts pos m, ?_, hfull.length_received, not_le.mp hlong⟩
      rw [bulkIn_fullPackets hP0 hfull (by omega),
        bulkIn_of_short (by omega) (by omega) (by omega)]
      rfl
  · -- the message ends with a short packet
    obtain ⟨i, hi, hshort⟩ : ∃ i < m, (pkts (pos + i)).length ≠ P := by
      rw [FullPackets] at hfull
      push Not at hfull
      exact hfull
    obtain rfl : m = i + 1 := by
      by_contra hne
      exact hshort (ht.full i (by omega))
    have hfull' : FullPackets P pkts pos i := fun j hj => ht.full j (by omega)
    have hle := ht.le i hi
    have hne := ht.ne i hi
    by_cases hlong : c ≤ i
    · have hfullc : FullPackets P pkts pos c := fun j hj => hfull' j (by omega)
      refine .inl ⟨c, received pkts pos c, ?_, hc, by omega, ?_⟩
      · rw [bulkIn_fullPackets hP0 hfullc le_rfl, Nat.sub_self, bulkIn_zero]
        simp [BulkIn.prepend]
      · rw [hfullc.length_received, Nat.mul_mod_right]
        omega
    · have hfit := hroom (not_le.mp hlong)
      refine .inl ⟨i + 1, received pkts pos i ++ pkts (pos + i), ?_, by omega, le_rfl, ?_⟩
      · rw [bulkIn_fullPackets hP0 hfull' (by omega),
          bulkIn_of_short (by omega) (by omega) (by omega)]
        rfl
      · rw [List.length_append, hfull'.length_received, Nat.mul_add_mod,
          Nat.mod_eq_of_lt (by omega)]
        exact hne

/-! ## Streams of blocks -/

variable {β : Type u}

/-- The position of the first element of block `i`. -/
def blockStart (blocks : ℕ → List β) (i : ℕ) : ℕ := ((List.range i).flatMap blocks).length

/-- The blocks one after the other. -/
def concatBlocks [Inhabited β] (blocks : ℕ → List β) (p : ℕ) : β :=
  ((List.range (p + 1)).flatMap blocks).getD p default

theorem blockStart_succ (blocks : ℕ → List β) (i : ℕ) :
    blockStart blocks (i + 1) = blockStart blocks i + (blocks i).length := by
  simp [blockStart, List.range_succ]

section Blocks

variable {blocks : ℕ → List β} (hblocks : ∀ i, 0 < (blocks i).length)
include hblocks

theorem blockStart_strictMono : StrictMono (blockStart blocks) := by
  refine strictMono_nat_of_lt_succ fun i => ?_
  rw [blockStart_succ]
  exact Nat.lt_add_of_pos_right (hblocks i)

theorem concatBlocks_at [Inhabited β] {i j : ℕ} (hj : j < (blocks i).length) :
    concatBlocks blocks (blockStart blocks i + j) = (blocks i)[j] := by
  have hi : i ≤ blockStart blocks i := (blockStart_strictMono hblocks).le_apply
  obtain ⟨n, hn⟩ : ∃ n, blockStart blocks i + j + 1 = i + (n + 1) :=
    ⟨blockStart blocks i + j - i, by omega⟩
  rw [concatBlocks, hn, List.range_add, List.flatMap_append, List.range_succ_eq_map, List.map_cons,
    List.flatMap_cons, List.getD_eq_getElem?_getD]
  rw [blockStart] at hn ⊢
  rw [List.getElem?_append_right (by omega), Nat.add_sub_cancel_left, Nat.add_zero,
    List.getElem?_append_left hj, List.getElem?_eq_getElem hj, Option.getD_some]

/-- Every position is before a block, or in the block before it. -/
theorem exists_nextBlock (p : ℕ) :
    ∃ i, p ≤ blockStart blocks i ∧ ∀ k < i, blockStart blocks k < p := by
  have hex : ∃ i, p ≤ blockStart blocks i := ⟨p, (blockStart_strictMono hblocks).le_apply⟩
  exact ⟨Nat.find hex, Nat.find_spec hex, fun k hk => not_le.mp (Nat.find_min hex hk)⟩

end Blocks

end Devlib
