import Sur40.Image
import Sur40.Lib.FramedStore
import Mathlib.Algebra.BigOperators.Intervals
import Mathlib.Tactic.IntervalCases

/-!
# Writing the calibration and reading it back

`surface_write_ddr` sends an (address, length) header before every block. The address
follows what has been sent, the length stays at `blocksize`, whether the block is the
last and smaller one or the transfer was short.

## Main definitions

* `ddrFraming`: the device, which stores what its headers announce.
* `DdrDevice`: the device, which is asked for a range and sends it.
* `payloadsSent`, `blockSent`: what a call sends.
* `WritesBack`: what is written is announced, arrives, and is read back.
* `surfaceWriteDdr_writesBack_iff`: when it is.
-/

namespace Sur40

open Devlib

/-! ## The device -/

/-- The device takes 8 bytes of address and length. -/
def ddrFraming : Framing (UInt32 × UInt32) where
  header := ddrRequest
  address r := r.1.toNat
  length r := r.2.toNat
  size_pos := by decide

/-- The memory behind the blocks. -/
def ddrReceived (memory : ℕ → UInt8) (blocks : List (List UInt8 × List UInt8)) : ℕ → UInt8 :=
  ((Framing.blockBytes blocks).foldl ddrFraming.receive (.idle memory 0)).memory

/-- The device between the transfers of a memory read. -/
structure DdrDevice where
  memory : ℕ → UInt8
  readEnabled : Bool
  /-- What is left of the range that it was asked for last. -/
  pending : List UInt8

namespace DdrDevice

/-- A control transfer arrives. -/
def control (dev : DdrDevice) (c : ControlRequest) : DdrDevice :=
  if c.requestType = 0x40 ∧ c.request = 0xb1 then
    { dev with readEnabled := decide (c.index ≠ 0) }
  else if c.requestType = 0x40 ∧ c.request = 0xc4 ∧ dev.readEnabled then
    let request := ddrRequest.decode c.data
    { dev with pending := readBytes dev.memory request.1.toNat request.2.toNat }
  else dev

/-- A bulk transfer fetches up to `n` bytes. -/
def bulkRead (dev : DdrDevice) (n : ℕ) : BulkTransfer × DdrDevice :=
  (.received (dev.pending.take n), { dev with pending := dev.pending.drop n })

/-- The device in front of the bulk transfer `n`, where `moved` says how much each fetches. -/
def before (dev : DdrDevice) (moved : ℕ → ℕ) : ℕ → DdrDevice
  | 0 => dev
  | n + 1 => ((dev.before moved n).bulkRead (moved n)).2

def answers (dev : DdrDevice) (moved : ℕ → ℕ) (n : ℕ) : BulkTransfer :=
  ((dev.before moved n).bulkRead (moved n)).1

theorem pending_before (dev : DdrDevice) (moved : ℕ → ℕ) (n : ℕ) :
    (dev.before moved n).pending = dev.pending.drop (∑ i ∈ Finset.range n, moved i) := by
  induction n with
  | zero => simp [before]
  | succ n ih => simp [before, bulkRead, ih, Finset.sum_range_succ, List.drop_drop]

theorem answers_eq (dev : DdrDevice) (moved : ℕ → ℕ) (n : ℕ) :
    dev.answers moved n =
      .received ((dev.pending.drop (∑ i ∈ Finset.range n, moved i)).take (moved n)) := by
  rw [answers, bulkRead, pending_before]

/-- The device in front of the loop of `surface_read_ddr`: whatever it was about before, it has
the range ready. -/
theorem pending_controls (dev : DdrDevice) (buffer : List UInt8) (bufsize target : UInt32) :
    ((surfaceReadDdrStart buffer bufsize target).1.controls.foldl control dev).pending =
      readBytes dev.memory target.toNat bufsize.toNat := by
  simp [surfaceReadDdrStart, surfaceReadDdrNext, control, surfaceDdrReadEnable,
    surfaceDdrReadRequest, Codec.decode_encode]

end DdrDevice

/-! ## What a call sends -/

/-- A successful transfer that moves at least one byte. -/
def MovesSome (t : BulkTransfer) (length : ℕ) : Prop :=
  t.ret = 0 ∧ t.FitsOut length ∧ 0 < t.moved

/-- The payload bytes of the first `i` blocks. -/
def payloadsSent (ts : ℕ → BulkTransfer) (i : ℕ) : ℕ :=
  ∑ j ∈ Finset.range i, (ts (2 * j + 1)).moved

theorem payloadsSent_succ (ts : ℕ → BulkTransfer) (i : ℕ) :
    payloadsSent ts (i + 1) = payloadsSent ts i + (ts (2 * i + 1)).moved := by
  simp [payloadsSent, Finset.sum_range_succ]

/-- What is sent of block `i`, header and payload. -/
def blockSent (buffer : List UInt8) (target blocksize : UInt32) (ts : ℕ → BulkTransfer) (i : ℕ) :
    List UInt8 × List UInt8 :=
  ((ddrRequest.encode (target + UInt32.ofNat (payloadsSent ts i), blocksize)).take
      (ts (2 * i)).moved,
    (buffer.drop (payloadsSent ts i)).take (ts (2 * i + 1)).moved)

/-- The call between two blocks. -/
structure BetweenBlocks (buffer : List UInt8) (target blocksize : UInt32)
    (ts : ℕ → BulkTransfer) (i : ℕ) (d : WriteDdr) : Prop where
  bufpos : d.bufpos.toNat = payloadsSent ts i
  request : d.request = target + UInt32.ofNat (payloadsSent ts i)
  header : d.header = none
  blocks : d.blocks = firsts (blockSent buffer target blocksize ts) i

section

variable {buffer : List UInt8} {bufsize target blocksize : UInt32} {ts : ℕ → BulkTransfer}

/-- Block `i` starts inside the buffer, and its transfers move something, but no more
than they should. -/
structure BlockMoves (bufsize : UInt32) (ts : ℕ → BulkTransfer) (i : ℕ) : Prop where
  start_lt : payloadsSent ts i < bufsize.toNat
  header_pos : 0 < (ts (2 * i)).moved
  header_le : (ts (2 * i)).moved ≤ 8
  payload_pos : 0 < (ts (2 * i + 1)).moved
  payload_le : payloadsSent ts (i + 1) ≤ bufsize.toNat

/-- One block. -/
theorem BetweenBlocks.next {i : ℕ} {d : WriteDdr} (h : BetweenBlocks buffer target blocksize ts i d)
    (hts : (surfaceWriteDdr buffer bufsize blocksize).Admissible MovesSome
      (surfaceWriteDdrStart bufsize target) ts)
    (hrun : (surfaceWriteDdr buffer bufsize blocksize).run (firsts ts (2 * i))
      (surfaceWriteDdrStart bufsize target) = (d, none))
    (hlt : payloadsSent ts i < bufsize.toNat) :
    ∃ d', (surfaceWriteDdr buffer bufsize blocksize).run (firsts ts (2 * (i + 1)))
        (surfaceWriteDdrStart bufsize target) = surfaceWriteDdrNext bufsize d' ∧
      BetweenBlocks buffer target blocksize ts (i + 1) d' ∧ BlockMoves bufsize ts i := by
  -- the header
  have hfits := hts (2 * i) (congrArg Prod.snd hrun)
  rw [hrun] at hfits
  simp only [surfaceWriteDdr, h.header] at hfits
  obtain ⟨hret, hout, hpos⟩ := hfits
  have hrun₁ := (surfaceWriteDdr buffer bufsize blocksize).run_firsts_succ ts (2 * i)
    (surfaceWriteDdrStart bufsize target)
  rw [hrun, TransferLoop.run_cons_none, TransferLoop.run_nil,
    surfaceWriteDdr_turn_header h.header hout hret] at hrun₁
  -- the payload
  have hfits₁ := hts (2 * i + 1) (congrArg Prod.snd hrun₁)
  rw [hrun₁] at hfits₁
  simp only [surfaceWriteDdr] at hfits₁
  obtain ⟨hret₁, hout₁, hpos₁⟩ := hfits₁
  have hrun₂ := (surfaceWriteDdr buffer bufsize blocksize).run_firsts_succ ts (2 * i + 1)
    (surfaceWriteDdrStart bufsize target)
  rw [hrun₁, TransferLoop.run_cons_none, TransferLoop.run_nil,
    surfaceWriteDdr_turn_payload rfl hout₁ hret₁] at hrun₂
  have hle : d.bufpos ≤ bufsize := UInt32.le_iff_toNat_le.mpr (h.bufpos ▸ hlt.le)
  have hrest := requestLength_ddrRest_le hle blocksize
  have hmoved := hout₁.moved_le
  have hbound := bufsize.toNat_lt
  have hbufpos : (d.bufpos + UInt32.ofInt (ts (2 * i + 1)).moved).toNat =
      payloadsSent ts (i + 1) := by
    rw [toNat_add_ofInt (by omega), h.bufpos, payloadsSent_succ]
  refine ⟨_, hrun₂, ⟨hbufpos, ?_, rfl, ?_⟩, hlt, hpos, hout.moved_le, hpos₁, ?_⟩
  · simp only [h.request, payloadsSent_succ, UInt32.ofNat_add, ofInt_natCast, UInt32.add_assoc]
  · rw [firsts_succ, ← h.blocks, blockSent, ← h.request, ← h.bufpos]
  · rw [← hbufpos, toNat_add_ofInt (by omega)]
    omega

/-- The call has returned behind `k` blocks. -/
structure Finished (buffer : List UInt8) (bufsize target blocksize : UInt32)
    (ts : ℕ → BulkTransfer) (k : ℕ) (d : WriteDdr) : Prop where
  returned : (surfaceWriteDdr buffer bufsize blocksize).run (firsts ts (2 * k))
    (surfaceWriteDdrStart bufsize target) = (d, some (.ok (toInt32 d.bufpos.toNat)))
  between : BetweenBlocks buffer target blocksize ts k d
  total : payloadsSent ts k = bufsize.toNat
  moves : ∀ i < k, BlockMoves bufsize ts i

/-- The call is about to send block `i`. -/
structure Underway (buffer : List UInt8) (bufsize target blocksize : UInt32)
    (ts : ℕ → BulkTransfer) (i : ℕ) (d : WriteDdr) : Prop where
  waiting : (surfaceWriteDdr buffer bufsize blocksize).run (firsts ts (2 * i))
    (surfaceWriteDdrStart bufsize target) = (d, none)
  between : BetweenBlocks buffer target blocksize ts i d
  le_sent : i ≤ payloadsSent ts i
  sent_lt : payloadsSent ts i < bufsize.toNat
  moves : ∀ j < i, BlockMoves bufsize ts j

theorem surfaceWriteDdr_start :
    (∃ d, Finished buffer bufsize target blocksize ts 0 d) ∨
      ∃ d, Underway buffer bufsize target blocksize ts 0 d := by
  have hbetween : BetweenBlocks buffer target blocksize ts 0
      { bufpos := 0, request := target, result := 0, header := none, blocks := [] } := by
    constructor <;> simp [payloadsSent]
  by_cases hlt : 0 < bufsize
  · right
    have hpos : 0 < bufsize.toNat := UInt32.lt_iff_toNat_lt.mp hlt
    refine ⟨_, ?_, hbetween, le_of_eq rfl, by simpa [payloadsSent] using hpos, nofun⟩
    simp [surfaceWriteDdrStart, surfaceWriteDdrNext, hlt]
  · left
    have hzero : bufsize.toNat = 0 := by
      have hnot := UInt32.lt_iff_toNat_lt.not.mp hlt
      simpa using hnot
    refine ⟨_, ?_, hbetween, by simp [payloadsSent, hzero], nofun⟩
    simp [surfaceWriteDdrStart, surfaceWriteDdrNext, hlt]

theorem Underway.next {i : ℕ} {d : WriteDdr}
    (h : Underway buffer bufsize target blocksize ts i d)
    (hts : (surfaceWriteDdr buffer bufsize blocksize).Admissible MovesSome
      (surfaceWriteDdrStart bufsize target) ts) :
    (∃ d', Finished buffer bufsize target blocksize ts (i + 1) d') ∨
      ∃ d', Underway buffer bufsize target blocksize ts (i + 1) d' := by
  obtain ⟨d', hrun, hbetween, hblock⟩ := h.between.next hts h.waiting h.sent_lt
  have hmoves : ∀ j < i + 1, BlockMoves bufsize ts j := by
    intro j hj
    rcases Nat.lt_succ_iff_lt_or_eq.mp hj with hj | rfl
    · exact h.moves j hj
    · exact hblock
  have hbufpos := hbetween.bufpos
  have htotal := hblock.payload_le
  have hpos := hblock.payload_pos
  have hle := h.le_sent
  have hsucc := payloadsSent_succ ts i
  by_cases hmore : d'.bufpos < bufsize
  · right
    have hmore' := UInt32.lt_iff_toNat_lt.mp hmore
    refine ⟨d', ?_, hbetween, by omega, by omega, hmoves⟩
    rw [hrun, surfaceWriteDdrNext, if_pos hmore]
  · left
    have hdone := UInt32.lt_iff_toNat_lt.not.mp hmore
    refine ⟨d', ?_, hbetween, by omega, hmoves⟩
    rw [hrun, surfaceWriteDdrNext, if_neg hmore]

/-- Every block moves something, so the call returns. -/
theorem surfaceWriteDdr_finishes
    (hts : (surfaceWriteDdr buffer bufsize blocksize).Admissible MovesSome
      (surfaceWriteDdrStart bufsize target) ts) :
    ∃ k d, Finished buffer bufsize target blocksize ts k d := by
  have hprogress (i : ℕ) : (∃ k d, Finished buffer bufsize target blocksize ts k d) ∨
      ∃ d, Underway buffer bufsize target blocksize ts i d := by
    induction i with
    | zero => exact surfaceWriteDdr_start.imp_left fun h => ⟨0, h⟩
    | succ i ih =>
        rcases ih with h | ⟨d, hd⟩
        · exact .inl h
        · exact (hd.next hts).imp_left fun h => ⟨i + 1, h⟩
  rcases hprogress bufsize.toNat with h | ⟨d, hd⟩
  · exact h
  · exact absurd hd.sent_lt (not_lt.mpr hd.le_sent)

/-! ## Reading back -/

theorem surfaceReadDdr_turn_received (d : ReadDdr) (chunk : List UInt8) :
    (surfaceReadDdr bufsize blocksize).turn (.received chunk) d =
      surfaceReadDdrNext bufsize
        { d with
          buffer := storeBytes d.bufpos.toNat chunk d.buffer
          result := chunk.length
          bufpos := d.bufpos + UInt32.ofInt chunk.length } := by
  have hnonneg : ¬ (chunk.length : ℤ) < 0 := by omega
  simp [surfaceReadDdr, hnonneg]

/-- The call behind some bulk transfers: the first bytes of the range are in the buffer. -/
structure HasRead (range old : List UInt8) (count : ℕ) (d : ReadDdr) : Prop where
  bufpos : d.bufpos.toNat = count
  buffer : d.buffer = storeBytes 0 (range.take count) old

/-- One bulk transfer. -/
theorem HasRead.turn {range old : List UInt8} {count : ℕ} {d : ReadDdr}
    (h : HasRead range old count d) (hrange : range.length = bufsize.toNat) (blocksize : UInt32)
    {n : ℕ} (hfits : count + n ≤ bufsize.toNat) :
    ∃ d', (surfaceReadDdr bufsize blocksize).turn (.received ((range.drop count).take n)) d =
        surfaceReadDdrNext bufsize d' ∧ HasRead range old (count + n) d' := by
  have hbound := bufsize.toNat_lt
  have hlength : ((range.drop count).take n).length = n := by
    rw [List.length_take, List.length_drop]
    omega
  have htaken : (range.take count).length = count := by
    rw [List.length_take]
    omega
  have hbufpos := h.bufpos
  refine ⟨_, surfaceReadDdr_turn_received d _, ?_, ?_⟩
  · rw [hlength, ← hbufpos]
    apply toNat_add_ofInt
    omega
  · have hstore := storeBytes_append (range.take count) ((range.drop count).take n)
      (Nat.zero_le old.length)
    rw [Nat.zero_add, htaken] at hstore
    simp only [h.buffer, hbufpos, hstore, List.take_add]

/-- The loop condition: the buffer is full, or the call goes on. -/
theorem HasRead.next {range old : List UInt8} {count : ℕ} {d : ReadDdr}
    (h : HasRead range old count d) (hrange : range.length = bufsize.toNat)
    (hold : old.length = bufsize.toNat) (hbufsize : bufsize.toNat < 2 ^ 31)
    (hle : count ≤ bufsize.toNat) :
    (surfaceReadDdrNext bufsize d = (d, some (.ok bufsize.toNat)) ∧ d.buffer = range) ∨
      (surfaceReadDdrNext bufsize d = (d, none) ∧ count < bufsize.toNat) := by
  have hbufpos := h.bufpos
  by_cases hlt : d.bufpos < bufsize
  · right
    rw [surfaceReadDdrNext, if_pos hlt]
    rw [UInt32.lt_iff_toNat_lt] at hlt
    exact ⟨rfl, by omega⟩
  · left
    rw [surfaceReadDdrNext, if_neg hlt]
    rw [UInt32.lt_iff_toNat_lt] at hlt
    have hcount : count = bufsize.toNat := by omega
    have hdrop : old.drop range.length = [] := List.drop_eq_nil_of_le (by omega)
    constructor
    · rw [hbufpos, hcount, toInt32_of_range (by omega) (by exact_mod_cast hbufsize)]
    · rw [h.buffer, hcount, ← hrange, List.take_length, storeBytes_zero, hdrop, List.append_nil]

/-- However a read of the range is split, it returns `bufsize` and the buffer holds `buffer`:
`moved` says how many bytes each of its bulk transfers fetches from the device. -/
def ReadsBack (bufsize target : UInt32) (memory : ℕ → UInt8) (buffer : List UInt8) : Prop :=
  ∀ (blocksize : UInt32) (old : List UInt8) (dev : DdrDevice) (moved : ℕ → ℕ),
    0 < blocksize → old.length = bufsize.toNat → dev.memory = memory →
    let start := surfaceReadDdrStart old bufsize target
    let outcomes := (start.1.controls.foldl DdrDevice.control dev).answers moved
    let call := fun n => (surfaceReadDdr bufsize blocksize).run (firsts outcomes n) start
    (∀ n, (call n).2 = none →
      0 < moved n ∧ moved n ≤ (surfaceReadDdr bufsize blocksize).request (call n).1) →
    ∃ n d, call n = (d, some (.ok bufsize.toNat)) ∧ d.buffer = buffer

/-- Behind `n` transfers the call has returned with the range, or has come at least `n` bytes
far. -/
def ReadProgress (bufsize : UInt32) (range old : List UInt8) (moved : ℕ → ℕ)
    (call : ℕ → ReadDdr × Option (Except ℤ ℤ)) (n : ℕ) : Prop :=
  (∃ m d, call m = (d, some (.ok bufsize.toNat)) ∧ d.buffer = range) ∨
    ∃ d, call n = (d, none) ∧ HasRead range old (∑ i ∈ Finset.range n, moved i) d ∧
      n ≤ ∑ i ∈ Finset.range n, moved i ∧ ∑ i ∈ Finset.range n, moved i < bufsize.toNat

theorem HasRead.progress {range old : List UInt8} {moved : ℕ → ℕ} {n : ℕ} {d : ReadDdr}
    {call : ℕ → ReadDdr × Option (Except ℤ ℤ)}
    (h : HasRead range old (∑ i ∈ Finset.range n, moved i) d)
    (hcall : call n = surfaceReadDdrNext bufsize d) (hrange : range.length = bufsize.toNat)
    (hold : old.length = bufsize.toNat) (hbufsize : bufsize.toNat < 2 ^ 31)
    (hn : n ≤ ∑ i ∈ Finset.range n, moved i)
    (hle : ∑ i ∈ Finset.range n, moved i ≤ bufsize.toNat) :
    ReadProgress bufsize range old moved call n := by
  rcases h.next hrange hold hbufsize hle with ⟨hdone, hbuffer⟩ | ⟨hmore, hlt⟩
  · exact .inl ⟨n, d, hcall.trans hdone, hbuffer⟩
  · exact .inr ⟨d, hcall.trans hmore, h, hn, hlt⟩

theorem hasRead_start (range old : List UInt8) (bufsize target : UInt32) :
    HasRead range old 0 (surfaceReadDdrStart old bufsize target).1 := by
  constructor
  · rfl
  · rw [List.take_zero, storeBytes_nil]
    rfl

theorem readsBack_range (hbufsize : bufsize.toNat < 2 ^ 31) (target : UInt32)
    (memory : ℕ → UInt8) :
    ReadsBack bufsize target memory (readBytes memory target.toNat bufsize.toNat) := by
  intro blocksize old dev moved _ hold hmemory start outcomes call hmoved
  generalize hrange : readBytes memory target.toNat bufsize.toNat = range
  have hlength : range.length = bufsize.toNat := by rw [← hrange, length_readBytes]
  have hpending : (start.1.controls.foldl DdrDevice.control dev).pending = range := by
    rw [DdrDevice.pending_controls, hmemory, hrange]
  have hprogress (n : ℕ) : ReadProgress bufsize range old moved call n := by
    induction n with
    | zero =>
        have hstart := hasRead_start range old bufsize target
        exact HasRead.progress (d := start.1) (by simpa using hstart) rfl hlength hold hbufsize
          (Nat.zero_le _) (by simp)
    | succ n ih =>
        rcases ih with h | ⟨d, hcall, hd, hle, hlt⟩
        · exact .inl h
        obtain ⟨hpos, hrequest⟩ := hmoved n (by rw [hcall])
        -- the request ends within the range
        have hbufpos : d.bufpos ≤ bufsize := by
          rw [UInt32.le_iff_toNat_le, hd.bufpos]
          exact hlt.le
        have hfits := requestLength_ddrRest_le hbufpos blocksize
        rw [hcall] at hrequest
        simp only [surfaceReadDdr] at hrequest
        rw [hd.bufpos] at hfits
        have hroom : ∑ i ∈ Finset.range n, moved i + moved n ≤ bufsize.toNat :=
          (Nat.add_le_add_left hrequest _).trans hfits
        obtain ⟨d', hturn, hd'⟩ := hd.turn hlength blocksize hroom
        have hcall' : call (n + 1) = surfaceReadDdrNext bufsize d' := by
          have hrun : call (n + 1) = (surfaceReadDdr bufsize blocksize).run [outcomes n] (call n) :=
            TransferLoop.run_firsts_succ _ outcomes n start
          rw [hrun, hcall, TransferLoop.run_cons_none, TransferLoop.run_nil, ← hturn, ← hpending,
            ← DdrDevice.answers_eq]
        have hsucc := Finset.sum_range_succ moved n
        rw [← hsucc] at hd'
        exact hd'.progress hcall' hlength hold hbufsize (by omega) (by omega)
  rcases hprogress bufsize.toNat with h | ⟨d, -, -, hle, hlt⟩
  · exact h
  · omega

/-! ## The round trip -/

/-- The call returns `bufsize`; its blocks announce what they hold and cover the range
from `target` on; the device's memory is the buffer there, and it is read back. -/
def WritesBack (buffer : List UInt8) (bufsize target blocksize : UInt32)
    (ts : ℕ → BulkTransfer) (memory : ℕ → UInt8) : Prop :=
  ∃ n d, (surfaceWriteDdr buffer bufsize blocksize).run (firsts ts n)
      (surfaceWriteDdrStart bufsize target) = (d, some (.ok bufsize.toNat)) ∧
    ddrFraming.Tiles target.toNat (target.toNat + bufsize.toNat) d.blocks ∧
    readBytes (ddrReceived memory d.blocks) target.toNat bufsize.toNat = buffer ∧
    ReadsBack bufsize target (ddrReceived memory d.blocks) buffer

/-- The blocks divide the buffer, and every transfer moves all its bytes. -/
def FullTransfers (bufsize blocksize : UInt32) (ts : ℕ → BulkTransfer) : Prop :=
  blocksize.toNat ∣ bufsize.toNat ∧ ∀ i < bufsize.toNat / blocksize.toNat,
    (ts (2 * i)).moved = ddrRequest.size ∧ (ts (2 * i + 1)).moved = blocksize.toNat

/-- The payloads are the buffer, piece by piece. -/
theorem flatMap_blockSent (i : ℕ) :
    (firsts (blockSent buffer target blocksize ts) i).flatMap Prod.snd =
      buffer.take (payloadsSent ts i) := by
  induction i with
  | zero => simp [payloadsSent]
  | succ i ih =>
      rw [firsts_succ, List.flatMap_append, ih, payloadsSent_succ, List.take_add]
      simp [blockSent]

/-- A block that is sent completely announces what it holds. -/
theorem tiles_blockSent (hbuffer : buffer.length = bufsize.toNat)
    (htarget : target.toNat + bufsize.toNat ≤ 2 ^ 32) {i : ℕ} (hmoves : BlockMoves bufsize ts i)
    (hheader : (ts (2 * i)).moved = ddrRequest.size)
    (hpayload : (ts (2 * i + 1)).moved = blocksize.toNat) :
    ddrFraming.Tiles (target.toNat + payloadsSent ts i) (target.toNat + payloadsSent ts (i + 1))
      [blockSent buffer target blocksize ts i] := by
  have hlt := hmoves.start_lt
  have hle := hmoves.payload_le
  have hsucc := payloadsSent_succ ts i
  have hlength : (blockSent buffer target blocksize ts i).2.length = blocksize.toNat := by
    simp only [blockSent, List.length_take, List.length_drop]
    omega
  have haddress : (target + UInt32.ofNat (payloadsSent ts i)).toNat =
      target.toNat + payloadsSent ts i := by
    rw [← ofInt_natCast]
    exact toNat_add_ofInt (by omega)
  refine ⟨⟨(target + UInt32.ofNat (payloadsSent ts i), blocksize), ?_, haddress, hlength.symm⟩, ?_⟩
  · exact List.take_of_length_le (by rw [Codec.length_encode, hheader])
  · change target.toNat + payloadsSent ts i + _ = _
    omega

/-- A block that announces what it holds has been sent completely. -/
theorem full_of_header {i : ℕ} (hbuffer : buffer.length = bufsize.toNat)
    (hmoves : BlockMoves bufsize ts i) {a : UInt32 × UInt32}
    (henc : (blockSent buffer target blocksize ts i).1 = ddrRequest.encode a)
    (hlength : a.2.toNat = (blockSent buffer target blocksize ts i).2.length) :
    (ts (2 * i)).moved = ddrRequest.size ∧ (ts (2 * i + 1)).moved = blocksize.toNat := by
  have hsucc := payloadsSent_succ ts i
  have hle := hmoves.payload_le
  have hsize : (ts (2 * i)).moved = ddrRequest.size := by
    have hlengths := congrArg List.length henc
    simp only [blockSent, List.length_take, Codec.length_encode] at hlengths
    exact le_antisymm hmoves.header_le (hlengths ▸ min_le_left _ _)
  have hwhole : ddrRequest.encode (target + UInt32.ofNat (payloadsSent ts i), blocksize) =
      ddrRequest.encode a := by
    rw [← henc, blockSent, hsize]
    exact (List.take_of_length_le (by simp)).symm
  have hsame := congrArg (fun bs => (ddrRequest.decode bs).2) hwhole
  simp only [Codec.decode_encode] at hsame
  refine ⟨hsize, ?_⟩
  rw [hsame, hlength]
  simp only [blockSent, List.length_take, List.length_drop]
  omega

/-- Full blocks come at multiples of `blocksize`. -/
theorem payloadsSent_of_full {k : ℕ}
    (h : ∀ i < k, (ts (2 * i + 1)).moved = blocksize.toNat) :
    payloadsSent ts k = k * blocksize.toNat := by
  rw [payloadsSent, Finset.sum_congr rfl fun i hi => h i (Finset.mem_range.mp hi)]
  simp

theorem Finished.fullTransfers {k : ℕ} {d : WriteDdr}
    (h : Finished buffer bufsize target blocksize ts k d) (hblocksize : 0 < blocksize)
    (hfull : ∀ i < k,
      (ts (2 * i)).moved = ddrRequest.size ∧ (ts (2 * i + 1)).moved = blocksize.toNat) :
    FullTransfers bufsize blocksize ts := by
  have hpos : 0 < blocksize.toNat := UInt32.lt_iff_toNat_lt.mp hblocksize
  have htotal : bufsize.toNat = k * blocksize.toNat := by
    rw [← h.total, payloadsSent_of_full fun i hi => (hfull i hi).2]
  have hcount : bufsize.toNat / blocksize.toNat = k := by
    rw [htotal, Nat.mul_div_cancel _ hpos]
  refine ⟨⟨k, by rw [htotal, Nat.mul_comm]⟩, fun i hi => hfull i (hcount ▸ hi)⟩

/-- A call sends no more blocks than fit into the buffer. -/
theorem Finished.full {k : ℕ} {d : WriteDdr}
    (h : Finished buffer bufsize target blocksize ts k d)
    (hfull : FullTransfers bufsize blocksize ts) {i : ℕ} (hi : i < k) :
    (ts (2 * i)).moved = ddrRequest.size ∧ (ts (2 * i + 1)).moved = blocksize.toNat := by
  apply hfull.2
  by_contra hge
  have hsent := payloadsSent_of_full fun j hj => (hfull.2 j hj).2
  rw [Nat.div_mul_cancel hfull.1] at hsent
  -- the blocks up to there are already the whole buffer
  have hlt := (h.moves _ (lt_of_le_of_lt (not_lt.mp hge) hi)).start_lt
  omega

theorem Finished.tiles {k : ℕ} {d : WriteDdr}
    (h : Finished buffer bufsize target blocksize ts k d) (hbuffer : buffer.length = bufsize.toNat)
    (htarget : target.toNat + bufsize.toNat ≤ 2 ^ 32)
    (hfull : FullTransfers bufsize blocksize ts) :
    ddrFraming.Tiles target.toNat (target.toNat + bufsize.toNat) d.blocks := by
  have hprefix : ∀ i ≤ k, ddrFraming.Tiles target.toNat (target.toNat + payloadsSent ts i)
      (firsts (blockSent buffer target blocksize ts) i) := by
    intro i
    induction i with
    | zero =>
        intro _
        exact rfl
    | succ i ih =>
        intro hi
        obtain ⟨hheader, hpayload⟩ := h.full hfull hi
        rw [firsts_succ]
        exact (ih (Nat.le_of_succ_le hi)).append
          (tiles_blockSent hbuffer htarget (h.moves i hi) hheader hpayload)
  rw [h.between.blocks, ← h.total]
  exact hprefix k le_rfl

theorem WritesBack.fullTransfers {memory : ℕ → UInt8}
    (h : WritesBack buffer bufsize target blocksize ts memory)
    (hbuffer : buffer.length = bufsize.toNat) (hblocksize : 0 < blocksize)
    (hts : (surfaceWriteDdr buffer bufsize blocksize).Admissible MovesSome
      (surfaceWriteDdrStart bufsize target) ts) : FullTransfers bufsize blocksize ts := by
  obtain ⟨k, d, hk⟩ := surfaceWriteDdr_finishes hts
  obtain ⟨n, d', hrun, htiles, -, -⟩ := h
  -- there is only one final state
  have hsame : d' = d := by
    have h₁ := TransferLoop.run_firsts_of_some _ hrun (Nat.le_max_left n (2 * k))
    have h₂ := TransferLoop.run_firsts_of_some _ hk.returned (Nat.le_max_right n (2 * k))
    rw [h₁] at h₂
    exact congrArg Prod.fst h₂
  rw [hsame, hk.between.blocks] at htiles
  refine hk.fullTransfers hblocksize fun i hi => ?_
  obtain ⟨a, henc, hlength⟩ := htiles.exists_header (mem_firsts.mpr ⟨i, hi, rfl⟩)
  exact full_of_header hbuffer (hk.moves i hi) henc hlength

/-- **A calibration written is the calibration read back** exactly if its size is a
multiple of the block size and no transfer is short. -/
theorem surfaceWriteDdr_writesBack_iff (hbuffer : buffer.length = bufsize.toNat)
    (hbufsize : bufsize.toNat < 2 ^ 31) (hblocksize : 0 < blocksize)
    (htarget : target.toNat + bufsize.toNat ≤ 2 ^ 32)
    (hts : (surfaceWriteDdr buffer bufsize blocksize).Admissible MovesSome
      (surfaceWriteDdrStart bufsize target) ts) (memory : ℕ → UInt8) :
    WritesBack buffer bufsize target blocksize ts memory ↔ FullTransfers bufsize blocksize ts := by
  constructor
  · intro h
    exact h.fullTransfers hbuffer hblocksize hts
  · intro hfull
    obtain ⟨k, d, hk⟩ := surfaceWriteDdr_finishes hts
    have htiles := hk.tiles hbuffer htarget hfull
    have hmemory : readBytes (ddrReceived memory d.blocks) target.toNat bufsize.toNat = buffer := by
      rw [ddrReceived, Framing.foldl_receive_tiles htiles, hk.between.blocks, flatMap_blockSent,
        hk.total, ← hbuffer, List.take_length, readBytes_writeBytes]
    have hreturned := hk.returned
    rw [hk.between.bufpos, hk.total, toInt32_of_range (by omega) (by exact_mod_cast hbufsize)]
      at hreturned
    refine ⟨2 * k, d, hreturned, htiles, hmemory, ?_⟩
    have hreads := readsBack_range hbufsize target (ddrReceived memory d.blocks)
    rwa [hmemory] at hreads

end

/-- Successful transfers of the given lengths, and of one byte afterwards. -/
def transfersOf (lengths : List ℕ) (n : ℕ) : BulkTransfer :=
  { ret := 0, transferred := some (lengths.getD n 1), data := [] }

theorem transfersOf_two_admissible :
    (surfaceWriteDdr [1, 2] 2 2).Admissible MovesSome (surfaceWriteDdrStart 2 0x05000000)
      (transfersOf [8, 2]) := by
  refine TransferLoop.admissible_of_returned (N := 2) (r := .ok 2) _ (by decide +kernel) ?_
  intro n hn
  interval_cases n
  · exact ⟨rfl, ⟨fun _ => rfl, by decide⟩, by decide⟩
  · exact ⟨rfl, ⟨fun _ => rfl, by decide⟩, by decide⟩

theorem surfaceWriteDdr_writesBack_two :
    WritesBack [1, 2] 2 0x05000000 2 (transfersOf [8, 2]) (fun _ => 0) ↔
      FullTransfers 2 2 (transfersOf [8, 2]) :=
  surfaceWriteDdr_writesBack_iff (by decide) (by decide) (by decide) (by decide)
    transfersOf_two_admissible (fun _ => 0)

/-- The last block has one byte and announces two. -/
theorem not_writesBack_three :
    (surfaceWriteDdr [1, 2, 3] 3 2).Admissible MovesSome (surfaceWriteDdrStart 3 0x05000000)
        (transfersOf [8, 2, 8, 1]) ∧
      ¬ WritesBack [1, 2, 3] 3 0x05000000 2 (transfersOf [8, 2, 8, 1]) (fun _ => 0) := by
  have hts : (surfaceWriteDdr [1, 2, 3] 3 2).Admissible MovesSome
      (surfaceWriteDdrStart 3 0x05000000) (transfersOf [8, 2, 8, 1]) := by
    refine TransferLoop.admissible_of_returned (N := 4) (r := .ok 3) _ (by decide +kernel) ?_
    intro n hn
    interval_cases n <;> exact ⟨rfl, ⟨fun _ => rfl, by decide⟩, by decide⟩
  refine ⟨hts, fun h => ?_⟩
  have hfull := h.fullTransfers (by decide) (by decide) hts
  exact absurd hfull.1 (by decide)

end Sur40
