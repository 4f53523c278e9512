import Sur40.SurfacePackets
import Mathlib.Algebra.BigOperators.Intervals
import Mathlib.Algebra.Order.BigOperators.Group.Finset

/-!
# The callers' arrays

Every caller of `surface_get_blobs` passes an array of 256 entries. The function
copies whole packets until the announced number is reached, so the array is large
enough as long as the packet that reaches it still fits.

## Main definitions

* `blobsSent`: the blobs of the first packets, padding included.
* `StaysInside`: a call writes and returns no more than the array holds.
* `surfaceGetBlobs_staysInside_iff`: when it does.
-/

namespace Sur40

open Devlib

/-- `surface_blob blob[256]`, in every caller. -/
def blobArraySize : ℕ := 256

/-- The blobs in the first `n` packets, padding included. -/
def blobsSent (ps : ℕ → TouchPacket) (n : ℕ) : ℕ := ∑ i ∈ Finset.range n, (ps i).blobs.length

@[simp] theorem blobsSent_zero (ps : ℕ → TouchPacket) : blobsSent ps 0 = 0 := by
  simp [blobsSent]

theorem blobsSent_succ (ps : ℕ → TouchPacket) (n : ℕ) :
    blobsSent ps (n + 1) = blobsSent ps n + (ps n).blobs.length := by
  simp [blobsSent, Finset.sum_range_succ]

theorem blobsSent_mono (ps : ℕ → TouchPacket) {m n : ℕ} (h : m ≤ n) :
    blobsSent ps m ≤ blobsSent ps n :=
  Finset.sum_le_sum_of_subset (Finset.range_mono h)

/-- The announced number has not been reached with the first `n` packets. -/
def Unfinished (ps : ℕ → TouchPacket) (n : ℕ) : Prop :=
  n = 0 ∨ blobsSent ps n < (ps 0).header.count.toNat

theorem Unfinished.mono {ps : ℕ → TouchPacket} {m n : ℕ} (h : Unfinished ps n) (hmn : m ≤ n) :
    Unfinished ps m := by
  rcases h with rfl | hlt
  · exact .inl (Nat.le_zero.mp hmn)
  · exact .inr (lt_of_le_of_lt (blobsSent_mono ps hmn) hlt)

/-- A call on the first `n` packets. -/
def blobsCall (l : GetBlobsLocals) (ps : ℕ → TouchPacket) (maxBlobId : UInt16) (n : ℕ) :
    GetBlobs × Option (Except ℤ ℤ) :=
  surfaceGetBlobsCall.run (firsts (fun i => (ps i).transfer) n) (l.enter maxBlobId, none)

theorem blobsCall_succ (l : GetBlobsLocals) (ps : ℕ → TouchPacket) (maxBlobId : UInt16) (n : ℕ) :
    blobsCall l ps maxBlobId (n + 1) =
      surfaceGetBlobsCall.run [(ps n).transfer] (blobsCall l ps maxBlobId n) :=
  surfaceGetBlobsCall.run_firsts_succ _ _ _

/-- The call before packet `n` comes in. -/
structure Waits (ps : ℕ → TouchPacket) (n : ℕ) (g : GetBlobs) : Prop where
  copied : g.outblob.length = blobsSent ps n
  need : announcedBlobs (ps n) g.needBlobs = (ps 0).header.count.toNat

section

variable {l : GetBlobsLocals} {ps : ℕ → TouchPacket} {maxBlobId : UInt16}

/-- One packet. -/
theorem Waits.turn {n : ℕ} {g : GetBlobs} (h : Waits ps n g) (hfits : (ps n).Fits) :
    ∃ g', surfaceGetBlobsCall.turn (ps n).transfer g =
        (g', if blobsSent ps (n + 1) < (ps 0).header.count.toNat then none
          else some (.ok (ps 0).header.count.toNat)) ∧
      Waits ps (n + 1) g' := by
  obtain ⟨g', hturn, hneed, hout, -⟩ := surfaceGetBlobsTurn_packet hfits g
  have hlength : g'.outblob.length = blobsSent ps (n + 1) := by
    rw [hout, blobsSent_succ, ← h.copied]
    simp
  rw [h.need] at hturn hneed
  refine ⟨g', ?_, hlength, ?_⟩
  · simp only [surfaceGetBlobsCall, hturn, hlength, Nat.cast_lt]
    split
    · simp
    · simp [surfaceGetBlobsExit]
  · simp [announcedBlobs, hneed]

theorem waits_enter (l : GetBlobsLocals) (ps : ℕ → TouchPacket) (maxBlobId : UInt16) :
    Waits ps 0 (l.enter maxBlobId) := by
  constructor
  · simp [GetBlobsLocals.enter]
  · simp [GetBlobsLocals.enter, announcedBlobs]

/-- While the announced number has not been reached, every packet is copied. -/
theorem blobsCall_unfinished (l : GetBlobsLocals) (maxBlobId : UInt16)
    (hfits : ∀ i, (ps i).Fits) {n : ℕ} (h : Unfinished ps n) :
    ∃ g, blobsCall l ps maxBlobId n = (g, none) ∧ Waits ps n g := by
  induction n with
  | zero => exact ⟨_, rfl, waits_enter l ps maxBlobId⟩
  | succ n ih =>
      obtain ⟨g, hrun, hwaits⟩ := ih (h.mono (Nat.le_succ n))
      obtain ⟨g', hturn, hwaits'⟩ := hwaits.turn (hfits n)
      have hlt : blobsSent ps (n + 1) < (ps 0).header.count.toNat :=
        h.resolve_left (Nat.succ_ne_zero n)
      refine ⟨g', ?_, hwaits'⟩
      rw [blobsCall_succ, hrun, TransferLoop.run_cons_none, hturn, if_pos hlt,
        TransferLoop.run_nil]

/-- The packet behind them is copied as well, whether it reaches the number or not. -/
theorem blobsCall_next (l : GetBlobsLocals) (maxBlobId : UInt16)
    (hfits : ∀ i, (ps i).Fits) {n : ℕ} (h : Unfinished ps n) :
    ∃ g, blobsCall l ps maxBlobId (n + 1) =
        (g, if blobsSent ps (n + 1) < (ps 0).header.count.toNat then none
          else some (.ok (ps 0).header.count.toNat)) ∧
      g.outblob.length = blobsSent ps (n + 1) := by
  obtain ⟨g, hrun, hwaits⟩ := blobsCall_unfinished l maxBlobId hfits h
  obtain ⟨g', hturn, hwaits'⟩ := hwaits.turn (hfits n)
  refine ⟨g', ?_, hwaits'.copied⟩
  rw [blobsCall_succ, hrun, TransferLoop.run_cons_none, hturn, TransferLoop.run_nil]

/-- A call is waiting only if the announced number has not been reached. -/
theorem unfinished_of_waiting (hfits : ∀ i, (ps i).Fits) {n : ℕ}
    (h : (blobsCall l ps maxBlobId n).2 = none) : Unfinished ps n := by
  induction n with
  | zero => exact .inl rfl
  | succ n ih =>
      have hbefore : (blobsCall l ps maxBlobId n).2 = none :=
        surfaceGetBlobsCall.run_firsts_none (Nat.le_succ n) h
      obtain ⟨g, hrun, -⟩ :=
        blobsCall_next l maxBlobId hfits (ih hbefore)
      rw [hrun] at h
      by_cases hlt : blobsSent ps (n + 1) < (ps 0).header.count.toNat
      · exact .inr hlt
      · simp [hlt] at h

/-! ## The bound -/

/-- However many packets have come in, the call has written inside the array, and what
it returns is at most the size of the array. -/
def StaysInside (l : GetBlobsLocals) (ps : ℕ → TouchPacket) (maxBlobId : UInt16) : Prop :=
  ∀ n, (blobsCall l ps maxBlobId n).1.outblob.length ≤ blobArraySize ∧
    ∀ value, (blobsCall l ps maxBlobId n).2 = some (.ok value) ∨
      (blobsCall l ps maxBlobId n).2 = some (.error value) → value ≤ blobArraySize

/-- **The array is large enough** exactly for those packet sequences in which every
packet up to the one that reaches the announced number still fits. -/
theorem surfaceGetBlobs_staysInside_iff (l : GetBlobsLocals) (ps : ℕ → TouchPacket)
    (hfits : ∀ i, (ps i).Fits) (maxBlobId : UInt16) :
    StaysInside l ps maxBlobId ↔
      ∀ n, Unfinished ps n → blobsSent ps (n + 1) ≤ blobArraySize := by
  constructor
  · intro h n hn
    obtain ⟨g, hrun, hlength⟩ := blobsCall_next l maxBlobId hfits hn
    have hinside := (h (n + 1)).1
    rwa [hrun, hlength] at hinside
  · intro h n
    induction n with
    | zero => simp [blobsCall, GetBlobsLocals.enter]
    | succ n ih =>
        rcases hrun : blobsCall l ps maxBlobId n with ⟨g, _ | r⟩
        · have hn : Unfinished ps n :=
            unfinished_of_waiting hfits (congrArg Prod.snd hrun)
          obtain ⟨g', hnext, hlength⟩ :=
            blobsCall_next l maxBlobId hfits hn
          have hle := h n hn
          rw [hnext]
          refine ⟨hlength ▸ hle, fun value hvalue => ?_⟩
          split at hvalue
          · simp at hvalue
          · simp at hvalue
            omega
        · -- the call has returned with an earlier packet
          rw [hrun] at ih
          rw [blobsCall_succ, hrun, TransferLoop.run_some]
          exact ih

/-- Seven blobs to a packet, 255 announced. -/
def fullPacket : TouchPacket :=
  touchPacket 255 ((List.range 7).map fun k => finger (UInt16.ofNat k))

theorem fullPacket_fits : fullPacket.Fits := by
  simp [TouchPacket.fits_iff, fullPacket, touchPacket]

/-- The announced number fits into a packet. -/
def fivePacket : TouchPacket :=
  touchPacket 5 ((List.range 5).map fun k => finger (UInt16.ofNat k))

theorem surfaceGetBlobs_staysInside_five :
    StaysInside ⟨[], 0⟩ (fun _ => fivePacket) 0 ↔
      ∀ n, Unfinished (fun _ => fivePacket) n →
        blobsSent (fun _ => fivePacket) (n + 1) ≤ blobArraySize :=
  surfaceGetBlobs_staysInside_iff ⟨[], 0⟩ (fun _ => fivePacket)
    (fun _ => by simp [TouchPacket.fits_iff, fivePacket, touchPacket]) 0

/-- The 37th packet is written up to entry 258. -/
theorem not_staysInside_fullPacket : ¬ StaysInside ⟨[], 0⟩ (fun _ => fullPacket) 0 := by
  intro h
  have hsent (n : ℕ) : blobsSent (fun _ => fullPacket) n = 7 * n := by
    simp [blobsSent, fullPacket, touchPacket]
    omega
  have hunfinished : Unfinished (fun _ => fullPacket) 36 := by
    right
    rw [hsent]
    decide
  obtain ⟨g, hrun, hlength⟩ := blobsCall_next ⟨[], 0⟩ 0
    (fun _ => fullPacket_fits) hunfinished
  have hinside := (h (36 + 1)).1
  rw [hrun, hlength, hsent] at hinside
  simp [blobArraySize] at hinside

end

end Sur40
