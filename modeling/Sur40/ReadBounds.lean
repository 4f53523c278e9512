import Sur40.Touch
import Sur40.Video
import Sur40.Lib.ReceiveBuffer

/-!
# The handlers read what they have received

The completion handlers that look into their transfer buffer, with every read checked
against `urb->actual_length` and with the lengths computed in the C types: `unsigned int`
for the length, `size_t` for what is subtracted from it. None of the reads fails, so the
handlers are those of the other modules.

## Main definitions

* `sur40TouchCompleteChecked`, `sur40VideoHdrCompleteChecked`,
  `sur40VideoDrainCompleteChecked`: the handlers with checked reads.
* `CompletedUrb`: a completed URB with its transfer buffer.
-/

namespace Sur40

open Devlib

/-- A completed URB: its status, and its transfer buffer with `urb->actual_length`. -/
structure CompletedUrb where
  status : ℤ
  buffer : ReceiveBuffer

/-- What the handler finds, if it reads nothing but what was received. -/
def CompletedUrb.completion (urb : CompletedUrb) : Completion := ⟨urb.status, urb.buffer.data⟩

@[simp] theorem completion_status (urb : CompletedUrb) : urb.completion.status = urb.status := rfl
@[simp] theorem completion_data (urb : CompletedUrb) :
    urb.completion.data = urb.buffer.data := rfl
@[simp] theorem completion_actualLength (urb : CompletedUrb) :
    urb.completion.actualLength = urb.buffer.received.toNat := urb.buffer.length_data

/-! ## The touch handler -/

/-- `len < sizeof(struct sur40_header) || (len - sizeof(..)) % sizeof(struct sur40_blob)` -/
def touchSizeMismatchChecked (len : UInt32) : Bool :=
  len < 16 || (len.toUInt64 - 16) % 64 ≠ 0

/-- The number of blobs to wait for; the header is read for a new frame only. -/
def touchNeedBlobsChecked (buffer : ReceiveBuffer) (sur40 : Sur40State) : Option ℤ :=
  if sur40.needBlobs < 0 then
    (Sur40Header.layout.load buffer 0).map fun header => header.count.toNat
  else some sur40.needBlobs

/-- A packet of plausible length: the blobs that are reported are read one by one. -/
def sur40TouchPacketChecked (buffer : ReceiveBuffer) (sur40 : Sur40State) :
    Option Sur40State := do
  let packetBlobs : ℤ := ((buffer.received.toUInt64 - 16) / 64).toNat
  let needBlobs ← touchNeedBlobsChecked buffer sur40
  let packetBlobs := if packetBlobs > needBlobs then needBlobs else packetBlobs
  let input ← (List.range packetBlobs.toNat).foldlM
    (fun input i => (Sur40Blob.layout.load buffer (Sur40Header.layout.size +
      Sur40Blob.layout.size * i)).map fun blob => sur40ReportBlob blob input) sur40.input
  let needBlobs := needBlobs - packetBlobs
  if needBlobs ≤ 0 then
    some { sur40 with input := inputSync (inputMtSyncFrame input), needBlobs := -1 }
  else some { sur40 with input := input, needBlobs := needBlobs }

def sur40TouchCompleteChecked (i : Fin sur40TouchUrbs) (urb : CompletedUrb) (err : ℤ)
    (sur40 : Sur40State) : Option Sur40State :=
  if sur40UrbDead urb.status then some sur40
  else do
    let sur40 ←
      if urb.status ≠ 0 then some { sur40 with needBlobs := -1 }
      else if touchSizeMismatchChecked urb.buffer.received then
        some { sur40 with needBlobs := -1 }
      else sur40TouchPacketChecked urb.buffer sur40
    let resubmitted := sur40Resubmit (sur40.touchUrbs i) err
    some { sur40 with touchUrbs := Function.update sur40.touchUrbs i resubmitted }

/-- In the C types nothing wraps around: a size is subtracted only from lengths that are
not below it. -/
theorem toNat_sub_size {len : UInt32} {size : UInt64} (h : size.toNat ≤ len.toNat) :
    (len.toUInt64 - size).toNat = len.toNat - size.toNat := by
  have hle : size ≤ len.toUInt64 := by
    rw [UInt64.le_iff_toNat_le, UInt32.toNat_toUInt64]
    exact h
  rw [UInt64.toNat_sub_of_le _ _ hle, UInt32.toNat_toUInt64]

theorem touchSizeMismatchChecked_eq (len : UInt32) :
    touchSizeMismatchChecked len = touchSizeMismatch len.toNat := by
  rw [Bool.eq_iff_iff, touchSizeMismatch_eq_true, touchSizeMismatchChecked]
  by_cases h : 16 ≤ len.toNat
  · have hmod : ((len.toUInt64 - 16) % 64).toNat = (len.toNat - 16) % 64 := by
      rw [UInt64.toNat_mod, toNat_sub_size (by exact h)]
      rfl
    simp [← UInt64.toNat_inj, hmod, UInt32.lt_iff_toNat_lt]
  · simp [UInt32.lt_iff_toNat_lt, Nat.lt_of_not_le h]

/-- Every blob of a packet lies within the packet. -/
theorem touchPacketBlobs_le {len i : ℕ} (hi : i < touchPacketBlobs len) :
    Sur40Header.layout.size + Sur40Blob.layout.size * i + Sur40Blob.layout.size ≤ len := by
  rw [touchPacketBlobs] at hi
  simp only [Sur40Header.layout_size, Sur40Blob.layout_size] at hi ⊢
  omega

theorem touchNeedBlobsChecked_eq {buffer : ReceiveBuffer} (h : 16 ≤ buffer.received.toNat)
    (s : Sur40State) :
    touchNeedBlobsChecked buffer s =
      some (if s.needBlobs < 0 then ((Sur40Header.layout.decode buffer.data).count.toNat : ℤ)
        else s.needBlobs) := by
  have hheader : Sur40Header.layout.load buffer 0 =
      some (Sur40Header.layout.decode buffer.data) := Codec.load_eq _ (by simpa using h)
  rw [touchNeedBlobsChecked, hheader]
  split_ifs <;> rfl

/-- No read of the packet leaves the received bytes. -/
theorem sur40TouchPacketChecked_eq {buffer : ReceiveBuffer}
    (h : touchSizeMismatch buffer.received.toNat = false) (s : Sur40State) :
    sur40TouchPacketChecked buffer s = some (sur40TouchPacket buffer.data s) := by
  have hlen : 16 ≤ buffer.received.toNat := (touchSizeMismatch_eq_false.mp h).1
  have hblobs : ((buffer.received.toUInt64 - 16) / 64).toNat =
      touchPacketBlobs buffer.data.length := by
    rw [UInt64.toNat_div, toNat_sub_size (by exact hlen), buffer.length_data]
    rfl
  have hloop : ∀ k : ℤ, k ≤ touchPacketBlobs buffer.data.length →
      (List.range k.toNat).foldlM
        (fun input i => (Sur40Blob.layout.load buffer (Sur40Header.layout.size +
          Sur40Blob.layout.size * i)).map fun blob => sur40ReportBlob blob input) s.input =
      some ((List.range k.toNat).foldl
        (fun input i => sur40ReportBlob (touchBlob buffer.data i) input) s.input) := by
    intro k hk
    refine foldlM_eq_some (fun i hi input => ?_) _
    have hpacket : i < touchPacketBlobs buffer.received.toNat := by
      rw [List.mem_range] at hi
      rw [buffer.length_data] at hk
      omega
    rw [Codec.load_eq _ (touchPacketBlobs_le hpacket), Option.map_some, touchBlob, Codec.block,
      List.drop_drop]
  simp only [sur40TouchPacketChecked, sur40TouchPacket, touchNeedBlobsChecked_eq hlen, hblobs,
    Option.bind_eq_bind, Option.bind_some]
  rw [hloop _ (by split_ifs <;> omega), Option.bind_some]
  exact (apply_ite some _ _ _).symm

/-- **The touch handler stays within the received bytes**, whatever the state, the
contents and the length. -/
theorem sur40TouchCompleteChecked_eq (i : Fin sur40TouchUrbs) (urb : CompletedUrb) (err : ℤ)
    (s : Sur40State) :
    sur40TouchCompleteChecked i urb err s = some (sur40TouchComplete i urb.completion err s) := by
  simp only [sur40TouchCompleteChecked, sur40TouchComplete, touchSizeMismatchChecked_eq,
    completion_status, completion_actualLength, completion_data]
  split_ifs with hdead hstatus hsize
  · rfl
  · rfl
  · rfl
  · rw [sur40TouchPacketChecked_eq (Bool.not_eq_true _ ▸ hsize)]
    rfl

/-! ## The video handlers -/

def sur40VideoHdrCompleteChecked (urb : CompletedUrb) (err : ℤ) (sur40 : Sur40State) :
    Option Sur40State :=
  if sur40UrbDead urb.status then some sur40
  else if urb.status ≠ 0 then some (sur40VideoSubmitHdr err sur40)
  else if urb.buffer.received.toNat ≠ Sur40ImageHeader.layout.size then
    some (sur40VideoSubmitDrain 0 err sur40)
  else do
    let img ← Sur40ImageHeader.layout.load urb.buffer 0
    some (sur40VideoHandleHeader img err sur40)

def sur40VideoDrainCompleteChecked (urb : CompletedUrb) (err : ℤ) (sur40 : Sur40State) :
    Option Sur40State :=
  let len := urb.buffer.received
  if sur40UrbDead urb.status then some sur40
  else if urb.status ≠ 0 then some (sur40VideoSubmitDrain 0 err sur40)
  else if sur40.drainRemaining = 0 then
    if len ≥ 20 ∧ (len.toUInt64 - 20).toNat % sur40.videoPktSize = 0 then do
      -- `urb->transfer_buffer + len - sizeof(struct sur40_image_header)`
      let img ← Sur40ImageHeader.layout.load urb.buffer (len.toUInt64 - 20).toNat
      some (sur40VideoHandleHeader img err sur40)
    else some (sur40VideoSubmitDrain 0 err sur40)
  else if len.toNat ≥ sur40.drainRemaining then
    some (sur40VideoSubmitHdr err { sur40 with drainRemaining := 0 })
  else if len.toNat < sur40.videoDrainUrb.transferBufferLength then
    some (sur40VideoSubmitDrain 0 err sur40)
  else some (sur40VideoSubmitDrain (sur40.drainRemaining - len.toNat) err sur40)

/-- **The header handler stays within the received bytes.** -/
theorem sur40VideoHdrCompleteChecked_eq (urb : CompletedUrb) (err : ℤ) (s : Sur40State) :
    sur40VideoHdrCompleteChecked urb err s =
      some (sur40VideoHdrComplete urb.completion err s) := by
  simp only [sur40VideoHdrCompleteChecked, sur40VideoHdrComplete, completion_status,
    completion_actualLength, completion_data]
  split_ifs with hdead hstatus hsize
  · rfl
  · rfl
  · rfl
  · rw [Codec.load_eq _ (by omega)]
    rfl

/-- **The drain handler stays within the received bytes**: the header at the end of the
buffer is looked for in transfers that are long enough only. -/
theorem sur40VideoDrainCompleteChecked_eq (urb : CompletedUrb) (err : ℤ) (s : Sur40State) :
    sur40VideoDrainCompleteChecked urb err s =
      some (sur40VideoDrainComplete urb.completion err s) := by
  have hmin : urb.buffer.received ≥ 20 ↔
      urb.buffer.received.toNat ≥ Sur40ImageHeader.layout.size := UInt32.le_iff_toNat_le
  have hsub : urb.buffer.received ≥ 20 → (urb.buffer.received.toUInt64 - 20).toNat =
      urb.buffer.received.toNat - Sur40ImageHeader.layout.size :=
    fun h => toNat_sub_size (UInt32.le_iff_toNat_le.mp h)
  simp only [sur40VideoDrainCompleteChecked, sur40VideoDrainComplete, completion_status,
    completion_actualLength, completion_data]
  by_cases hlong : urb.buffer.received ≥ 20
  · have hload : Sur40ImageHeader.layout.load urb.buffer
        (urb.buffer.received.toUInt64 - 20).toNat = some (drainTail urb.buffer.data) := by
      rw [hsub hlong, Codec.load_eq _ (by rw [Nat.sub_add_cancel (hmin.mp hlong)]), drainTail,
        urb.buffer.length_data]
    rw [hload, hsub hlong]
    simp only [hmin, Option.bind_eq_bind, Option.bind_some]
    split_ifs <;> rfl
  · have hshort : ¬urb.buffer.received.toNat ≥ Sur40ImageHeader.layout.size :=
      fun h => hlong (hmin.mpr h)
    simp only [hlong, hshort, false_and, if_false]
    split_ifs <;> rfl

end Sur40
