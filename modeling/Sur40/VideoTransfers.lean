import Sur40.VideoPositions
import Sur40.VideoSession

/-!
# One transfer from the stream

While streaming runs undisturbed the driver is in one of four positions relative to
the stream: waiting for a header, looking for one, in the middle of a frame, or
discarding one. A transfer takes it from one of them to another.

## Main definitions

* `Aligned`: the position of the driver relative to the stream.
* `TransferCase`, `transfer_cases`: what a transfer can do.
-/

namespace Sur40

open Devlib

/-! ## The handlers on a good transfer -/

section Handlers

variable {c : Completion} {s : Sur40State}

theorem sur40UrbDead_of_zero (h : c.status = 0) : ¬sur40UrbDead c.status = true := by
  rw [h]
  decide

/-- The header URB has received something else. -/
theorem sur40VideoHdrComplete_of_length (h : c.status = 0) (hlen : c.data.length ≠ 20) :
    sur40VideoHdrComplete c 0 s = sur40VideoSubmitDrain 0 0 s :=
  (if_neg (sur40UrbDead_of_zero h)).trans ((if_neg (not_not.mpr h)).trans (if_pos hlen))

theorem sur40VideoHdrComplete_of_header (h : c.status = 0) {img : Sur40ImageHeader}
    (hdata : c.data = Sur40ImageHeader.layout.encode img) :
    sur40VideoHdrComplete c 0 s = sur40VideoHandleHeader img 0 s := by
  have hlen : c.actualLength = Sur40ImageHeader.layout.size := by
    rw [Completion.actualLength, hdata, Codec.length_encode]
  refine (if_neg (sur40UrbDead_of_zero h)).trans ((if_neg (not_not.mpr h)).trans
    ((if_neg (not_not.mpr hlen)).trans ?_))
  rw [hdata, Codec.decode_encode]

/-- A transfer without a header at its end. -/
theorem sur40VideoDrainComplete_of_noHeader (h : c.status = 0) (hrem : s.drainRemaining = 0)
    (hpkt : s.videoPktSize = 512) (hlen : c.data.length % 512 ≠ 20) :
    sur40VideoDrainComplete c 0 s = sur40VideoSubmitDrain 0 0 s := by
  refine (if_neg (sur40UrbDead_of_zero h)).trans ((if_neg (not_not.mpr h)).trans
    ((if_pos hrem).trans (if_neg ?_)))
  rw [Sur40ImageHeader.layout_size, hpkt, Completion.actualLength]
  omega

/-- A transfer that ends with a header, after a number of full packets. -/
theorem sur40VideoDrainComplete_of_header (h : c.status = 0) (hrem : s.drainRemaining = 0)
    (hpkt : s.videoPktSize = 512) {data : List UInt8} {m : ℕ} (hfull : data.length = 512 * m)
    {img : Sur40ImageHeader} (hdata : c.data = data ++ Sur40ImageHeader.layout.encode img) :
    sur40VideoDrainComplete c 0 s = sur40VideoHandleHeader img 0 s := by
  have hlen : c.data.length = 512 * m + 20 := by
    rw [hdata, List.length_append, Codec.length_encode, hfull]
    rfl
  have htail : drainTail c.data = img := by
    rw [drainTail, hlen, Sur40ImageHeader.layout_size, Nat.add_sub_cancel, hdata, ← hfull,
      List.drop_left, Codec.decode_encode]
  refine (if_neg (sur40UrbDead_of_zero h)).trans ((if_neg (not_not.mpr h)).trans
    ((if_pos hrem).trans ((if_pos ?_).trans (by rw [htail]))))
  rw [Sur40ImageHeader.layout_size, hpkt, Completion.actualLength]
  omega

theorem sur40VideoDrainComplete_of_overflow (h : c.status = -eoverflow) :
    sur40VideoDrainComplete c 0 s = sur40VideoSubmitDrain 0 0 s := by
  refine (if_neg ?_).trans (if_pos ?_)
  · rw [h]
    decide
  · rw [h]
    decide

/-- The frame is discarded. -/
theorem sur40VideoDrainComplete_of_done (h : c.status = 0) (hrem : s.drainRemaining ≠ 0)
    (hlen : s.drainRemaining ≤ c.data.length) :
    sur40VideoDrainComplete c 0 s = sur40VideoSubmitHdr 0 { s with drainRemaining := 0 } :=
  (if_neg (sur40UrbDead_of_zero h)).trans ((if_neg (not_not.mpr h)).trans
    ((if_neg hrem).trans (if_pos hlen)))

/-- A short packet in the middle. -/
theorem sur40VideoDrainComplete_of_short (h : c.status = 0)
    (hlen : c.data.length < s.drainRemaining)
    (hshort : c.data.length < s.videoDrainUrb.transferBufferLength) :
    sur40VideoDrainComplete c 0 s = sur40VideoSubmitDrain 0 0 s :=
  (if_neg (sur40UrbDead_of_zero h)).trans ((if_neg (not_not.mpr h)).trans
    ((if_neg (by omega)).trans ((if_neg (not_le.mpr hlen)).trans (if_pos hshort))))

/-- A part is discarded. -/
theorem sur40VideoDrainComplete_of_part (h : c.status = 0)
    (hlen : c.data.length < s.drainRemaining)
    (hall : s.videoDrainUrb.transferBufferLength ≤ c.data.length) :
    sur40VideoDrainComplete c 0 s =
      sur40VideoSubmitDrain (s.drainRemaining - c.data.length) 0 s :=
  (if_neg (sur40UrbDead_of_zero h)).trans ((if_neg (not_not.mpr h)).trans
    ((if_neg (by omega)).trans ((if_neg (not_le.mpr hlen)).trans (if_neg (not_lt.mpr hall)))))

/-- A frame of full length. -/
theorem sur40VideoFrameComplete_of_done (h : c.status = 0) {buf : Sur40Buffer}
    (hcur : s.curBuf = some buf) (hlen : c.data.length = s.videoFrameUrb.transferBufferLength) :
    sur40VideoFrameComplete c 0 s = sur40VideoSubmitHdr 0
      (vb2BufferDone buf .done (some (s.sequence, c.data))
        { s with curBuf := none, sequence := s.sequence + 1 }) := by
  rw [sur40VideoFrameComplete, if_neg (sur40UrbDead_of_zero h), hcur]
  exact congrArg (sur40VideoSubmitHdr 0) (if_neg (not_or.mpr ⟨not_not.mpr h, not_not.mpr hlen⟩))

/-- A frame that failed, or of another length. -/
theorem sur40VideoFrameComplete_of_broken (hdead : ¬sur40UrbDead c.status = true)
    {buf : Sur40Buffer} (hcur : s.curBuf = some buf)
    (hbroken : c.status ≠ 0 ∨ c.data.length ≠ s.videoFrameUrb.transferBufferLength) :
    sur40VideoFrameComplete c 0 s =
      sur40VideoSubmitHdr 0 (vb2BufferDone buf .error none { s with curBuf := none }) := by
  rw [sur40VideoFrameComplete, if_neg hdead, hcur]
  exact congrArg (sur40VideoSubmitHdr 0) (if_pos hbroken)

end Handlers

/-! ## The driver relative to the stream -/

section Transfers

variable {frames : ℕ → VideoFrame} {start : ℕ}

/-- Where the driver is in the stream, what its receiver has come to, and how many
headers have gone by. -/
inductive Aligned (frames : ℕ → VideoFrame) (start : ℕ) (s : Sur40State) (pos : ℕ) :
    VideoReceiver → ℕ → Prop
  /-- It waits for a header. -/
  | hdr {n m : ℕ} (hflight : s.videoHdrUrb.inFlight = true)
      (hnext : Approaches frames start pos n m) : Aligned frames start s pos s.receiver n
  /-- It looks for a header. -/
  | resync {n m : ℕ} (hflight : s.videoDrainUrb.inFlight = true) (hrem : s.drainRemaining = 0)
      (hnext : Approaches frames start pos n m) : Aligned frames start s pos s.receiver n
  /-- It receives frame `k` into a buffer. -/
  | frame {k : ℕ} {buf : Sur40Buffer} (hflight : s.videoFrameUrb.inFlight = true)
      (hlen : s.videoFrameUrb.transferBufferLength = 518400) (hcur : s.curBuf = some buf)
      (hseen : headerSeen frames start k = true) (hsize : (frames k).size.toNat = 518400)
      (hpos : pos = headerPos frames k + 1) :
      Aligned frames start s pos (s.receiver.finish buf (frames k)) (k + 1)
  /-- It discards frame `k`, of which `j` packets have been received. -/
  | drain {k j : ℕ} (hflight : s.videoDrainUrb.inFlight = true)
      (hseen : headerSeen frames start k = true)
      (hsize : (frames k).size.toNat ≤ sur40MaxFrameSize) (hj : j ≤ (frames k).sent)
      (hrem : s.drainRemaining + 512 * j = (frames k).size.toNat) (hpart : 0 < s.drainRemaining)
      (hpos : pos = headerPos frames k + 1 + j) : Aligned frames start s pos s.receiver (k + 1)

/-- What a transfer can do; `t` is the driver when the URB has come back. -/
inductive TransferCase (frames : ℕ → VideoFrame) (start : ℕ) (t : Sur40State) (pos : ℕ) :
    VideoReceiver → ℕ → Sur40State → ℕ → Prop
  /-- No header at the end. -/
  | hunting {n m pos' : ℕ} (hcur : t.curBuf = none) (hpos : pos < pos')
      (hnext : Approaches frames start pos' n m) :
      TransferCase frames start t pos t.receiver n (sur40VideoSubmitDrain 0 0 t) pos'
  /-- A header. -/
  | header {n : ℕ} (hcur : t.curBuf = none) (hpos : pos ≤ headerPos frames n)
      (hseen : headerSeen frames start n = true) :
      TransferCase frames start t pos t.receiver n
        (sur40VideoHandleHeader (frames n).header 0 t) (headerPos frames n + 1)
  /-- A whole frame. -/
  | frameDone {k : ℕ} {buf : Sur40Buffer} (hcur : t.curBuf = some buf)
      (hseen : headerSeen frames start k = true) (hwhole : (frames k).Complete)
      (hpos : pos = headerPos frames k + 1) :
      TransferCase frames start t pos (t.receiver.finish buf (frames k)) (k + 1)
        (sur40VideoSubmitHdr 0 (vb2BufferDone buf .done (some (t.sequence, (frames k).image))
          { t with curBuf := none, sequence := t.sequence + 1 }))
        (headerPos frames (k + 1))
  /-- A frame that is cut short, and the next header with it. -/
  | frameLost {k : ℕ} {buf : Sur40Buffer} (hcur : t.curBuf = some buf)
      (hseen : headerSeen frames start k = true) (hcut : ¬(frames k).Complete)
      (hsize : (frames k).size.toNat ≤ sur40MaxFrameSize) (hpos : pos = headerPos frames k + 1) :
      TransferCase frames start t pos (t.receiver.finish buf (frames k)) (k + 1)
        (sur40VideoSubmitHdr 0 (vb2BufferDone buf .error none { t with curBuf := none }))
        (headerPos frames (k + 1) + 1)
  /-- The rest of a frame that is discarded. -/
  | drained {k : ℕ} (hcur : t.curBuf = none) (hseen : headerSeen frames start k = true)
      (hwhole : (frames k).Complete) (hpos : headerPos frames k < pos)
      (hpos' : pos < headerPos frames (k + 1)) :
      TransferCase frames start t pos t.receiver (k + 1)
        (sur40VideoSubmitHdr 0 { t with drainRemaining := 0 }) (headerPos frames (k + 1))
  /-- A part of it. -/
  | draining {k j count : ℕ} (hcur : t.curBuf = none) (hseen : headerSeen frames start k = true)
      (hsize : (frames k).size.toNat ≤ sur40MaxFrameSize) (hj : j ≤ (frames k).sent)
      (hrem : count + 512 * j = (frames k).size.toNat) (hcount : 0 < count)
      (hpos : headerPos frames k < pos) (hpos' : pos < headerPos frames k + 1 + j) :
      TransferCase frames start t pos t.receiver (k + 1) (sur40VideoSubmitDrain count 0 t)
        (headerPos frames k + 1 + j)
  /-- The frame is cut short, and the next header goes with it. -/
  | drainLost {k : ℕ} (hcur : t.curBuf = none) (hseen : headerSeen frames start k = true)
      (hcut : ¬(frames k).Complete) (hsize : (frames k).size.toNat ≤ sur40MaxFrameSize)
      (hpos : headerPos frames k < pos) (hpos' : pos ≤ headerPos frames (k + 1)) :
      TransferCase frames start t pos t.receiver (k + 1) (sur40VideoSubmitDrain 0 0 t)
        (headerPos frames (k + 1) + 1)

/-! ## What a transfer does -/

/-- A transfer completes a URB in flight with what the stream brings. -/
theorem transfer_step {c c' : VideoLink} {u : VideoUrb} {room : ℕ} {r : BulkIn UInt8}
    (hstep : (LinkAction.transfer u).step frames c = some c')
    (hroom : (c.video.drv.videoUrb u).transferBufferLength = room)
    (hr : bulkIn 512 (videoPackets frames) c.pos room = r) :
    c'.video.drv = videoComplete u (streamCompletion r) 0 c.video.drv ∧ c'.pos = r.pos := by
  simp only [LinkAction.step, Option.map_eq_some_iff, VideoAction.step,
    Option.ite_none_right_eq_some, Option.some.injEq, hroom, hr] at hstep
  obtain ⟨video, ⟨-, rfl⟩, rfl⟩ := hstep
  exact ⟨rfl, rfl⟩

/-- A transfer needs its URB in flight, and queues nothing. -/
theorem transfer_inFlight {c c' : VideoLink} {u : VideoUrb}
    (hstep : (LinkAction.transfer u).step frames c = some c') :
    (c.video.drv.videoUrb u).inFlight = true ∧ c'.video.queued = c.video.queued := by
  simp only [LinkAction.step, Option.map_eq_some_iff, VideoAction.step,
    Option.ite_none_right_eq_some, Option.some.injEq] at hstep
  obtain ⟨video, ⟨hflight, rfl⟩, rfl⟩ := hstep
  exact ⟨hflight, rfl⟩

theorem streamCompletion_undisturbed (u : VideoUrb) (r : BulkIn UInt8) :
    (VideoAction.complete u (streamCompletion r) 0).Undisturbed := by
  refine ⟨?_, rfl⟩
  obtain ⟨data, overflow, pos⟩ := r
  cases overflow <;> rfl

/-- An action of the link is an undisturbed action of the video system. -/
theorem LinkAction.inSession {c c' : VideoLink} {a : LinkAction} (h : InSession c.video)
    (hstep : a.step frames c = some c') : InSession c'.video := by
  cases a with
  | bufferQueue buf =>
      simp only [LinkAction.step, Option.map_eq_some_iff] at hstep
      obtain ⟨video, hvideo, rfl⟩ := hstep
      exact h.step (a := .bufferQueue buf) trivial hvideo
  | transfer u =>
      simp only [LinkAction.step, Option.map_eq_some_iff] at hstep
      obtain ⟨video, hvideo, rfl⟩ := hstep
      exact h.step (streamCompletion_undisturbed u _) hvideo

/-- While it waits for a header. -/
theorem transfer_hdr {c c' : VideoLink} {n m : ℕ} (h : InSession c.video)
    (hflight : c.video.drv.videoHdrUrb.inFlight = true)
    (hnext : Approaches frames start c.pos n m)
    (hstep : (LinkAction.transfer .hdr).step frames c = some c') :
    TransferCase frames start (c.video.drv.mapVideoUrb .hdr Urb.giveback) c.pos
      c.video.drv.receiver n c'.video.drv c'.pos := by
  have hcur : c.video.drv.curBuf = none := h.curBuf_eq_none (u := .hdr) (by decide) hflight
  have hroom : (c.video.drv.videoUrb .hdr).transferBufferLength = 512 * 1 := h.hdrLength
  rcases bulkIn_approaches hnext Nat.one_pos with
    ⟨d, data, hbulk, hd, hdm, hne⟩ | ⟨data, hbulk, hlen, hm⟩
  · obtain ⟨hdrv, hpos⟩ := transfer_step hstep hroom hbulk
    have hlen : data.length ≠ 20 := fun hlen => hne (by rw [hlen])
    rw [hpos, hdrv, videoComplete_hdr, sur40VideoHdrComplete_of_length rfl hlen]
    exact .hunting hcur (by exact Nat.lt_add_of_pos_right hd) (hnext.drop hdm)
  · obtain ⟨hdrv, hpos⟩ := transfer_step hstep hroom hbulk
    obtain rfl : data = [] := List.eq_nil_of_length_eq_zero (by omega)
    rw [hpos, hdrv, videoComplete_hdr,
      sur40VideoHdrComplete_of_header rfl (List.nil_append _)]
    have hbefore := hnext.pos_eq
    exact .header hcur (by omega) hnext.seen

/-- While it looks for a header. -/
theorem transfer_resync {c c' : VideoLink} {n m : ℕ} (h : InSession c.video)
    (hflight : c.video.drv.videoDrainUrb.inFlight = true)
    (hrem : c.video.drv.drainRemaining = 0) (hnext : Approaches frames start c.pos n m)
    (hstep : (LinkAction.transfer .drain).step frames c = some c') :
    TransferCase frames start (c.video.drv.mapVideoUrb .drain Urb.giveback) c.pos
      c.video.drv.receiver n c'.video.drv c'.pos := by
  have hcur : c.video.drv.curBuf = none := h.curBuf_eq_none (u := .drain) (by decide) hflight
  have hroom : (c.video.drv.videoUrb .drain).transferBufferLength = 512 * 128 := by
    have hdrain := (h.inv.drain hflight).2
    rw [hrem] at hdrain
    exact hdrain
  rcases bulkIn_approaches hnext (show 0 < 128 by decide) with
    ⟨d, data, hbulk, hd, hdm, hne⟩ | ⟨data, hbulk, hlen, -⟩
  · obtain ⟨hdrv, hpos⟩ := transfer_step hstep hroom hbulk
    rw [hpos, hdrv, videoComplete_drain,
      sur40VideoDrainComplete_of_noHeader rfl (by exact hrem) (by exact h.pktSize) hne]
    exact .hunting hcur (by exact Nat.lt_add_of_pos_right hd) (hnext.drop hdm)
  · obtain ⟨hdrv, hpos⟩ := transfer_step hstep hroom hbulk
    rw [hpos, hdrv, videoComplete_drain,
      sur40VideoDrainComplete_of_header rfl (by exact hrem) (by exact h.pktSize) hlen rfl]
    have hbefore := hnext.pos_eq
    exact .header hcur (by omega) hnext.seen

theorem frameSize_le_max {size : ℕ} (h : size = 518400) : size ≤ sur40MaxFrameSize := by
  rw [h]
  decide

theorem neg_eoverflow_ne_zero : -eoverflow ≠ 0 := by decide

/-- While it receives a frame. -/
theorem transfer_frame {c c' : VideoLink} {k : ℕ} {buf : Sur40Buffer}
    (hlen : c.video.drv.videoFrameUrb.transferBufferLength = 518400)
    (hcur : c.video.drv.curBuf = some buf) (hseen : headerSeen frames start k = true)
    (hsize : (frames k).size.toNat = 518400) (hpos : c.pos = headerPos frames k + 1)
    (hstep : (LinkAction.transfer .frame).step frames c = some c') :
    TransferCase frames start (c.video.drv.mapVideoUrb .frame Urb.giveback) c.pos
      (c.video.drv.receiver.finish buf (frames k)) (k + 1) c'.video.drv c'.pos := by
  have hroom : (c.video.drv.videoUrb .frame).transferBufferLength = 518400 := hlen
  by_cases hwhole : (frames k).Complete
  · have hall : 518400 + 512 * 0 = (frames k).size.toNat := hsize.symm
    have hbulk := bulkIn_whole hwhole (Nat.zero_le _) hall
    rw [Nat.add_zero, ← hpos, Nat.mul_zero, List.drop_zero] at hbulk
    obtain ⟨hdrv, hpos'⟩ := transfer_step hstep hroom hbulk
    have hfull : (frames k).image.length = (c.video.drv.mapVideoUrb .frame
        Urb.giveback).videoFrameUrb.transferBufferLength := by
      rw [(frames k).length_image, hsize]
      exact hlen.symm
    rw [hpos', hdrv, videoComplete_frame, sur40VideoFrameComplete_of_done rfl (by exact hcur) hfull]
    exact .frameDone hcur hseen hwhole hpos
  · have hsent : 512 * (frames k).sent < 518400 := by
      rw [← hsize]
      exact not_le.mp hwhole
    obtain ⟨data, overflow, hbulk, hshort⟩ := bulkIn_cut hwhole (Nat.zero_le _)
      (show 512 * ((frames k).sent - 0) < 518400 by omega) (.inl (by rw [hsize]))
    rw [Nat.add_zero, ← hpos] at hbulk
    obtain ⟨hdrv, hpos'⟩ := transfer_step hstep hroom hbulk
    have hbroken : (streamCompletion ⟨data, overflow, headerPos frames (k + 1) + 1⟩).status ≠ 0 ∨
        data.length ≠ c.video.drv.videoFrameUrb.transferBufferLength := by
      cases overflow with
      | true => exact .inl neg_eoverflow_ne_zero
      | false => exact .inr (by rw [hlen]; exact (hshort rfl).1.ne)
    have hdead := (streamCompletion_undisturbed .frame
      ⟨data, overflow, headerPos frames (k + 1) + 1⟩).1
    rw [hpos', hdrv, videoComplete_frame,
      sur40VideoFrameComplete_of_broken (by simp [hdead]) (by exact hcur)
        (by exact hbroken)]
    exact .frameLost hcur hseen hwhole (frameSize_le_max hsize) hpos

/-- While it discards a frame that is cut short before the transfer is full. -/
theorem transfer_drain_cut {c c' : VideoLink} {k j room : ℕ} (h : InSession c.video)
    (hflight : c.video.drv.videoDrainUrb.inFlight = true)
    (hseen : headerSeen frames start k = true)
    (hsize : (frames k).size.toNat ≤ sur40MaxFrameSize) (hj : j ≤ (frames k).sent)
    (hpos : c.pos = headerPos frames k + 1 + j)
    (hroom : c.video.drv.videoDrainUrb.transferBufferLength = room)
    (hle : room ≤ c.video.drv.drainRemaining) (hcut : ¬(frames k).Complete)
    (hlong : 512 * ((frames k).sent - j) < room)
    (hmod : room % 512 = (frames k).size.toNat % 512 ∨ room % 512 = 0)
    (hstep : (LinkAction.transfer .drain).step frames c = some c') :
    TransferCase frames start (c.video.drv.mapVideoUrb .drain Urb.giveback) c.pos
      c.video.drv.receiver (k + 1) c'.video.drv c'.pos := by
  have hcur : c.video.drv.curBuf = none := h.curBuf_eq_none (u := .drain) (by decide) hflight
  obtain ⟨data, overflow, hbulk, hshort⟩ := bulkIn_cut hcut hj hlong hmod
  rw [← hpos] at hbulk
  obtain ⟨hdrv, hpos'⟩ := transfer_step hstep hroom hbulk
  have hlost : c'.video.drv =
      sur40VideoSubmitDrain 0 0 (c.video.drv.mapVideoUrb .drain Urb.giveback) := by
    rw [hdrv, videoComplete_drain]
    cases overflow with
    | true => exact sur40VideoDrainComplete_of_overflow rfl
    | false =>
        have hlen := (hshort rfl).1
        exact sur40VideoDrainComplete_of_short rfl (hlen.trans_le hle) (hlen.trans_eq hroom.symm)
  have hend : headerPos frames (k + 1) = headerPos frames k + 1 + (frames k).sent :=
    headerPos_succ k
  rw [hpos', hlost]
  exact .drainLost hcur hseen hcut hsize (by omega) (by omega)

/-- While it discards a frame. -/
theorem transfer_drain {c c' : VideoLink} {k j : ℕ} (h : InSession c.video)
    (hflight : c.video.drv.videoDrainUrb.inFlight = true)
    (hseen : headerSeen frames start k = true)
    (hsize : (frames k).size.toNat ≤ sur40MaxFrameSize) (hj : j ≤ (frames k).sent)
    (hrem : c.video.drv.drainRemaining + 512 * j = (frames k).size.toNat)
    (hpart : 0 < c.video.drv.drainRemaining) (hpos : c.pos = headerPos frames k + 1 + j)
    (hstep : (LinkAction.transfer .drain).step frames c = some c') :
    TransferCase frames start (c.video.drv.mapVideoUrb .drain Urb.giveback) c.pos
      c.video.drv.receiver (k + 1) c'.video.drv c'.pos := by
  have hcur : c.video.drv.curBuf = none := h.curBuf_eq_none (u := .drain) (by decide) hflight
  have hlength := (h.inv.drain hflight).2
  rw [drainLength_of_pos hpart] at hlength
  have hend : headerPos frames (k + 1) = headerPos frames k + 1 + (frames k).sent :=
    headerPos_succ k
  by_cases hlast : c.video.drv.drainRemaining ≤ 512 * 128
  · -- the last transfer for this frame
    have hroom : c.video.drv.videoDrainUrb.transferBufferLength = c.video.drv.drainRemaining :=
      hlength.trans (min_eq_left hlast)
    by_cases hwhole : (frames k).Complete
    · have hbulk := bulkIn_whole hwhole hj hrem
      rw [← hpos] at hbulk
      obtain ⟨hdrv, hpos'⟩ := transfer_step hstep hroom hbulk
      have hlen : ((frames k).image.drop (512 * j)).length = c.video.drv.drainRemaining := by
        rw [List.length_drop, (frames k).length_image]
        omega
      have hmore : j < (frames k).sent := by
        rw [VideoFrame.complete_iff] at hwhole
        omega
      rw [hpos', hdrv, videoComplete_drain,
        sur40VideoDrainComplete_of_done rfl (by exact hpart.ne') (by exact hlen.ge)]
      exact .drained hcur hseen hwhole (by omega) (by omega)
    · refine transfer_drain_cut h hflight hseen hsize hj hpos hroom le_rfl hwhole ?_ ?_ hstep
      · rw [VideoFrame.complete_iff] at hwhole
        omega
      · omega
  · have hroom : c.video.drv.videoDrainUrb.transferBufferLength = 512 * 128 :=
      hlength.trans (min_eq_right (not_le.mp hlast).le)
    by_cases hmore : j + 128 ≤ (frames k).sent
    · obtain ⟨data, hbulk, hlen⟩ := bulkIn_part hmore (by omega)
      rw [← hpos] at hbulk
      obtain ⟨hdrv, hpos'⟩ := transfer_step hstep hroom hbulk
      rw [hpos', hdrv, videoComplete_drain, sur40VideoDrainComplete_of_part rfl
        (by exact hlen.trans_lt (not_le.mp hlast)) (by exact (hroom.trans hlen.symm).le)]
      refine .draining (j := j + 128) hcur hseen hsize hmore ?_ ?_ (by omega) (by omega)
      · exact (by omega : c.video.drv.drainRemaining - data.length + 512 * (j + 128) =
          (frames k).size.toNat)
      · exact (by omega : 0 < c.video.drv.drainRemaining - data.length)
    · refine transfer_drain_cut h hflight hseen hsize hj hpos hroom (by omega) ?_ (by omega)
        (.inr (by decide)) hstep
      rw [VideoFrame.complete_iff]
      omega

/-- **What a transfer can do**, from wherever the driver is in the stream. -/
theorem transfer_cases {c c' : VideoLink} {u : VideoUrb} {r : VideoReceiver} {n : ℕ}
    (h : InSession c.video) (hal : Aligned frames start c.video.drv c.pos r n)
    (hstep : (LinkAction.transfer u).step frames c = some c') :
    TransferCase frames start (c.video.drv.mapVideoUrb u Urb.giveback) c.pos r n
      c'.video.drv c'.pos := by
  obtain ⟨hflight, -⟩ := transfer_inFlight hstep
  cases hal with
  | hdr hhdr hnext =>
      obtain rfl : u = .hdr := h.inv.exclusive u .hdr hflight hhdr
      exact transfer_hdr h hhdr hnext hstep
  | resync hdrain hrem hnext =>
      obtain rfl : u = .drain := h.inv.exclusive u .drain hflight hdrain
      exact transfer_resync h hdrain hrem hnext hstep
  | frame hframe hlen hcur hseen hsize hpos =>
      obtain rfl : u = .frame := h.inv.exclusive u .frame hflight hframe
      exact transfer_frame hlen hcur hseen hsize hpos hstep
  | drain hdrain hseen hsize hj hrem hpart hpos =>
      obtain rfl : u = .drain := h.inv.exclusive u .drain hflight hdrain
      exact transfer_drain h hdrain hseen hsize hj hrem hpart hpos hstep

end Transfers

end Sur40
