import Sur40.State
import Mathlib.Tactic.SplitIfs

/-!
# The video handlers

A header URB waits for the 20 byte frame header, then either the frame URB
transfers the image into the next buffer or, if there is none, the drain URB
discards it. Each handler makes at most one submission; `err` is what the
environment answers to it.

## Main definitions

* `sur40BufferQueue`, `sur40VideoPopBuffer`, `returnAllBuffers`: the buffer list.
* `sur40VideoSubmitHdr`, `sur40VideoSubmitDrain`, `sur40VideoHandleHeader`: the
  submission helpers.
* `sur40VideoHdrComplete`, `sur40VideoFrameComplete`, `sur40VideoDrainComplete`:
  the completion handlers.
* `videoComplete`: the core gives a URB back and calls its handler.
-/

namespace Sur40

/-! ## Buffers -/

/-- Hand a buffer back to videobuf2. -/
def vb2BufferDone (buf : Sur40Buffer) (state : Vb2BufferState)
    (frame : Option (UInt32 × List UInt8)) (sur40 : Sur40State) : Sur40State :=
  { sur40 with done := sur40.done ++ [{ buf, state, frame }] }

/-- Queue this buffer to the DMA engine. -/
def sur40BufferQueue (buf : Sur40Buffer) (sur40 : Sur40State) : Sur40State :=
  { sur40 with
    bufList := sur40.bufList ++ [buf]
    videoTrace := sur40.videoTrace ++ [.bufferQueue buf] }

def sur40VideoPopBuffer (sur40 : Sur40State) : Option Sur40Buffer × Sur40State :=
  match sur40.bufList with
  | [] => (none, sur40)
  | buf :: bufList => (some buf, { sur40 with bufList := bufList })

/-- Hand back every buffer of the list. -/
def returnAllBuffers (state : Vb2BufferState) (sur40 : Sur40State) : Sur40State :=
  let sur40' := sur40.bufList.foldl (fun s buf => vb2BufferDone buf state none s) sur40
  { sur40' with bufList := [] }

/-! ## Submissions -/

def sur40VideoSubmitHdr (err : ℤ) (sur40 : Sur40State) : Sur40State :=
  { sur40 with videoHdrUrb := sur40Resubmit sur40.videoHdrUrb err }

/-- The length of the next drain transfer. -/
def drainLength (count : ℕ) : ℕ := if count ≠ 0 then min count sur40DrainSize else sur40DrainSize

/-- Discard `count` bytes of video data (0: unknown alignment, keep reading until a
valid frame header shows up as a short packet). -/
def sur40VideoSubmitDrain (count : ℕ) (err : ℤ) (sur40 : Sur40State) : Sur40State :=
  let urb := { sur40.videoDrainUrb with transferBufferLength := drainLength count }
  { sur40 with
    drainRemaining := count
    videoDrainUrb := sur40Resubmit urb err
    drainRequested := if (usbSubmitUrb urb err).2 = 0 then count else sur40.drainRequested }

/-- A valid-looking 20 byte header has arrived: start the frame transfer. -/
def sur40VideoHandleHeader (img : Sur40ImageHeader) (err : ℤ) (sur40 : Sur40State) :
    Sur40State :=
  let sur40 := { sur40 with videoTrace := sur40.videoTrace ++ [.handleHeader img] }
  let size := img.size.toNat
  if img.magic ≠ videoHeaderMagic then sur40VideoSubmitDrain 0 err sur40
  else if size ≠ sur40.pixFmt.sizeimage then
    sur40VideoSubmitDrain (if size ≤ sur40MaxFrameSize then size else 0) err sur40
  else
    match sur40VideoPopBuffer sur40 with
    | (none, sur40) =>
        -- userspace is too slow: drop this frame but stay in sync
        let sur40 := { sur40 with framesDropped := sur40.framesDropped + 1 }
        sur40VideoSubmitDrain size err sur40
    | (some buf, sur40) =>
        let urb := { sur40.videoFrameUrb with transferBufferLength := size, sg := some buf }
        let submit := usbSubmitUrb urb err
        let sur40 := { sur40 with curBuf := some buf, videoFrameUrb := submit.1 }
        if submit.2 ≠ 0 then vb2BufferDone buf .error none { sur40 with curBuf := none }
        else sur40

/-! ## Completion handlers -/

def sur40VideoHdrComplete (c : Completion) (err : ℤ) (sur40 : Sur40State) : Sur40State :=
  if sur40UrbDead c.status then sur40
  else if c.status ≠ 0 then sur40VideoSubmitHdr err sur40
  else if c.actualLength ≠ Sur40ImageHeader.layout.size then
    -- not at a frame boundary: skip ahead to the next header
    sur40VideoSubmitDrain 0 err sur40
  else sur40VideoHandleHeader (Sur40ImageHeader.layout.decode c.data) err sur40

/-- Hand the current buffer back, with the frame if it arrived whole. -/
def sur40VideoFrameDone (c : Completion) (buf : Sur40Buffer) (sur40 : Sur40State) : Sur40State :=
  if c.status ≠ 0 ∨ c.actualLength ≠ sur40.videoFrameUrb.transferBufferLength then
    vb2BufferDone buf .error none sur40
  else
    vb2BufferDone buf .done (some (sur40.sequence, c.data))
      { sur40 with sequence := sur40.sequence + 1 }

def sur40VideoFrameComplete (c : Completion) (err : ℤ) (sur40 : Sur40State) : Sur40State :=
  -- cancelled: `sur40StopStreaming` takes care of `curBuf`
  if sur40UrbDead c.status then sur40
  else
    match sur40.curBuf with
    | none => sur40VideoSubmitHdr err { sur40 with curBuf := none, warnedBuf := true }
    | some buf =>
        sur40VideoSubmitHdr err (sur40VideoFrameDone c buf { sur40 with curBuf := none })

/-- The header at the end of the drain buffer. -/
def drainTail (data : List UInt8) : Sur40ImageHeader :=
  Sur40ImageHeader.layout.decode (data.drop (data.length - Sur40ImageHeader.layout.size))

def sur40VideoDrainComplete (c : Completion) (err : ℤ) (sur40 : Sur40State) : Sur40State :=
  let len := c.actualLength
  if sur40UrbDead c.status then sur40
  else if c.status ≠ 0 then sur40VideoSubmitDrain 0 err sur40
  else if sur40.drainRemaining = 0 then
    -- resync: the header ends the transfer and may follow a number of full
    -- packets of the previous frame
    if len ≥ Sur40ImageHeader.layout.size ∧
        (len - Sur40ImageHeader.layout.size) % sur40.videoPktSize = 0 then
      sur40VideoHandleHeader (drainTail c.data) err sur40
    else sur40VideoSubmitDrain 0 err sur40
  else if len ≥ sur40.drainRemaining then
    -- frame fully discarded, wait for the next header
    sur40VideoSubmitHdr err { sur40 with drainRemaining := 0 }
  else if len < sur40.videoDrainUrb.transferBufferLength then
    -- short packet in the middle of a frame: alignment is lost
    sur40VideoSubmitDrain 0 err sur40
  else sur40VideoSubmitDrain (sur40.drainRemaining - len) err sur40

/-! ## The three URBs -/

/-- The URBs of the video endpoint. -/
inductive VideoUrb where
  | hdr
  | frame
  | drain
  deriving DecidableEq

def Sur40State.videoUrb (s : Sur40State) : VideoUrb → Urb
  | .hdr => s.videoHdrUrb
  | .frame => s.videoFrameUrb
  | .drain => s.videoDrainUrb

/-- Apply an operation of the USB core to one of the URBs. -/
def Sur40State.mapVideoUrb (s : Sur40State) (u : VideoUrb) (f : Urb → Urb) : Sur40State :=
  match u with
  | .hdr => { s with videoHdrUrb := f s.videoHdrUrb }
  | .frame => { s with videoFrameUrb := f s.videoFrameUrb }
  | .drain => { s with videoDrainUrb := f s.videoDrainUrb }

/-- The core gives a URB back and calls its handler. -/
def videoComplete (u : VideoUrb) (c : Completion) (err : ℤ) (s : Sur40State) : Sur40State :=
  let s := s.mapVideoUrb u Urb.giveback
  match u with
  | .hdr => sur40VideoHdrComplete c err s
  | .frame => sur40VideoFrameComplete c err s
  | .drain => sur40VideoDrainComplete c err s

/-! ## Small facts -/

theorem videoComplete_hdr (c : Completion) (err : ℤ) (s : Sur40State) :
    videoComplete .hdr c err s =
      sur40VideoHdrComplete c err (s.mapVideoUrb .hdr Urb.giveback) := rfl

theorem videoComplete_frame (c : Completion) (err : ℤ) (s : Sur40State) :
    videoComplete .frame c err s =
      sur40VideoFrameComplete c err (s.mapVideoUrb .frame Urb.giveback) := rfl

theorem videoComplete_drain (c : Completion) (err : ℤ) (s : Sur40State) :
    videoComplete .drain c err s =
      sur40VideoDrainComplete c err (s.mapVideoUrb .drain Urb.giveback) := rfl

theorem returnAllBuffers_eq (state : Vb2BufferState) (s : Sur40State) :
    returnAllBuffers state s =
      { s with done := s.done ++ s.bufList.map fun buf => ⟨buf, state, none⟩, bufList := [] } := by
  have hfold : ∀ (bufs : List Sur40Buffer) (t : Sur40State),
      bufs.foldl (fun s buf => vb2BufferDone buf state none s) t =
        { t with done := t.done ++ bufs.map fun buf => ⟨buf, state, none⟩ } := by
    intro bufs
    induction bufs with
    | nil =>
        intro t
        rw [List.map_nil, List.append_nil]
        rfl
    | cons buf bufs ih =>
        intro t
        rw [List.foldl_cons, ih, vb2BufferDone, List.map_cons, List.append_assoc]
        rfl
  rw [returnAllBuffers, hfold]

theorem sur40VideoPopBuffer_of_nil {s : Sur40State} (h : s.bufList = []) :
    sur40VideoPopBuffer s = (none, s) := by
  rw [sur40VideoPopBuffer, h]

theorem sur40VideoPopBuffer_of_cons {s : Sur40State} {buf : Sur40Buffer}
    {bufs : List Sur40Buffer} (h : s.bufList = buf :: bufs) :
    sur40VideoPopBuffer s = (some buf, { s with bufList := bufs }) := by
  rw [sur40VideoPopBuffer, h]

theorem drainLength_of_pos {count : ℕ} (h : 0 < count) :
    drainLength count = min count sur40DrainSize :=
  if_pos (Nat.pos_iff_ne_zero.mp h)

/-! ## The exits of the header logic -/

/-- The state in which a header is looked at. -/
def Sur40State.logHeader (s : Sur40State) (img : Sur40ImageHeader) : Sur40State :=
  { s with videoTrace := s.videoTrace ++ [.handleHeader img] }

/-- The frame URB, set up to fill a buffer. -/
def Sur40State.frameUrbFor (s : Sur40State) (buf : Sur40Buffer) : Urb :=
  { s.videoFrameUrb with transferBufferLength := s.pixFmt.sizeimage, sg := some buf }

theorem sur40VideoHandleHeader_of_magic {img : Sur40ImageHeader} (err : ℤ) (s : Sur40State)
    (hmagic : img.magic ≠ videoHeaderMagic) :
    sur40VideoHandleHeader img err s = sur40VideoSubmitDrain 0 err (s.logHeader img) :=
  if_pos hmagic

theorem sur40VideoHandleHeader_of_size {img : Sur40ImageHeader} (err : ℤ) (s : Sur40State)
    (hmagic : img.magic = videoHeaderMagic) (hsize : img.size.toNat ≠ s.pixFmt.sizeimage) :
    sur40VideoHandleHeader img err s =
      sur40VideoSubmitDrain (if img.size.toNat ≤ sur40MaxFrameSize then img.size.toNat else 0)
        err (s.logHeader img) :=
  (if_neg (not_not.mpr hmagic)).trans (if_pos hsize)

theorem sur40VideoHandleHeader_of_nil {img : Sur40ImageHeader} (err : ℤ) (s : Sur40State)
    (hmagic : img.magic = videoHeaderMagic) (hsize : img.size.toNat = s.pixFmt.sizeimage)
    (hbufs : s.bufList = []) :
    sur40VideoHandleHeader img err s =
      sur40VideoSubmitDrain img.size.toNat err
        { s.logHeader img with framesDropped := s.framesDropped + 1 } := by
  simp only [sur40VideoHandleHeader]
  rw [if_neg (not_not.mpr hmagic), if_neg (not_not.mpr hsize),
    sur40VideoPopBuffer_of_nil (by exact hbufs)]
  rfl

/-- A buffer is waiting and the frame URB is submitted, or fails to be. -/
theorem sur40VideoHandleHeader_of_cons {img : Sur40ImageHeader} (err : ℤ) (s : Sur40State)
    (hmagic : img.magic = videoHeaderMagic) (hsize : img.size.toNat = s.pixFmt.sizeimage)
    {buf : Sur40Buffer} {bufs : List Sur40Buffer} (hbufs : s.bufList = buf :: bufs) :
    sur40VideoHandleHeader img err s =
      if (usbSubmitUrb (s.frameUrbFor buf) err).2 = 0 then
        { s.logHeader img with
          bufList := bufs
          curBuf := some buf
          videoFrameUrb := (usbSubmitUrb (s.frameUrbFor buf) err).1 }
      else
        vb2BufferDone buf .error none { s.logHeader img with
          bufList := bufs
          curBuf := none
          videoFrameUrb := (usbSubmitUrb (s.frameUrbFor buf) err).1 } := by
  simp only [sur40VideoHandleHeader]
  rw [if_neg (not_not.mpr hmagic), if_neg (not_not.mpr hsize),
    sur40VideoPopBuffer_of_cons (by exact hbufs), hsize]
  exact ite_not _ _ _

/-- What the header logic can do: it discards the data, or starts a frame, or hands
the buffer back because the frame URB could not be submitted. -/
inductive HandleHeaderCase (img : Sur40ImageHeader) (err : ℤ) (s : Sur40State) :
    Sur40State → Prop
  | drain (count framesDropped : ℕ) : HandleHeaderCase img err s
      (sur40VideoSubmitDrain count err { s.logHeader img with framesDropped })
  | frame (buf : Sur40Buffer) (bufs : List Sur40Buffer) (hbufs : s.bufList = buf :: bufs)
      (hret : (usbSubmitUrb (s.frameUrbFor buf) err).2 = 0) : HandleHeaderCase img err s
      { s.logHeader img with
        bufList := bufs
        curBuf := some buf
        videoFrameUrb := (usbSubmitUrb (s.frameUrbFor buf) err).1 }
  | failed (buf : Sur40Buffer) (bufs : List Sur40Buffer) (hbufs : s.bufList = buf :: bufs)
      (hret : (usbSubmitUrb (s.frameUrbFor buf) err).2 ≠ 0) : HandleHeaderCase img err s
      (vb2BufferDone buf .error none { s.logHeader img with
        bufList := bufs
        curBuf := none
        videoFrameUrb := (usbSubmitUrb (s.frameUrbFor buf) err).1 })

theorem sur40VideoHandleHeader_cases (img : Sur40ImageHeader) (err : ℤ) (s : Sur40State) :
    HandleHeaderCase img err s (sur40VideoHandleHeader img err s) := by
  by_cases hmagic : img.magic = videoHeaderMagic
  · by_cases hsize : img.size.toNat = s.pixFmt.sizeimage
    · cases hbufs : s.bufList with
      | nil =>
          rw [sur40VideoHandleHeader_of_nil err s hmagic hsize hbufs]
          exact .drain _ _
      | cons buf bufs =>
          rw [sur40VideoHandleHeader_of_cons err s hmagic hsize hbufs]
          split_ifs with hret
          · exact .frame buf bufs hbufs hret
          · exact .failed buf bufs hbufs hret
    · rw [sur40VideoHandleHeader_of_size err s hmagic hsize]
      exact .drain _ s.framesDropped
  · rw [sur40VideoHandleHeader_of_magic err s hmagic]
    exact .drain 0 s.framesDropped

/-! ## The exits of the handlers -/

/-- What a completion of an idle URB can lead to: nothing, if the URB is dead, or one
submission. -/
inductive VideoCompleteCase (u : VideoUrb) (c : Completion) (err : ℤ) (s : Sur40State) :
    Sur40State → Prop
  | dead (hdead : sur40UrbDead c.status) : VideoCompleteCase u c err s s
  | hdr (hu : u = .hdr) : VideoCompleteCase u c err s (sur40VideoSubmitHdr err s)
  | frameDone (hu : u = .frame) (buf : Sur40Buffer) (hcur : s.curBuf = some buf)
      (state : Vb2BufferState) (frame : Option (UInt32 × List UInt8)) (sequence : UInt32) :
      VideoCompleteCase u c err s
        (sur40VideoSubmitHdr err (vb2BufferDone buf state frame
          { s with curBuf := none, sequence }))
  | frameNone (hu : u = .frame) (hcur : s.curBuf = none) : VideoCompleteCase u c err s
      (sur40VideoSubmitHdr err { s with curBuf := none, warnedBuf := true })
  | drained (hu : u = .drain) : VideoCompleteCase u c err s
      (sur40VideoSubmitHdr err { s with drainRemaining := 0 })
  | drain (hu : u ≠ .frame) (count : ℕ) : VideoCompleteCase u c err s
      (sur40VideoSubmitDrain count err s)
  | header (hu : u ≠ .frame) (img : Sur40ImageHeader) : VideoCompleteCase u c err s
      (sur40VideoHandleHeader img err s)

theorem videoComplete_cases (u : VideoUrb) (c : Completion) (err : ℤ) (s : Sur40State) :
    VideoCompleteCase u c err (s.mapVideoUrb u Urb.giveback) (videoComplete u c err s) := by
  simp only [videoComplete]
  generalize s.mapVideoUrb u Urb.giveback = s
  cases u with
  | hdr =>
      dsimp only
      rw [sur40VideoHdrComplete]
      split_ifs with hdead
      · exact .dead hdead
      · exact .hdr rfl
      · exact .drain (by simp) 0
      · exact .header (by simp) _
  | frame =>
      dsimp only
      rw [sur40VideoFrameComplete]
      split_ifs with hdead
      · exact .dead hdead
      · split
        · next hcur => exact .frameNone rfl hcur
        · next buf hcur =>
            rw [sur40VideoFrameDone]
            split_ifs
            · exact .frameDone rfl buf hcur .error none s.sequence
            · exact .frameDone rfl buf hcur .done _ (s.sequence + 1)
  | drain =>
      dsimp only
      simp only [sur40VideoDrainComplete]
      split_ifs with hdead
      · exact .dead hdead
      · exact .drain (by simp) 0
      · exact .header (by simp) _
      · exact .drain (by simp) 0
      · exact .drained rfl
      · exact .drain (by simp) 0
      · exact .drain (by simp) _

end Sur40
