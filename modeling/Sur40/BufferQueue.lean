import Sur40.VideoLengths
import Sur40.ReadBounds

/-!
# Buffers and formats

The ioctls around the video pipeline: the format can be set while there are no buffers,
a buffer is checked against the format and gets its payload when it is prepared, and only
prepared buffers are queued to the driver. The format with which a buffer was checked is
therefore still the format when its frame arrives.

## Main definitions

* `sur40QueueSetup`, `sur40BufferPrepare`, `sur40VidiocSFmt`: the driver's part.
* `Vb2Buffer`, `BufferSys`, `BufferAction`: videobuf2's buffers around the video system.
* `BufferInv`: the invariant.
* `transfers_in_bounds`: reads and transfers stay within their buffers.
-/

namespace Sur40

open Devlib

def einval : ℤ := 22

/-! ## The callbacks of the queue -/

/-- Where a buffer is, for videobuf2. -/
inductive Vb2State where
  | dequeued
  /-- `buf_prepare` has succeeded. -/
  | prepared
  /-- The driver has it. -/
  | active
  deriving DecidableEq

/-- `struct vb2_buffer`, with one plane. -/
structure Vb2Buffer where
  planeSize : ℕ
  payload : ℕ
  state : Vb2State
  deriving DecidableEq

/-- `vb2_set_plane_payload`: clamped to the plane. -/
def vb2SetPlanePayload (size : ℕ) (vb : Vb2Buffer) : Vb2Buffer :=
  { vb with payload := min size vb.planeSize }

/-- Setup the constraints of the queue: the return code, the number of planes and the
size of the first of them. -/
def sur40QueueSetup (nplanes size : ℕ) (sur40 : Sur40State) : ℤ × ℕ × ℕ :=
  if nplanes ≠ 0 then (if size < sur40.pixFmt.sizeimage then -einval else 0, nplanes, size)
  else (0, 1, sur40.pixFmt.sizeimage)

/-- Prepare the buffer for queueing: check and set the payload size. -/
def sur40BufferPrepare (vb : Vb2Buffer) (sur40 : Sur40State) : Vb2Buffer × ℤ :=
  let size := sur40.pixFmt.sizeimage
  if vb.planeSize < size then (vb, -einval) else (vb2SetPlanePayload size vb, 0)

/-- `VIDIOC_S_FMT`; `busy` is what `vb2_is_busy` returns. -/
def sur40VidiocSFmt (videoNode busy : Bool) (pixelformat : UInt32) (sur40 : Sur40State) :
    Sur40State × ℤ :=
  if busy then (sur40, -ebusy)
  else ({ sur40 with pixFmt := sur40FindFormat videoNode pixelformat }, 0)

/-- `vb2_buffer_done`: an active buffer goes back, and stays prepared if it was not used. -/
def Vb2Buffer.giveBack (state : Vb2BufferState) (vb : Vb2Buffer) : Vb2Buffer :=
  if vb.state = .active then
    { vb with state := if state = .queued then .prepared else .dequeued }
  else vb

/-! ## The system -/

/-- The video system with the buffers of its queue, by index. -/
structure BufferSys where
  videoNode : Bool
  video : VideoSys
  buffers : List Vb2Buffer

namespace BufferSys

def probe (videoNode : Bool) (touchPktSize videoPktSize : ℕ) : BufferSys where
  videoNode := videoNode
  video := .probe videoNode touchPktSize videoPktSize
  buffers := []

/-- `vb2_is_busy` -/
def busy (sys : BufferSys) : Bool := !sys.buffers.isEmpty

def drv (sys : BufferSys) : Sur40State := sys.video.drv

/-- The buffers that the driver gives back, one after the other. -/
def settle (returned : List Vb2BufferDone) (buffers : List Vb2Buffer) : List Vb2Buffer :=
  returned.foldl (fun vbs d => vbs.modify d.buf.index (Vb2Buffer.giveBack d.state)) buffers

end BufferSys

/-- The ioctls on formats and buffers, and whatever happens around them. -/
inductive BufferAction where
  | sFmt (pixelformat : UInt32)
  /-- `VIDIOC_REQBUFS`; old buffers are freed first. -/
  | reqBufs (count : ℕ)
  | createBufs (count size : ℕ)
  | freeBufs
  /-- A DMABUF brings its own plane. -/
  | bufPrepare (index : ℕ) (plane : Option ℕ)
  /-- A prepared buffer is cancelled before the driver gets it. -/
  | bufCancel (index : ℕ)
  | bufQueue (index : ℕ)
  | video (a : VideoAction)

/-- `buf_prepare` on a buffer that may have got another plane. -/
def prepareWith (plane : Option ℕ) (vb : Vb2Buffer) (sur40 : Sur40State) : Vb2Buffer :=
  let prepare := sur40BufferPrepare { vb with planeSize := plane.getD vb.planeSize } sur40
  if prepare.2 ≠ 0 then prepare.1 else { prepare.1 with state := .prepared }

/-- One step. Buffers are freed while the driver has none of them, prepared only while
they are dequeued, and queued to the driver only once they are prepared. -/
def BufferAction.step : BufferAction → BufferSys → Option BufferSys
  | .sFmt pixelformat, sys =>
      let drv := (sur40VidiocSFmt sys.videoNode sys.busy pixelformat sys.drv).1
      some { sys with video := { sys.video with drv } }
  | .reqBufs count, sys =>
      if sys.buffers = [] then
        let size := (sur40QueueSetup 0 0 sys.drv).2.2
        some { sys with buffers := List.replicate count ⟨size, 0, .dequeued⟩ }
      else none
  | .createBufs count size, sys =>
      let setup := sur40QueueSetup 1 size sys.drv
      if setup.1 ≠ 0 then some sys
      else some { sys with
        buffers := sys.buffers ++ List.replicate count ⟨setup.2.2, 0, .dequeued⟩ }
  | .freeBufs, sys =>
      if ∀ vb ∈ sys.buffers, vb.state ≠ .active then some { sys with buffers := [] } else none
  | .bufPrepare index plane, sys =>
      match sys.buffers[index]? with
      | some ⟨planeSize, payload, .dequeued⟩ =>
          let vb := prepareWith plane ⟨planeSize, payload, .dequeued⟩ sys.drv
          some { sys with buffers := sys.buffers.set index vb }
      | _ => none
  | .bufCancel index, sys =>
      match sys.buffers[index]? with
      | some ⟨planeSize, payload, .prepared⟩ =>
          some { sys with buffers := sys.buffers.set index ⟨planeSize, payload, .dequeued⟩ }
      | _ => none
  | .bufQueue index, sys =>
      match sys.buffers[index]? with
      | some ⟨planeSize, payload, .prepared⟩ =>
          ((VideoAction.bufferQueue ⟨index, planeSize, payload⟩).step sys.video).map fun video =>
            { sys with
              video
              buffers := sys.buffers.set index ⟨planeSize, payload, .active⟩ }
      | _ => none
  | .video a, sys =>
      if a.buffer?.isSome then none
      else
        (a.step sys.video).map fun video =>
          { sys with
            video
            buffers := BufferSys.settle (video.drv.done.drop sys.drv.done.length) sys.buffers }

def bufferSystem : Machine BufferSys BufferAction := ⟨BufferAction.step⟩

/-! ## The invariant -/

/-- The buffers that the driver has. -/
def Sur40State.owned (s : Sur40State) : List Sur40Buffer := s.curBuf.toList ++ s.bufList

theorem Sur40State.handedOver_eq (s : Sur40State) :
    s.handedOver = s.done.map Vb2BufferDone.buf ++ s.owned := List.append_assoc _ _ _

/-- A buffer that is not dequeued can hold a frame of the format and announces one. -/
def Vb2Buffer.Fits (size : ℕ) (vb : Vb2Buffer) : Prop :=
  vb.state ≠ .dequeued → vb.payload = size ∧ size ≤ vb.planeSize

structure BufferInv (sys : BufferSys) : Prop where
  video : VideoInv sys.video
  /-- The driver has the active buffers, with the sizes that videobuf2 knows. -/
  owned : ∀ buf ∈ sys.drv.owned,
    sys.buffers[buf.index]? = some ⟨buf.planeSize, buf.payload, .active⟩
  nodup : (sys.drv.owned.map Sur40Buffer.index).Nodup
  fits : ∀ vb ∈ sys.buffers, vb.Fits sys.drv.pixFmt.sizeimage
  frame : sys.drv.videoFrameUrb.inFlight = true →
    sys.drv.videoFrameUrb.transferBufferLength = sys.drv.pixFmt.sizeimage
  drain : sys.drv.videoDrainUrb.transferBufferLength ≤ sur40DrainSize
  hdr : sys.drv.videoHdrUrb.transferBufferLength = sys.drv.videoPktSize

/-! ## Giving buffers back -/

theorem Vb2Buffer.Fits.giveBack {size : ℕ} {vb : Vb2Buffer} (h : vb.Fits size)
    (state : Vb2BufferState) : (vb.giveBack state).Fits size := by
  by_cases hactive : vb.state = .active
  · rw [Vb2Buffer.giveBack, if_pos hactive]
    intro _
    exact h (by rw [hactive]; decide)
  · rw [Vb2Buffer.giveBack, if_neg hactive]
    exact h

namespace BufferSys

/-- Buffers that are not given back stay as they are. -/
theorem settle_getElem? {returned : List Vb2BufferDone} {i : ℕ}
    (hi : i ∉ returned.map fun d => d.buf.index) (vbs : List Vb2Buffer) :
    (settle returned vbs)[i]? = vbs[i]? := by
  induction returned generalizing vbs with
  | nil => rfl
  | cons d returned ih =>
      rw [List.map_cons, List.mem_cons, not_or] at hi
      have hcons : settle (d :: returned) vbs =
          settle returned (vbs.modify d.buf.index (Vb2Buffer.giveBack d.state)) := rfl
      rw [hcons, ih hi.2, List.getElem?_modify_ne _ _ (Ne.symm hi.1)]

theorem settle_fits {size : ℕ} (returned : List Vb2BufferDone) {vbs : List Vb2Buffer}
    (h : ∀ vb ∈ vbs, vb.Fits size) : ∀ vb ∈ settle returned vbs, vb.Fits size := by
  induction returned generalizing vbs with
  | nil => exact h
  | cons d returned ih =>
      refine ih fun vb hvb => ?_
      obtain ⟨i, hi⟩ := List.mem_iff_getElem?.mp hvb
      rw [List.getElem?_modify] at hi
      obtain ⟨old, hold, rfl⟩ := Option.map_eq_some_iff.mp hi
      have hfits := h old (List.mem_of_getElem? hold)
      split_ifs
      · exact hfits.giveBack d.state
      · exact hfits

end BufferSys

/-! ## Every step keeps the invariant -/

namespace BufferInv

variable {sys sys' : BufferSys}

theorem probe (videoNode : Bool) (touchPktSize videoPktSize : ℕ) :
    BufferInv (BufferSys.probe videoNode touchPktSize videoPktSize) where
  video := VideoInv.probe videoNode touchPktSize videoPktSize
  owned := by
    intro buf hbuf
    cases hbuf
  nodup := List.nodup_nil
  fits := by
    intro vb hvb
    cases hvb
  frame hf := absurd hf Bool.false_ne_true
  drain := Nat.zero_le _
  hdr := rfl

/-- Without buffers there is no frame. -/
theorem of_nil (h : BufferInv sys) (hnil : sys.buffers = []) :
    sys.drv.owned = [] ∧ sys.drv.videoFrameUrb.inFlight = false := by
  have howned : sys.drv.owned = [] := by
    apply List.eq_nil_iff_forall_not_mem.mpr
    intro buf hbuf
    have hentry := h.owned buf hbuf
    rw [hnil] at hentry
    cases hentry
  refine ⟨howned, ?_⟩
  rw [← Bool.not_eq_true]
  intro hf
  have hcur : sys.drv.curBuf = none :=
    Option.toList_eq_nil_iff.mp (List.append_eq_nil_iff.mp howned).1
  have hsome := h.video.cur.mpr (.inl hf)
  rw [show sys.video.drv.curBuf = none from hcur] at hsome
  cases hsome

/-- The format is set only while there are no buffers that were checked with another. -/
theorem sFmt (h : BufferInv sys) (pixelformat : UInt32) :
    BufferInv { sys with video := { sys.video with
      drv := (sur40VidiocSFmt sys.videoNode sys.busy pixelformat sys.drv).1 } } := by
  rw [sur40VidiocSFmt]
  split_ifs with hbusy
  · exact h
  · have hnil : sys.buffers = [] := by simpa [BufferSys.busy] using hbusy
    obtain ⟨howned, hidle⟩ := h.of_nil hnil
    exact { h with
      video := h.video.of_others (sur40FindFormat sys.videoNode pixelformat) _ _ _ _ _ _
      fits := by
        intro vb hvb
        rw [hnil] at hvb
        cases hvb
      frame := fun hf => absurd (hidle.symm.trans hf) Bool.false_ne_true }

/-- Buffers that the driver does not have can be exchanged. -/
theorem of_buffers (h : BufferInv sys) {buffers : List Vb2Buffer}
    (hactive : ∀ (i : ℕ) (vb : Vb2Buffer), sys.buffers[i]? = some vb → vb.state = .active →
      buffers[i]? = some vb)
    (hfits : ∀ vb ∈ buffers, vb.Fits sys.drv.pixFmt.sizeimage) :
    BufferInv { sys with buffers } :=
  { h with
    owned buf hbuf := hactive _ _ (h.owned buf hbuf) rfl
    fits := hfits }

/-- A buffer that is not active can be exchanged. -/
theorem of_set (h : BufferInv sys) {index : ℕ} {vb vb' : Vb2Buffer}
    (hvb : sys.buffers[index]? = some vb) (hstate : vb.state ≠ .active)
    (hfits : vb'.Fits sys.drv.pixFmt.sizeimage) :
    BufferInv { sys with buffers := sys.buffers.set index vb' } := by
  refine h.of_buffers (fun i other hi hactive => ?_) (fun other hother => ?_)
  · have hne : index ≠ i := by
      intro heq
      rw [heq, hi] at hvb
      exact hstate (Option.some.inj hvb ▸ hactive)
    rw [List.getElem?_set_ne hne, hi]
  · rcases List.mem_or_eq_of_mem_set hother with hold | hnew
    · exact h.fits other hold
    · rw [hnew]
      exact hfits

/-- New buffers are dequeued. -/
theorem of_append (h : BufferInv sys) (count size : ℕ) :
    BufferInv { sys with
      buffers := sys.buffers ++ List.replicate count ⟨size, 0, .dequeued⟩ } := by
  refine h.of_buffers (fun i vb hi _ => ?_) (fun vb hvb => ?_)
  · rw [List.getElem?_append_left (List.getElem?_eq_some_iff.mp hi).1, hi]
  · rcases List.mem_append.mp hvb with hold | hnew
    · exact h.fits vb hold
    · rw [(List.mem_replicate.mp hnew).2]
      exact fun hstate => absurd rfl hstate

/-- What `buf_prepare` has accepted can hold a frame and announces one. -/
theorem bufPrepare (h : BufferInv sys) {index planeSize payload : ℕ}
    (hvb : sys.buffers[index]? = some ⟨planeSize, payload, .dequeued⟩) (plane : Option ℕ) :
    BufferInv { sys with
      buffers := sys.buffers.set index (prepareWith plane ⟨planeSize, payload, .dequeued⟩ sys.drv)
    } := by
  refine h.of_set hvb (by simp) ?_
  rw [prepareWith, sur40BufferPrepare]
  by_cases hsmall : plane.getD planeSize < sys.drv.pixFmt.sizeimage
  · rw [if_pos hsmall, if_pos (show -einval ≠ 0 by decide)]
    exact fun hstate => absurd rfl hstate
  · rw [if_neg hsmall, if_neg (not_not.mpr rfl)]
    exact fun _ => ⟨Nat.min_eq_left (Nat.not_lt.mp hsmall), Nat.not_lt.mp hsmall⟩

theorem bufQueue (h : BufferInv sys) {index planeSize payload : ℕ}
    (hvb : sys.buffers[index]? = some ⟨planeSize, payload, .prepared⟩) :
    BufferInv { sys with
      video := { sys.video with
        drv := sur40BufferQueue ⟨index, planeSize, payload⟩ sys.drv
        queued := sys.video.queued ++ [⟨index, planeSize, payload⟩] }
      buffers := sys.buffers.set index ⟨planeSize, payload, .active⟩ } := by
  have howned : (sur40BufferQueue ⟨index, planeSize, payload⟩ sys.drv).owned =
      sys.drv.owned ++ [⟨index, planeSize, payload⟩] := (List.append_assoc _ _ _).symm
  have hfresh : index ∉ sys.drv.owned.map Sur40Buffer.index := by
    intro hmem
    obtain ⟨buf, hbuf, rfl⟩ := List.mem_map.mp hmem
    have hentry := h.owned buf hbuf
    rw [hvb] at hentry
    cases hentry
  have hfits : Vb2Buffer.Fits sys.drv.pixFmt.sizeimage ⟨planeSize, payload, .active⟩ :=
    fun _ => h.fits ⟨planeSize, payload, .prepared⟩ (List.mem_of_getElem? hvb) (by simp)
  have hset := h.of_set hvb (by simp) hfits
  exact { h with
    video := h.video.bufferQueue _
    owned := by
      intro buf hbuf
      rw [BufferSys.drv, howned, List.mem_append, List.mem_singleton] at hbuf
      rcases hbuf with hold | rfl
      · exact hset.owned buf hold
      · exact List.getElem?_set_self (List.getElem?_eq_some_iff.mp hvb).1
    nodup := by
      rw [BufferSys.drv, howned, List.map_append, List.nodup_append]
      refine ⟨h.nodup, List.nodup_singleton _, fun i hi j hj => ?_⟩
      rw [List.map_singleton, List.mem_singleton] at hj
      rintro rfl
      exact hfresh (by simpa [hj] using hi)
    fits := hset.fits }

/-- A step of the driver takes nothing from videobuf2: what it had is returned or still
there, and the entries of what is still there are untouched. -/
theorem video_step (h : BufferInv sys) {a : VideoAction} {video : VideoSys}
    (ha : a.buffer? = none) (hstep : a.step sys.video = some video) :
    BufferInv { sys with
      video
      buffers := BufferSys.settle (video.drv.done.drop sys.drv.done.length) sys.buffers } := by
  have hinv := h.video.step hstep
  have hfit := VideoAction.step_submitsFitting hstep
  have hsize : video.drv.pixFmt.sizeimage = sys.drv.pixFmt.sizeimage := hfit.sizeimage
  obtain ⟨returned, hdone⟩ := hfit.done
  have hnew : video.drv.done.drop sys.drv.done.length = returned := by
    rw [← hdone]
    exact List.drop_left
  have hsplit : sys.drv.owned = returned.map Vb2BufferDone.buf ++ video.drv.owned := by
    have hqueued := (VideoAction.step_driver hstep).2
    rw [ha, Option.toList_none, List.append_nil, ← hinv.conserved, ← h.video.conserved,
      Sur40State.handedOver_eq, Sur40State.handedOver_eq, ← hdone, List.map_append,
      List.append_assoc] at hqueued
    exact (List.append_cancel_left hqueued).symm
  have hnodup := h.nodup
  rw [hsplit, List.map_append, List.map_map, List.nodup_append] at hnodup
  rw [hnew]
  exact {
    video := hinv
    owned := by
      intro buf hbuf
      have hkept : buf.index ∉ returned.map fun d => d.buf.index :=
        fun hmem => hnodup.2.2 _ hmem _ (List.mem_map_of_mem hbuf) rfl
      rw [BufferSys.settle_getElem? hkept]
      exact h.owned buf (by rw [hsplit]; exact List.mem_append_right _ hbuf)
    nodup := hnodup.2.1
    fits := by
      have hfits := BufferSys.settle_fits returned h.fits
      rw [← hsize] at hfits
      exact hfits
    frame := by
      intro hf
      rcases hfit.frame hf with hlen | ⟨hold, hlen⟩
      · exact hlen.trans hsize.symm
      · exact hlen.trans ((h.frame hold).trans hsize.symm)
    drain := by
      rcases hfit.drain with hlen | hlen
      · exact hlen
      · exact hlen.trans_le h.drain
    hdr := by
      have hsizes := VideoAction.step_sizes hstep
      have hlen := congrArg (fun p => p.2.2) hsizes
      have hpkt := congrArg (fun p => p.2.1) hsizes
      exact hlen.trans (h.hdr.trans hpkt.symm) }

theorem step (h : BufferInv sys) {a : BufferAction} (hstep : a.step sys = some sys') :
    BufferInv sys' := by
  cases a with
  | sFmt pixelformat =>
      cases hstep
      exact h.sFmt pixelformat
  | reqBufs count =>
      simp only [BufferAction.step, Option.ite_none_right_eq_some, Option.some.injEq] at hstep
      obtain ⟨hnil, rfl⟩ := hstep
      have happend := h.of_append count (sur40QueueSetup 0 0 sys.drv).2.2
      rw [hnil] at happend
      exact happend
  | createBufs count size =>
      simp only [BufferAction.step] at hstep
      split at hstep
      · cases hstep
        exact h
      · cases hstep
        exact h.of_append count _
  | freeBufs =>
      simp only [BufferAction.step, Option.ite_none_right_eq_some, Option.some.injEq] at hstep
      obtain ⟨hfree, rfl⟩ := hstep
      refine h.of_buffers (fun i vb hi hactive => ?_) (fun vb hvb => ?_)
      · exact absurd hactive (hfree vb (List.mem_of_getElem? hi))
      · cases hvb
  | bufPrepare index plane =>
      simp only [BufferAction.step] at hstep
      split at hstep
      · next hvb =>
          cases hstep
          exact h.bufPrepare hvb plane
      · cases hstep
  | bufCancel index =>
      simp only [BufferAction.step] at hstep
      split at hstep
      · next hvb =>
          cases hstep
          exact h.of_set hvb (by simp) fun hstate => absurd rfl hstate
      · cases hstep
  | bufQueue index =>
      simp only [BufferAction.step] at hstep
      split at hstep
      · next hvb =>
          cases hstep
          exact h.bufQueue hvb
      · cases hstep
  | video a =>
      simp only [BufferAction.step] at hstep
      split at hstep
      · cases hstep
      · next hnone =>
          obtain ⟨video, hvideo, rfl⟩ := Option.map_eq_some_iff.mp hstep
          exact h.video_step (Option.not_isSome_iff_eq_none.mp hnone) hvideo

theorem of_run {videoNode : Bool} {touchPktSize videoPktSize : ℕ} {as : List BufferAction}
    (hrun : bufferSystem.run as (BufferSys.probe videoNode touchPktSize videoPktSize) =
      some sys) : BufferInv sys :=
  Machine.run_invariant (fun _ _ _ h hstep => h.step hstep)
    (probe videoNode touchPktSize videoPktSize) hrun

end BufferInv

/-! ## Transfers -/

/-- Every transfer that can be in flight is as long as its target allows: the header
transfer and the drain transfer their scratch buffers, and the frame transfer the buffer
that videobuf2 lists under the index of the current one. -/
structure TransfersFit (sys : BufferSys) : Prop where
  hdr : sys.drv.videoHdrUrb.transferBufferLength = sys.drv.videoPktSize
  drain : sys.drv.videoDrainUrb.transferBufferLength ≤ sur40DrainSize
  frame : sys.drv.videoFrameUrb.inFlight = true → ∃ buf vb,
    sys.drv.curBuf = some buf ∧ sys.drv.videoFrameUrb.sg = some buf ∧
    sys.buffers[buf.index]? = some vb ∧ vb.state = .active ∧
    vb.planeSize = buf.planeSize ∧ vb.payload = buf.payload ∧
    sys.drv.videoFrameUrb.transferBufferLength ≤ vb.planeSize ∧
    sys.drv.videoFrameUrb.transferBufferLength = vb.payload

theorem BufferInv.transfersFit {sys : BufferSys} (h : BufferInv sys) : TransfersFit sys where
  hdr := h.hdr
  drain := h.drain
  frame := by
    intro hf
    obtain ⟨buf, hcur⟩ := Option.isSome_iff_exists.mp (h.video.cur.mpr (.inl hf))
    have hmem : buf ∈ sys.drv.owned := by
      apply List.mem_append_left
      rw [show sys.drv.curBuf = some buf from hcur]
      exact List.mem_singleton_self buf
    have hentry := h.owned buf hmem
    obtain ⟨hpayload, hplane⟩ := h.fits _ (List.mem_of_getElem? hentry) (by simp)
    have hlen := h.frame hf
    exact ⟨buf, _, hcur, (h.video.target hf).trans hcur, hentry, rfl, rfl, rfl,
      hlen.trans_le hplane, hlen.trans hpayload.symm⟩

/-- **No access out of bounds.** Whatever a completed URB brings, the handlers read nothing
but what was received; and after every run of ioctls, callbacks and completions, every
transfer fits its target, and a frame has the length that was announced for its buffer. -/
theorem transfers_in_bounds :
    (∀ (urb : CompletedUrb) (err : ℤ) (s : Sur40State),
      (∀ i, sur40TouchCompleteChecked i urb err s =
        some (sur40TouchComplete i urb.completion err s)) ∧
      sur40VideoHdrCompleteChecked urb err s =
        some (sur40VideoHdrComplete urb.completion err s) ∧
      sur40VideoDrainCompleteChecked urb err s =
        some (sur40VideoDrainComplete urb.completion err s)) ∧
    ∀ (videoNode : Bool) (touchPktSize videoPktSize : ℕ) (as : List BufferAction)
      (sys : BufferSys),
      bufferSystem.run as (BufferSys.probe videoNode touchPktSize videoPktSize) = some sys →
        TransfersFit sys := by
  constructor
  · intro urb err s
    exact ⟨fun i => sur40TouchCompleteChecked_eq i urb err s,
      sur40VideoHdrCompleteChecked_eq urb err s, sur40VideoDrainCompleteChecked_eq urb err s⟩
  · intro videoNode touchPktSize videoPktSize as sys hrun
    exact (BufferInv.of_run hrun).transfersFit

/-- A buffer is allocated, prepared and queued, and a frame begins. -/
def frameIntoBuffer : List BufferAction :=
  [.sFmt v4l2PixFmtGrey, .reqBufs 1, .sFmt v4l2TchFmtTu08, .bufPrepare 0 none, .bufQueue 0,
    .video (.startStreaming willingEnv), .video (.complete .hdr frameHeader 0)]

theorem transfers_in_bounds_frameIntoBuffer :
    ∃ sys, bufferSystem.run frameIntoBuffer (BufferSys.probe true 512 512) = some sys ∧
      sys.drv.videoFrameUrb.inFlight = true ∧ TransfersFit sys :=
  ⟨_, rfl, rfl, transfers_in_bounds.2 true 512 512 frameIntoBuffer _ rfl⟩

end Sur40
