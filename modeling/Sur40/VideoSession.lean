import Sur40.VideoRuns

/-!
# Streaming sessions

A session begins when `sur40_start_streaming` succeeds on an attached device. As long
as nothing fails and nothing is cancelled, all URBs but one are idle and none is
poisoned.

## Main definitions

* `Sur40State.sizes`: the sizes that never change.
* `JustStarted`: the beginning of a session.
* `InSession`: what holds while nothing disturbs it.
* `Ready`: the driver between the return of a URB and the next submission.
-/

namespace Sur40

open Devlib

/-! ## What never changes -/

/-- The expected size, and the sizes of a header transfer. -/
def Sur40State.sizes (s : Sur40State) : ℕ × ℕ × ℕ :=
  (s.pixFmt.sizeimage, s.videoPktSize, s.videoHdrUrb.transferBufferLength)

/-- What happens to a video URB leaves the sizes of its buffers. -/
theorem mapVideoUrb_sizes (s : Sur40State) (u : VideoUrb) {f : Urb → Urb}
    (hf : ∀ urb, (f urb).transferBufferLength = urb.transferBufferLength) :
    (s.mapVideoUrb u f).sizes = s.sizes := by
  cases u
  · exact congrArg (fun n => (s.pixFmt.sizeimage, s.videoPktSize, n)) (hf s.videoHdrUrb)
  · rfl
  · rfl

theorem submitHdr_sizes (err : ℤ) (s : Sur40State) :
    (sur40VideoSubmitHdr err s).sizes = s.sizes :=
  congrArg (fun n => (s.pixFmt.sizeimage, s.videoPktSize, n))
    (usbSubmitUrb_transferBufferLength s.videoHdrUrb err)

/-- No size changes, whatever the header says. -/
theorem handleHeader_sizes (img : Sur40ImageHeader) (err : ℤ) (s : Sur40State) :
    (sur40VideoHandleHeader img err s).sizes = s.sizes := by
  have hcases := sur40VideoHandleHeader_cases img err s
  generalize sur40VideoHandleHeader img err s = s' at hcases ⊢
  cases hcases <;> rfl

/-- A handler leaves the sizes as they are. -/
theorem videoComplete_sizes (u : VideoUrb) (c : Completion) (err : ℤ) (s : Sur40State) :
    (videoComplete u c err s).sizes = s.sizes := by
  rw [← mapVideoUrb_sizes s u giveback_transferBufferLength]
  have hcases := videoComplete_cases u c err s
  generalize videoComplete u c err s = s' at hcases ⊢
  cases hcases with
  | dead hdead => rfl
  | hdr hu => exact submitHdr_sizes err _
  | frameDone hu buf hcur state frame sequence => exact submitHdr_sizes err _
  | frameNone hu hcur => exact submitHdr_sizes err _
  | drained hu => exact submitHdr_sizes err _
  | drain hu count => rfl
  | header hu img => exact handleHeader_sizes img err _

theorem stopLoopStep_sizes {l l' : StopLoop} {s s' : Sur40State}
    (h : l.step s = some (l', s')) : s'.sizes = s.sizes := by
  obtain ⟨todo, waiting⟩ := l
  cases todo with
  | nil => cases waiting <;> cases h
  | cons u us =>
      cases waiting with
      | false =>
          cases h
          exact mapVideoUrb_sizes s u fun _ => rfl
      | true =>
          simp only [StopLoop.step, Option.ite_none_left_eq_some, Option.some.injEq,
            Prod.mk.injEq] at h
          rw [h.2.2]

theorem pipelinePut_sizes (s : Sur40State) : (sur40PipelinePut s).sizes = s.sizes := by
  obtain ⟨users, touchUrbs, warnedUsers, hput⟩ := sur40PipelinePut_eq s
  rw [hput]
  rfl

theorem videoStart_sizes (err : ℤ) (s : Sur40State) :
    (sur40VideoStart err s).1.sizes = s.sizes := by
  have hlen : (usbSubmitUrb (usbUnpoisonUrb s.videoHdrUrb) err).1.transferBufferLength =
      s.videoHdrUrb.transferBufferLength := usbSubmitUrb_transferBufferLength _ err
  simp only [sur40VideoStart, sur40VideoStop]
  split_ifs <;> exact congrArg (fun n => (s.pixFmt.sizeimage, s.videoPktSize, n)) hlen

/-- So does the start of streaming. -/
theorem startStreaming_sizes (env : StreamEnv) (s : Sur40State) :
    (sur40StartStreaming env s).1.sizes = s.sizes := by
  obtain ⟨users, touchUrbs, needBlobs, inits, hget⟩ := sur40PipelineGet_eq env.pipeline s
  have hstart := videoStart_sizes env.videoHdr { (sur40PipelineGet env.pipeline s).1 with
    sequence := 0, framesDropped := 0, curBuf := none }
  have hsame : (sur40PipelineGet env.pipeline s).1.sizes = s.sizes := by
    rw [hget]
    rfl
  simp only [sur40StartStreaming]
  split_ifs
  · rw [returnAllBuffers_eq]
    exact hsame
  · rw [returnAllBuffers_eq]
    exact (pipelinePut_sizes _).trans (hstart.trans hsame)
  · exact hstart.trans hsame

/-- No step of the video system changes a size. -/
theorem VideoAction.step_sizes {sys sys' : VideoSys} {a : VideoAction}
    (hstep : a.step sys = some sys') : sys'.drv.sizes = sys.drv.sizes := by
  have hdrv := (VideoAction.step_driver hstep).1
  generalize sys.drv = s at hdrv ⊢
  generalize sys'.drv = s' at hdrv ⊢
  cases hdrv with
  | same => rfl
  | bufferQueue buf => rfl
  | startStreaming env => exact startStreaming_sizes env s
  | stopLoop h => exact stopLoopStep_sizes h
  | stopReturn =>
      rw [sur40StopStreamingReclaim_eq]
      exact pipelinePut_sizes _
  | disconnect => rfl
  | disconnectFlag => rfl
  | complete u c err hflight => exact videoComplete_sizes u c err s
  | openInput env =>
      obtain ⟨users, touchUrbs, needBlobs, inits, heq⟩ := sur40PipelineGet_eq env s
      rw [sur40Open, heq]
      rfl
  | closeInput => exact pipelinePut_sizes s
  | touchComplete i c err =>
      obtain ⟨touchUrbs, needBlobs, input, heq, -⟩ := touchGiveback_eq i c err s
      rw [heq]
      rfl

/-! ## Sessions -/

/-- Streaming has just been started, after any history of a driver whose endpoint has
packets of 512 bytes. -/
def JustStarted (sys : VideoSys) : Prop :=
  ∃ videoNode touchPktSize as before env,
    videoSystem.run as (VideoSys.probe videoNode touchPktSize 512) = some before ∧
    (VideoAction.startStreaming env).step before = some sys ∧
    sys.vb2 = .streaming ∧ sys.unplug = .attached

/-- Streaming has been started with two buffers. -/
def streamingSys : VideoSys where
  drv := (sur40StartStreaming willingEnv (sur40BufferQueue secondBuffer
    (sur40BufferQueue frameBuffer (sur40Probe false 512 512)))).1
  vb2 := .streaming
  unplug := .attached
  queued := [frameBuffer, secondBuffer]
  cancelled := false
  intact := true

theorem justStarted_streamingSys : JustStarted streamingSys :=
  ⟨false, 512, [.bufferQueue frameBuffer, .bufferQueue secondBuffer], _, willingEnv, rfl, rfl,
    rfl, rfl⟩

/-- Undisturbed streaming. -/
structure InSession (sys : VideoSys) : Prop where
  inv : VideoInv sys
  intact : sys.intact = true
  sizes : sys.drv.sizes = (518400, 512, 512)

/-- The session begins where streaming has been started. -/
theorem JustStarted.inSession {sys : VideoSys} (h : JustStarted sys) : InSession sys := by
  obtain ⟨videoNode, touchPktSize, as, before, env, hrun, hstep, hstream, hatt⟩ := h
  have hinv := VideoInv.of_run hrun
  have hsizes : before.drv.sizes = (518400, 512, 512) :=
    Machine.run_invariant (I := fun s : VideoSys => s.drv.sizes = (518400, 512, 512))
      (fun _ _ _ h hstep => (VideoAction.step_sizes hstep).trans h)
      (congrArg (fun n => (n, 512, 512)) (sur40FindFormat_sizeimage videoNode 0)) hrun
  exact ⟨hinv.step hstep, intact_of_started hstep hstream hatt,
    (VideoAction.step_sizes hstep).trans hsizes⟩

/-- A session begins with the header URB in flight and the counters at zero. -/
theorem JustStarted.started {sys : VideoSys} (h : JustStarted sys) :
    sys.drv.videoHdrUrb.inFlight = true ∧ sys.drv.curBuf = none ∧ sys.drv.sequence = 0 ∧
      sys.drv.framesDropped = 0 := by
  obtain ⟨videoNode, touchPktSize, as, before, env, hrun, hstep, hstream, hatt⟩ := h
  have hinv := VideoInv.of_run hrun
  cases VideoAction.step_cases hstep with
  | startStreaming _ hstop hgone =>
      have hvideo := (hinv.start_video hstop hgone env).1
      split_ifs at hstream hvideo
      exact ⟨hvideo.hdr.1, hvideo.curBuf, hvideo.counters⟩

namespace InSession

variable {sys sys' : VideoSys}

theorem sizeimage (h : InSession sys) : sys.drv.pixFmt.sizeimage = 518400 :=
  congrArg (fun p => p.1) h.sizes

theorem pktSize (h : InSession sys) : sys.drv.videoPktSize = 512 :=
  congrArg (fun p => p.2.1) h.sizes

theorem hdrLength (h : InSession sys) : sys.drv.videoHdrUrb.transferBufferLength = 512 :=
  congrArg (fun p => p.2.2) h.sizes

/-- A URB is in flight. -/
theorem live (h : InSession sys) : ∃ u, (sys.drv.videoUrb u).inFlight = true :=
  (h.inv.intact h.intact).2.2

/-- No video URB is poisoned in a session. -/
theorem reject (h : InSession sys) (u : VideoUrb) : (sys.drv.videoUrb u).reject = 0 := by
  obtain ⟨hstream, hatt, -⟩ := h.inv.intact h.intact
  rw [h.inv.poison (by simp [hatt]), hstream, hatt]
  rfl

/-- There is a current buffer exactly while the frame URB is in flight. -/
theorem curBuf_isSome (h : InSession sys) :
    sys.drv.curBuf.isSome = sys.drv.videoFrameUrb.inFlight := by
  obtain ⟨u, hu⟩ := h.live
  exact h.inv.curBuf_isSome hu

/-- While the header or the drain URB is in flight no frame is being received. -/
theorem curBuf_eq_none (h : InSession sys) {u : VideoUrb} (hu : u ≠ .frame)
    (hflight : (sys.drv.videoUrb u).inFlight = true) : sys.drv.curBuf = none := by
  rw [← Option.isNone_iff_eq_none, ← Option.isSome_eq_false_iff, h.curBuf_isSome,
    ← Bool.not_eq_true]
  exact fun hframe => hu (h.inv.exclusive u .frame hflight hframe)

/-- A session goes on as long as nothing disturbs it. -/
theorem step (h : InSession sys) {a : VideoAction} (ha : a.Undisturbed)
    (hstep : a.step sys = some sys') : InSession sys' where
  inv := h.inv.step hstep
  intact := ha.intact h.inv h.intact hstep
  sizes := (VideoAction.step_sizes hstep).trans h.sizes

end InSession

/-! ## Between two URBs -/

/-- No URB is in flight and none is poisoned. -/
structure Ready (s : Sur40State) : Prop where
  idle : Idle s
  reject : ∀ u, (s.videoUrb u).reject ≤ 0
  sizeimage : s.pixFmt.sizeimage = 518400
  pktSize : s.videoPktSize = 512

theorem InSession.ready {sys : VideoSys} (h : InSession sys) {u : VideoUrb}
    (hflight : (sys.drv.videoUrb u).inFlight = true) :
    Ready (sys.drv.mapVideoUrb u Urb.giveback) where
  idle := h.inv.exclusive.idle_giveback hflight
  reject w := by
    have hw := h.reject w
    cases u <;> cases w <;> exact hw.le
  sizeimage := by
    have hsize := h.sizeimage
    cases u <;> exact hsize
  pktSize := by
    have hsize := h.pktSize
    cases u <;> exact hsize

namespace Ready

variable {s : Sur40State}

theorem submitHdr (h : Ready s) : (sur40VideoSubmitHdr 0 s).videoHdrUrb.inFlight = true :=
  usbSubmitUrb_live (h.idle .hdr) (h.reject .hdr) rfl

theorem submitDrain (h : Ready s) (count : ℕ) :
    (sur40VideoSubmitDrain count 0 s).videoDrainUrb.inFlight = true :=
  usbSubmitUrb_live (h.idle .drain) (h.reject .drain) rfl

theorem submitFrame (h : Ready s) (buf : Sur40Buffer) :
    usbSubmitUrb (s.frameUrbFor buf) 0 = ({ s.frameUrbFor buf with inFlight := true }, 0) :=
  usbSubmitUrb_of_ready (h.idle .frame) (h.reject .frame)

end Ready

end Sur40
