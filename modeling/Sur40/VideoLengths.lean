import Sur40.VideoSession

/-!
# The lengths of the video transfers

Whatever the driver does, it submits frame transfers of the size of the format and drain
transfers that the scratch buffer can hold, and it never takes back a buffer that it has
handed to videobuf2. The relation between the states is transitive, so that it is proved
for each helper and composed along the calls.

## Main definitions

* `SubmitsFitting`: the relation.
* `VideoAction.step_submitsFitting`: it holds of every step of the system.
-/

namespace Sur40

open Devlib

/-- Between the two states the format's size stays, buffers are only given back, and the
transfers submitted are as long as the format says, or as the scratch buffer allows. -/
structure SubmitsFitting (s s' : Sur40State) : Prop where
  sizeimage : s'.pixFmt.sizeimage = s.pixFmt.sizeimage
  done : s.done <+: s'.done
  frame : s'.videoFrameUrb.inFlight = true →
    s'.videoFrameUrb.transferBufferLength = s.pixFmt.sizeimage ∨
    s.videoFrameUrb.inFlight = true ∧
      s'.videoFrameUrb.transferBufferLength = s.videoFrameUrb.transferBufferLength
  drain : s'.videoDrainUrb.transferBufferLength ≤ sur40DrainSize ∨
    s'.videoDrainUrb.transferBufferLength = s.videoDrainUrb.transferBufferLength

namespace SubmitsFitting

variable {s s' s'' : Sur40State}

/-- Two steps, one behind the other. -/
theorem trans (h : SubmitsFitting s s') (h' : SubmitsFitting s' s'') : SubmitsFitting s s'' where
  sizeimage := h'.sizeimage.trans h.sizeimage
  done := h.done.trans h'.done
  frame hf := by
    rcases h'.frame hf with hlen | ⟨hf', hlen⟩
    · exact .inl (hlen.trans h.sizeimage)
    · rw [hlen]
      exact h.frame hf'
  drain := by
    rcases h'.drain with hlen | hlen
    · exact .inl hlen
    · rw [hlen]
      exact h.drain

/-- Nothing is submitted on the two URBs. -/
theorem of_urbs (hsize : s'.pixFmt.sizeimage = s.pixFmt.sizeimage) (hdone : s.done <+: s'.done)
    (hframe : s'.videoFrameUrb = s.videoFrameUrb)
    (hdrain : s'.videoDrainUrb = s.videoDrainUrb) : SubmitsFitting s s' where
  sizeimage := hsize
  done := hdone
  frame hf := by
    rw [hframe] at hf ⊢
    exact .inr ⟨hf, rfl⟩
  drain := .inr (congrArg _ hdrain)

theorem refl (s : Sur40State) : SubmitsFitting s s :=
  of_urbs rfl List.prefix_rfl rfl rfl

/-- An operation that leaves the length alone and does not submit. -/
theorem mapVideoUrb (s : Sur40State) (u : VideoUrb) {f : Urb → Urb}
    (hlen : ∀ urb, (f urb).transferBufferLength = urb.transferBufferLength)
    (hflight : ∀ urb, (f urb).inFlight = true → urb.inFlight = true) :
    SubmitsFitting s (s.mapVideoUrb u f) := by
  cases u with
  | hdr => exact of_urbs rfl List.prefix_rfl rfl rfl
  | frame =>
      refine ⟨rfl, List.prefix_rfl, fun hf => ?_, .inr rfl⟩
      exact .inr ⟨hflight _ hf, hlen _⟩
  | drain =>
      refine ⟨rfl, List.prefix_rfl, fun hf => ?_, .inr (hlen _)⟩
      exact .inr ⟨hf, rfl⟩

end SubmitsFitting

/-! ## The helpers -/

/-- A drain never asks for more than its buffer has. -/
theorem drainLength_le (count : ℕ) : drainLength count ≤ sur40DrainSize := by
  rw [drainLength]
  split_ifs
  · exact Nat.min_le_right _ _
  · exact Nat.le_refl _

/-- The drain URB gets the scratch buffer and a length within it. -/
theorem submitDrain_fitting (count : ℕ) (err : ℤ) (s : Sur40State) :
    SubmitsFitting s (sur40VideoSubmitDrain count err s) where
  sizeimage := rfl
  done := List.prefix_rfl
  frame hf := .inr ⟨hf, rfl⟩
  drain := by
    have hlen : (sur40VideoSubmitDrain count err s).videoDrainUrb.transferBufferLength =
        drainLength count := usbSubmitUrb_transferBufferLength _ err
    rw [hlen]
    exact .inl (drainLength_le count)

/-- A frame transfer has the size of the format, whether it can be submitted or not. -/
theorem handleHeader_fitting (img : Sur40ImageHeader) (err : ℤ) (s : Sur40State) :
    SubmitsFitting s (sur40VideoHandleHeader img err s) := by
  have hcases := sur40VideoHandleHeader_cases img err s
  generalize sur40VideoHandleHeader img err s = s' at hcases ⊢
  have hlen : ∀ buf, (usbSubmitUrb (s.frameUrbFor buf) err).1.transferBufferLength =
      s.pixFmt.sizeimage := fun buf => usbSubmitUrb_transferBufferLength _ err
  cases hcases with
  | drain count framesDropped =>
      have hlog : SubmitsFitting s { s.logHeader img with framesDropped } :=
        .of_urbs rfl List.prefix_rfl rfl rfl
      exact hlog.trans (submitDrain_fitting count err _)
  | frame buf bufs hbufs hret =>
      exact ⟨rfl, List.prefix_rfl, fun _ => .inl (hlen buf), .inr rfl⟩
  | failed buf bufs hbufs hret =>
      exact ⟨rfl, List.prefix_append _ _, fun _ => .inl (hlen buf), .inr rfl⟩

/-- A handler submits within the buffers, whatever has completed. -/
theorem videoComplete_fitting (u : VideoUrb) (c : Completion) (err : ℤ) (s : Sur40State) :
    SubmitsFitting s (videoComplete u c err s) := by
  have hgive : SubmitsFitting s (s.mapVideoUrb u Urb.giveback) :=
    .mapVideoUrb s u giveback_transferBufferLength (fun urb hf => by simp at hf)
  refine hgive.trans ?_
  have hcases := videoComplete_cases u c err s
  generalize s.mapVideoUrb u Urb.giveback = t at hcases ⊢
  generalize videoComplete u c err s = s' at hcases ⊢
  cases hcases with
  | dead hdead => exact .refl t
  | hdr hu => exact .of_urbs rfl List.prefix_rfl rfl rfl
  | frameDone hu buf hcur state frame sequence =>
      exact .of_urbs rfl (List.prefix_append _ _) rfl rfl
  | frameNone hu hcur => exact .of_urbs rfl List.prefix_rfl rfl rfl
  | drained hu => exact .of_urbs rfl List.prefix_rfl rfl rfl
  | drain hu count => exact submitDrain_fitting count err t
  | header hu img => exact handleHeader_fitting img err t

theorem stopLoopStep_fitting {l l' : StopLoop} {s s' : Sur40State}
    (h : l.step s = some (l', s')) : SubmitsFitting s s' := by
  obtain ⟨todo, waiting⟩ := l
  cases todo with
  | nil => cases waiting <;> cases h
  | cons u us =>
      cases waiting with
      | false =>
          cases h
          exact .mapVideoUrb s u (fun _ => rfl) fun _ hf => hf
      | true =>
          simp only [StopLoop.step, Option.ite_none_left_eq_some, Option.some.injEq,
            Prod.mk.injEq] at h
          rw [← h.2.2]
          exact .refl s

theorem returnAllBuffers_fitting (state : Vb2BufferState) (s : Sur40State) :
    SubmitsFitting s (returnAllBuffers state s) := by
  rw [returnAllBuffers_eq]
  exact .of_urbs rfl (List.prefix_append _ _) rfl rfl

theorem pipelineGet_fitting (env : PipelineEnv) (s : Sur40State) :
    SubmitsFitting s (sur40PipelineGet env s).1 := by
  obtain ⟨users, touchUrbs, needBlobs, inits, hget⟩ := sur40PipelineGet_eq env s
  rw [hget]
  exact .of_urbs rfl List.prefix_rfl rfl rfl

theorem pipelinePut_fitting (s : Sur40State) : SubmitsFitting s (sur40PipelinePut s) := by
  obtain ⟨users, touchUrbs, warnedUsers, hput⟩ := sur40PipelinePut_eq s
  rw [hput]
  exact .of_urbs rfl List.prefix_rfl rfl rfl

/-- The URBs keep their lengths. -/
theorem videoStart_fitting (err : ℤ) (s : Sur40State) :
    SubmitsFitting s (sur40VideoStart err s).1 := by
  simp only [sur40VideoStart, sur40VideoStop]
  split_ifs
  · exact ⟨rfl, List.prefix_rfl, fun hf => .inr ⟨hf, rfl⟩, .inr rfl⟩
  · exact ⟨rfl, List.prefix_rfl, fun hf => absurd hf Bool.false_ne_true, .inr rfl⟩
  · exact ⟨rfl, List.prefix_rfl, fun hf => .inr ⟨hf, rfl⟩, .inr rfl⟩

/-- Streaming starts with the header URB, whose buffer has its size from the probe. -/
theorem startStreaming_fitting (env : StreamEnv) (s : Sur40State) :
    SubmitsFitting s (sur40StartStreaming env s).1 := by
  have hget := pipelineGet_fitting env.pipeline s
  have hreset : SubmitsFitting (sur40PipelineGet env.pipeline s).1
      { (sur40PipelineGet env.pipeline s).1 with
        sequence := 0, framesDropped := 0, curBuf := none } :=
    .of_urbs rfl List.prefix_rfl rfl rfl
  have hstart := videoStart_fitting env.videoHdr { (sur40PipelineGet env.pipeline s).1 with
    sequence := 0, framesDropped := 0, curBuf := none }
  simp only [sur40StartStreaming]
  split_ifs
  · exact hget.trans (returnAllBuffers_fitting _ _)
  · refine hget.trans (hreset.trans (hstart.trans ?_))
    exact (pipelinePut_fitting _).trans (returnAllBuffers_fitting _ _)
  · exact hget.trans (hreset.trans hstart)

theorem stopStreamingReclaim_fitting (s : Sur40State) :
    SubmitsFitting s (sur40StopStreamingReclaim s) := by
  rw [sur40StopStreamingReclaim_eq]
  refine SubmitsFitting.trans ?_ (pipelinePut_fitting _)
  exact .of_urbs rfl (List.prefix_append _ _) rfl rfl

/-! ## The steps -/

/-- Every step of the video system submits within the buffers. -/
theorem VideoAction.step_submitsFitting {sys sys' : VideoSys} {a : VideoAction}
    (hstep : a.step sys = some sys') : SubmitsFitting sys.drv sys'.drv := by
  have hdrv := (VideoAction.step_driver hstep).1
  generalize sys.drv = s at hdrv ⊢
  generalize sys'.drv = s' at hdrv ⊢
  cases hdrv with
  | same => exact .refl s
  | bufferQueue buf => exact .of_urbs rfl List.prefix_rfl rfl rfl
  | startStreaming env => exact startStreaming_fitting env s
  | stopLoop h => exact stopLoopStep_fitting h
  | stopReturn => exact stopStreamingReclaim_fitting s
  | disconnect => exact .of_urbs rfl List.prefix_rfl rfl rfl
  | disconnectFlag => exact .of_urbs rfl List.prefix_rfl rfl rfl
  | complete u c err hflight => exact videoComplete_fitting u c err s
  | openInput env => exact pipelineGet_fitting env s
  | closeInput => exact pipelinePut_fitting s
  | touchComplete i c err =>
      obtain ⟨touchUrbs, needBlobs, input, heq, -⟩ := touchGiveback_eq i c err s
      rw [heq]
      exact .of_urbs rfl List.prefix_rfl rfl rfl

end Sur40
