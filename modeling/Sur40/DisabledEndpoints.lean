import Sur40.VideoSystem

/-!
# Disabled endpoints

Before the USB core calls `sur40_disconnect` it disables the endpoints of the interface, and from
then on it refuses every submission. Whatever the driver does from then on, a URB that is idle
stays idle.

## Main definitions

* `NoneStarted`: what was idle before is idle afterwards.
* `PipelineEnv.Refused`, `StreamEnv.Refused`: all submissions of a call are refused.
* `NoneStarted.of_touchGiveback`, `NoneStarted.of_videoComplete`, `NoneStarted.of_open`,
  `NoneStarted.of_startStreaming`: the functions of the driver.
-/

namespace Sur40

/-- No URB gets into flight. -/
structure NoneStarted (s s' : Sur40State) : Prop where
  touch : ∀ i, (s.touchUrbs i).inFlight = false → (s'.touchUrbs i).inFlight = false
  video : ∀ u, (s.videoUrb u).inFlight = false → (s'.videoUrb u).inFlight = false

/-- Every submission of the touch pipeline is refused. -/
def PipelineEnv.Refused (env : PipelineEnv) : Prop := ∀ i, env.touch i ≠ 0

instance (env : PipelineEnv) : Decidable env.Refused :=
  inferInstanceAs (Decidable (∀ i, env.touch i ≠ 0))

/-- Every submission of `start_streaming` is refused. -/
def StreamEnv.Refused (env : StreamEnv) : Prop := env.pipeline.Refused ∧ env.videoHdr ≠ 0

instance (env : StreamEnv) : Decidable env.Refused :=
  inferInstanceAs (Decidable (env.pipeline.Refused ∧ env.videoHdr ≠ 0))

/-- A URB that the core refuses stays as it is. -/
theorem usbSubmitUrb_refused {urb : Urb} {err : ℤ} (herr : err ≠ 0)
    (hidle : urb.inFlight = false) : (usbSubmitUrb urb err).1.inFlight = false := by
  have hret : (usbSubmitUrb urb err).2 ≠ 0 := by
    intro h0
    exact herr ((usbSubmitUrb_eq_zero urb err).mp h0).2.2
  rw [usbSubmitUrb_inFlight urb err hidle, decide_eq_false hret]

namespace NoneStarted

variable {s t s' : Sur40State}

theorem refl (s : Sur40State) : NoneStarted s s := ⟨fun _ h => h, fun _ h => h⟩

/-- Two steps that start nothing, one behind the other. -/
theorem trans (h : NoneStarted s t) (h' : NoneStarted t s') : NoneStarted s s' :=
  ⟨fun i hi => h'.touch i (h.touch i hi), fun u hu => h'.video u (h.video u hu)⟩

/-! ## The touch pipeline -/

/-- `usb_kill_urb` only ends transfers. -/
theorem of_touchStop (s : Sur40State) : NoneStarted s (sur40TouchStop s) := by
  rw [sur40TouchStop]
  split_ifs
  · exact refl s
  · exact ⟨fun _ _ => rfl, fun u hu => by cases u <;> exact hu⟩

/-- One of the touch URBs is replaced by one that is not in flight unless it was. -/
theorem of_update {i : Fin sur40TouchUrbs} {urb : Urb}
    (h : (s.touchUrbs i).inFlight = false → urb.inFlight = false) :
    NoneStarted s { s with touchUrbs := Function.update s.touchUrbs i urb } := by
  refine ⟨fun j hj => ?_, fun u hu => by cases u <;> exact hu⟩
  by_cases hij : j = i
  · rw [hij] at hj ⊢
    simpa using h hj
  · simpa [hij] using hj

/-- The submissions of the touch URBs, of which the first one fails. -/
theorem of_touchSubmit {err : Fin sur40TouchUrbs → ℤ} (herr : ∀ i, err i ≠ 0)
    (is : List (Fin sur40TouchUrbs)) (s : Sur40State) :
    NoneStarted s (sur40TouchSubmit err is s).1 := by
  induction is generalizing s with
  | nil => exact refl s
  | cons i is ih =>
      have hsubmit := of_update (s := s) (i := i) (usbSubmitUrb_refused (herr i))
      simp only [sur40TouchSubmit]
      split_ifs
      · exact hsubmit.trans (of_touchStop _)
      · exact hsubmit.trans (ih _)

/-- A start that is refused stops what it has submitted. -/
theorem of_touchStart {err : Fin sur40TouchUrbs → ℤ} (herr : ∀ i, err i ≠ 0) (s : Sur40State) :
    NoneStarted s (sur40TouchStart err s).1 := by
  have hunpoison : NoneStarted s { s with
      needBlobs := -1, touchUrbs := fun i => usbUnpoisonUrb (s.touchUrbs i) } :=
    ⟨fun _ hi => hi, fun u hu => by cases u <;> exact hu⟩
  exact hunpoison.trans (of_touchSubmit herr _ _)

/-- A consumer that finds the pipeline stopped cannot start it. -/
theorem of_pipelineGet {env : PipelineEnv} (henv : env.Refused) (s : Sur40State) :
    NoneStarted s (sur40PipelineGet env s).1 := by
  have hstart := of_touchStart henv { s with inits := s.inits + 1 }
  have hinits : NoneStarted s { s with inits := s.inits + 1 } :=
    ⟨fun _ hi => hi, fun u hu => by cases u <;> exact hu⟩
  have husers : ∀ t : Sur40State, NoneStarted t { t with users := t.users + 1 } :=
    fun t => ⟨fun _ hi => hi, fun u hu => by cases u <;> exact hu⟩
  have hcount : ∀ get : Sur40State × ℤ, NoneStarted s get.1 →
      NoneStarted s (if get.2 = 0 then ({ get.1 with users := get.1.users + 1 }, get.2)
        else (get.1, get.2)).1 := by
    intro get hget
    split_ifs
    · exact hget.trans (husers get.1)
    · exact hget
  by_cases h0 : s.users = 0
  · rw [sur40PipelineGet, if_pos h0]
    dsimp only [sur40Init]
    by_cases hinit : env.init.result = 0
    · rw [if_pos hinit]
      exact hcount _ (hinits.trans hstart)
    · rw [if_neg hinit]
      exact hcount (_, _) hinits
  · rw [sur40PipelineGet, if_neg h0]
    exact hcount (s, 0) (refl s)

/-- The last consumer stops the pipeline. -/
theorem of_pipelinePut (s : Sur40State) : NoneStarted s (sur40PipelinePut s) := by
  have husers : ∀ users warnedUsers, NoneStarted s { s with users, warnedUsers } :=
    fun _ _ => ⟨fun _ hi => hi, fun u hu => by cases u <;> exact hu⟩
  rw [sur40PipelinePut]
  dsimp only
  split_ifs
  · exact husers s.users true
  · exact (husers (s.users - 1) s.warnedUsers).trans (of_touchStop _)
  · exact husers (s.users - 1) s.warnedUsers

theorem of_open {env : PipelineEnv} (henv : env.Refused) (s : Sur40State) :
    NoneStarted s (sur40Open env s).1 := of_pipelineGet henv s

theorem of_close (s : Sur40State) : NoneStarted s (sur40Close s) := of_pipelinePut s

/-- A touch completion whose resubmission is refused. -/
theorem of_touchGiveback {err : ℤ} (herr : err ≠ 0) (i : Fin sur40TouchUrbs) (c : Completion)
    (s : Sur40State) : NoneStarted s (touchGiveback i c err s) := by
  have hgive : NoneStarted s { s with
      touchUrbs := Function.update s.touchUrbs i (s.touchUrbs i).giveback } :=
    of_update fun _ => rfl
  have hdecode : ∀ (t : Sur40State) (needBlobs : ℤ) (input : InputDev),
      NoneStarted t { t with needBlobs, input } :=
    fun _ _ _ => ⟨fun _ hi => hi, fun u hu => by cases u <;> exact hu⟩
  rw [touchGiveback, sur40TouchComplete]
  split_ifs
  · exact hgive
  · exact (hgive.trans (hdecode _ (-1) _)).trans (of_update (usbSubmitUrb_refused herr))
  · exact (hgive.trans (hdecode _ (-1) _)).trans (of_update (usbSubmitUrb_refused herr))
  · rcases sur40TouchPacket_eq c.data
      { s with touchUrbs := Function.update s.touchUrbs i (s.touchUrbs i).giveback } with
      ⟨needBlobs, input, heq⟩
    rw [heq]
    exact (hgive.trans (hdecode _ needBlobs input)).trans (of_update (usbSubmitUrb_refused herr))

/-! ## The video pipeline -/

/-- The video URBs are replaced by ones that are not in flight unless they were. -/
theorem of_videoUrbs (htouch : s'.touchUrbs = s.touchUrbs)
    (hhdr : s.videoHdrUrb.inFlight = false → s'.videoHdrUrb.inFlight = false)
    (hframe : s.videoFrameUrb.inFlight = false → s'.videoFrameUrb.inFlight = false)
    (hdrain : s.videoDrainUrb.inFlight = false → s'.videoDrainUrb.inFlight = false) :
    NoneStarted s s' := by
  refine ⟨fun i hi => ?_, fun u => ?_⟩
  · rw [htouch]
    exact hi
  · cases u with
    | hdr => exact hhdr
    | frame => exact hframe
    | drain => exact hdrain

/-- The header URB stays idle if it was. -/
theorem of_submitHdr {err : ℤ} (herr : err ≠ 0) (s : Sur40State) :
    NoneStarted s (sur40VideoSubmitHdr err s) :=
  of_videoUrbs rfl (usbSubmitUrb_refused herr) (fun h => h) fun h => h

theorem of_submitDrain {err : ℤ} (herr : err ≠ 0) (count : ℕ) (s : Sur40State) :
    NoneStarted s (sur40VideoSubmitDrain count err s) :=
  of_videoUrbs rfl (fun h => h) (fun h => h) fun h => usbSubmitUrb_refused herr h

/-- Whatever the header says, the transfer behind it is refused. -/
theorem of_handleHeader {err : ℤ} (herr : err ≠ 0) (img : Sur40ImageHeader) (s : Sur40State) :
    NoneStarted s (sur40VideoHandleHeader img err s) := by
  have hcases := sur40VideoHandleHeader_cases img err s
  generalize sur40VideoHandleHeader img err s = s' at hcases ⊢
  cases hcases with
  | drain count framesDropped =>
      have hlog : NoneStarted s { s.logHeader img with framesDropped } :=
        of_videoUrbs rfl (fun h => h) (fun h => h) fun h => h
      exact hlog.trans (of_submitDrain herr count _)
  | frame buf bufs hbufs hret =>
      exact of_videoUrbs rfl (fun h => h) (fun h => usbSubmitUrb_refused herr h) fun h => h
  | failed buf bufs hbufs hret =>
      exact of_videoUrbs rfl (fun h => h) (fun h => usbSubmitUrb_refused herr h) fun h => h

/-- A URB is changed, but not started. -/
theorem of_mapVideoUrb {f : Urb → Urb} (s : Sur40State) (u : VideoUrb)
    (hf : ∀ urb : Urb, urb.inFlight = false → (f urb).inFlight = false) :
    NoneStarted s (s.mapVideoUrb u f) := by
  cases u with
  | hdr => exact of_videoUrbs rfl (hf _) (fun h => h) fun h => h
  | frame => exact of_videoUrbs rfl (fun h => h) (hf _) fun h => h
  | drain => exact of_videoUrbs rfl (fun h => h) (fun h => h) (hf _)

/-- A video completion whose resubmission is refused. -/
theorem of_videoComplete {err : ℤ} (herr : err ≠ 0) (u : VideoUrb) (c : Completion)
    (s : Sur40State) : NoneStarted s (videoComplete u c err s) := by
  have hgive := of_mapVideoUrb s u fun urb _ => giveback_inFlight urb
  have hcases := videoComplete_cases u c err s
  generalize s.mapVideoUrb u Urb.giveback = t at hgive hcases
  generalize videoComplete u c err s = s' at hcases ⊢
  apply hgive.trans
  cases hcases with
  | dead hdead => exact refl t
  | hdr hu => exact of_submitHdr herr t
  | frameDone hu buf hcur state frame sequence =>
      exact of_videoUrbs rfl (usbSubmitUrb_refused herr) (fun h => h) fun h => h
  | frameNone hu hcur =>
      exact of_videoUrbs rfl (usbSubmitUrb_refused herr) (fun h => h) fun h => h
  | drained hu => exact of_videoUrbs rfl (usbSubmitUrb_refused herr) (fun h => h) fun h => h
  | drain hu count => exact of_submitDrain herr count t
  | header hu img => exact of_handleHeader herr img t

/-- The video URBs are killed one after the other. -/
theorem of_videoStop (s : Sur40State) : NoneStarted s (sur40VideoStop s) := by
  rw [sur40VideoStop]
  split_ifs
  · exact refl s
  · exact of_videoUrbs rfl (fun _ => rfl) (fun _ => rfl) fun _ => rfl

theorem of_videoStart {err : ℤ} (herr : err ≠ 0) (s : Sur40State) :
    NoneStarted s (sur40VideoStart err s).1 := by
  have hsubmit : NoneStarted s { s with
      drainRemaining := 0
      videoHdrUrb := (usbSubmitUrb (usbUnpoisonUrb s.videoHdrUrb) err).1
      videoFrameUrb := usbUnpoisonUrb s.videoFrameUrb
      videoDrainUrb := usbUnpoisonUrb s.videoDrainUrb } :=
    of_videoUrbs rfl (fun h => usbSubmitUrb_refused herr h) (fun h => h) fun h => h
  simp only [sur40VideoStart]
  split_ifs
  · exact hsubmit.trans (of_videoStop _)
  · exact hsubmit

theorem of_returnAllBuffers (state : Vb2BufferState) (s : Sur40State) :
    NoneStarted s (returnAllBuffers state s) := by
  rw [returnAllBuffers_eq]
  exact of_videoUrbs rfl (fun h => h) (fun h => h) fun h => h

/-- Streaming cannot start; the buffers go back. -/
theorem of_startStreaming {env : StreamEnv} (henv : env.Refused) (s : Sur40State) :
    NoneStarted s (sur40StartStreaming env s).1 := by
  have hget := of_pipelineGet henv.1 s
  have hstart := of_videoStart henv.2 { (sur40PipelineGet env.pipeline s).1 with
    sequence := 0, framesDropped := 0, curBuf := none }
  have hreset : NoneStarted s { (sur40PipelineGet env.pipeline s).1 with
      sequence := 0, framesDropped := 0, curBuf := none } :=
    hget.trans (of_videoUrbs rfl (fun h => h) (fun h => h) fun h => h)
  simp only [sur40StartStreaming]
  split_ifs
  · exact hget.trans (of_returnAllBuffers _ _)
  · exact ((hreset.trans hstart).trans (of_pipelinePut _)).trans (of_returnAllBuffers _ _)
  · exact hreset.trans hstart

theorem of_stopStreamingReclaim (s : Sur40State) :
    NoneStarted s (sur40StopStreamingReclaim s) := by
  have hdone : ∀ t : Sur40State, NoneStarted t (returnAllBuffers .error t) :=
    of_returnAllBuffers .error
  rw [sur40StopStreamingReclaim]
  cases s.curBuf with
  | none => exact (hdone s).trans (of_pipelinePut _)
  | some buf =>
      have hbuf : NoneStarted s { vb2BufferDone buf .error none s with curBuf := none } :=
        of_videoUrbs rfl (fun h => h) (fun h => h) fun h => h
      exact (hbuf.trans (hdone _)).trans (of_pipelinePut _)

/-- A step of the loop that kills the video URBs. -/
theorem of_stopLoop {l l' : StopLoop} (h : l.step s = some (l', s')) : NoneStarted s s' := by
  rcases l with ⟨todo, waiting⟩
  cases todo with
  | nil => cases waiting <;> cases h
  | cons u us =>
      cases waiting with
      | false =>
          cases h
          exact of_mapVideoUrb s u fun _ hidle => hidle
      | true =>
          simp only [StopLoop.step, Option.ite_none_left_eq_some, Option.some.injEq,
            Prod.mk.injEq] at h
          rw [h.2.2]
          exact refl s'

end NoneStarted

end Sur40
