import Sur40.Touch
import Sur40.Video

/-!
# Starting and stopping the pipelines

The touch pipeline runs while the input device is open or video is streaming; the
consumers are counted. Every call here runs to its end: a poisoned URB is idle when
`usbPoisonUrb` returns.

## Main definitions

* `sur40Init`: the initialization sequence of the device.
* `sur40TouchStart`, `sur40TouchStop`, `sur40PipelineGet`, `sur40PipelinePut`: the
  touch pipeline and its reference count.
* `sur40VideoStart`, `sur40VideoStop`: the video pipeline.
* `sur40Open`, `sur40Close`, `sur40StartStreaming`, `sur40StopStreaming`,
  `sur40Disconnect`: the entry points.
-/

namespace Sur40

/-! ## Device initialization -/

/-- A control request of the initialization sequence. -/
structure Sur40Command where
  command : UInt8
  index : UInt16
  size : UInt16
  deriving DecidableEq

def sur40GetVersion : UInt8 := 0xb0
def sur40AccelCaps : UInt8 := 0xb3
def sur40SensorCaps : UInt8 := 0xc1

/-- The init sequence of the original driver, in order. -/
def sur40InitCommands : List Sur40Command :=
  [⟨sur40GetVersion, 0x00, 12⟩, ⟨sur40GetVersion, 0x01, 12⟩, ⟨sur40GetVersion, 0x02, 12⟩,
    ⟨sur40SensorCaps, 0x00, 24⟩, ⟨sur40AccelCaps, 0x00, 5⟩, ⟨sur40GetVersion, 0x03, 12⟩]

/-- What the surroundings answer to `sur40_init`: whether the result buffer can be
allocated, and the result of each control request. -/
structure InitEnv where
  kmalloc : Bool
  sur40Command : Sur40Command → ℤ

/-- Send the commands until one fails. -/
def InitEnv.replay (env : InitEnv) : List Sur40Command → ℤ
  | [] => 0
  | cmd :: cmds =>
      let result := env.sur40Command cmd
      if result < 0 then result else env.replay cmds

/-- The result of the initialization. -/
def InitEnv.result (env : InitEnv) : ℤ :=
  if env.kmalloc then env.replay sur40InitCommands else -enomem

/-- Initialization routine, called when the first consumer shows up. -/
def sur40Init (env : InitEnv) (sur40 : Sur40State) : Sur40State × ℤ :=
  ({ sur40 with inits := sur40.inits + 1 }, env.result)

/-! ## The touch pipeline -/

/-- Poison all touch URBs. -/
def sur40TouchStop (sur40 : Sur40State) : Sur40State :=
  if sur40.disconnected then sur40
  else { sur40 with touchUrbs := fun i => usbPoisonUrb (sur40.touchUrbs i) }

/-- The submission loop; a failure stops all URBs again. -/
def sur40TouchSubmit (err : Fin sur40TouchUrbs → ℤ) :
    List (Fin sur40TouchUrbs) → Sur40State → Sur40State × ℤ
  | [], sur40 => (sur40, 0)
  | i :: is, sur40 =>
      let submit := usbSubmitUrb (sur40.touchUrbs i) (err i)
      let sur40 := { sur40 with touchUrbs := Function.update sur40.touchUrbs i submit.1 }
      if submit.2 ≠ 0 then (sur40TouchStop sur40, submit.2) else sur40TouchSubmit err is sur40

def sur40TouchStart (err : Fin sur40TouchUrbs → ℤ) (sur40 : Sur40State) : Sur40State × ℤ :=
  let sur40 := { sur40 with needBlobs := -1 }
  let sur40 := { sur40 with touchUrbs := fun i => usbUnpoisonUrb (sur40.touchUrbs i) }
  sur40TouchSubmit err (List.finRange sur40TouchUrbs) sur40

/-- What the surroundings answer while the touch pipeline comes up. -/
structure PipelineEnv where
  init : InitEnv
  /-- Outcome of the submission of each touch URB. -/
  touch : Fin sur40TouchUrbs → ℤ

def sur40PipelineGet (env : PipelineEnv) (sur40 : Sur40State) : Sur40State × ℤ :=
  let (sur40, ret) :=
    if sur40.users = 0 then
      let (sur40, ret) := sur40Init env.init sur40
      if ret = 0 then sur40TouchStart env.touch sur40 else (sur40, ret)
    else (sur40, 0)
  if ret = 0 then ({ sur40 with users := sur40.users + 1 }, ret) else (sur40, ret)

def sur40PipelinePut (sur40 : Sur40State) : Sur40State :=
  if sur40.users = 0 then { sur40 with warnedUsers := true }
  else
    let sur40 := { sur40 with users := sur40.users - 1 }
    if sur40.users = 0 then sur40TouchStop sur40 else sur40

/-! ## The input device -/

def sur40Open (env : PipelineEnv) (sur40 : Sur40State) : Sur40State × ℤ :=
  sur40PipelineGet env sur40

def sur40Close (sur40 : Sur40State) : Sur40State := sur40PipelinePut sur40

/-! ## The video pipeline -/

/-- Poison all video URBs. -/
def sur40VideoStop (sur40 : Sur40State) : Sur40State :=
  if sur40.disconnected then sur40
  else
    { sur40 with
      videoHdrUrb := usbPoisonUrb sur40.videoHdrUrb
      videoFrameUrb := usbPoisonUrb sur40.videoFrameUrb
      videoDrainUrb := usbPoisonUrb sur40.videoDrainUrb }

def sur40VideoStart (err : ℤ) (sur40 : Sur40State) : Sur40State × ℤ :=
  let sur40 := { sur40 with
    drainRemaining := 0
    videoHdrUrb := usbUnpoisonUrb sur40.videoHdrUrb
    videoFrameUrb := usbUnpoisonUrb sur40.videoFrameUrb
    videoDrainUrb := usbUnpoisonUrb sur40.videoDrainUrb }
  let submit := usbSubmitUrb sur40.videoHdrUrb err
  let sur40 := { sur40 with videoHdrUrb := submit.1 }
  if submit.2 ≠ 0 then (sur40VideoStop sur40, submit.2) else (sur40, submit.2)

/-- What the surroundings answer to `sur40_start_streaming`. -/
structure StreamEnv where
  pipeline : PipelineEnv
  /-- Outcome of the submission of the header URB. -/
  videoHdr : ℤ

/-- Make sure the touch pipeline is running and queue the first video header URB. -/
def sur40StartStreaming (env : StreamEnv) (sur40 : Sur40State) : Sur40State × ℤ :=
  let get := sur40PipelineGet env.pipeline sur40
  if get.2 ≠ 0 then (returnAllBuffers .queued get.1, get.2)
  else
    let start := sur40VideoStart env.videoHdr
      { get.1 with sequence := 0, framesDropped := 0, curBuf := none }
    if start.2 ≠ 0 then (returnAllBuffers .queued (sur40PipelinePut start.1), start.2)
    else (start.1, 0)

/-- The rest of `sur40_stop_streaming` once the video URBs are stopped: hand every
buffer back and release the touch pipeline. -/
def sur40StopStreamingReclaim (sur40 : Sur40State) : Sur40State :=
  let sur40 := match sur40.curBuf with
    | none => sur40
    | some buf => { vb2BufferDone buf .error none sur40 with curBuf := none }
  sur40PipelinePut (returnAllBuffers .error sur40)

/-- Cancel the video URBs, then hand every buffer back. -/
def sur40StopStreaming (sur40 : Sur40State) : Sur40State :=
  sur40StopStreamingReclaim (sur40VideoStop sur40)

/-- Kill everything that is in flight; afterwards the stop helpers are no-ops. -/
def sur40Disconnect (sur40 : Sur40State) : Sur40State :=
  { sur40 with
    touchUrbs := fun i => usbPoisonUrb (sur40.touchUrbs i)
    videoHdrUrb := usbPoisonUrb sur40.videoHdrUrb
    videoFrameUrb := usbPoisonUrb sur40.videoFrameUrb
    videoDrainUrb := usbPoisonUrb sur40.videoDrainUrb
    disconnected := true }

/-! ## What the calls can do -/

theorem sur40TouchStop_eq (s : Sur40State) :
    sur40TouchStop s = { s with touchUrbs :=
      if s.disconnected then s.touchUrbs else fun i => usbPoisonUrb (s.touchUrbs i) } := by
  rw [sur40TouchStop]
  split_ifs <;> rfl

/-- The submission loop either gets every URB of the list into flight, or fails with
all of them stopped again. -/
theorem sur40TouchSubmit_cases (err : Fin sur40TouchUrbs → ℤ) (is : List (Fin sur40TouchUrbs))
    (hnodup : is.Nodup) (s : Sur40State) :
    (∃ urbs, sur40TouchSubmit err is s = ({ s with touchUrbs := urbs }, 0) ∧
      (∀ i, (urbs i).reject = (s.touchUrbs i).reject) ∧
      (∀ i ∈ is, (urbs i).inFlight = true ∧ (urbs i).reject ≤ 0) ∧
      ∀ i, i ∉ is → urbs i = s.touchUrbs i) ∨
    ∃ urbs ret, ret ≠ 0 ∧ sur40TouchSubmit err is s = ({ s with touchUrbs := urbs }, ret) ∧
      ∀ i, (urbs i).reject = (s.touchUrbs i).reject + if s.disconnected then 0 else 1 := by
  induction is generalizing s with
  | nil => exact .inl ⟨s.touchUrbs, rfl, fun _ => rfl, by simp, fun _ _ => rfl⟩
  | cons i is ih =>
      obtain ⟨hi, hnodup⟩ := List.nodup_cons.mp hnodup
      have hreject : ∀ j, (Function.update s.touchUrbs i
          (usbSubmitUrb (s.touchUrbs i) (err i)).1 j).reject = (s.touchUrbs j).reject := by
        intro j
        rw [Function.update_apply]
        split_ifs with hj
        · rw [hj, usbSubmitUrb_reject]
        · rfl
      rw [sur40TouchSubmit]
      by_cases hret : (usbSubmitUrb (s.touchUrbs i) (err i)).2 = 0
      · rw [if_neg (not_not.mpr hret)]
        obtain ⟨hidle, hready, -⟩ := (usbSubmitUrb_eq_zero _ _).mp hret
        have hflight : (usbSubmitUrb (s.touchUrbs i) (err i)).1.inFlight = true := by
          rw [usbSubmitUrb_inFlight _ _ hidle, hret]
          rfl
        rcases ih hnodup { s with
            touchUrbs :=
              Function.update s.touchUrbs i (usbSubmitUrb (s.touchUrbs i) (err i)).1 } with
          ⟨urbs, heq, hsame, hflights, hothers⟩ | ⟨urbs, ret, hret', heq, hsame⟩
        · refine .inl ⟨urbs, heq, fun j => (hsame j).trans (hreject j), ?_, ?_⟩
          · intro j hj
            rcases List.mem_cons.mp hj with rfl | hj
            · have hfirst : urbs j = (usbSubmitUrb (s.touchUrbs j) (err j)).1 :=
                (hothers j hi).trans (Function.update_self ..)
              rw [hfirst, usbSubmitUrb_reject]
              exact ⟨hflight, hready⟩
            · exact hflights j hj
          · intro j hj
            rw [List.mem_cons, not_or] at hj
            exact (hothers j hj.2).trans (Function.update_of_ne hj.1 ..)
        · exact .inr ⟨urbs, ret, hret', heq, fun j =>
            (hsame j).trans (congrArg (· + _) (hreject j))⟩
      · rw [if_pos hret, sur40TouchStop_eq]
        refine .inr ⟨_, _, hret, rfl, fun j => ?_⟩
        cases s.disconnected with
        | true => exact (hreject j).trans (add_zero _).symm
        | false => exact congrArg (· + 1) (hreject j)

/-- What `sur40_pipeline_get` can do. -/
inductive PipelineGetCase (env : PipelineEnv) (s : Sur40State) : Sur40State × ℤ → Prop
  /-- One more consumer of a running pipeline. -/
  | shared (husers : 0 < s.users) : PipelineGetCase env s ({ s with users := s.users + 1 }, 0)
  /-- The device could not be initialized. -/
  | initFailed (husers : s.users = 0) (hinit : env.init.result ≠ 0) :
      PipelineGetCase env s ({ s with inits := s.inits + 1 }, env.init.result)
  /-- One of the URBs could not be submitted. -/
  | submitFailed (urbs : Fin sur40TouchUrbs → Urb) (ret : ℤ) (husers : s.users = 0)
      (hinit : env.init.result = 0) (hret : ret ≠ 0)
      (hreject : ∀ i, (urbs i).reject =
        (s.touchUrbs i).reject - 1 + if s.disconnected then 0 else 1) :
      PipelineGetCase env s
        ({ s with inits := s.inits + 1, needBlobs := -1, touchUrbs := urbs }, ret)
  /-- The pipeline runs. -/
  | started (urbs : Fin sur40TouchUrbs → Urb) (husers : s.users = 0)
      (hinit : env.init.result = 0)
      (hreject : ∀ i, (urbs i).reject = (s.touchUrbs i).reject - 1)
      (hflight : ∀ i, (urbs i).inFlight = true ∧ (urbs i).reject ≤ 0) :
      PipelineGetCase env s
        ({ s with inits := s.inits + 1, needBlobs := -1, touchUrbs := urbs, users := 1 }, 0)

theorem sur40PipelineGet_cases (env : PipelineEnv) (s : Sur40State) :
    PipelineGetCase env s (sur40PipelineGet env s) := by
  rw [sur40PipelineGet]
  by_cases husers : s.users = 0
  · rw [if_pos husers]
    by_cases hinit : env.init.result = 0
    · have hstart : sur40Init env.init s = ({ s with inits := s.inits + 1 }, 0) := by
        rw [sur40Init, hinit]
      rw [hstart]
      dsimp only
      rw [if_pos rfl, sur40TouchStart]
      rcases sur40TouchSubmit_cases env.touch (List.finRange sur40TouchUrbs)
        (List.nodup_finRange _) { s with
          inits := s.inits + 1
          needBlobs := -1
          touchUrbs := fun i => usbUnpoisonUrb (s.touchUrbs i) } with
        ⟨urbs, heq, hreject, hflight, -⟩ | ⟨urbs, ret, hret, heq, hreject⟩
      · rw [heq]
        dsimp only
        rw [if_pos rfl, husers]
        exact .started urbs husers hinit hreject fun i => hflight i (List.mem_finRange i)
      · rw [heq]
        dsimp only
        rw [if_neg hret]
        exact .submitFailed urbs ret husers hinit hret hreject
    · have hfail : sur40Init env.init s = ({ s with inits := s.inits + 1 }, env.init.result) :=
        rfl
      rw [hfail]
      dsimp only
      rw [if_neg hinit]
      dsimp only
      rw [if_neg hinit]
      exact .initFailed husers hinit
  · rw [if_neg husers]
    exact .shared (Nat.pos_of_ne_zero husers)

/-- Dropping a consumer of a running pipeline. -/
theorem sur40PipelinePut_of_pos {s : Sur40State} (h : 0 < s.users) :
    ∃ urbs, sur40PipelinePut s = { s with users := s.users - 1, touchUrbs := urbs } ∧
      ∀ i, (urbs i).reject = (s.touchUrbs i).reject +
        if s.users = 1 ∧ s.disconnected = false then 1 else 0 := by
  rw [sur40PipelinePut, if_neg (Nat.pos_iff_ne_zero.mp h)]
  dsimp only
  by_cases hlast : s.users - 1 = 0
  · rw [if_pos hlast, sur40TouchStop_eq]
    refine ⟨_, rfl, fun i => ?_⟩
    cases hd : s.disconnected with
    | true => simp
    | false => simp [show s.users = 1 by omega]
  · rw [if_neg hlast]
    exact ⟨s.touchUrbs, rfl, fun i => by rw [if_neg (by omega), add_zero]⟩

theorem sur40VideoStop_of_attached {s : Sur40State} (hd : s.disconnected = false) :
    sur40VideoStop s = { s with
      videoHdrUrb := usbPoisonUrb s.videoHdrUrb
      videoFrameUrb := usbPoisonUrb s.videoFrameUrb
      videoDrainUrb := usbPoisonUrb s.videoDrainUrb } :=
  if_neg (by simp [hd])

/-- The video pipeline comes up, or all its URBs are stopped again. -/
theorem sur40VideoStart_cases (err : ℤ) (s : Sur40State) :
    (∃ hdr, sur40VideoStart err s = ({ s with
        drainRemaining := 0
        videoHdrUrb := hdr
        videoFrameUrb := usbUnpoisonUrb s.videoFrameUrb
        videoDrainUrb := usbUnpoisonUrb s.videoDrainUrb }, 0) ∧
      hdr.inFlight = true ∧ hdr.reject = s.videoHdrUrb.reject - 1 ∧ hdr.reject ≤ 0 ∧
      hdr.transferBufferLength = s.videoHdrUrb.transferBufferLength) ∨
    ∃ hdr ret, ret ≠ 0 ∧ sur40VideoStart err s = (sur40VideoStop { s with
        drainRemaining := 0
        videoHdrUrb := hdr
        videoFrameUrb := usbUnpoisonUrb s.videoFrameUrb
        videoDrainUrb := usbUnpoisonUrb s.videoDrainUrb }, ret) ∧
      hdr.reject = s.videoHdrUrb.reject - 1 ∧
      (s.videoHdrUrb.inFlight = false → hdr.inFlight = false) := by
  simp only [sur40VideoStart]
  by_cases hret : (usbSubmitUrb (usbUnpoisonUrb s.videoHdrUrb) err).2 = 0
  · obtain ⟨hidle, hready, -⟩ := (usbSubmitUrb_eq_zero _ _).mp hret
    rw [if_neg (not_not.mpr hret), hret]
    refine .inl ⟨_, rfl, ?_, ?_, ?_, ?_⟩
    · rw [usbSubmitUrb_inFlight _ _ hidle, hret]
      rfl
    · rw [usbSubmitUrb_reject, usbUnpoisonUrb_reject]
    · rw [usbSubmitUrb_reject]
      exact hready
    · rw [usbSubmitUrb_transferBufferLength]
      rfl
  · rw [if_pos hret]
    refine .inr ⟨_, _, hret, rfl, ?_, fun hidle => ?_⟩
    · rw [usbSubmitUrb_reject, usbUnpoisonUrb_reject]
    · rw [usbSubmitUrb_inFlight _ _ (by simpa using hidle), decide_eq_false hret]

/-- Whatever the driver still owns is handed back, the current buffer first. -/
theorem sur40StopStreamingReclaim_eq (s : Sur40State) :
    sur40StopStreamingReclaim s = sur40PipelinePut { s with
      done := s.done ++ (s.curBuf.toList ++ s.bufList).map fun buf => ⟨buf, .error, none⟩
      curBuf := none
      bufList := [] } := by
  rw [sur40StopStreamingReclaim]
  cases hcur : s.curBuf with
  | none =>
      dsimp only
      rw [returnAllBuffers_eq, hcur]
      rfl
  | some buf =>
      dsimp only
      rw [returnAllBuffers_eq]
      simp only [vb2BufferDone, Option.toList_some, List.singleton_append, List.map_cons,
        List.append_assoc]

end Sur40
