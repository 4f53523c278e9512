import Sur40.Pipeline
import Sur40.Lib.Machine

/-!
# The consumers of the touch pipeline

The input device and video streaming share one touch pipeline. Any number of
opens and closes, starts and stops may follow each other, any of them may fail at
any point, and completions arrive in between: the reference count is the number
of consumers, and poisoning stays balanced.

## Main definitions

* `DriverCall`, `Session`, `calls`: the entry points, called in a legal order.
* `DriverEvent`, `events`: the same with completions in between.
* `DriverCall.StepCase`, `DriverEvent.StepCase`: what a call and an event can be.
* `Accounting`: the counters of the state.
* `Balanced`: the invariant.
-/

namespace Sur40

open Devlib

/-! ## Sessions -/

/-- An entry point of the driver, with what the surroundings answer to it. -/
inductive DriverCall where
  | openInput (env : PipelineEnv)
  | closeInput
  | startStreaming (env : StreamEnv)
  | stopStreaming

/-- The driver and what its callers hold of it. -/
structure Session where
  drv : Sur40State
  /-- Successful opens that have not been closed. -/
  opens : ℕ
  /-- A `start_streaming` succeeded and has not been stopped. -/
  streaming : Bool

def Session.probe (videoNode : Bool) (touchPktSize videoPktSize : ℕ) : Session :=
  { drv := sur40Probe videoNode touchPktSize videoPktSize, opens := 0, streaming := false }

/-- One call. Only what was opened is closed, and videobuf2 starts streaming only
while it is stopped and stops it only while it runs. -/
def DriverCall.step : DriverCall → Session → Option Session
  | .openInput env, st =>
      let (drv, ret) := sur40Open env st.drv
      some { st with drv, opens := if ret = 0 then st.opens + 1 else st.opens }
  | .closeInput, st =>
      if 0 < st.opens then some { st with drv := sur40Close st.drv, opens := st.opens - 1 }
      else none
  | .startStreaming env, st =>
      if st.streaming then none
      else
        let (drv, ret) := sur40StartStreaming env st.drv
        some { st with drv, streaming := ret = 0 }
  | .stopStreaming, st =>
      if st.streaming then
        some { st with drv := sur40StopStreaming st.drv, streaming := false }
      else none

/-- Calls in any legal order. -/
def calls : Machine Session DriverCall := ⟨DriverCall.step⟩

/-- A call, or the completion of a URB that is in flight. -/
inductive DriverEvent where
  | call (c : DriverCall)
  | touchUrb (i : Fin sur40TouchUrbs) (c : Completion) (err : ℤ)
  | videoUrb (u : VideoUrb) (c : Completion) (err : ℤ)

def DriverEvent.step : DriverEvent → Session → Option Session
  | .call c, st => c.step st
  | .touchUrb i c err, st =>
      if (st.drv.touchUrbs i).inFlight then some { st with drv := touchGiveback i c err st.drv }
      else none
  | .videoUrb u c err, st =>
      if (st.drv.videoUrb u).inFlight then some { st with drv := videoComplete u c err st.drv }
      else none

/-- Calls with completions in between. -/
def events : Machine Session DriverEvent := ⟨DriverEvent.step⟩

/-- The calls, each with what allows it and what it leaves. -/
inductive DriverCall.StepCase (st : Session) : DriverCall → Session → Prop where
  | openInput (env : PipelineEnv) : StepCase st (.openInput env)
      { st with
        drv := (sur40Open env st.drv).1
        opens := if (sur40Open env st.drv).2 = 0 then st.opens + 1 else st.opens }
  | closeInput (hopens : 0 < st.opens) : StepCase st .closeInput
      { st with drv := sur40Close st.drv, opens := st.opens - 1 }
  | startStreaming (env : StreamEnv) (hidle : st.streaming = false) :
      StepCase st (.startStreaming env)
        { st with
          drv := (sur40StartStreaming env st.drv).1
          streaming := (sur40StartStreaming env st.drv).2 = 0 }
  | stopStreaming (hrun : st.streaming = true) : StepCase st .stopStreaming
      { st with drv := sur40StopStreaming st.drv, streaming := false }

theorem DriverCall.step_cases {st st' : Session} {c : DriverCall} (hstep : c.step st = some st') :
    StepCase st c st' := by
  cases c with
  | openInput env =>
      cases hstep
      exact .openInput env
  | closeInput =>
      simp only [DriverCall.step, Option.ite_none_right_eq_some, Option.some.injEq] at hstep
      obtain ⟨hopens, rfl⟩ := hstep
      exact .closeInput hopens
  | startStreaming env =>
      simp only [DriverCall.step, Option.ite_none_left_eq_some, Bool.not_eq_true,
        Option.some.injEq] at hstep
      obtain ⟨hidle, rfl⟩ := hstep
      exact .startStreaming env hidle
  | stopStreaming =>
      simp only [DriverCall.step, Option.ite_none_right_eq_some, Option.some.injEq] at hstep
      obtain ⟨hrun, rfl⟩ := hstep
      exact .stopStreaming hrun

/-- The same for events. -/
inductive DriverEvent.StepCase (st : Session) : DriverEvent → Session → Prop where
  | call {c : DriverCall} {st' : Session} (hcall : c.step st = some st') :
      StepCase st (.call c) st'
  | touchUrb (i : Fin sur40TouchUrbs) (c : Completion) (err : ℤ)
      (hflight : (st.drv.touchUrbs i).inFlight = true) : StepCase st (.touchUrb i c err)
      { st with drv := touchGiveback i c err st.drv }
  | videoUrb (u : VideoUrb) (c : Completion) (err : ℤ)
      (hflight : (st.drv.videoUrb u).inFlight = true) : StepCase st (.videoUrb u c err)
      { st with drv := videoComplete u c err st.drv }

theorem DriverEvent.step_cases {st st' : Session} {e : DriverEvent}
    (hstep : e.step st = some st') : StepCase st e st' := by
  cases e with
  | call c => exact .call hstep
  | touchUrb i c err =>
      simp only [DriverEvent.step, Option.ite_none_right_eq_some, Option.some.injEq] at hstep
      obtain ⟨hflight, rfl⟩ := hstep
      exact .touchUrb i c err hflight
  | videoUrb u c err =>
      simp only [DriverEvent.step, Option.ite_none_right_eq_some, Option.some.injEq] at hstep
      obtain ⟨hflight, rfl⟩ := hstep
      exact .videoUrb u c err hflight

/-! ## Accounting -/

/-- The counters of the state. -/
structure Accounting where
  users : ℕ
  touch : Fin sur40TouchUrbs → ℤ
  videoHdr : ℤ
  videoFrame : ℤ
  videoDrain : ℤ
  disconnected : Bool
  inits : ℕ
  warnedUsers : Bool

def Sur40State.accounting (s : Sur40State) : Accounting where
  users := s.users
  touch i := (s.touchUrbs i).reject
  videoHdr := s.videoHdrUrb.reject
  videoFrame := s.videoFrameUrb.reject
  videoDrain := s.videoDrainUrb.reject
  disconnected := s.disconnected
  inits := s.inits
  warnedUsers := s.warnedUsers

/-! ### Completions leave the counters alone -/

theorem submitHdr_accounting (err : ℤ) (s : Sur40State) :
    (sur40VideoSubmitHdr err s).accounting = s.accounting :=
  congrArg (fun videoHdr => { s.accounting with videoHdr }) (sur40Resubmit_reject _ err)

theorem submitDrain_accounting (count : ℕ) (err : ℤ) (s : Sur40State) :
    (sur40VideoSubmitDrain count err s).accounting = s.accounting :=
  congrArg (fun videoDrain => { s.accounting with videoDrain }) (sur40Resubmit_reject _ err)

theorem handleHeader_accounting (img : Sur40ImageHeader) (err : ℤ) (s : Sur40State) :
    (sur40VideoHandleHeader img err s).accounting = s.accounting := by
  have hcases := sur40VideoHandleHeader_cases img err s
  generalize sur40VideoHandleHeader img err s = s' at hcases ⊢
  cases hcases with
  | drain count framesDropped => exact submitDrain_accounting ..
  | frame buf bufs hbufs hret =>
      exact congrArg (fun videoFrame => { s.accounting with videoFrame })
        (usbSubmitUrb_reject _ err)
  | failed buf bufs hbufs hret =>
      exact congrArg (fun videoFrame => { s.accounting with videoFrame })
        (usbSubmitUrb_reject _ err)

/-- A completion of a video URB moves no counter. -/
theorem videoComplete_accounting (u : VideoUrb) (c : Completion) (err : ℤ)
    (s : Sur40State) : (videoComplete u c err s).accounting = s.accounting := by
  have hgive : (s.mapVideoUrb u Urb.giveback).accounting = s.accounting := by
    cases u <;> rfl
  rw [← hgive]
  have hcases := videoComplete_cases u c err s
  generalize s.mapVideoUrb u Urb.giveback = t at hcases ⊢
  generalize videoComplete u c err s = s' at hcases ⊢
  cases hcases with
  | dead hdead => rfl
  | hdr hu => exact submitHdr_accounting ..
  | frameDone hu buf hcur state frame sequence => exact submitHdr_accounting ..
  | frameNone hu hcur => exact submitHdr_accounting ..
  | drained hu => exact submitHdr_accounting ..
  | drain hu count => exact submitDrain_accounting ..
  | header hu img => exact handleHeader_accounting ..

/-- Nor does a completion of a touch URB. -/
theorem touchGiveback_accounting (i : Fin sur40TouchUrbs) (c : Completion) (err : ℤ)
    (s : Sur40State) : (touchGiveback i c err s).accounting = s.accounting := by
  obtain ⟨urbs, needBlobs, input, heq, hreject⟩ := touchGiveback_eq i c err s
  rw [heq]
  exact congrArg (fun touch => { s.accounting with touch }) (funext hreject)

/-! ### Calls on an attached device -/

/-- The touch counters that belong to a number of users: poisoned once while there
is none. -/
def Accounting.setUsers (a : Accounting) (users : ℕ) : Accounting :=
  { a with users, touch := fun _ => if 0 < users then 0 else 1 }

/-- The video counters, all changed alike. -/
def Accounting.addVideo (a : Accounting) (n : ℤ) : Accounting :=
  { a with
    videoHdr := a.videoHdr + n
    videoFrame := a.videoFrame + n
    videoDrain := a.videoDrain + n }

@[simp] theorem Accounting.addVideo_zero (a : Accounting) : a.addVideo 0 = a := by
  simp [addVideo]

/-- Taking the touch pipeline into use: the device is initialized if there was no
user, and a failure leaves no trace in the other counters. -/
theorem pipelineGet_accounting (env : PipelineEnv) (s : Sur40State)
    (hd : s.disconnected = false) (hb : s.accounting.setUsers s.users = s.accounting) :
    (sur40PipelineGet env s).1.accounting =
      { s.accounting.setUsers (s.users + if (sur40PipelineGet env s).2 = 0 then 1 else 0) with
        inits := s.inits + if s.users = 0 then 1 else 0 } := by
  have htouch : ∀ i, (s.touchUrbs i).reject = if 0 < s.users then 0 else 1 :=
    fun i => (congrFun (congrArg Accounting.touch hb) i).symm
  have hcases := sur40PipelineGet_cases env s
  generalize sur40PipelineGet env s = r at hcases ⊢
  cases hcases with
  | shared husers =>
      have hsame : (fun i => (s.touchUrbs i).reject) =
          fun _ => if 0 < s.users + 1 then 0 else 1 := by
        funext i
        rw [htouch, if_pos husers, if_pos (Nat.succ_pos _)]
      rw [if_pos rfl, if_neg (Nat.pos_iff_ne_zero.mp husers)]
      exact congrArg (fun touch => { s.accounting with touch, users := s.users + 1 }) hsame
  | initFailed husers hinit =>
      rw [if_neg hinit, if_pos husers, add_zero, hb]
      rfl
  | submitFailed urbs ret husers hinit hret hreject =>
      have hsame : (fun i => (urbs i).reject) = s.accounting.touch := by
        funext i
        rw [hreject, hd]
        exact Int.sub_add_cancel _ _
      rw [if_neg hret, if_pos husers, add_zero, hb]
      exact congrArg (fun touch => { s.accounting with touch, inits := s.inits + 1 }) hsame
  | started urbs husers hinit hreject hflight =>
      have hsame : (fun i => (urbs i).reject) = fun _ => if 0 < 0 + 1 then 0 else 1 := by
        funext i
        rw [hreject, htouch, husers]
        rfl
      rw [if_pos rfl, husers, if_pos rfl]
      exact congrArg (fun touch =>
        { s.accounting with touch, users := 1, inits := s.inits + 1 }) hsame

theorem pipelinePut_accounting (s : Sur40State) (hd : s.disconnected = false)
    (hb : s.accounting.setUsers s.users = s.accounting) (hpos : 0 < s.users) :
    (sur40PipelinePut s).accounting = s.accounting.setUsers (s.users - 1) := by
  obtain ⟨urbs, heq, hreject⟩ := sur40PipelinePut_of_pos hpos
  have htouch : ∀ i, (s.touchUrbs i).reject = if 0 < s.users then 0 else 1 :=
    fun i => (congrFun (congrArg Accounting.touch hb) i).symm
  have hsame : (fun i => (urbs i).reject) = fun _ => if 0 < s.users - 1 then 0 else 1 := by
    funext i
    simp only [hreject, htouch, if_pos hpos, hd, and_true, zero_add]
    split_ifs <;> omega
  rw [heq]
  exact congrArg (fun touch => { s.accounting with touch, users := s.users - 1 }) hsame

theorem videoStop_accounting (s : Sur40State) (hd : s.disconnected = false) :
    (sur40VideoStop s).accounting = s.accounting.addVideo 1 := by
  rw [sur40VideoStop_of_attached hd]
  rfl

/-- Starting the video pipeline unpoisons its URBs; a failure poisons them again. -/
theorem videoStart_accounting (err : ℤ) (s : Sur40State) (hd : s.disconnected = false) :
    (sur40VideoStart err s).1.accounting =
      s.accounting.addVideo (if (sur40VideoStart err s).2 = 0 then -1 else 0) := by
  rcases sur40VideoStart_cases err s with
    ⟨hdr, heq, -, hreject, -, -⟩ | ⟨hdr, ret, hret, heq, hreject, -⟩
  · rw [heq, if_pos rfl]
    exact congrArg (fun videoHdr => { s.accounting.addVideo (-1) with videoHdr }) hreject
  · rw [heq, if_neg hret]
    refine (videoStop_accounting { s with
      drainRemaining := 0
      videoHdrUrb := hdr
      videoFrameUrb := usbUnpoisonUrb s.videoFrameUrb
      videoDrainUrb := usbUnpoisonUrb s.videoDrainUrb } hd).trans ?_
    simp only [Accounting.addVideo, Sur40State.accounting]
    simp [hreject]

theorem returnAllBuffers_accounting (state : Vb2BufferState) (s : Sur40State) :
    (returnAllBuffers state s).accounting = s.accounting := by
  rw [returnAllBuffers_eq]
  rfl

/-- Starting to stream takes the touch pipeline into use and starts the video
pipeline, or neither. -/
theorem startStreaming_accounting (env : StreamEnv) (s : Sur40State)
    (hd : s.disconnected = false) (hb : s.accounting.setUsers s.users = s.accounting) :
    (sur40StartStreaming env s).1.accounting =
      { (s.accounting.setUsers (s.users +
            if (sur40StartStreaming env s).2 = 0 then 1 else 0)).addVideo
          (if (sur40StartStreaming env s).2 = 0 then -1 else 0) with
        inits := s.inits + if s.users = 0 then 1 else 0 } := by
  have hget := pipelineGet_accounting env.pipeline s hd hb
  rw [sur40StartStreaming]
  generalize sur40PipelineGet env.pipeline s = get at hget ⊢
  obtain ⟨s₁, ret⟩ := get
  dsimp only at hget ⊢
  by_cases hret : ret = 0
  · rw [if_neg (not_not.mpr hret)]
    rw [if_pos hret] at hget
    have hd₁ : s₁.disconnected = false := (congrArg Accounting.disconnected hget).trans hd
    have hstart := videoStart_accounting env.videoHdr
      { s₁ with sequence := 0, framesDropped := 0, curBuf := none } hd₁
    generalize sur40VideoStart env.videoHdr
      { s₁ with sequence := 0, framesDropped := 0, curBuf := none } = start at hstart ⊢
    obtain ⟨s₂, ret₂⟩ := start
    dsimp only at hstart ⊢
    have hstart' : s₂.accounting = s₁.accounting.addVideo (if ret₂ = 0 then -1 else 0) := hstart
    by_cases hret₂ : ret₂ = 0
    · rw [if_neg (not_not.mpr hret₂)]
      dsimp only
      rw [if_pos rfl, if_pos rfl, hstart', if_pos hret₂, hget]
      rfl
    · rw [if_pos hret₂]
      dsimp only
      rw [if_neg hret₂, Accounting.addVideo_zero] at hstart'
      have husers : s₂.users = s.users + 1 :=
        (congrArg Accounting.users hstart').trans (congrArg Accounting.users hget)
      have hb₂ : s₂.accounting.setUsers s₂.users = s₂.accounting := by
        rw [hstart', hget, husers]
        rfl
      rw [if_neg hret₂, if_neg hret₂, returnAllBuffers_accounting,
        pipelinePut_accounting s₂
          ((congrArg Accounting.disconnected hstart').trans hd₁) hb₂ (by omega),
        hstart', hget, husers, Accounting.addVideo_zero]
      rfl
  · rw [if_pos hret]
    dsimp only
    rw [if_neg hret] at hget ⊢
    rw [if_neg hret, returnAllBuffers_accounting, hget, Accounting.addVideo_zero]

/-- Stopping releases both. -/
theorem stopStreaming_accounting (s : Sur40State) (hd : s.disconnected = false)
    (hb : s.accounting.setUsers s.users = s.accounting) (hpos : 0 < s.users) :
    (sur40StopStreaming s).accounting =
      (s.accounting.setUsers (s.users - 1)).addVideo 1 := by
  have hstop := videoStop_accounting s hd
  rw [sur40StopStreaming]
  generalize sur40VideoStop s = s₁ at hstop ⊢
  -- handing the buffers back moves no counter
  have hreturn : ∀ t : Sur40State, t.accounting = s.accounting.addVideo 1 →
      (sur40PipelinePut (returnAllBuffers .error t)).accounting =
        (s.accounting.setUsers (s.users - 1)).addVideo 1 := by
    intro t ht
    have hret : (returnAllBuffers .error t).accounting = s.accounting.addVideo 1 :=
      (returnAllBuffers_accounting .error t).trans ht
    generalize returnAllBuffers .error t = t' at hret ⊢
    have husers : t'.users = s.users := congrArg Accounting.users hret
    have hb' : t'.accounting.setUsers t'.users = t'.accounting := by
      rw [hret, husers]
      exact congrArg (fun a => a.addVideo 1) hb
    rw [pipelinePut_accounting t' ((congrArg Accounting.disconnected hret).trans hd) hb'
      (by omega), hret, husers]
    rfl
  rw [sur40StopStreamingReclaim]
  cases s₁.curBuf with
  | none => exact hreturn _ hstop
  | some buf => exact hreturn _ hstop

/-! ## The invariant -/

/-- Users are counted, and every URB is poisoned once while its pipeline is down and
not at all while it runs. -/
structure Balanced (st : Session) : Prop where
  attached : st.drv.disconnected = false
  quiet : st.drv.warnedUsers = false
  users : st.drv.users = st.opens + st.streaming.toNat
  touch : ∀ i, (st.drv.touchUrbs i).reject = if 0 < st.drv.users then 0 else 1
  video : ∀ u, (st.drv.videoUrb u).reject = if st.streaming then 0 else 1

theorem Balanced.setUsers {st : Session} (h : Balanced st) :
    st.drv.accounting.setUsers st.drv.users = st.drv.accounting :=
  congrArg (fun touch => { st.drv.accounting with touch }) (funext fun i => (h.touch i).symm)

/-- The invariant looks at the counters only. -/
theorem Balanced.of_accounting {st : Session} {a : Accounting}
    (ha : st.drv.accounting = a) (hattached : a.disconnected = false)
    (hquiet : a.warnedUsers = false) (husers : a.users = st.opens + st.streaming.toNat)
    (htouch : a.setUsers a.users = a) (hhdr : a.videoHdr = if st.streaming then 0 else 1)
    (hframe : a.videoFrame = if st.streaming then 0 else 1)
    (hdrain : a.videoDrain = if st.streaming then 0 else 1) : Balanced st := by
  subst ha
  refine ⟨hattached, hquiet, husers, fun i => ?_, fun u => ?_⟩
  · exact (congrFun (congrArg Accounting.touch htouch) i).symm
  · cases u
    · exact hhdr
    · exact hframe
    · exact hdrain

theorem Balanced.probe (videoNode : Bool) (touchPktSize videoPktSize : ℕ) :
    Balanced (Session.probe videoNode touchPktSize videoPktSize) where
  attached := rfl
  quiet := rfl
  users := rfl
  touch := fun _ => rfl
  video := fun u => by cases u <;> rfl

theorem Balanced.openInput {st : Session} (h : Balanced st) (env : PipelineEnv) :
    Balanced { st with
      drv := (sur40Open env st.drv).1
      opens := if (sur40Open env st.drv).2 = 0 then st.opens + 1 else st.opens } := by
  have husers := h.users
  refine .of_accounting (pipelineGet_accounting env st.drv h.attached h.setUsers)
    h.attached h.quiet ?_ rfl (h.video .hdr) (h.video .frame) (h.video .drain)
  rw [sur40Open, Accounting.setUsers]
  dsimp only
  split_ifs <;> omega

theorem Balanced.closeInput {st : Session} (h : Balanced st) (hopens : 0 < st.opens) :
    Balanced { st with drv := sur40Close st.drv, opens := st.opens - 1 } := by
  have husers := h.users
  refine .of_accounting (pipelinePut_accounting st.drv h.attached h.setUsers (by omega))
    h.attached h.quiet ?_ rfl (h.video .hdr) (h.video .frame) (h.video .drain)
  simp only [Accounting.setUsers]
  omega

theorem Balanced.startStreaming {st : Session} (h : Balanced st) (hidle : st.streaming = false)
    (env : StreamEnv) : Balanced { st with
      drv := (sur40StartStreaming env st.drv).1
      streaming := (sur40StartStreaming env st.drv).2 = 0 } := by
  have husers := h.users
  have hreject : ∀ u, (st.drv.videoUrb u).reject +
      (if (sur40StartStreaming env st.drv).2 = 0 then -1 else 0) =
      if decide ((sur40StartStreaming env st.drv).2 = 0) = true then 0 else 1 := by
    intro u
    rw [h.video u, hidle]
    by_cases hret : (sur40StartStreaming env st.drv).2 = 0 <;> simp [hret]
  refine .of_accounting (startStreaming_accounting env st.drv h.attached h.setUsers)
    h.attached h.quiet ?_ rfl (hreject .hdr) (hreject .frame) (hreject .drain)
  simp only [Accounting.addVideo, Accounting.setUsers]
  rw [hidle] at husers
  by_cases hret : (sur40StartStreaming env st.drv).2 = 0 <;> simp [hret, husers]

theorem Balanced.stopStreaming {st : Session} (h : Balanced st) (hrun : st.streaming = true) :
    Balanced { st with drv := sur40StopStreaming st.drv, streaming := false } := by
  have husers := h.users
  rw [hrun, Bool.toNat_true] at husers
  have hreject : ∀ u, (st.drv.videoUrb u).reject + 1 = 1 := by
    intro u
    rw [h.video u, hrun]
    rfl
  refine .of_accounting
    (stopStreaming_accounting st.drv h.attached h.setUsers (by omega))
    h.attached h.quiet ?_ rfl (hreject .hdr) (hreject .frame) (hreject .drain)
  simp only [Accounting.addVideo, Accounting.setUsers]
  rw [husers]
  rfl

/-- A call keeps the invariant. -/
theorem Balanced.call {st st' : Session} {c : DriverCall} (h : Balanced st)
    (hstep : c.step st = some st') : Balanced st' := by
  cases DriverCall.step_cases hstep with
  | openInput env => exact h.openInput env
  | closeInput hopens => exact h.closeInput hopens
  | startStreaming env hidle => exact h.startStreaming hidle env
  | stopStreaming hrun => exact h.stopStreaming hrun

/-- A completion keeps it, too. -/
theorem Balanced.event {st st' : Session} {e : DriverEvent} (h : Balanced st)
    (hstep : e.step st = some st') : Balanced st' := by
  cases DriverEvent.step_cases hstep with
  | call hcall => exact h.call hcall
  | touchUrb i c err hflight =>
      exact .of_accounting (touchGiveback_accounting i c err st.drv) h.attached h.quiet h.users
        h.setUsers (h.video .hdr) (h.video .frame) (h.video .drain)
  | videoUrb u c err hflight =>
      exact .of_accounting (videoComplete_accounting u c err st.drv) h.attached h.quiet h.users
        h.setUsers (h.video .hdr) (h.video .frame) (h.video .drain)

/-! ## Every run -/

/-- The counters that a failing call has to leave as they were. -/
def SameCounters (s s' : Sur40State) : Prop :=
  s'.users = s.users ∧ (∀ i, (s'.touchUrbs i).reject = (s.touchUrbs i).reject) ∧
    ∀ u, (s'.videoUrb u).reject = (s.videoUrb u).reject

theorem SameCounters.of_accounting {s s' : Sur40State} {inits : ℕ}
    (h : s'.accounting = { s.accounting with inits }) : SameCounters s s' := by
  refine ⟨congrArg Accounting.users h, fun i => congrFun (congrArg Accounting.touch h) i,
    fun u => ?_⟩
  cases u
  · exact congrArg Accounting.videoHdr h
  · exact congrArg Accounting.videoFrame h
  · exact congrArg Accounting.videoDrain h

/-- The calls that ask for the touch pipeline. -/
def DriverEvent.asksForPipeline : DriverEvent → Bool
  | .call (.openInput _) => true
  | .call (.startStreaming _) => true
  | _ => false

theorem Balanced.open_failed {st : Session} (h : Balanced st) (env : PipelineEnv)
    (hret : (sur40Open env st.drv).2 ≠ 0) : SameCounters st.drv (sur40Open env st.drv).1 := by
  have hget := pipelineGet_accounting env st.drv h.attached h.setUsers
  rw [if_neg (by exact hret), add_zero, h.setUsers] at hget
  exact .of_accounting hget

theorem Balanced.start_failed {st : Session} (h : Balanced st) (env : StreamEnv)
    (hret : (sur40StartStreaming env st.drv).2 ≠ 0) :
    SameCounters st.drv (sur40StartStreaming env st.drv).1 := by
  have hstart := startStreaming_accounting env st.drv h.attached h.setUsers
  rw [if_neg hret, if_neg hret, add_zero, h.setUsers, Accounting.addVideo_zero] at hstart
  exact .of_accounting hstart

/-- The device is initialized by the calls that find no user. -/
theorem Balanced.inits {st st' : Session} {e : DriverEvent} (h : Balanced st)
    (hstep : e.step st = some st') :
    st'.drv.inits = st.drv.inits + if e.asksForPipeline ∧ st.drv.users = 0 then 1 else 0 := by
  have husers := h.users
  cases DriverEvent.step_cases hstep with
  | call hcall =>
      cases DriverCall.step_cases hcall with
      | openInput env =>
          refine (congrArg Accounting.inits
            (pipelineGet_accounting env st.drv h.attached h.setUsers)).trans ?_
          simp [DriverEvent.asksForPipeline]
      | closeInput hopens =>
          exact congrArg Accounting.inits
            (pipelinePut_accounting st.drv h.attached h.setUsers (by omega))
      | startStreaming env hidle =>
          refine (congrArg Accounting.inits
            (startStreaming_accounting env st.drv h.attached h.setUsers)).trans ?_
          simp [DriverEvent.asksForPipeline]
      | stopStreaming hrun =>
          rw [hrun, Bool.toNat_true] at husers
          exact congrArg Accounting.inits
            (stopStreaming_accounting st.drv h.attached h.setUsers (by omega))
  | touchUrb i c err hflight =>
      exact congrArg Accounting.inits (touchGiveback_accounting i c err st.drv)
  | videoUrb u c err hflight =>
      exact congrArg Accounting.inits (videoComplete_accounting u c err st.drv)

/-- **The shared pipeline is counted and poisoned in balance.** After every run of
calls and completions the users are the consumers, the poison counters tell which
pipelines run, no put was without a user, a call that fails from here leaves the
counters alone, and the next initialization is due exactly when there is no user. -/
theorem pipeline_balanced (videoNode : Bool) (touchPktSize videoPktSize : ℕ)
    (es : List DriverEvent) (st : Session)
    (hrun : events.run es (Session.probe videoNode touchPktSize videoPktSize) = some st) :
    st.drv.users = st.opens + st.streaming.toNat ∧
    (∀ i, (st.drv.touchUrbs i).reject = if 0 < st.drv.users then 0 else 1) ∧
    (∀ u, (st.drv.videoUrb u).reject = if st.streaming then 0 else 1) ∧
    st.drv.warnedUsers = false ∧
    (∀ env, (sur40Open env st.drv).2 ≠ 0 → SameCounters st.drv (sur40Open env st.drv).1) ∧
    (∀ env, st.streaming = false → (sur40StartStreaming env st.drv).2 ≠ 0 →
      SameCounters st.drv (sur40StartStreaming env st.drv).1) ∧
    ∀ (e : DriverEvent) (st' : Session), e.step st = some st' → st'.drv.inits =
      st.drv.inits + if e.asksForPipeline ∧ st.drv.users = 0 then 1 else 0 := by
  have h : Balanced st := Machine.run_invariant (fun _ _ _ hbal hstep => hbal.event hstep)
    (Balanced.probe videoNode touchPktSize videoPktSize) hrun
  exact ⟨h.users, h.touch, h.video, h.quiet, h.open_failed, fun env _ => h.start_failed env,
    fun _ _ hstep => h.inits hstep⟩

/-- Surroundings in which nothing fails. -/
def willingEnv : StreamEnv where
  pipeline := { init := { kmalloc := true, sur40Command := fun cmd => cmd.size.toNat }
                touch := fun _ => 0 }
  videoHdr := 0

/-- The input device is open and video streams. -/
def bothRunning : Session where
  drv := (sur40StartStreaming willingEnv (sur40Open willingEnv.pipeline
    (sur40Probe false 512 512)).1).1
  opens := 1
  streaming := true

theorem pipeline_balanced_bothRunning :
    bothRunning.drv.users = 2 ∧ bothRunning.drv.warnedUsers = false := by
  have h := pipeline_balanced false 512 512
    [.call (.openInput willingEnv.pipeline), .call (.startStreaming willingEnv)] bothRunning rfl
  exact ⟨h.1, h.2.2.2.1⟩

end Sur40
