import Sur40.VideoSteps
import Sur40.Consumers

/-!
# The video endpoint under interleaving

Stopping and unplugging poison the video URBs one after the other, and each of
these steps waits for the handler of its URB. Completions, buffers and the other
callers come in between.

## Main definitions

* `StopLoop`: the poison steps that a thread still has to make.
* `VideoSys`: the driver with the state of the threads that stop it.
* `VideoAction`, `videoSystem`: what can happen next.
* `VideoAction.StepCase`, `DriverStep`: what a step can be, and what it does to the driver.
* `OwnsNothing`, `Started`, `StartFailed`: what the calls leave in the video fields.
-/

namespace Sur40

open Devlib

/-! ## Stopping in steps -/

/-- The first half of `usb_poison_urb`: from now on submissions are refused. -/
def usbBlockUrb (urb : Urb) : Urb := { urb with reject := urb.reject + 1 }

/-- A thread that poisons URBs: those it has not finished with, and whether it waits
for the first of them. -/
structure StopLoop where
  todo : List VideoUrb
  waiting : Bool
  deriving DecidableEq

/-- All three URBs, in the order in which the driver poisons them. -/
def StopLoop.start : StopLoop := { todo := [.hdr, .frame, .drain], waiting := false }

/-- The next step: block the first URB, or, once it is idle, go on to the next one. -/
def StopLoop.step : StopLoop → Sur40State → Option (StopLoop × Sur40State)
  | ⟨[], _⟩, _ => none
  | ⟨u :: us, false⟩, s => some (⟨u :: us, true⟩, s.mapVideoUrb u usbBlockUrb)
  | ⟨u :: us, true⟩, s => if (s.videoUrb u).inFlight then none else some (⟨us, false⟩, s)

/-- The URBs that the thread has still to block. -/
def StopLoop.unblocked (l : StopLoop) : List VideoUrb :=
  if l.waiting then l.todo.tail else l.todo

/-- Where videobuf2 and the driver stand. -/
inductive Vb2Phase where
  | stopped
  | streaming
  | stopping (l : StopLoop)
  deriving DecidableEq

/-- Where `sur40_disconnect` stands. -/
inductive UnplugPhase where
  | attached
  | unplugging (l : StopLoop)
  | gone
  deriving DecidableEq

/-! ## The system -/

/-- The driver, the threads that stop it, and the history of the run. -/
structure VideoSys where
  drv : Sur40State
  vb2 : Vb2Phase
  unplug : UnplugPhase
  /-- History: the buffers handed over by `sur40_buffer_queue`. -/
  queued : List Sur40Buffer
  /-- History: the frame URB was cancelled and its buffer is not reclaimed yet. -/
  cancelled : Bool
  /-- History: since streaming was started, no submission failed and nothing was
  cancelled or poisoned. -/
  intact : Bool

def VideoSys.probe (videoNode : Bool) (touchPktSize videoPktSize : ℕ) : VideoSys where
  drv := sur40Probe videoNode touchPktSize videoPktSize
  vb2 := .stopped
  unplug := .attached
  queued := []
  cancelled := false
  intact := false

inductive VideoAction where
  | bufferQueue (buf : Sur40Buffer)
  | startStreaming (env : StreamEnv)
  /-- `sur40_stop_streaming` is entered. -/
  | stopStreaming
  /-- The next step of its `sur40_video_stop`. -/
  | stopStep
  /-- The rest of it. -/
  | stopReturn
  /-- `sur40_disconnect` is entered. -/
  | disconnect
  | disconnectStep
  /-- It sets the flag. -/
  | disconnectFlag
  | complete (u : VideoUrb) (c : Completion) (err : ℤ)
  | openInput (env : PipelineEnv)
  | closeInput
  | touchComplete (i : Fin sur40TouchUrbs) (c : Completion) (err : ℤ)

/-- One step. Streaming is started only while it is stopped and the device is not
gone, and stopped only while it runs. -/
def VideoAction.step : VideoAction → VideoSys → Option VideoSys
  | .bufferQueue buf, sys =>
      some { sys with drv := sur40BufferQueue buf sys.drv, queued := sys.queued ++ [buf] }
  | .startStreaming env, sys =>
      if sys.vb2 = .stopped ∧ sys.unplug ≠ .gone then
        let (drv, ret) := sur40StartStreaming env sys.drv
        some { sys with
          drv
          vb2 := if ret = 0 then .streaming else .stopped
          intact := ret = 0 && sys.unplug = .attached }
      else none
  | .stopStreaming, sys =>
      if sys.vb2 = .streaming then
        some { sys with
          vb2 := .stopping (if sys.drv.disconnected then ⟨[], false⟩ else .start)
          intact := false }
      else none
  | .stopStep, sys =>
      match sys.vb2 with
      | .stopping l =>
          (l.step sys.drv).map fun (l, drv) => { sys with drv, vb2 := .stopping l }
      | _ => none
  | .stopReturn, sys =>
      match sys.vb2 with
      | .stopping ⟨[], _⟩ =>
          some { sys with
            drv := sur40StopStreamingReclaim sys.drv
            vb2 := .stopped
            cancelled := false }
      | _ => none
  | .disconnect, sys =>
      match sys.unplug with
      | .attached =>
          let touchUrbs := fun i => usbPoisonUrb (sys.drv.touchUrbs i)
          some { sys with
            drv := { sys.drv with touchUrbs }
            unplug := .unplugging .start
            intact := false }
      | _ => none
  | .disconnectStep, sys =>
      match sys.unplug with
      | .unplugging l =>
          (l.step sys.drv).map fun (l, drv) => { sys with drv, unplug := .unplugging l }
      | _ => none
  | .disconnectFlag, sys =>
      match sys.unplug with
      | .unplugging ⟨[], _⟩ =>
          some { sys with drv := { sys.drv with disconnected := true }, unplug := .gone }
      | _ => none
  | .complete u c err, sys =>
      if (sys.drv.videoUrb u).inFlight then
        some { sys with
          drv := videoComplete u c err sys.drv
          cancelled := sys.cancelled || (u = .frame && sur40UrbDead c.status)
          intact := sys.intact && !sur40UrbDead c.status && err = 0 }
      else none
  | .openInput env, sys => some { sys with drv := (sur40Open env sys.drv).1 }
  | .closeInput, sys => some { sys with drv := sur40Close sys.drv }
  | .touchComplete i c err, sys => some { sys with drv := touchGiveback i c err sys.drv }

def videoSystem : Machine VideoSys VideoAction := ⟨VideoAction.step⟩

/-! ## The steps -/

/-- The steps, each with what enables it and what it leaves. -/
inductive VideoAction.StepCase (sys : VideoSys) : VideoAction → VideoSys → Prop where
  | bufferQueue (buf : Sur40Buffer) : StepCase sys (.bufferQueue buf)
      { sys with drv := sur40BufferQueue buf sys.drv, queued := sys.queued ++ [buf] }
  | startStreaming (env : StreamEnv) (hstop : sys.vb2 = .stopped) (hgone : sys.unplug ≠ .gone) :
      StepCase sys (.startStreaming env)
        { sys with
          drv := (sur40StartStreaming env sys.drv).1
          vb2 := if (sur40StartStreaming env sys.drv).2 = 0 then .streaming else .stopped
          intact := (sur40StartStreaming env sys.drv).2 = 0 && sys.unplug = .attached }
  | stopStreaming (hrun : sys.vb2 = .streaming) : StepCase sys .stopStreaming
      { sys with
        vb2 := .stopping (if sys.drv.disconnected then ⟨[], false⟩ else .start)
        intact := false }
  | stopStep {l l' : StopLoop} {drv : Sur40State} (hstop : sys.vb2 = .stopping l)
      (hloop : l.step sys.drv = some (l', drv)) : StepCase sys .stopStep
      { sys with drv, vb2 := .stopping l' }
  | stopReturn {waiting : Bool} (hstop : sys.vb2 = .stopping ⟨[], waiting⟩) :
      StepCase sys .stopReturn
        { sys with
          drv := sur40StopStreamingReclaim sys.drv
          vb2 := .stopped
          cancelled := false }
  | disconnect (hattached : sys.unplug = .attached) : StepCase sys .disconnect
      { sys with
        drv := { sys.drv with touchUrbs := fun i => usbPoisonUrb (sys.drv.touchUrbs i) }
        unplug := .unplugging .start
        intact := false }
  | disconnectStep {l l' : StopLoop} {drv : Sur40State} (hunplug : sys.unplug = .unplugging l)
      (hloop : l.step sys.drv = some (l', drv)) : StepCase sys .disconnectStep
      { sys with drv, unplug := .unplugging l' }
  | disconnectFlag {waiting : Bool} (hunplug : sys.unplug = .unplugging ⟨[], waiting⟩) :
      StepCase sys .disconnectFlag
        { sys with drv := { sys.drv with disconnected := true }, unplug := .gone }
  | complete (u : VideoUrb) (c : Completion) (err : ℤ)
      (hflight : (sys.drv.videoUrb u).inFlight = true) : StepCase sys (.complete u c err)
      { sys with
        drv := videoComplete u c err sys.drv
        cancelled := sys.cancelled || (u = .frame && sur40UrbDead c.status)
        intact := sys.intact && !sur40UrbDead c.status && err = 0 }
  | openInput (env : PipelineEnv) : StepCase sys (.openInput env)
      { sys with drv := (sur40Open env sys.drv).1 }
  | closeInput : StepCase sys .closeInput { sys with drv := sur40Close sys.drv }
  | touchComplete (i : Fin sur40TouchUrbs) (c : Completion) (err : ℤ) :
      StepCase sys (.touchComplete i c err) { sys with drv := touchGiveback i c err sys.drv }

theorem VideoAction.step_cases {sys sys' : VideoSys} {a : VideoAction}
    (hstep : a.step sys = some sys') : StepCase sys a sys' := by
  cases a with
  | bufferQueue buf =>
      cases hstep
      exact .bufferQueue buf
  | startStreaming env =>
      simp only [VideoAction.step, Option.ite_none_right_eq_some, Option.some.injEq] at hstep
      obtain ⟨⟨hstop, hgone⟩, rfl⟩ := hstep
      exact .startStreaming env hstop hgone
  | stopStreaming =>
      simp only [VideoAction.step, Option.ite_none_right_eq_some, Option.some.injEq] at hstep
      obtain ⟨hrun, rfl⟩ := hstep
      exact .stopStreaming hrun
  | stopStep =>
      simp only [VideoAction.step] at hstep
      split at hstep
      · next l hstop =>
          obtain ⟨⟨l', drv⟩, hloop, rfl⟩ := Option.map_eq_some_iff.mp hstep
          exact .stopStep hstop hloop
      · cases hstep
  | stopReturn =>
      simp only [VideoAction.step] at hstep
      split at hstep
      · next hstop =>
          cases hstep
          exact .stopReturn hstop
      · cases hstep
  | disconnect =>
      simp only [VideoAction.step] at hstep
      split at hstep
      · next hattached =>
          cases hstep
          exact .disconnect hattached
      · cases hstep
  | disconnectStep =>
      simp only [VideoAction.step] at hstep
      split at hstep
      · next l hunplug =>
          obtain ⟨⟨l', drv⟩, hloop, rfl⟩ := Option.map_eq_some_iff.mp hstep
          exact .disconnectStep hunplug hloop
      · cases hstep
  | disconnectFlag =>
      simp only [VideoAction.step] at hstep
      split at hstep
      · next hunplug =>
          cases hstep
          exact .disconnectFlag hunplug
      · cases hstep
  | complete u c err =>
      simp only [VideoAction.step, Option.ite_none_right_eq_some, Option.some.injEq] at hstep
      obtain ⟨hflight, rfl⟩ := hstep
      exact .complete u c err hflight
  | openInput env =>
      cases hstep
      exact .openInput env
  | closeInput =>
      cases hstep
      exact .closeInput
  | touchComplete i c err =>
      cases hstep
      exact .touchComplete i c err

/-! ## What a step does to the driver -/

/-- The driver before and after a step. -/
inductive DriverStep (s : Sur40State) : Sur40State → Prop where
  | same : DriverStep s s
  | bufferQueue (buf : Sur40Buffer) : DriverStep s (sur40BufferQueue buf s)
  | startStreaming (env : StreamEnv) : DriverStep s (sur40StartStreaming env s).1
  | stopLoop {l l' : StopLoop} {s' : Sur40State} (h : l.step s = some (l', s')) : DriverStep s s'
  | stopReturn : DriverStep s (sur40StopStreamingReclaim s)
  | disconnect : DriverStep s { s with touchUrbs := fun i => usbPoisonUrb (s.touchUrbs i) }
  | disconnectFlag : DriverStep s { s with disconnected := true }
  | complete (u : VideoUrb) (c : Completion) (err : ℤ)
      (hflight : (s.videoUrb u).inFlight = true) : DriverStep s (videoComplete u c err s)
  | openInput (env : PipelineEnv) : DriverStep s (sur40Open env s).1
  | closeInput : DriverStep s (sur40Close s)
  | touchComplete (i : Fin sur40TouchUrbs) (c : Completion) (err : ℤ) :
      DriverStep s (touchGiveback i c err s)

/-- The buffer that a step hands to the driver. -/
def VideoAction.buffer? : VideoAction → Option Sur40Buffer
  | .bufferQueue buf => some buf
  | _ => none

theorem VideoAction.step_driver {sys sys' : VideoSys} {a : VideoAction}
    (hstep : a.step sys = some sys') :
    DriverStep sys.drv sys'.drv ∧ sys'.queued = sys.queued ++ a.buffer?.toList := by
  have hnothing : sys.queued = sys.queued ++ [] := (List.append_nil _).symm
  cases step_cases hstep with
  | bufferQueue buf => exact ⟨.bufferQueue buf, rfl⟩
  | startStreaming env hstop hgone => exact ⟨.startStreaming env, hnothing⟩
  | stopStreaming hrun => exact ⟨.same, hnothing⟩
  | stopStep hstop hloop => exact ⟨.stopLoop hloop, hnothing⟩
  | stopReturn hstop => exact ⟨.stopReturn, hnothing⟩
  | disconnect hattached => exact ⟨.disconnect, hnothing⟩
  | disconnectStep hunplug hloop => exact ⟨.stopLoop hloop, hnothing⟩
  | disconnectFlag hunplug => exact ⟨.disconnectFlag, hnothing⟩
  | complete u c err hflight => exact ⟨.complete u c err hflight, hnothing⟩
  | openInput env => exact ⟨.openInput env, hnothing⟩
  | closeInput => exact ⟨.closeInput, hnothing⟩
  | touchComplete i c err => exact ⟨.touchComplete i c err, hnothing⟩

/-! ## The steps and the whole calls -/

/-- Blocking a URB and giving it back is poisoning it: the two halves of the step
make up `usb_poison_urb`. -/
theorem usbPoisonUrb_eq (urb : Urb) : usbPoisonUrb urb = (usbBlockUrb urb).giveback := rfl

/-- `sur40_video_stop` is the three poison steps, one after the other. -/
theorem sur40VideoStop_eq {s : Sur40State} (hd : s.disconnected = false) :
    sur40VideoStop s = StopLoop.start.todo.foldl (fun s u => s.mapVideoUrb u usbPoisonUrb) s := by
  rw [sur40VideoStop_of_attached hd]
  rfl

/-! ## What the calls leave in the video fields -/

theorem sur40PipelineGet_eq (env : PipelineEnv) (s : Sur40State) :
    ∃ users touchUrbs needBlobs inits,
      (sur40PipelineGet env s).1 = { s with users, touchUrbs, needBlobs, inits } := by
  have hcases := sur40PipelineGet_cases env s
  generalize sur40PipelineGet env s = r at hcases ⊢
  cases hcases <;> exact ⟨_, _, _, _, rfl⟩

theorem sur40PipelinePut_eq (s : Sur40State) : ∃ users touchUrbs warnedUsers,
    sur40PipelinePut s = { s with users, touchUrbs, warnedUsers } := by
  by_cases husers : s.users = 0
  · exact ⟨s.users, s.touchUrbs, true, if_pos husers⟩
  · obtain ⟨urbs, heq, -⟩ := sur40PipelinePut_of_pos (Nat.pos_of_ne_zero husers)
    exact ⟨s.users - 1, urbs, s.warnedUsers, heq⟩

/-- The driver owns no buffer and no transfer. -/
def OwnsNothing (s : Sur40State) : Prop := s.bufList = [] ∧ s.curBuf = none ∧ Idle s

/-- Video streams: the header URB is in flight. -/
structure Started (s s' : Sur40State) : Prop where
  hdr : s'.videoHdrUrb.inFlight = true ∧ s'.videoHdrUrb.reject ≤ 0
  others : ∀ u, u ≠ .hdr → (s'.videoUrb u).inFlight = false
  reject : ∀ u, (s'.videoUrb u).reject = (s.videoUrb u).reject - 1
  curBuf : s'.curBuf = none
  counters : s'.sequence = 0 ∧ s'.framesDropped = 0

/-- Video does not stream: everything is as before, and the buffers are back. -/
structure StartFailed (s s' : Sur40State) : Prop where
  owns : OwnsNothing s'
  reject : ∀ u, (s'.videoUrb u).reject = (s.videoUrb u).reject

theorem sur40StartStreaming_video (env : StreamEnv) {s : Sur40State} (hidle : Idle s)
    (hcur : s.curBuf = none) (hd : s.disconnected = false) :
    (if (sur40StartStreaming env s).2 = 0 then Started s (sur40StartStreaming env s).1
      else StartFailed s (sur40StartStreaming env s).1) ∧
    (sur40StartStreaming env s).1.handedOver = s.handedOver ∧
    (sur40StartStreaming env s).1.warnedBuf = s.warnedBuf ∧
    (sur40StartStreaming env s).1.disconnected = false := by
  obtain ⟨users, touchUrbs, needBlobs, inits, hget⟩ := sur40PipelineGet_eq env.pipeline s
  rw [sur40StartStreaming]
  generalize sur40PipelineGet env.pipeline s = get at hget ⊢
  obtain ⟨s₁, ret₁⟩ := get
  dsimp only at hget ⊢
  subst hget
  by_cases hret : ret₁ = 0
  · rw [if_neg (not_not.mpr hret)]
    rcases sur40VideoStart_cases env.videoHdr { s with
        users, touchUrbs, needBlobs, inits, sequence := 0, framesDropped := 0, curBuf := none } with
      ⟨hdr, heq, hflight, hreject, hready, -⟩ | ⟨hdr, ret, hret', heq, hreject, hoff⟩
    · rw [heq]
      dsimp only
      rw [if_neg (not_not.mpr rfl)]
      refine ⟨?_, ?_, rfl, hd⟩
      · rw [if_pos rfl]
        refine ⟨⟨hflight, hready⟩, fun u hu => ?_, fun u => ?_, rfl, rfl, rfl⟩
        · cases u
          · exact absurd rfl hu
          · exact hidle .frame
          · exact hidle .drain
        · cases u
          · exact hreject
          · rfl
          · rfl
      · exact (Sur40State.handedOver_of_none rfl).trans (s.handedOver_of_none hcur).symm
    · rw [heq]
      dsimp only
      rw [if_pos hret', sur40VideoStop_of_attached (by exact hd)]
      obtain ⟨users', touchUrbs', warnedUsers', hput⟩ := sur40PipelinePut_eq { s with
        users, touchUrbs, needBlobs, inits
        sequence := 0
        framesDropped := 0
        curBuf := none
        drainRemaining := 0
        videoHdrUrb := usbPoisonUrb hdr
        videoFrameUrb := usbPoisonUrb (usbUnpoisonUrb s.videoFrameUrb)
        videoDrainUrb := usbPoisonUrb (usbUnpoisonUrb s.videoDrainUrb) }
      rw [hput, returnAllBuffers_handedOver .queued (by rfl), returnAllBuffers_eq]
      refine ⟨?_, ?_, rfl, hd⟩
      · rw [if_neg hret']
        refine ⟨⟨rfl, rfl, fun u => by cases u <;> rfl⟩, fun u => ?_⟩
        cases u
        · exact (congrArg (· + 1) hreject).trans (Int.sub_add_cancel _ _)
        · exact Int.sub_add_cancel _ _
        · exact Int.sub_add_cancel _ _
      · exact (Sur40State.handedOver_of_none rfl).trans (s.handedOver_of_none hcur).symm
  · rw [if_pos hret, returnAllBuffers_handedOver .queued (by exact hcur), returnAllBuffers_eq]
    refine ⟨?_, rfl, rfl, hd⟩
    rw [if_neg hret]
    refine ⟨⟨rfl, hcur, fun u => ?_⟩, fun u => by cases u <;> rfl⟩
    cases u
    · exact hidle .hdr
    · exact hidle .frame
    · exact hidle .drain

/-- After the poison steps, `sur40_stop_streaming` gives back what is left. -/
theorem sur40StopStreamingReclaim_video {s : Sur40State} (hidle : Idle s) :
    OwnsNothing (sur40StopStreamingReclaim s) ∧
    (sur40StopStreamingReclaim s).handedOver = s.handedOver ∧
    (sur40StopStreamingReclaim s).warnedBuf = s.warnedBuf ∧
    (sur40StopStreamingReclaim s).disconnected = s.disconnected ∧
    ∀ u, (sur40StopStreamingReclaim s).videoUrb u = s.videoUrb u := by
  obtain ⟨users, touchUrbs, warnedUsers, hput⟩ := sur40PipelinePut_eq { s with
    done := s.done ++ (s.curBuf.toList ++ s.bufList).map fun buf => ⟨buf, .error, none⟩
    curBuf := none
    bufList := [] }
  rw [sur40StopStreamingReclaim_eq, hput]
  have hsame : ∀ u, ({ s with
      done := s.done ++ (s.curBuf.toList ++ s.bufList).map fun buf => ⟨buf, .error, none⟩
      curBuf := none
      bufList := []
      users, touchUrbs, warnedUsers } : Sur40State).videoUrb u = s.videoUrb u := by
    intro u
    cases u <;> rfl
  refine ⟨⟨rfl, rfl, fun u => ?_⟩, ?_, rfl, rfl, hsame⟩
  · rw [hsame]
    exact hidle u
  · rw [Sur40State.handedOver_of_none rfl, List.map_append, map_buf_returned]
    simp [Sur40State.handedOver]

end Sur40
