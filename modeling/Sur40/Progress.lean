import Sur40.VideoSystem
import Mathlib.Data.Fintype.Card

/-!
# What keeps the pipelines running

Nothing but the completions submits a URB again. A resubmission that fails with a
transient error is only logged, so the URB is lost to its pipeline: the video
endpoint, which never has more than one URB in flight, falls silent with the first
failure, the touch endpoint with the last of its URBs.

## Main definitions

* `TrafficEvent`, `traffic`: calls, completions and queued buffers in any order.
* `TrafficEvent.Transient`: no URB is cancelled, and no failure means a stop.
* `touchFlying`: the touch URBs in flight.
-/

namespace Sur40

open Devlib

/-! ## Traffic -/

/-- A call or a completion, or a buffer that videobuf2 hands over. -/
inductive TrafficEvent where
  | driver (e : DriverEvent)
  | bufferQueue (buf : Sur40Buffer)

def TrafficEvent.step : TrafficEvent → Session → Option Session
  | .driver e, st => e.step st
  | .bufferQueue buf, st => some { st with drv := sur40BufferQueue buf st.drv }

def traffic : Machine Session TrafficEvent := ⟨TrafficEvent.step⟩

/-- The completing URB was not cancelled, and its resubmission does not fail with one
of the two errors that mean a stop. -/
def TrafficEvent.Transient : TrafficEvent → Prop
  | .driver (.touchUrb _ c err) => sur40UrbDead c.status = false ∧ err ≠ -eperm ∧ err ≠ -enodev
  | .driver (.videoUrb _ c err) => sur40UrbDead c.status = false ∧ err ≠ -eperm ∧ err ≠ -enodev
  | _ => True

/-- A completion of a video URB whose submission fails. -/
def TrafficEvent.videoFails : TrafficEvent → Bool
  | .driver (.videoUrb _ _ err) => err ≠ 0
  | _ => false

/-- A completion of a touch URB whose resubmission fails. -/
def TrafficEvent.touchFails : TrafficEvent → Bool
  | .driver (.touchUrb _ _ err) => err ≠ 0
  | _ => false

/-- Video goes on streaming. -/
def TrafficEvent.KeepsVideo : TrafficEvent → Prop
  | .driver (.call .stopStreaming) => False
  | _ => True

/-! ## Between the calls -/

/-- What holds whatever has happened: while video does not stream, its URBs are idle
and there is no current buffer. -/
structure Steady (st : Session) : Prop where
  balanced : Balanced st
  stopped : st.streaming = false → Idle st.drv ∧ st.drv.curBuf = none

theorem Steady.probe (videoNode : Bool) (touchPktSize videoPktSize : ℕ) :
    Steady (Session.probe videoNode touchPktSize videoPktSize) where
  balanced := Balanced.probe videoNode touchPktSize videoPktSize
  stopped := fun _ => ⟨fun u => by cases u <;> rfl, rfl⟩

/-- The video fields are the same: users, touch URBs, the queue of the buffers and the
history of the calls are none. -/
structure SameVideo (st st' : Session) : Prop where
  video : ∀ u, st'.drv.videoUrb u = st.drv.videoUrb u
  curBuf : st'.drv.curBuf = st.drv.curBuf
  streaming : st'.streaming = st.streaming

theorem SameVideo.bufferQueue (buf : Sur40Buffer) (st : Session) :
    SameVideo st { st with drv := sur40BufferQueue buf st.drv } :=
  ⟨fun u => by cases u <;> rfl, rfl, rfl⟩

theorem SameVideo.openInput (env : PipelineEnv) (st : Session) (opens : ℕ) :
    SameVideo st { st with drv := (sur40Open env st.drv).1, opens } := by
  obtain ⟨users, touchUrbs, needBlobs, inits, hget⟩ := sur40PipelineGet_eq env st.drv
  have hopen : (sur40Open env st.drv).1 = { st.drv with users, touchUrbs, needBlobs, inits } :=
    hget
  refine ⟨fun u => ?_, ?_, rfl⟩
  · dsimp only
    rw [hopen]
    cases u <;> rfl
  · dsimp only
    rw [hopen]

theorem SameVideo.closeInput (st : Session) (opens : ℕ) :
    SameVideo st { st with drv := sur40Close st.drv, opens } := by
  obtain ⟨users, touchUrbs, warnedUsers, hput⟩ := sur40PipelinePut_eq st.drv
  have hclose : sur40Close st.drv = { st.drv with users, touchUrbs, warnedUsers } := hput
  refine ⟨fun u => ?_, ?_, rfl⟩
  · dsimp only
    rw [hclose]
    cases u <;> rfl
  · dsimp only
    rw [hclose]

theorem SameVideo.touchUrb (i : Fin sur40TouchUrbs) (c : Completion) (err : ℤ) (st : Session) :
    SameVideo st { st with drv := touchGiveback i c err st.drv } := by
  obtain ⟨touchUrbs, needBlobs, input, heq, -⟩ := touchGiveback_eq i c err st.drv
  refine ⟨fun u => ?_, ?_, rfl⟩
  · dsimp only
    rw [heq]
    cases u <;> rfl
  · dsimp only
    rw [heq]

theorem Balanced.bufferQueue {st : Session} (h : Balanced st) (buf : Sur40Buffer) :
    Balanced { st with drv := sur40BufferQueue buf st.drv } := by
  refine ⟨h.attached, h.quiet, h.users, h.touch, fun u => ?_⟩
  rw [← h.video u]
  cases u <;> rfl

theorem Steady.of_sameVideo {st st' : Session} (h : Steady st) (hbalanced : Balanced st')
    (hsame : SameVideo st st') : Steady st' := by
  refine ⟨hbalanced, fun hstop => ?_⟩
  obtain ⟨hidle, hnone⟩ := h.stopped (hsame.streaming ▸ hstop)
  exact ⟨fun u => by rw [hsame.video]; exact hidle u, hsame.curBuf.trans hnone⟩

theorem Steady.call {st st' : Session} {c : DriverCall} (h : Steady st)
    (hstep : c.step st = some st') : Steady st' := by
  have hbalanced := h.balanced.call hstep
  cases DriverCall.step_cases hstep with
  | openInput env => exact h.of_sameVideo hbalanced (.openInput env st _)
  | closeInput hopens => exact h.of_sameVideo hbalanced (.closeInput st _)
  | startStreaming env hidle =>
      refine ⟨hbalanced, fun hstop => ?_⟩
      obtain ⟨hvideo, hcur⟩ := h.stopped hidle
      obtain ⟨hstart, -⟩ := sur40StartStreaming_video env hvideo hcur h.balanced.attached
      rw [if_neg (of_decide_eq_false hstop)] at hstart
      exact ⟨hstart.owns.2.2, hstart.owns.2.1⟩
  | stopStreaming hrun =>
      refine ⟨hbalanced, fun _ => ?_⟩
      have hidle : Idle (sur40VideoStop st.drv) := by
        rw [sur40VideoStop_of_attached h.balanced.attached]
        intro u
        cases u <;> rfl
      obtain ⟨howns, -⟩ := sur40StopStreamingReclaim_video hidle
      exact ⟨howns.2.2, howns.2.1⟩

theorem Steady.event {st st' : Session} {e : TrafficEvent} (h : Steady st)
    (hstep : e.step st = some st') : Steady st' := by
  cases e with
  | bufferQueue buf =>
      cases hstep
      exact h.of_sameVideo (h.balanced.bufferQueue buf) (.bufferQueue buf st)
  | driver e =>
      have hevent : e.step st = some st' := hstep
      have hbalanced := h.balanced.event hevent
      cases DriverEvent.step_cases hevent with
      | call hcall => exact h.call hcall
      | touchUrb i c err hflight => exact h.of_sameVideo hbalanced (.touchUrb i c err st)
      | videoUrb u c err hflight =>
          refine ⟨hbalanced, fun hstop => ?_⟩
          exact absurd hflight ((h.stopped hstop).1.not_inFlight u)

theorem Steady.of_run {videoNode : Bool} {touchPktSize videoPktSize : ℕ}
    {es : List TrafficEvent} {st : Session}
    (hrun : traffic.run es (Session.probe videoNode touchPktSize videoPktSize) = some st) :
    Steady st :=
  Machine.run_invariant (fun _ _ _ h hstep => h.event hstep)
    (Steady.probe videoNode touchPktSize videoPktSize) hrun

/-! ## The video endpoint -/

theorem Submits.idle_of_failure {u : VideoUrb} {urb : Urb} {err : ℤ} {s s' : Sur40State}
    (h : Submits u urb err s s') (herr : err ≠ 0) : Idle s' := by
  intro w
  by_cases hw : w = u
  · subst hw
    rw [h.self, usbSubmitUrb_inFlight _ _ h.ready, decide_eq_false_iff_not, usbSubmitUrb_eq_zero]
    intro hret
    exact herr hret.2.2
  · exact h.idle_others w hw

/-- Every handler makes one submission, so if that fails nothing is in flight. -/
theorem handleHeader_idle_of_failure (img : Sur40ImageHeader) {err : ℤ} {s : Sur40State}
    (hidle : Idle s) (herr : err ≠ 0) : Idle (sur40VideoHandleHeader img err s) := by
  have hcases := sur40VideoHandleHeader_cases img err s
  generalize sur40VideoHandleHeader img err s = s' at hcases ⊢
  cases hcases with
  | drain count framesDropped =>
      have hsubmit := submits_drain count err
        (s := { s.logHeader img with framesDropped }) (by exact hidle)
      exact hsubmit.idle_of_failure herr
  | frame buf bufs hbufs hret => exact absurd ((usbSubmitUrb_eq_zero _ _).mp hret).2.2 herr
  | failed buf bufs hbufs hret =>
      intro u
      cases u with
      | hdr => exact hidle .hdr
      | drain => exact hidle .drain
      | frame =>
          have hframe : (s.frameUrbFor buf).inFlight = false := hidle .frame
          exact (usbSubmitUrb_inFlight _ _ hframe).trans (decide_eq_false hret)

theorem videoComplete_idle_of_failure {u : VideoUrb} {c : Completion} {err : ℤ} {s : Sur40State}
    (hexcl : Exclusive s) (hflight : (s.videoUrb u).inFlight = true) (herr : err ≠ 0) :
    Idle (videoComplete u c err s) := by
  have hidle := hexcl.idle_giveback hflight
  have hcases := videoComplete_cases u c err s
  generalize s.mapVideoUrb u Urb.giveback = t at hcases hidle
  generalize videoComplete u c err s = s' at hcases ⊢
  cases hcases with
  | dead hdead => exact hidle
  | hdr hu => exact (submits_hdr err hidle).idle_of_failure herr
  | frameDone hu buf hcur state frame sequence =>
      have hsubmit := submits_hdr err
        (s := vb2BufferDone buf state frame { t with curBuf := none, sequence }) (by exact hidle)
      exact hsubmit.idle_of_failure herr
  | frameNone hu hcur =>
      have hsubmit := submits_hdr err
        (s := { t with curBuf := none, warnedBuf := true }) (by exact hidle)
      exact hsubmit.idle_of_failure herr
  | drained hu =>
      have hsubmit := submits_hdr err (s := { t with drainRemaining := 0 }) (by exact hidle)
      exact hsubmit.idle_of_failure herr
  | drain hu count => exact (submits_drain count err hidle).idle_of_failure herr
  | header hu img => exact handleHeader_idle_of_failure img hidle herr

/-- Some URB of the video endpoint is in flight. -/
def VideoAlive (s : Sur40State) : Prop := ∃ u, (s.videoUrb u).inFlight = true

theorem Idle.not_videoAlive {s : Sur40State} (h : Idle s) : ¬VideoAlive s := by
  rintro ⟨u, hu⟩
  exact h.not_inFlight u hu

/-- Video streams, and the URBs share their fields as they should. -/
structure Streams (st : Session) : Prop where
  balanced : Balanced st
  streaming : st.streaming = true
  exclusive : Exclusive st.drv
  cur : st.drv.curBuf.isSome = st.drv.videoFrameUrb.inFlight

theorem Streams.of_sameVideo {st st' : Session} (h : Streams st) (hbalanced : Balanced st')
    (hsame : SameVideo st st') : Streams st' ∧ (VideoAlive st'.drv ↔ VideoAlive st.drv) := by
  refine ⟨⟨hbalanced, hsame.streaming.trans h.streaming, ?_, ?_⟩, ?_⟩
  · intro u w hu hw
    rw [hsame.video] at hu hw
    exact h.exclusive u w hu hw
  · rw [hsame.curBuf, h.cur]
    exact (congrArg Urb.inFlight (hsame.video .frame)).symm
  · simp [VideoAlive, hsame.video]

/-- A start that succeeds leaves the header URB in flight. -/
theorem Steady.streams {st st' : Session} {env : StreamEnv} (h : Steady st)
    (hstep : (DriverCall.startStreaming env).step st = some st') (hrun : st'.streaming = true) :
    Streams st' ∧ VideoAlive st'.drv := by
  have hbalanced := h.balanced.call hstep
  cases DriverCall.step_cases hstep with
  | startStreaming _ hidle =>
      obtain ⟨hvideo, hcur⟩ := h.stopped hidle
      obtain ⟨hstart, -⟩ := sur40StartStreaming_video env hvideo hcur h.balanced.attached
      rw [if_pos (of_decide_eq_true hrun)] at hstart
      have honly : ∀ u, ((sur40StartStreaming env st.drv).1.videoUrb u).inFlight = true →
          u = .hdr := by
        intro u hu
        by_contra hne
        rw [hstart.others u hne] at hu
        cases hu
      refine ⟨⟨hbalanced, hrun, ?_, ?_⟩, .hdr, hstart.hdr.1⟩
      · intro u w hu hw
        rw [honly u hu, honly w hw]
      · dsimp only
        rw [hstart.curBuf]
        exact (hstart.others .frame (by decide)).symm

/-- An event that is no completion of the endpoint neither revives nor silences it. -/
theorem Streams.other {st st' : Session} {e : TrafficEvent} (h : Streams st)
    (hbalanced : Balanced st') (hsame : SameVideo st st') (hfails : e.videoFails = false) :
    Streams st' ∧ (VideoAlive st'.drv ↔ VideoAlive st.drv ∧ e.videoFails = false) := by
  obtain ⟨hstreams, halive⟩ := h.of_sameVideo hbalanced hsame
  exact ⟨hstreams, halive.trans (and_iff_left hfails).symm⟩

/-- A completion keeps the endpoint alive exactly if its submission does not fail. -/
theorem Streams.videoUrb {st : Session} {u : VideoUrb} {c : Completion} {err : ℤ} (h : Streams st)
    (hbalanced : Balanced { st with drv := videoComplete u c err st.drv })
    (hdead : sur40UrbDead c.status = false) (hflight : (st.drv.videoUrb u).inFlight = true) :
    Streams { st with drv := videoComplete u c err st.drv } ∧
      (VideoAlive (videoComplete u c err st.drv) ↔ VideoAlive st.drv ∧
        (TrafficEvent.driver (.videoUrb u c err)).videoFails = false) := by
  obtain ⟨hend, -⟩ := videoComplete_settled c err hflight h.exclusive h.cur
  rw [if_neg (by simp [hdead])] at hend
  refine ⟨⟨hbalanced, h.streaming, hend.exclusive, hend.cur⟩, ?_⟩
  by_cases herr : err = 0
  · have halive : VideoAlive (videoComplete u c err st.drv) := hend.live herr fun w => by
      have hreject := hbalanced.video w
      rw [h.streaming] at hreject
      exact hreject.le
    simp only [TrafficEvent.videoFails, herr, ne_eq, not_true_eq_false, decide_false, and_true]
    exact ⟨fun _ => ⟨u, hflight⟩, fun _ => herr ▸ halive⟩
  · have hidle := videoComplete_idle_of_failure (c := c) h.exclusive hflight herr
    simp [TrafficEvent.videoFails, herr, hidle.not_videoAlive]

/-- One event: the endpoint stays alive exactly if its submission does not fail. -/
theorem Streams.event {st st' : Session} {e : TrafficEvent} (h : Streams st)
    (ht : e.Transient) (hkeeps : e.KeepsVideo) (hstep : e.step st = some st') :
    Streams st' ∧ (VideoAlive st'.drv ↔ VideoAlive st.drv ∧ e.videoFails = false) := by
  cases e with
  | bufferQueue buf =>
      cases hstep
      exact h.other (h.balanced.bufferQueue buf) (.bufferQueue buf st) rfl
  | driver e =>
      have hevent : e.step st = some st' := hstep
      have hbalanced := h.balanced.event hevent
      cases DriverEvent.step_cases hevent with
      | call hcall =>
          cases DriverCall.step_cases hcall with
          | openInput env => exact h.other hbalanced (.openInput env st _) rfl
          | closeInput hopens => exact h.other hbalanced (.closeInput st _) rfl
          | startStreaming env hidle => simp [h.streaming] at hidle
          | stopStreaming hrun => exact absurd hkeeps id
      | touchUrb i c err hflight => exact h.other hbalanced (.touchUrb i c err st) rfl
      | videoUrb u c err hflight => exact h.videoUrb hbalanced ht.1 hflight

theorem Streams.run {es : List TrafficEvent} {st st' : Session} (h : Streams st)
    (ht : ∀ e ∈ es, e.Transient) (hkeeps : ∀ e ∈ es, e.KeepsVideo)
    (hrun : traffic.run es st = some st') :
    VideoAlive st'.drv ↔ VideoAlive st.drv ∧ ∀ e ∈ es, e.videoFails = false := by
  induction es generalizing st with
  | nil =>
      rw [Machine.run_nil, Option.some.injEq] at hrun
      simp [hrun]
  | cons e es ih =>
      rw [Machine.run_cons, Option.bind_eq_some_iff] at hrun
      obtain ⟨mid, hstep, hrun⟩ := hrun
      obtain ⟨hmid, halive⟩ := h.event (ht e List.mem_cons_self) (hkeeps e List.mem_cons_self) hstep
      rw [ih hmid (fun b hb => ht b (List.mem_cons_of_mem e hb))
        (fun b hb => hkeeps b (List.mem_cons_of_mem e hb)) hrun, halive]
      simp [and_assoc]

/-! ## The touch endpoint -/

/-- The touch URBs in flight. -/
def touchFlying (s : Sur40State) : Finset (Fin sur40TouchUrbs) :=
  Finset.univ.filter fun i => (s.touchUrbs i).inFlight = true

@[simp] theorem mem_touchFlying (s : Sur40State) (i : Fin sur40TouchUrbs) :
    i ∈ touchFlying s ↔ (s.touchUrbs i).inFlight = true := by simp [touchFlying]

theorem touchFlying_congr {s s' : Sur40State} (h : s'.touchUrbs = s.touchUrbs) :
    touchFlying s' = touchFlying s := by simp [touchFlying, h]

/-- A put that leaves a user leaves the touch URBs alone. -/
theorem sur40PipelinePut_touchUrbs {s : Sur40State} (h : 0 < (sur40PipelinePut s).users) :
    (sur40PipelinePut s).touchUrbs = s.touchUrbs := by
  simp only [sur40PipelinePut] at h ⊢
  split_ifs at h ⊢ with hnone hlast
  · rfl
  · rw [sur40TouchStop_eq] at h
    exact absurd hlast (Nat.pos_iff_ne_zero.mp h)
  · rfl

/-- A get that finds a user leaves them alone, too. -/
theorem sur40PipelineGet_of_pos (env : PipelineEnv) {s : Sur40State} (h : 0 < s.users) :
    sur40PipelineGet env s = ({ s with users := s.users + 1 }, 0) := by
  rw [sur40PipelineGet, if_neg (Nat.pos_iff_ne_zero.mp h)]
  rfl

@[simp] theorem sur40VideoStop_touchUrbs (s : Sur40State) :
    (sur40VideoStop s).touchUrbs = s.touchUrbs := by
  rw [sur40VideoStop]
  split_ifs <;> rfl

@[simp] theorem sur40VideoStart_touchUrbs (err : ℤ) (s : Sur40State) :
    (sur40VideoStart err s).1.touchUrbs = s.touchUrbs := by
  simp only [sur40VideoStart]
  split_ifs <;> simp

@[simp] theorem returnAllBuffers_touchUrbs (state : Vb2BufferState) (s : Sur40State) :
    (returnAllBuffers state s).touchUrbs = s.touchUrbs := by
  rw [returnAllBuffers_eq]

@[simp] theorem returnAllBuffers_users (state : Vb2BufferState) (s : Sur40State) :
    (returnAllBuffers state s).users = s.users := by
  rw [returnAllBuffers_eq]

theorem sur40StartStreaming_touchUrbs (env : StreamEnv) {s : Sur40State} (h : 0 < s.users)
    (h' : 0 < (sur40StartStreaming env s).1.users) :
    (sur40StartStreaming env s).1.touchUrbs = s.touchUrbs := by
  simp only [sur40StartStreaming, sur40PipelineGet_of_pos _ h, ne_eq, not_true_eq_false,
    if_false] at h' ⊢
  split_ifs at h' ⊢ with hret
  · rw [sur40VideoStart_touchUrbs]
  · simp only [returnAllBuffers_users] at h'
    rw [returnAllBuffers_touchUrbs, sur40PipelinePut_touchUrbs h', sur40VideoStart_touchUrbs]

theorem sur40StopStreaming_touchUrbs {s : Sur40State}
    (h : 0 < (sur40StopStreaming s).users) : (sur40StopStreaming s).touchUrbs = s.touchUrbs := by
  rw [sur40StopStreaming, sur40StopStreamingReclaim_eq] at h ⊢
  rw [sur40PipelinePut_touchUrbs h]
  exact sur40VideoStop_touchUrbs s

theorem DriverCall.step_touchUrbs {st st' : Session} {c : DriverCall} (h : 0 < st.drv.users)
    (h' : 0 < st'.drv.users) (hstep : c.step st = some st') :
    st'.drv.touchUrbs = st.drv.touchUrbs := by
  cases step_cases hstep with
  | openInput env => simp [sur40Open, sur40PipelineGet_of_pos env h]
  | closeInput hopens => exact sur40PipelinePut_touchUrbs h'
  | startStreaming env hidle => exact sur40StartStreaming_touchUrbs env h h'
  | stopStreaming hrun => exact sur40StopStreaming_touchUrbs h'

@[simp] theorem handleHeader_touchUrbs (img : Sur40ImageHeader) (err : ℤ) (s : Sur40State) :
    (sur40VideoHandleHeader img err s).touchUrbs = s.touchUrbs := by
  have hcases := sur40VideoHandleHeader_cases img err s
  generalize sur40VideoHandleHeader img err s = s' at hcases ⊢
  cases hcases <;> rfl

theorem videoComplete_touchUrbs (u : VideoUrb) (c : Completion) (err : ℤ) (s : Sur40State) :
    (videoComplete u c err s).touchUrbs = s.touchUrbs := by
  have hgive : (s.mapVideoUrb u Urb.giveback).touchUrbs = s.touchUrbs := by cases u <;> rfl
  rw [← hgive]
  have hcases := videoComplete_cases u c err s
  generalize s.mapVideoUrb u Urb.giveback = t at hcases ⊢
  generalize videoComplete u c err s = s' at hcases ⊢
  cases hcases with
  | header hu img => exact handleHeader_touchUrbs img err t
  | _ => rfl

/-- A touch completion gives its URB back and submits it again. -/
theorem touchGiveback_touchUrbs (i : Fin sur40TouchUrbs) {c : Completion} (err : ℤ)
    (s : Sur40State) (hlive : sur40UrbDead c.status = false) :
    (touchGiveback i c err s).touchUrbs =
      Function.update s.touchUrbs i (sur40Resubmit (s.touchUrbs i).giveback err) := by
  have hpacket : ∀ t : Sur40State, (sur40TouchPacket c.data t).touchUrbs = t.touchUrbs := by
    intro t
    obtain ⟨needBlobs, input, heq⟩ := sur40TouchPacket_eq c.data t
    rw [heq]
  simp only [touchGiveback, sur40TouchComplete, hlive, Bool.false_eq_true, if_false]
  split_ifs <;> simp [hpacket]

/-- A completion takes its URB out of the endpoint exactly if its resubmission fails. -/
theorem card_touchFlying_touchUrb {st : Session} {i : Fin sur40TouchUrbs} {c : Completion}
    {err : ℤ} (h : Balanced st) (hlive : sur40UrbDead c.status = false)
    (husers : 0 < st.drv.users) (hflight : (st.drv.touchUrbs i).inFlight = true) :
    (touchFlying (touchGiveback i c err st.drv)).card + (decide (err ≠ 0)).toNat =
      (touchFlying st.drv).card := by
  have hurbs := touchGiveback_touchUrbs i err st.drv hlive
  have hready : (st.drv.touchUrbs i).reject ≤ 0 := by
    rw [h.touch, if_pos husers]
  have hself : (sur40Resubmit (st.drv.touchUrbs i).giveback err).inFlight =
      decide (err = 0) := by
    rw [sur40Resubmit, usbSubmitUrb_inFlight _ _ (giveback_inFlight _), decide_eq_decide,
      usbSubmitUrb_eq_zero]
    simp [hready]
  by_cases herr : err = 0
  · have hsame : touchFlying (touchGiveback i c err st.drv) = touchFlying st.drv := by
      ext j
      rw [mem_touchFlying, mem_touchFlying, hurbs, Function.update_apply]
      split_ifs with hj
      · rw [hj, hself, decide_eq_true herr, hflight]
      · rfl
    rw [hsame]
    simp [herr]
  · have hlost : touchFlying (touchGiveback i c err st.drv) = (touchFlying st.drv).erase i := by
      ext j
      rw [mem_touchFlying, Finset.mem_erase, mem_touchFlying, hurbs, Function.update_apply]
      split_ifs with hj
      · simp [hj, hself, herr]
      · simp [hj]
    have hmem : i ∈ touchFlying st.drv := (mem_touchFlying _ _).mpr hflight
    rw [hlost, decide_eq_true herr]
    exact Finset.card_erase_add_one hmem

/-- One event: a URB leaves the endpoint exactly if its resubmission fails. -/
theorem TrafficEvent.card_touchFlying {st st' : Session} {e : TrafficEvent} (h : Balanced st)
    (ht : e.Transient) (husers : 0 < st.drv.users) (husers' : 0 < st'.drv.users)
    (hstep : e.step st = some st') :
    (touchFlying st'.drv).card + e.touchFails.toNat = (touchFlying st.drv).card := by
  cases e with
  | bufferQueue buf =>
      cases hstep
      rfl
  | driver e =>
      have hevent : e.step st = some st' := hstep
      cases DriverEvent.step_cases hevent with
      | call hcall =>
          rw [touchFlying_congr (DriverCall.step_touchUrbs husers husers' hcall)]
          rfl
      | touchUrb i c err hflight => exact card_touchFlying_touchUrb h ht.1 husers hflight
      | videoUrb u c err hflight =>
          rw [touchFlying_congr (videoComplete_touchUrbs u c err st.drv)]
          rfl

/-- As long as there are users, every failed resubmission costs one URB. -/
theorem card_touchFlying_run {es : List TrafficEvent} {st st' : Session} (h : Steady st)
    (ht : ∀ e ∈ es, e.Transient)
    (husers : ∀ n s, traffic.run (es.take n) st = some s → 0 < s.drv.users)
    (hrun : traffic.run es st = some st') :
    (touchFlying st'.drv).card + es.countP TrafficEvent.touchFails =
      (touchFlying st.drv).card := by
  induction es generalizing st with
  | nil =>
      rw [Machine.run_nil, Option.some.injEq] at hrun
      simp [hrun]
  | cons e es ih =>
      rw [Machine.run_cons, Option.bind_eq_some_iff] at hrun
      obtain ⟨mid, hstep, hrun⟩ := hrun
      have hfirst : 0 < st.drv.users := husers 0 st rfl
      have hrest : ∀ n s, traffic.run (es.take n) mid = some s → 0 < s.drv.users := by
        intro n s hs
        refine husers (n + 1) s ?_
        rw [List.take_succ_cons, Machine.run_cons, hstep]
        exact hs
      have hmid := h.event hstep
      have hone := TrafficEvent.card_touchFlying h.balanced (ht e List.mem_cons_self) hfirst
        (hrest 0 mid rfl) hstep
      have hmany := ih hmid (fun b hb => ht b (List.mem_cons_of_mem e hb)) hrest hrun
      rw [List.countP_cons]
      cases hfail : e.touchFails with
      | true =>
          simp only [hfail, Bool.toNat_true, if_true] at hone ⊢
          omega
      | false =>
          simp only [hfail, Bool.toNat_false, Bool.false_eq_true, if_false] at hone ⊢
          omega

theorem sur40PipelinePut_users (s : Sur40State) :
    (sur40PipelinePut s).users = s.users - 1 := by
  simp only [sur40PipelinePut]
  split_ifs with hnone
  · rw [hnone]
  · rw [sur40TouchStop_eq]
  · rfl

/-- A get that is the first user's gets every URB into flight. -/
theorem sur40PipelineGet_flying (env : PipelineEnv) {s : Sur40State} (h : s.users = 0)
    (h' : 0 < (sur40PipelineGet env s).1.users) :
    touchFlying (sur40PipelineGet env s).1 = Finset.univ ∧
      (sur40PipelineGet env s).1.users = 1 := by
  have hcases := sur40PipelineGet_cases env s
  generalize sur40PipelineGet env s = r at hcases h' ⊢
  cases hcases with
  | shared husers => omega
  | initFailed husers hinit => exact absurd h (Nat.pos_iff_ne_zero.mp h')
  | submitFailed urbs ret husers hinit hret hreject =>
      exact absurd h (Nat.pos_iff_ne_zero.mp h')
  | started urbs husers hinit hreject hflight => simp [touchFlying, hflight]

theorem sur40VideoStop_users (s : Sur40State) : (sur40VideoStop s).users = s.users := by
  rw [sur40VideoStop]
  split_ifs <;> rfl

theorem sur40VideoStart_users (err : ℤ) (s : Sur40State) :
    (sur40VideoStart err s).1.users = s.users := by
  simp only [sur40VideoStart]
  split_ifs <;> simp [sur40VideoStop_users]

theorem sur40StartStreaming_flying (env : StreamEnv) {s : Sur40State} (h : s.users = 0)
    (h' : 0 < (sur40StartStreaming env s).1.users) :
    touchFlying (sur40StartStreaming env s).1 = Finset.univ := by
  have hget := sur40PipelineGet_flying env.pipeline h
  simp only [sur40StartStreaming] at h' ⊢
  split_ifs at h' ⊢ with hret hstart
  · -- the touch pipeline has not come up
    rw [returnAllBuffers_users] at h'
    rw [touchFlying_congr (returnAllBuffers_touchUrbs ..)]
    exact (hget h').1
  · -- it has, but goes down again with the video pipeline
    rw [returnAllBuffers_users, sur40PipelinePut_users, sur40VideoStart_users] at h'
    have hpos : 0 < (sur40PipelineGet env.pipeline s).1.users :=
      Nat.lt_of_lt_of_le h' (Nat.sub_le _ _)
    dsimp only at h'
    rw [(hget hpos).2] at h'
    exact absurd h' (lt_irrefl 0)
  · rw [sur40VideoStart_users] at h'
    rw [touchFlying_congr (sur40VideoStart_touchUrbs ..)]
    exact (hget h').1

/-- The call that brings the pipeline up gets every URB into flight. -/
theorem DriverCall.step_flying {st st' : Session} {c : DriverCall} (h : st.drv.users = 0)
    (h' : 0 < st'.drv.users) (hstep : c.step st = some st') :
    touchFlying st'.drv = Finset.univ := by
  cases step_cases hstep with
  | openInput env => exact (sur40PipelineGet_flying env h h').1
  | closeInput hopens =>
      have husers : (sur40Close st.drv).users = st.drv.users - 1 := sur40PipelinePut_users st.drv
      dsimp only at h'
      omega
  | startStreaming env hidle => exact sur40StartStreaming_flying env h h'
  | stopStreaming hrun =>
      have husers : (sur40StopStreaming st.drv).users = st.drv.users - 1 := by
        rw [sur40StopStreaming, sur40StopStreamingReclaim_eq, sur40PipelinePut_users]
        exact congrArg (· - 1) (sur40VideoStop_users st.drv)
      dsimp only at h'
      omega

/-! ## Both pipelines -/

/-- **A transient failure does silence a pipeline, and exactly when.** After any history,
let a start succeed. While video goes on streaming, one of its URBs is in flight
exactly if no submission of its handlers has failed since; while the pipeline keeps a
user, a touch URB is in flight exactly if fewer resubmissions than there are URBs
have failed since. -/
theorem pipelines_alive_iff (videoNode : Bool) (touchPktSize videoPktSize : ℕ)
    (history : List TrafficEvent) (st : Session)
    (hhistory : traffic.run history (Session.probe videoNode touchPktSize videoPktSize) = some st)
    (c : DriverCall) (up : Session) (hstart : c.step st = some up)
    (es : List TrafficEvent) (st' : Session) (ht : ∀ e ∈ es, e.Transient)
    (hrun : traffic.run es up = some st') :
    (st.streaming = false → up.streaming = true → (∀ e ∈ es, e.KeepsVideo) →
      ((∃ u, (st'.drv.videoUrb u).inFlight = true) ↔ ∀ e ∈ es, e.videoFails = false)) ∧
    (st.drv.users = 0 →
      (∀ n s, traffic.run (es.take n) up = some s → 0 < s.drv.users) →
      ((∃ i, (st'.drv.touchUrbs i).inFlight = true) ↔
        es.countP TrafficEvent.touchFails < sur40TouchUrbs)) := by
  have hsteady := Steady.of_run hhistory
  have hup := hsteady.call hstart
  constructor
  · intro hidle hstream hkeeps
    cases DriverCall.step_cases hstart with
    | openInput env => simp [hidle] at hstream
    | closeInput hopens => simp [hidle] at hstream
    | startStreaming env hidle' =>
        obtain ⟨hstreams, halive⟩ := hsteady.streams hstart hstream
        exact (hstreams.run ht hkeeps hrun).trans (and_iff_right halive)
    | stopStreaming hrun' => simp [hidle] at hrun'
  · intro hnone husers
    have hcard := card_touchFlying_run hup ht husers hrun
    rw [DriverCall.step_flying hnone (husers 0 up rfl) hstart, Finset.card_univ,
      Fintype.card_fin] at hcard
    have hsome : (∃ i, (st'.drv.touchUrbs i).inFlight = true) ↔ 0 < (touchFlying st'.drv).card := by
      rw [Finset.card_pos]
      exact exists_congr fun i => (mem_touchFlying st'.drv i).symm
    rw [hsome]
    omega

/-- A header transfer that failed on the bus; `err` is what its resubmission returns. -/
def headerFailed (err : ℤ) : TrafficEvent :=
  .driver (.videoUrb .hdr { status := -71, data := [] } err)

theorem headerFailed_transient {err : ℤ} (hperm : err ≠ -eperm) (hnodev : err ≠ -enodev) :
    (headerFailed err).Transient := ⟨by decide, hperm, hnodev⟩

/-- Streaming has just been started. -/
def streamStarted : Session where
  drv := (sur40StartStreaming willingEnv (sur40Probe false 512 512)).1
  opens := 0
  streaming := true

/-- The resubmission succeeds, and both pipelines go on. -/
theorem pipelines_alive_headerFailed :
    ∃ st, traffic.run [headerFailed 0] streamStarted = some st ∧
      (∃ u, (st.drv.videoUrb u).inFlight = true) ∧ ∃ i, (st.drv.touchUrbs i).inFlight = true := by
  have ht : ∀ e ∈ [headerFailed 0], e.Transient := by
    intro e he
    rw [List.mem_singleton.mp he]
    exact headerFailed_transient (by decide) (by decide)
  have halive := pipelines_alive_iff false 512 512 [] (Session.probe false 512 512) rfl
    (.startStreaming willingEnv) streamStarted rfl [headerFailed 0] _ ht rfl
  refine ⟨_, rfl, ?_, ?_⟩
  · refine (halive.1 rfl rfl ?_).mpr ?_
    · simp [headerFailed, TrafficEvent.KeepsVideo]
    · simp [headerFailed, TrafficEvent.videoFails]
  · refine (halive.2 rfl ?_).mpr (by decide)
    intro n s hs
    match n with
    | 0 =>
        cases hs
        decide
    | n + 1 =>
        rw [List.take_of_length_le (by simp)] at hs
        cases hs
        decide

/-- One lost resubmission, and video is silent although it streams. -/
theorem not_alive_headerFailed :
    ¬∀ (history : List TrafficEvent) (st up st' : Session) (env : StreamEnv)
      (es : List TrafficEvent),
      traffic.run history (Session.probe false 512 512) = some st →
      (DriverCall.startStreaming env).step st = some up → up.streaming = true →
      (∀ e ∈ es, e.Transient) → (∀ e ∈ es, e.KeepsVideo) → traffic.run es up = some st' →
      ∃ u, (st'.drv.videoUrb u).inFlight = true := by
  intro h
  have ht : ∀ e ∈ [headerFailed (-enomem)], e.Transient := by
    intro e he
    rw [List.mem_singleton.mp he]
    exact headerFailed_transient (by decide) (by decide)
  obtain ⟨u, hu⟩ := h [] _ streamStarted _ willingEnv [headerFailed (-enomem)] rfl rfl rfl ht
    (by simp [headerFailed, TrafficEvent.KeepsVideo]) rfl
  cases u <;> exact absurd hu (by decide)

end Sur40
