import Sur40.Consumers

/-!
# After the disconnect

`sur40_disconnect` poisons every URB once more and turns the stop helpers into
no-ops. The start helpers still unpoison, and nothing undoes that: every bring-up
that a late caller gets to uses up one poisoning for good.

## Main definitions

* `Poisoned`, `StaysPoisoned`: no URB can be submitted, now or later.
* `touchStarts`, `videoStarts`: the bring-ups among the late calls.
* `staysPoisoned_iff`: how many of them the driver survives.
-/

namespace Sur40

open Devlib

/-- Every URB of the driver is refused by the USB core. -/
def Poisoned (s : Sur40State) : Prop :=
  (∀ i, 0 < (s.touchUrbs i).reject) ∧ ∀ u, 0 < (s.videoUrb u).reject

/-- The device is unplugged; the callers do not know yet. -/
def Session.unplug (st : Session) : Session := { st with drv := sur40Disconnect st.drv }

/-- From the disconnect on every URB stays poisoned while the calls `cs` come in. -/
def StaysPoisoned (st : Session) (cs : List DriverCall) : Prop :=
  ∀ before st', before <+: cs → calls.run before st.unplug = some st' → Poisoned st'.drv

/-- A call that finds no user and gets the device to answer brings the touch
pipeline up. -/
def DriverCall.startsTouch (users : ℕ) : DriverCall → Bool
  | .openInput env => users = 0 && env.init.result = 0
  | .closeInput => false
  | .startStreaming env => users = 0 && env.pipeline.init.result = 0
  | .stopStreaming => false

/-- Streaming brings the video pipeline up where the touch pipeline has a user. -/
def DriverCall.startsVideo (users : ℕ) : DriverCall → Bool
  | .openInput _ => false
  | .closeInput => false
  | .startStreaming _ => 0 < users
  | .stopStreaming => false

/-- The number of users after a call on an unplugged device, where no URB can be
submitted. -/
def DriverCall.usersUnplugged (users : ℕ) : DriverCall → ℕ
  | .openInput _ => if users = 0 then 0 else users + 1
  | .closeInput => users - 1
  | .startStreaming _ => users
  | .stopStreaming => users - 1

/-- How often the calls bring the touch pipeline up. -/
def touchStarts : ℕ → List DriverCall → ℕ
  | _, [] => 0
  | users, c :: cs => (c.startsTouch users).toNat + touchStarts (c.usersUnplugged users) cs

/-- How often the calls bring the video pipeline up. -/
def videoStarts : ℕ → List DriverCall → ℕ
  | _, [] => 0
  | users, c :: cs => (c.startsVideo users).toNat + videoStarts (c.usersUnplugged users) cs

/-! ## One call -/

/-- An unplugged driver whose touch URBs are poisoned `t` times and whose video URBs
`v` times. -/
structure Unplugged (st : Session) (t v : ℤ) : Prop where
  gone : st.drv.disconnected = true
  users : st.drv.users = st.opens + st.streaming.toNat
  touch : ∀ i, (st.drv.touchUrbs i).reject = t
  video : ∀ u, (st.drv.videoUrb u).reject = v

theorem Unplugged.poisoned {st : Session} {t v : ℤ} (h : Unplugged st t v) (ht : 0 < t)
    (hv : 0 < v) : Poisoned st.drv :=
  ⟨fun i => by rw [h.touch]; exact ht, fun u => by rw [h.video]; exact hv⟩

theorem not_poisoned_of_touch {s : Sur40State} (i : Fin sur40TouchUrbs)
    (h : (s.touchUrbs i).reject ≤ 0) : ¬Poisoned s :=
  fun hp => absurd (hp.1 i) (not_lt.mpr h)

theorem not_poisoned_of_hdr {s : Sur40State} (h : s.videoHdrUrb.reject ≤ 0) : ¬Poisoned s :=
  fun hp => absurd (hp.2 .hdr) (not_lt.mpr h)

/-! ### The helpers on an unplugged device -/

/-- Asking for the touch pipeline takes one poisoning off if the pipeline has to be
brought up, and succeeds only where there is a user or nothing is left. -/
structure GetUnplugged (env : PipelineEnv) (s s' : Sur40State) (ret : ℤ) : Prop where
  gone : s'.disconnected = true
  video : ∀ u, s'.videoUrb u = s.videoUrb u
  touch : ∀ i, (s'.touchUrbs i).reject =
    (s.touchUrbs i).reject - (decide (s.users = 0) && decide (env.init.result = 0)).toNat
  used : ret = 0 → 0 < s'.users
  shared : 0 < s.users → ret = 0 ∧ s'.users = s.users + 1
  refused : s.users = 0 → (∀ i, 0 < (s'.touchUrbs i).reject) → ret ≠ 0 ∧ s'.users = 0

theorem sur40PipelineGet_unplugged (env : PipelineEnv) {s : Sur40State}
    (hd : s.disconnected = true) :
    GetUnplugged env s (sur40PipelineGet env s).1 (sur40PipelineGet env s).2 := by
  have hcases := sur40PipelineGet_cases env s
  generalize sur40PipelineGet env s = r at hcases ⊢
  cases hcases with
  | shared husers =>
      refine ⟨hd, fun u => by cases u <;> rfl, fun i => ?_, fun _ => Nat.succ_pos _,
        fun _ => ⟨rfl, rfl⟩, fun h0 => ?_⟩
      · simp [Nat.pos_iff_ne_zero.mp husers]
      · omega
  | initFailed husers hinit =>
      refine ⟨hd, fun u => by cases u <;> rfl, fun i => ?_, fun h0 => absurd h0 hinit,
        fun hpos => ?_, fun _ _ => ⟨hinit, husers⟩⟩
      · simp [hinit]
      · omega
  | submitFailed urbs ret husers hinit hret hreject =>
      refine ⟨hd, fun u => by cases u <;> rfl, fun i => ?_, fun h0 => absurd h0 hret,
        fun hpos => ?_, fun _ _ => ⟨hret, husers⟩⟩
      · simp [hreject, hd, husers, hinit]
      · omega
  | started urbs husers hinit hreject hflight =>
      refine ⟨hd, fun u => by cases u <;> rfl, fun i => ?_, fun _ => Nat.one_pos,
        fun hpos => ?_, fun _ hall => ?_⟩
      · simp [hreject, husers, hinit]
      · omega
      · exact absurd (hall firstTouchUrb) (not_lt.mpr (hflight firstTouchUrb).2)

/-- Putting the pipeline back poisons nothing any more. -/
theorem sur40PipelinePut_unplugged {s : Sur40State} (hd : s.disconnected = true)
    (hpos : 0 < s.users) :
    ∃ urbs, sur40PipelinePut s = { s with users := s.users - 1, touchUrbs := urbs } ∧
      ∀ i, (urbs i).reject = (s.touchUrbs i).reject := by
  obtain ⟨urbs, heq, hreject⟩ := sur40PipelinePut_of_pos hpos
  refine ⟨urbs, heq, fun i => ?_⟩
  rw [hreject, hd]
  simp

/-- Starting the video pipeline takes one poisoning off, and succeeds only if none is
left. -/
theorem sur40VideoStart_unplugged (err : ℤ) {s : Sur40State} (hd : s.disconnected = true) :
    ∃ hdr ret, sur40VideoStart err s = ({ s with
        drainRemaining := 0
        videoHdrUrb := hdr
        videoFrameUrb := usbUnpoisonUrb s.videoFrameUrb
        videoDrainUrb := usbUnpoisonUrb s.videoDrainUrb }, ret) ∧
      hdr.reject = s.videoHdrUrb.reject - 1 ∧ (0 < hdr.reject → ret ≠ 0) := by
  rcases sur40VideoStart_cases err s with
    ⟨hdr, heq, -, hreject, hready, -⟩ | ⟨hdr, ret, hret, heq, hreject, -⟩
  · exact ⟨hdr, 0, heq, hreject, fun hpos => absurd hpos (not_lt.mpr hready)⟩
  · rw [sur40VideoStop, if_pos (by exact hd)] at heq
    exact ⟨hdr, ret, heq, hreject, fun _ => hret⟩

/-! ### The calls -/

/-- The state after a call that would leave the counters at `t` and `v`: if both are
positive, that is where they are and there are `users`; if not, some URB can be
submitted again. -/
structure LateCall (st' : Session) (users : ℕ) (t v : ℤ) : Prop where
  kept : 0 < t → 0 < v → Unplugged st' t v ∧ st'.drv.users = users
  lost : ¬(0 < t ∧ 0 < v) → ¬Poisoned st'.drv

theorem Unplugged.openInput {st : Session} {t v : ℤ} (h : Unplugged st t v) (hv : 0 < v)
    (env : PipelineEnv) : LateCall { st with
      drv := (sur40Open env st.drv).1
      opens := if (sur40Open env st.drv).2 = 0 then st.opens + 1 else st.opens }
    ((DriverCall.openInput env).usersUnplugged st.drv.users)
    (t - ((DriverCall.openInput env).startsTouch st.drv.users).toNat) v := by
  have husers := h.users
  have hget := sur40PipelineGet_unplugged env h.gone
  have htouch : ∀ i, ((sur40Open env st.drv).1.touchUrbs i).reject =
      t - ((DriverCall.openInput env).startsTouch st.drv.users).toNat := by
    intro i
    rw [← h.touch i]
    exact hget.touch i
  have hvideo : ∀ u, ((sur40Open env st.drv).1.videoUrb u).reject = v := fun u =>
    (congrArg Urb.reject (hget.video u)).trans (h.video u)
  refine ⟨fun ht _ => ?_, fun hlost => ?_⟩
  · by_cases hnone : st.drv.users = 0
    · obtain ⟨hret, husers'⟩ := hget.refused hnone fun i => by
        rw [show ((sur40PipelineGet env st.drv).1.touchUrbs i).reject = _ from htouch i]
        exact ht
      have hopens : (if (sur40Open env st.drv).2 = 0 then st.opens + 1 else st.opens) =
        st.opens := if_neg hret
      refine ⟨⟨hget.gone, ?_, htouch, hvideo⟩, ?_⟩
      · dsimp only
        rw [hopens, ← husers, hnone]
        exact husers'
      · rw [DriverCall.usersUnplugged, if_pos hnone]
        exact husers'
    · obtain ⟨hret, husers'⟩ := hget.shared (Nat.pos_of_ne_zero hnone)
      have hopens : (if (sur40Open env st.drv).2 = 0 then st.opens + 1 else st.opens) =
        st.opens + 1 := if_pos hret
      refine ⟨⟨hget.gone, ?_, htouch, hvideo⟩, ?_⟩
      · dsimp only
        rw [hopens, show (sur40Open env st.drv).1.users = _ from husers']
        omega
      · rw [DriverCall.usersUnplugged, if_neg hnone]
        exact husers'
  · refine not_poisoned_of_touch firstTouchUrb ?_
    dsimp only
    rw [htouch]
    exact not_lt.mp fun ht => hlost ⟨ht, hv⟩

theorem Unplugged.closeInput {st : Session} {t v : ℤ} (h : Unplugged st t v) (ht : 0 < t)
    (hv : 0 < v) (hopens : 0 < st.opens) :
    LateCall { st with drv := sur40Close st.drv, opens := st.opens - 1 }
      (st.drv.users - 1) t v := by
  have husers := h.users
  obtain ⟨urbs, heq, hreject⟩ := sur40PipelinePut_unplugged h.gone (by omega)
  refine ⟨fun _ _ => ?_, fun hlost => absurd ⟨ht, hv⟩ hlost⟩
  rw [sur40Close, heq]
  refine ⟨⟨h.gone, ?_, fun i => (hreject i).trans (h.touch i), fun u => ?_⟩, rfl⟩
  · dsimp only
    omega
  · rw [← h.video u]
    cases u <;> rfl

theorem Unplugged.stopStreaming {st : Session} {t v : ℤ} (h : Unplugged st t v) (ht : 0 < t)
    (hv : 0 < v) (hrun : st.streaming = true) :
    LateCall { st with drv := sur40StopStreaming st.drv, streaming := false }
      (st.drv.users - 1) t v := by
  have husers := h.users
  rw [hrun, Bool.toNat_true] at husers
  have hstop : sur40VideoStop st.drv = st.drv := if_pos h.gone
  obtain ⟨urbs, heq, hreject⟩ := sur40PipelinePut_unplugged (s := { st.drv with
      done := st.drv.done ++
        (st.drv.curBuf.toList ++ st.drv.bufList).map fun buf => ⟨buf, .error, none⟩
      curBuf := none
      bufList := [] }) h.gone (by dsimp only; omega)
  refine ⟨fun _ _ => ?_, fun hlost => absurd ⟨ht, hv⟩ hlost⟩
  rw [sur40StopStreaming, hstop, sur40StopStreamingReclaim_eq, heq]
  refine ⟨⟨h.gone, ?_, fun i => (hreject i).trans (h.touch i), fun u => ?_⟩, rfl⟩
  · dsimp only
    rw [husers]
    rfl
  · rw [← h.video u]
    cases u <;> rfl

section Start

variable {st : Session} {t v : ℤ} {env : StreamEnv} {s₁ : Sur40State} {ret : ℤ}

theorem Unplugged.touch_of_get (h : Unplugged st t v)
    (hget : GetUnplugged env.pipeline st.drv s₁ ret) (i : Fin sur40TouchUrbs) :
    (s₁.touchUrbs i).reject =
      t - ((DriverCall.startStreaming env).startsTouch st.drv.users).toNat := by
  rw [← h.touch i]
  exact hget.touch i

theorem Unplugged.video_of_get (h : Unplugged st t v)
    (hget : GetUnplugged env.pipeline st.drv s₁ ret) (u : VideoUrb) :
    (s₁.videoUrb u).reject = v :=
  (congrArg Urb.reject (hget.video u)).trans (h.video u)

/-- Where the touch pipeline is there, either nothing is left of its poisoning, because
it has come up without a user; or there is a user, and the video URBs are unpoisoned. -/
theorem Unplugged.which (h : Unplugged st t v) (hget : GetUnplugged env.pipeline st.drv s₁ ret)
    (hret : ret = 0) :
    t - ((DriverCall.startStreaming env).startsTouch st.drv.users).toNat ≤ 0 ∨
      0 < st.drv.users ∧
        v - ((DriverCall.startStreaming env).startsVideo st.drv.users).toNat = v - 1 := by
  rcases Nat.eq_zero_or_pos st.drv.users with hnone | hpos
  · refine .inl (not_lt.mp fun ht => ?_)
    exact (hget.refused hnone fun i => by rw [h.touch_of_get hget]; exact ht).1 hret
  · refine .inr ⟨hpos, ?_⟩
    simp [DriverCall.startsVideo, hpos]

/-- The touch pipeline is refused. -/
theorem Unplugged.startRefused (h : Unplugged st t v) (hv : 0 < v)
    (hidle : st.streaming = false) (hget : GetUnplugged env.pipeline st.drv s₁ ret)
    (hret : ret ≠ 0) :
    LateCall { st with drv := returnAllBuffers .queued s₁, streaming := ret = 0 } st.drv.users
      (t - ((DriverCall.startStreaming env).startsTouch st.drv.users).toNat)
      (v - ((DriverCall.startStreaming env).startsVideo st.drv.users).toNat) := by
  have husers := h.users
  rw [hidle, Bool.toNat_false, add_zero] at husers
  have hnone : st.drv.users = 0 := by
    by_contra hpos
    exact hret (hget.shared (Nat.pos_of_ne_zero hpos)).1
  have hstarts : (DriverCall.startStreaming env).startsVideo st.drv.users = false := by
    simp [DriverCall.startsVideo, hnone]
  have htouch := h.touch_of_get hget
  have hvideo := h.video_of_get hget
  rw [returnAllBuffers_eq, hstarts, Bool.toNat_false, Nat.cast_zero, sub_zero]
  refine ⟨fun ht _ => ?_, fun hlost => ?_⟩
  · obtain ⟨-, husers'⟩ := hget.refused hnone fun i => by
      rw [htouch]
      exact ht
    have hfail : decide (ret = 0) = false := decide_eq_false hret
    refine ⟨⟨hget.gone, ?_, htouch, fun u => ?_⟩, ?_⟩
    · dsimp only
      rw [hfail, husers', Bool.toNat_false, add_zero, ← husers, hnone]
    · rw [← hvideo u]
      cases u <;> rfl
    · rw [hnone]
      exact husers'
  · refine not_poisoned_of_touch firstTouchUrb ?_
    dsimp only
    rw [htouch]
    exact not_lt.mp fun ht => hlost ⟨ht, hv⟩

/-- The touch pipeline is there, the header URB is refused. -/
theorem Unplugged.startFailed (h : Unplugged st t v) (hidle : st.streaming = false)
    (hget : GetUnplugged env.pipeline st.drv s₁ ret) (hret : ret = 0) {hdr : Urb}
    (hreject : hdr.reject = s₁.videoHdrUrb.reject - 1) {ret₂ : ℤ} (hret₂ : ret₂ ≠ 0) :
    LateCall { st with
      drv := returnAllBuffers .queued (sur40PipelinePut { s₁ with
        sequence := 0
        framesDropped := 0
        curBuf := none
        drainRemaining := 0
        videoHdrUrb := hdr
        videoFrameUrb := usbUnpoisonUrb s₁.videoFrameUrb
        videoDrainUrb := usbUnpoisonUrb s₁.videoDrainUrb })
      streaming := ret₂ = 0 } st.drv.users
      (t - ((DriverCall.startStreaming env).startsTouch st.drv.users).toNat)
      (v - ((DriverCall.startStreaming env).startsVideo st.drv.users).toNat) := by
  have husers := h.users
  rw [hidle, Bool.toNat_false, add_zero] at husers
  have hvideo := h.video_of_get hget
  have hhdr : hdr.reject = v - 1 := hreject.trans (congrArg (· - 1) (hvideo .hdr))
  obtain ⟨urbs, hput, hsame⟩ := sur40PipelinePut_unplugged (s := { s₁ with
      sequence := 0
      framesDropped := 0
      curBuf := none
      drainRemaining := 0
      videoHdrUrb := hdr
      videoFrameUrb := usbUnpoisonUrb s₁.videoFrameUrb
      videoDrainUrb := usbUnpoisonUrb s₁.videoDrainUrb }) hget.gone (hget.used hret)
  rw [hput, returnAllBuffers_eq]
  have hfail : decide (ret₂ = 0) = false := decide_eq_false hret₂
  have htouch := fun i => (hsame i).trans (h.touch_of_get hget i)
  refine ⟨fun ht hv' => ?_, fun hlost => ?_⟩
  · rcases h.which hget hret with ht' | ⟨hpos, hv''⟩
    · exact absurd ht (not_lt.mpr ht')
    · have husers' := (hget.shared hpos).2
      refine ⟨⟨hget.gone, ?_, htouch, fun u => ?_⟩, ?_⟩
      · dsimp only
        rw [hfail, husers', Bool.toNat_false, Nat.add_sub_cancel, add_zero, husers]
      · rw [hv'']
        cases u
        · exact hhdr
        · exact congrArg (· - 1) (hvideo .frame)
        · exact congrArg (· - 1) (hvideo .drain)
      · dsimp only
        rw [husers', Nat.add_sub_cancel]
  · by_cases hpos : 0 < hdr.reject
    · refine not_poisoned_of_touch firstTouchUrb ((htouch firstTouchUrb).trans_le ?_)
      rcases h.which hget hret with ht' | ⟨-, hv''⟩
      · exact ht'
      · refine not_lt.mp fun ht => hlost ⟨ht, ?_⟩
        rw [hv'', ← hhdr]
        exact hpos
    · exact not_poisoned_of_hdr (not_lt.mp hpos)

/-- Streaming has been started on the device that is gone. -/
theorem Unplugged.started (h : Unplugged st t v)
    (hget : GetUnplugged env.pipeline st.drv s₁ ret) (hret : ret = 0) {s₂ : Sur40State}
    (hreject : s₂.videoHdrUrb.reject = s₁.videoHdrUrb.reject - 1)
    (hready : s₂.videoHdrUrb.reject ≤ 0) (streaming : Bool) :
    LateCall { st with drv := s₂, streaming } st.drv.users
      (t - ((DriverCall.startStreaming env).startsTouch st.drv.users).toNat)
      (v - ((DriverCall.startStreaming env).startsVideo st.drv.users).toNat) := by
  have hhdr : s₂.videoHdrUrb.reject = v - 1 :=
    hreject.trans (congrArg (· - 1) (h.video_of_get hget .hdr))
  refine ⟨fun ht hv' => ?_, fun _ => not_poisoned_of_hdr hready⟩
  rcases h.which hget hret with ht' | ⟨-, hv''⟩
  · exact absurd ht (not_lt.mpr ht')
  · rw [hv'', ← hhdr] at hv'
    exact absurd hv' (not_lt.mpr hready)

end Start

/-- Streaming fails without a user, and otherwise at the header URB; in both cases what
it has unpoisoned stays unpoisoned. -/
theorem Unplugged.startStreaming {st : Session} {t v : ℤ} (h : Unplugged st t v) (hv : 0 < v)
    (hidle : st.streaming = false) (env : StreamEnv) : LateCall { st with
      drv := (sur40StartStreaming env st.drv).1
      streaming := (sur40StartStreaming env st.drv).2 = 0 } st.drv.users
    (t - ((DriverCall.startStreaming env).startsTouch st.drv.users).toNat)
    (v - ((DriverCall.startStreaming env).startsVideo st.drv.users).toNat) := by
  have hget := sur40PipelineGet_unplugged env.pipeline h.gone
  rw [sur40StartStreaming]
  generalize sur40PipelineGet env.pipeline st.drv = get at hget ⊢
  obtain ⟨s₁, ret⟩ := get
  dsimp only at hget ⊢
  by_cases hret : ret = 0
  · rw [if_neg (not_not.mpr hret)]
    obtain ⟨hdr, ret₂, heq, hreject, hret₂⟩ := sur40VideoStart_unplugged env.videoHdr
      (s := { s₁ with sequence := 0, framesDropped := 0, curBuf := none }) hget.gone
    rw [heq]
    dsimp only at hreject ⊢
    by_cases hok : ret₂ = 0
    · rw [if_neg (not_not.mpr hok)]
      exact h.started hget hret hreject (not_lt.mp fun hpos => hret₂ hpos hok) _
    · rw [if_pos hok]
      exact h.startFailed hidle hget hret hreject hok
  · rw [if_pos hret]
    exact h.startRefused hv hidle hget hret

theorem Unplugged.call {st st' : Session} {t v : ℤ} (h : Unplugged st t v) (ht : 0 < t)
    (hv : 0 < v) {c : DriverCall} (hstep : c.step st = some st') :
    LateCall st' (c.usersUnplugged st.drv.users)
      (t - (c.startsTouch st.drv.users).toNat) (v - (c.startsVideo st.drv.users).toNat) := by
  cases DriverCall.step_cases hstep with
  | openInput env =>
      simpa [DriverCall.startsVideo] using h.openInput hv env
  | closeInput hopens =>
      simpa [DriverCall.startsTouch, DriverCall.startsVideo, DriverCall.usersUnplugged] using
        h.closeInput ht hv hopens
  | startStreaming env hidle => exact h.startStreaming hv hidle env
  | stopStreaming hrun =>
      simpa [DriverCall.startsTouch, DriverCall.startsVideo, DriverCall.usersUnplugged] using
        h.stopStreaming ht hv hrun

/-! ## Every run -/

/-- The calls `cs` leave every URB poisoned at every moment exactly if they bring
neither pipeline up as often as its URBs are poisoned. -/
theorem Unplugged.run (cs : List DriverCall) {st st' : Session} {t v : ℤ}
    (h : Unplugged st t v) (ht : 0 < t) (hv : 0 < v) (hrun : calls.run cs st = some st') :
    (∀ before st'', before <+: cs → calls.run before st = some st'' → Poisoned st''.drv) ↔
      (touchStarts st.drv.users cs : ℤ) < t ∧ (videoStarts st.drv.users cs : ℤ) < v := by
  induction cs generalizing st t v with
  | nil =>
      rw [Machine.forall_run_prefix_nil]
      refine ⟨fun _ => ?_, fun _ => h.poisoned ht hv⟩
      exact ⟨by simpa [touchStarts] using ht, by simpa [videoStarts] using hv⟩
  | cons c cs ih =>
      rw [Machine.run_cons, Option.bind_eq_some_iff] at hrun
      obtain ⟨st₁, hstep, hrun⟩ := hrun
      have hcall := h.call ht hv hstep
      rw [touchStarts, videoStarts, Machine.forall_run_prefix_cons (M := calls) hstep]
      by_cases hleft : 0 < t - (c.startsTouch st.drv.users).toNat ∧
          0 < v - (c.startsVideo st.drv.users).toNat
      · obtain ⟨h₁, husers⟩ := hcall.kept hleft.1 hleft.2
        have hrest := ih h₁ hleft.1 hleft.2 hrun
        rw [husers] at hrest
        rw [and_iff_right (h.poisoned ht hv), hrest]
        push_cast
        omega
      · refine ⟨fun hall => ?_, fun hcount => ?_⟩
        · exact absurd (hall.2 [] st₁ List.nil_prefix rfl) (hcall.lost hleft)
        · push_cast at hcount
          omega

/-- The disconnect poisons every URB once more. -/
theorem Balanced.unplugged {st : Session} (h : Balanced st) :
    Unplugged st.unplug ((if 0 < st.drv.users then 0 else 1) + 1)
      ((if st.streaming then 0 else 1) + 1) where
  gone := rfl
  users := h.users
  touch := fun i => congrArg (· + 1) (h.touch i)
  video := fun u => by
    rw [← h.video u]
    cases u <;> rfl

/-- **How long an unplugged driver keeps its URBs poisoned.** Wherever the device is
unplugged, no URB can be submitted again while late calls come in, exactly if these
bring the touch pipeline up at most once if it had no user and not at all if it had
one, and the video pipeline at most once if it was stopped and not at all if it was
streaming. -/
theorem staysPoisoned_iff (videoNode : Bool) (touchPktSize videoPktSize : ℕ)
    (es : List DriverEvent) (st : Session)
    (hrun : events.run es (Session.probe videoNode touchPktSize videoPktSize) = some st)
    (cs : List DriverCall) (hcs : (calls.run cs st.unplug).isSome) :
    StaysPoisoned st cs ↔
      touchStarts st.drv.users cs ≤ (if st.drv.users = 0 then 1 else 0) ∧
      videoStarts st.drv.users cs ≤ (if st.streaming then 0 else 1) := by
  have h : Balanced st := Machine.run_invariant (fun _ _ _ hbal hstep => hbal.event hstep)
    (Balanced.probe videoNode touchPktSize videoPktSize) hrun
  obtain ⟨st', hst'⟩ := Option.isSome_iff_exists.mp hcs
  rw [StaysPoisoned, Unplugged.run cs h.unplugged (by split_ifs <;> omega)
    (by split_ifs <;> omega) hst']
  change (touchStarts st.drv.users cs : ℤ) < _ ∧ (videoStarts st.drv.users cs : ℤ) < _ ↔ _
  split_ifs <;> omega

/-- A driver without consumers. -/
def idleSession : Session := Session.probe false 512 512

/-- Opened once after the disconnect, the driver stays quiet. -/
theorem staysPoisoned_openedOnce : StaysPoisoned idleSession [.openInput willingEnv.pipeline] :=
  (staysPoisoned_iff false 512 512 [] idleSession rfl [.openInput willingEnv.pipeline] rfl).mpr
    (by decide)

/-- Opened twice, it is listening again on a device that is gone: the first open is
refused and takes the second poisoning off, the second open gets its URBs submitted. -/
theorem not_staysPoisoned_openedTwice :
    ¬StaysPoisoned idleSession
      [.openInput willingEnv.pipeline, .openInput willingEnv.pipeline] := by
  intro h
  have hpoisoned := (h _ { idleSession.unplug with
    drv := (sur40Open willingEnv.pipeline
      (sur40Open willingEnv.pipeline idleSession.unplug.drv).1).1
    opens := 1 } (List.prefix_refl _) rfl).1 firstTouchUrb
  exact absurd hpoisoned (by decide)

end Sur40
