import Sur40.VideoSystem

/-!
# The invariant of the video endpoint

The poison counters say which threads have blocked a URB, and the phases say which
URBs can still be in flight. Every step keeps the shared fields and the buffers in
order.

## Main definitions

* `StopLoop.part`, `Vb2Phase.part`, `UnplugPhase.part`: who has poisoned what.
* `VideoInv`: the invariant.
* `VideoInv.step`, `VideoInv.of_run`: it holds in every run.
-/

namespace Sur40

open Devlib

/-! ## The invariant -/

/-- How often a stopping thread has poisoned a URB. -/
def StopLoop.part (l : StopLoop) (u : VideoUrb) : ℤ := if u ∈ l.unblocked then 0 else 1

/-- How often videobuf2's calls have poisoned a URB. -/
def Vb2Phase.part : Vb2Phase → VideoUrb → ℤ
  | .stopped, _ => 1
  | .streaming, _ => 0
  | .stopping l, u => l.part u

/-- How often the disconnect has poisoned a URB. -/
def UnplugPhase.part : UnplugPhase → VideoUrb → ℤ
  | .attached, _ => 0
  | .unplugging l, u => l.part u
  | .gone, _ => 1

/-- What a stopping thread has waited for is idle. -/
structure StopLoop.Waited (l : StopLoop) (s : Sur40State) : Prop where
  nodup : l.todo.Nodup
  idle : ∀ u, u ∉ l.todo → (s.videoUrb u).inFlight = false

/-- The invariant of the system. -/
structure VideoInv (sys : VideoSys) : Prop where
  conserved : sys.drv.handedOver = sys.queued
  exclusive : Exclusive sys.drv
  cur : sys.drv.curBuf.isSome = true ↔
    sys.drv.videoFrameUrb.inFlight = true ∨ sys.cancelled = true
  target : sys.drv.videoFrameUrb.inFlight = true → sys.drv.videoFrameUrb.sg = sys.drv.curBuf
  drain : sys.drv.videoDrainUrb.inFlight = true →
    sys.drv.drainRemaining = sys.drv.drainRequested ∧
    sys.drv.videoDrainUrb.transferBufferLength = drainLength sys.drv.drainRemaining
  quiet : sys.drv.warnedBuf = false
  /-- Nothing is submitted once the frame URB has been cancelled. -/
  cancelled : sys.cancelled = true → Idle sys.drv
  stopped : sys.vb2 = .stopped → Idle sys.drv ∧ sys.drv.curBuf = none
  intact : sys.intact = true →
    sys.vb2 = .streaming ∧ sys.unplug = .attached ∧ ∃ u, (sys.drv.videoUrb u).inFlight = true
  flag : sys.drv.disconnected = true ↔ sys.unplug = .gone
  /-- As long as the device is there, poisoning is the sum of what the threads did. -/
  poison : sys.unplug ≠ .gone →
    ∀ u, (sys.drv.videoUrb u).reject = sys.vb2.part u + sys.unplug.part u
  gone : sys.unplug = .gone → Idle sys.drv ∧ ∀ u, 1 ≤ (sys.drv.videoUrb u).reject
  stopping : ∀ l, sys.vb2 = .stopping l → l.Waited sys.drv
  unplugging : ∀ l, sys.unplug = .unplugging l → l.Waited sys.drv

theorem StopLoop.part_nonneg (l : StopLoop) (u : VideoUrb) : 0 ≤ l.part u := by
  rw [StopLoop.part]
  split_ifs <;> decide

theorem StopLoop.part_of_notMem {l : StopLoop} {u : VideoUrb} (h : u ∉ l.todo) :
    l.part u = 1 := by
  refine if_neg fun hmem => h ?_
  rw [StopLoop.unblocked] at hmem
  split_ifs at hmem
  · exact List.mem_of_mem_tail hmem
  · exact hmem

theorem Vb2Phase.part_nonneg (p : Vb2Phase) (u : VideoUrb) : 0 ≤ p.part u := by
  cases p with
  | stopped => exact zero_le_one
  | streaming => exact le_rfl
  | stopping l => exact l.part_nonneg u

theorem UnplugPhase.part_nonneg (p : UnplugPhase) (u : VideoUrb) : 0 ≤ p.part u := by
  cases p with
  | attached => exact le_rfl
  | unplugging l => exact l.part_nonneg u
  | gone => exact zero_le_one

section

variable {sys : VideoSys}

theorem VideoInv.attached (h : VideoInv sys) (hg : sys.unplug ≠ .gone) :
    sys.drv.disconnected = false := by
  rw [← Bool.not_eq_true, h.flag]
  exact hg

/-- Nothing is in flight any more once the frame URB has been cancelled. -/
theorem VideoInv.not_cancelled (h : VideoInv sys) {u : VideoUrb}
    (hflight : (sys.drv.videoUrb u).inFlight = true) : sys.cancelled = false := by
  rw [← Bool.not_eq_true]
  intro hc
  exact (h.cancelled hc).not_inFlight u hflight

/-- There is a current buffer exactly while the frame URB is in flight. -/
theorem VideoInv.curBuf_isSome (h : VideoInv sys) {u : VideoUrb}
    (hflight : (sys.drv.videoUrb u).inFlight = true) :
    sys.drv.curBuf.isSome = sys.drv.videoFrameUrb.inFlight := by
  rw [Bool.eq_iff_iff, h.cur, h.not_cancelled hflight]
  simp

/-- Nothing is intact any more once a thread stops the endpoint. -/
theorem VideoInv.intact_eq_false (h : VideoInv sys)
    (hstops : sys.vb2 ≠ .streaming ∨ sys.unplug ≠ .attached) : sys.intact = false := by
  rw [← Bool.not_eq_true]
  intro hi
  obtain ⟨hrun, hattached, -⟩ := h.intact hi
  rcases hstops with hstops | hstops
  · exact hstops hrun
  · exact hstops hattached

/-- While nothing is in flight, only the buffers and the counters matter. -/
theorem VideoInv.of_idle (hidle : Idle sys.drv) (hkept : sys.drv.handedOver = sys.queued)
    (hcur : sys.drv.curBuf.isSome = true ↔ sys.cancelled = true)
    (hquiet : sys.drv.warnedBuf = false)
    (hstopped : sys.vb2 = .stopped → sys.drv.curBuf = none) (hintact : sys.intact = false)
    (hflag : sys.drv.disconnected = true ↔ sys.unplug = .gone)
    (hpoison : sys.unplug ≠ .gone →
      ∀ u, (sys.drv.videoUrb u).reject = sys.vb2.part u + sys.unplug.part u)
    (hgone : sys.unplug = .gone → ∀ u, 1 ≤ (sys.drv.videoUrb u).reject)
    (hstopping : ∀ l, sys.vb2 = .stopping l → l.todo.Nodup)
    (hunplugging : ∀ l, sys.unplug = .unplugging l → l.todo.Nodup) : VideoInv sys where
  conserved := hkept
  exclusive := hidle.exclusive
  cur := by
    have hframe : sys.drv.videoFrameUrb.inFlight = false := hidle .frame
    rw [hcur, hframe]
    simp
  target hf := absurd hf (hidle.not_inFlight .frame)
  drain hf := absurd hf (hidle.not_inFlight .drain)
  quiet := hquiet
  cancelled _ := hidle
  stopped hs := ⟨hidle, hstopped hs⟩
  intact := by
    intro hi
    rw [hintact] at hi
    cases hi
  flag := hflag
  poison := hpoison
  gone hg := ⟨hidle, hgone hg⟩
  stopping l hl := ⟨hstopping l hl, fun u _ => hidle u⟩
  unplugging l hl := ⟨hunplugging l hl, fun u _ => hidle u⟩

end

theorem VideoInv.probe (videoNode : Bool) (touchPktSize videoPktSize : ℕ) :
    VideoInv (VideoSys.probe videoNode touchPktSize videoPktSize) := by
  have hidle : Idle (sur40Probe videoNode touchPktSize videoPktSize) := by
    intro u
    cases u <;> rfl
  refine .of_idle hidle rfl ⟨nofun, nofun⟩ rfl (fun _ => rfl) rfl ⟨nofun, nofun⟩ (fun _ u => ?_)
    nofun nofun nofun
  cases u <;> rfl

/-- Steps that change none of the fields of the endpoint keep the invariant. -/
theorem VideoInv.of_others {sys : VideoSys} (h : VideoInv sys) (pixFmt : V4l2PixFormat)
    (users : ℕ) (touchUrbs : Fin sur40TouchUrbs → Urb) (needBlobs : ℤ) (inits : ℕ)
    (warnedUsers : Bool) (input : InputDev) :
    VideoInv { sys with drv :=
      { sys.drv with pixFmt, users, touchUrbs, needBlobs, inits, warnedUsers, input } } :=
  { h with
    stopping l hl := ⟨(h.stopping l hl).nodup, (h.stopping l hl).idle⟩
    unplugging l hl := ⟨(h.unplugging l hl).nodup, (h.unplugging l hl).idle⟩ }

/-! ## Every step keeps the invariant -/

theorem VideoInv.bufferQueue {sys : VideoSys} (h : VideoInv sys) (buf : Sur40Buffer) :
    VideoInv { sys with
      drv := sur40BufferQueue buf sys.drv
      queued := sys.queued ++ [buf] } :=
  { h with
    conserved := by
      rw [← h.conserved]
      exact (List.append_assoc _ _ _).symm
    stopping l hl := ⟨(h.stopping l hl).nodup, (h.stopping l hl).idle⟩
    unplugging l hl := ⟨(h.unplugging l hl).nodup, (h.unplugging l hl).idle⟩ }

/-- What `sur40_start_streaming` does where it can be called. -/
theorem VideoInv.start_video {sys : VideoSys} (h : VideoInv sys) (hstop : sys.vb2 = .stopped)
    (hgone : sys.unplug ≠ .gone) (env : StreamEnv) :
    (if (sur40StartStreaming env sys.drv).2 = 0 then
        Started sys.drv (sur40StartStreaming env sys.drv).1
      else StartFailed sys.drv (sur40StartStreaming env sys.drv).1) ∧
    (sur40StartStreaming env sys.drv).1.handedOver = sys.drv.handedOver ∧
    (sur40StartStreaming env sys.drv).1.warnedBuf = sys.drv.warnedBuf ∧
    (sur40StartStreaming env sys.drv).1.disconnected = false := by
  obtain ⟨hidle, hcur⟩ := h.stopped hstop
  exact sur40StartStreaming_video env hidle hcur (h.attached hgone)

theorem VideoInv.startStreaming {sys : VideoSys} (h : VideoInv sys) (hstop : sys.vb2 = .stopped)
    (hgone : sys.unplug ≠ .gone) (env : StreamEnv) :
    VideoInv { sys with
      drv := (sur40StartStreaming env sys.drv).1
      vb2 := if (sur40StartStreaming env sys.drv).2 = 0 then .streaming else .stopped
      intact := (sur40StartStreaming env sys.drv).2 = 0 && sys.unplug = .attached } := by
  obtain ⟨hvideo, hkept, hquiet, hflag⟩ := h.start_video hstop hgone env
  have hcancelled : sys.cancelled = false := by
    rw [← Bool.not_eq_true]
    intro hc
    have hsome := h.cur.mpr (.inr hc)
    rw [(h.stopped hstop).2] at hsome
    cases hsome
  have hpoison := h.poison hgone
  rw [hstop] at hpoison
  generalize sur40StartStreaming env sys.drv = r at *
  obtain ⟨drv, ret⟩ := r
  dsimp only at *
  split_ifs at hvideo ⊢ with hret
  · have hoff : ∀ u, (drv.videoUrb u).inFlight = true → u = .hdr := by
      intro u hu
      by_contra hne
      rw [hvideo.others u hne] at hu
      cases hu
    refine ⟨hkept.trans h.conserved, ?_, ?_, ?_, ?_, hquiet.trans h.quiet, ?_, nofun, ?_, ?_, ?_,
      fun hg => absurd hg hgone, nofun, ?_⟩
    · exact fun u u' hu hu' => (hoff u hu).trans (hoff u' hu').symm
    · have hframe : drv.videoFrameUrb.inFlight = false := hvideo.others .frame (by simp)
      rw [hvideo.curBuf, hframe, hcancelled]
      simp
    · exact fun hf => absurd (hoff .frame hf) (by simp)
    · exact fun hf => absurd (hoff .drain hf) (by simp)
    · exact fun hc => absurd hc (by simp [hcancelled])
    · intro hi
      simp only [hret, decide_true, Bool.true_and, decide_eq_true_eq] at hi
      exact ⟨rfl, hi, .hdr, hvideo.hdr.1⟩
    · rw [hflag]
      exact ⟨nofun, fun hg => absurd hg hgone⟩
    · intro _ u
      rw [hvideo.reject, hpoison]
      simp [Vb2Phase.part]
    · intro l hl
      refine ⟨(h.unplugging l hl).nodup, fun u hu => hvideo.others u fun hhdr => ?_⟩
      -- the header URB would be poisoned, and could not have been submitted
      subst hhdr
      have hreject := hvideo.reject .hdr
      rw [hpoison, hl, UnplugPhase.part, StopLoop.part_of_notMem hu] at hreject
      exact absurd (hreject.symm.trans_le hvideo.hdr.2) (by decide)
  · obtain ⟨-, hcur', hidle'⟩ := hvideo.owns
    refine .of_idle hidle' (hkept.trans h.conserved) ?_ (hquiet.trans h.quiet) (fun _ => hcur') ?_
      ?_ (fun _ u => ?_) (fun hg => absurd hg hgone) nofun fun l hl => (h.unplugging l hl).nodup
    · rw [hcur', hcancelled]
      simp
    · simp [hret]
    · rw [hflag]
      exact ⟨nofun, fun hg => absurd hg hgone⟩
    · rw [hvideo.reject, hpoison]

theorem VideoInv.stopStreaming {sys : VideoSys} (h : VideoInv sys)
    (hrun : sys.vb2 = .streaming) :
    VideoInv { sys with
      vb2 := .stopping (if sys.drv.disconnected then ⟨[], false⟩ else .start)
      intact := false } :=
  { h with
    stopped := nofun
    intact := nofun
    poison := by
      intro hg u
      have hd := h.attached hg
      have hpoison := h.poison hg u
      rw [hrun] at hpoison
      rw [hd]
      refine hpoison.trans (congrArg (· + sys.unplug.part u) ?_)
      cases u <;> rfl
    stopping := by
      intro l hl
      cases hl
      cases hd : sys.drv.disconnected with
      | true => exact ⟨List.nodup_nil, fun u _ => (h.gone (h.flag.mp hd)).1 u⟩
      | false => exact ⟨by decide, fun u hu => absurd (by cases u <;> decide) hu⟩
    unplugging l hl := ⟨(h.unplugging l hl).nodup, (h.unplugging l hl).idle⟩ }

theorem VideoInv.stopReturn {sys : VideoSys} (h : VideoInv sys) {waiting : Bool}
    (hstop : sys.vb2 = .stopping ⟨[], waiting⟩) :
    VideoInv { sys with
      drv := sur40StopStreamingReclaim sys.drv
      vb2 := .stopped
      cancelled := false } := by
  have hidle : Idle sys.drv := fun u => (h.stopping _ hstop).idle u (by simp)
  obtain ⟨⟨-, hcur', hidle'⟩, hkept, hquiet, hflag, hsame⟩ :=
    sur40StopStreamingReclaim_video hidle
  have hpoison := h.poison
  rw [hstop] at hpoison
  generalize sur40StopStreamingReclaim sys.drv = drv at *
  refine .of_idle hidle' (hkept.trans h.conserved) ?_ (hquiet.trans h.quiet) (fun _ => hcur')
    (h.intact_eq_false (.inl (by simp [hstop]))) ?_ (fun hg u => ?_) (fun hg u => ?_) nofun
    fun l hl => (h.unplugging l hl).nodup
  · rw [hcur']
    simp
  · rw [hflag]
    exact h.flag
  · rw [hsame, hpoison hg]
    cases waiting <;> rfl
  · rw [hsame]
    exact (h.gone hg).2 u

/-- The state with other poison counters. -/
def Sur40State.setRejects (s : Sur40State) (n : VideoUrb → ℤ) : Sur40State :=
  { s with
    videoHdrUrb := { s.videoHdrUrb with reject := n .hdr }
    videoFrameUrb := { s.videoFrameUrb with reject := n .frame }
    videoDrainUrb := { s.videoDrainUrb with reject := n .drain } }

@[simp] theorem setRejects_inFlight (s : Sur40State) (n : VideoUrb → ℤ) (u : VideoUrb) :
    ((s.setRejects n).videoUrb u).inFlight = (s.videoUrb u).inFlight := by
  cases u <;> rfl

@[simp] theorem setRejects_reject (s : Sur40State) (n : VideoUrb → ℤ) (u : VideoUrb) :
    ((s.setRejects n).videoUrb u).reject = n u := by
  cases u <;> rfl

/-- A step of a stopping thread moves poison counters only, and in step with the part
that the thread has in them. -/
theorem StopLoop.step_cases {l l' : StopLoop} {s s' : Sur40State} (hw : l.Waited s)
    (h : l.step s = some (l', s')) :
    ∃ n, s' = s.setRejects n ∧ (∀ u, n u = (s.videoUrb u).reject + (l'.part u - l.part u)) ∧
      (∀ u, l.part u ≤ l'.part u) ∧ l'.Waited s' := by
  obtain ⟨todo, waiting⟩ := l
  cases todo with
  | nil => cases waiting <;> cases h
  | cons u us =>
      cases waiting with
      | false =>
          cases h
          have hu : u ∉ us := (List.nodup_cons.mp hw.nodup).1
          have hpart : ∀ w, StopLoop.part ⟨u :: us, true⟩ w =
              StopLoop.part ⟨u :: us, false⟩ w + if w = u then 1 else 0 := by
            intro w
            by_cases hwu : w = u
            · subst hwu
              simp [StopLoop.part, StopLoop.unblocked, hu]
            · simp [StopLoop.part, StopLoop.unblocked, hwu]
          refine ⟨fun w => (s.videoUrb w).reject + if w = u then 1 else 0, ?_, fun w => ?_,
            fun w => ?_, hw.nodup, fun w hmem => ?_⟩
          · cases u <;> simp [Sur40State.mapVideoUrb, Sur40State.setRejects, usbBlockUrb,
              Sur40State.videoUrb]
          · dsimp only
            rw [hpart]
            omega
          · rw [hpart]
            split_ifs <;> omega
          · have hidle := hw.idle w hmem
            cases u <;> cases w <;> exact hidle
      | true =>
          simp only [StopLoop.step, Option.ite_none_left_eq_some, Option.some.injEq,
            Prod.mk.injEq, Bool.not_eq_true] at h
          obtain ⟨hidle, rfl, rfl⟩ := h
          refine ⟨fun w => (s.videoUrb w).reject, rfl, fun w => ?_, fun w => le_rfl,
            (List.nodup_cons.mp hw.nodup).2, fun w hmem => ?_⟩
          · exact (add_zero _).symm.trans (congrArg _ (sub_self _).symm)
          · by_cases hwu : w = u
            · rw [hwu]
              exact hidle
            · exact hw.idle w (by simp [hwu, hmem])

/-- Only the poison counters and the threads have moved. -/
theorem VideoInv.of_rejects {sys : VideoSys} (h : VideoInv sys) (n : VideoUrb → ℤ)
    {vb2 : Vb2Phase} {unplug : UnplugPhase} (hintact : sys.intact = false)
    (hvb2 : vb2 = .stopped → sys.vb2 = .stopped) (hgone : unplug = .gone ↔ sys.unplug = .gone)
    (hpoison : unplug ≠ .gone → ∀ u, n u = vb2.part u + unplug.part u)
    (hreject : sys.unplug = .gone → ∀ u, 1 ≤ n u)
    (hstopping : ∀ l, vb2 = .stopping l → l.Waited (sys.drv.setRejects n))
    (hunplugging : ∀ l, unplug = .unplugging l → l.Waited (sys.drv.setRejects n)) :
    VideoInv { sys with drv := sys.drv.setRejects n, vb2, unplug } where
  conserved := h.conserved
  exclusive u u' hu hu' := h.exclusive u u' (by simpa using hu) (by simpa using hu')
  cur := h.cur
  target := h.target
  drain := h.drain
  quiet := h.quiet
  cancelled hc u := by
    rw [setRejects_inFlight]
    exact h.cancelled hc u
  stopped hs := ⟨fun u => by rw [setRejects_inFlight]; exact (h.stopped (hvb2 hs)).1 u,
    (h.stopped (hvb2 hs)).2⟩
  intact hi := absurd hi (by simp [hintact])
  flag := h.flag.trans hgone.symm
  poison hg u := by
    rw [setRejects_reject]
    exact hpoison hg u
  gone hg := ⟨fun u => by rw [setRejects_inFlight]; exact (h.gone (hgone.mp hg)).1 u,
    fun u => by rw [setRejects_reject]; exact hreject (hgone.mp hg) u⟩
  stopping := hstopping
  unplugging := hunplugging

theorem StopLoop.Waited.setRejects {l : StopLoop} {s : Sur40State} (h : l.Waited s)
    (n : VideoUrb → ℤ) : l.Waited (s.setRejects n) :=
  ⟨h.nodup, fun u hu => by rw [setRejects_inFlight]; exact h.idle u hu⟩

theorem VideoInv.stopStep {sys : VideoSys} (h : VideoInv sys) {l l' : StopLoop}
    {drv : Sur40State} (hstop : sys.vb2 = .stopping l) (hstep : l.step sys.drv = some (l', drv)) :
    VideoInv { sys with drv, vb2 := .stopping l' } := by
  obtain ⟨n, rfl, hn, hle, hwaited⟩ := StopLoop.step_cases (h.stopping l hstop) hstep
  have hintact := h.intact_eq_false (.inl (by simp [hstop]))
  refine h.of_rejects n hintact nofun Iff.rfl ?_ ?_ ?_ ?_
  · intro hg u
    rw [hn, h.poison hg, hstop]
    simp only [Vb2Phase.part]
    omega
  · intro hg u
    have := (h.gone hg).2 u
    have := hle u
    rw [hn]
    omega
  · intro k hk
    cases hk
    exact hwaited
  · exact fun k hk => (h.unplugging k hk).setRejects n

theorem VideoInv.disconnectStep {sys : VideoSys} (h : VideoInv sys) {l l' : StopLoop}
    {drv : Sur40State} (hunplug : sys.unplug = .unplugging l)
    (hstep : l.step sys.drv = some (l', drv)) :
    VideoInv { sys with drv, unplug := .unplugging l' } := by
  obtain ⟨n, rfl, hn, hle, hwaited⟩ := StopLoop.step_cases (h.unplugging l hunplug) hstep
  have hintact := h.intact_eq_false (.inr (by simp [hunplug]))
  refine h.of_rejects n hintact id (by simp [hunplug]) ?_ ?_ ?_ ?_
  · intro _ u
    rw [hn, h.poison (by simp [hunplug]), hunplug]
    simp only [UnplugPhase.part]
    omega
  · exact fun hg => absurd hg (by simp [hunplug])
  · exact fun k hk => (h.stopping k hk).setRejects n
  · intro k hk
    cases hk
    exact hwaited

theorem VideoInv.disconnect {sys : VideoSys} (h : VideoInv sys)
    (hunplug : sys.unplug = .attached) (touchUrbs : Fin sur40TouchUrbs → Urb) :
    VideoInv { sys with
      drv := { sys.drv with touchUrbs }
      unplug := .unplugging .start
      intact := false } :=
  { h with
    intact := nofun
    flag := ⟨fun hd => absurd (h.flag.mp hd) (by simp [hunplug]), nofun⟩
    poison _ u := by
      have hpoison := h.poison (by simp [hunplug]) u
      rw [hunplug] at hpoison
      refine hpoison.trans (congrArg (sys.vb2.part u + ·) ?_)
      cases u <;> rfl
    gone := nofun
    stopping l hl := ⟨(h.stopping l hl).nodup, (h.stopping l hl).idle⟩
    unplugging l hl := by
      cases hl
      exact ⟨by decide, fun u hu => absurd (by cases u <;> decide) hu⟩ }

theorem VideoInv.disconnectFlag {sys : VideoSys} (h : VideoInv sys) {waiting : Bool}
    (hunplug : sys.unplug = .unplugging ⟨[], waiting⟩) :
    VideoInv { sys with drv := { sys.drv with disconnected := true }, unplug := .gone } :=
  { h with
    intact hi := by
      rw [h.intact_eq_false (.inr (by simp [hunplug]))] at hi
      cases hi
    flag := ⟨fun _ => rfl, fun _ => rfl⟩
    poison hg := absurd rfl hg
    gone _ := by
      refine ⟨fun u => (h.unplugging _ hunplug).idle u (by simp), fun u => ?_⟩
      have hreject := h.poison (by simp [hunplug]) u
      have hvb2 := sys.vb2.part_nonneg u
      rw [hunplug, UnplugPhase.part, StopLoop.part_of_notMem (by simp)] at hreject
      exact (by omega : 1 ≤ (sys.drv.videoUrb u).reject)
    stopping l hl := ⟨(h.stopping l hl).nodup, (h.stopping l hl).idle⟩
    unplugging := nofun }

/-- A URB that a thread has waited for is poisoned. -/
theorem VideoInv.reject_pos {sys : VideoSys} (h : VideoInv sys) (hg : sys.unplug ≠ .gone)
    {l : StopLoop} {u : VideoUrb} (hl : sys.vb2 = .stopping l ∨ sys.unplug = .unplugging l)
    (hu : u ∉ l.todo) : 0 < (sys.drv.videoUrb u).reject := by
  have hpart := StopLoop.part_of_notMem hu
  have hvb2 := sys.vb2.part_nonneg u
  have hunplug := sys.unplug.part_nonneg u
  rw [h.poison hg]
  rcases hl with hl | hl
  · rw [hl, Vb2Phase.part, hpart]
    omega
  · rw [hl, UnplugPhase.part, hpart]
    omega

/-- A URB is in flight only while streaming and attached, or while a thread still waits. -/
theorem VideoInv.phases {sys : VideoSys} (h : VideoInv sys) {u : VideoUrb}
    (hflight : (sys.drv.videoUrb u).inFlight = true) :
    sys.unplug ≠ .gone ∧ sys.vb2 ≠ .stopped := by
  constructor
  · intro hg
    exact (h.gone hg).1.not_inFlight u hflight
  · intro hs
    exact (h.stopped hs).1.not_inFlight u hflight

theorem videoComplete_reject (u : VideoUrb) (c : Completion) (err : ℤ) (s : Sur40State)
    (w : VideoUrb) : ((videoComplete u c err s).videoUrb w).reject = (s.videoUrb w).reject := by
  have hacc := videoComplete_accounting u c err s
  cases w
  · exact congrArg Accounting.videoHdr hacc
  · exact congrArg Accounting.videoFrame hacc
  · exact congrArg Accounting.videoDrain hacc

theorem VideoInv.complete {sys : VideoSys} (h : VideoInv sys) {u : VideoUrb}
    (hflight : (sys.drv.videoUrb u).inFlight = true) (c : Completion) (err : ℤ) :
    VideoInv { sys with
      drv := videoComplete u c err sys.drv
      cancelled := sys.cancelled || (u = .frame && sur40UrbDead c.status)
      intact := sys.intact && !sur40UrbDead c.status && err = 0 } := by
  have hcancelled := h.not_cancelled hflight
  obtain ⟨hg, hstop⟩ := h.phases hflight
  have hcur := h.curBuf_isSome hflight
  have hreject := videoComplete_reject u c err sys.drv
  have hpoison : sys.unplug ≠ .gone → ∀ w,
      ((videoComplete u c err sys.drv).videoUrb w).reject =
        sys.vb2.part w + sys.unplug.part w := by
    intro hg w
    rw [hreject, h.poison hg]
  obtain ⟨hend, hkept, hquiet, hflag⟩ := videoComplete_settled c err hflight h.exclusive hcur
  by_cases hdead : sur40UrbDead c.status = true
  · -- the handler returns at once, and a cancelled frame keeps its buffer
    rw [if_pos hdead] at hend
    refine .of_idle hend.2 (hkept.trans h.conserved) ?_ (hquiet.trans h.quiet)
      (fun hs => absurd hs hstop) (by simp [hdead]) ?_ hpoison (fun hg' => absurd hg' hg)
      (fun l hl => (h.stopping l hl).nodup) fun l hl => (h.unplugging l hl).nodup
    · have hkeep : (videoComplete u c err sys.drv).curBuf = sys.drv.curBuf := by
        rw [hend.1]
        cases u <;> rfl
      have hframe : sys.drv.videoFrameUrb.inFlight = true ↔ u = .frame := by
        constructor
        · exact h.exclusive u .frame hflight
        · rintro rfl
          exact hflight
      rw [hkeep, hcur, hframe, hcancelled, hdead]
      simp
    · rw [hflag]
      exact h.flag
  · rw [if_neg hdead] at hend
    rw [Bool.not_eq_true] at hdead
    -- what a thread has waited for is poisoned, and was not submitted again
    have hblocked : ∀ l w, sys.vb2 = .stopping l ∨ sys.unplug = .unplugging l → w ∉ l.todo →
        ((videoComplete u c err sys.drv).videoUrb w).inFlight = false := by
      intro l w hl hw
      have hpos := h.reject_pos hg hl hw
      rw [← hreject] at hpos
      exact hend.blocked w hpos
    refine ⟨hkept.trans h.conserved, hend.exclusive, ?_, hend.target, hend.drain,
      hquiet.trans h.quiet, ?_, fun hs => absurd hs hstop, ?_, ?_, hpoison,
      fun hg' => absurd hg' hg,
      fun l hl => ⟨(h.stopping l hl).nodup, fun w hw => hblocked l w (.inl hl) hw⟩,
      fun l hl => ⟨(h.unplugging l hl).nodup, fun w hw => hblocked l w (.inr hl) hw⟩⟩
    · rw [hend.cur, hcancelled, hdead]
      simp
    · intro hc
      simp [hcancelled, hdead] at hc
    · intro hi
      simp only [hdead, Bool.not_false, Bool.and_true, Bool.and_eq_true,
        decide_eq_true_eq] at hi
      obtain ⟨hrun, hatt, -⟩ := h.intact hi.1
      refine ⟨hrun, hatt, hend.live hi.2 fun w => ?_⟩
      rw [hpoison hg, hrun, hatt]
      exact le_rfl
    · rw [hflag]
      exact h.flag

theorem VideoInv.step {sys sys' : VideoSys} {a : VideoAction} (h : VideoInv sys)
    (hstep : a.step sys = some sys') : VideoInv sys' := by
  cases VideoAction.step_cases hstep with
  | bufferQueue buf => exact h.bufferQueue buf
  | startStreaming env hstop hgone => exact h.startStreaming hstop hgone env
  | stopStreaming hrun => exact h.stopStreaming hrun
  | stopStep hstop hloop => exact h.stopStep hstop hloop
  | stopReturn hstop => exact h.stopReturn hstop
  | disconnect hattached => exact h.disconnect hattached _
  | disconnectStep hunplug hloop => exact h.disconnectStep hunplug hloop
  | disconnectFlag hunplug => exact h.disconnectFlag hunplug
  | complete u c err hflight => exact h.complete hflight c err
  | openInput env =>
      obtain ⟨users, touchUrbs, needBlobs, inits, heq⟩ := sur40PipelineGet_eq env sys.drv
      rw [sur40Open, heq]
      exact h.of_others _ users touchUrbs needBlobs inits _ _
  | closeInput =>
      obtain ⟨users, touchUrbs, warnedUsers, heq⟩ := sur40PipelinePut_eq sys.drv
      rw [sur40Close, heq]
      exact h.of_others _ users touchUrbs _ _ warnedUsers _
  | touchComplete i c err =>
      obtain ⟨touchUrbs, needBlobs, input, heq, -⟩ := touchGiveback_eq i c err sys.drv
      rw [heq]
      exact h.of_others _ _ touchUrbs needBlobs _ _ input

theorem VideoInv.of_run {videoNode : Bool} {touchPktSize videoPktSize : ℕ}
    {as : List VideoAction} {sys : VideoSys}
    (hrun : videoSystem.run as (VideoSys.probe videoNode touchPktSize videoPktSize) = some sys) :
    VideoInv sys :=
  Machine.run_invariant (fun _ _ _ h hstep => h.step hstep)
    (VideoInv.probe videoNode touchPktSize videoPktSize) hrun

end Sur40
