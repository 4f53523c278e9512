import Sur40.VideoInvariant

/-!
# What holds in every run of the video endpoint

## Main definitions

* `buffers_conserved`: no buffer is lost, doubled or overtaken.
* `VideoAction.Undisturbed`: nothing fails, is cancelled or is stopped.
* `endpoint_exclusive`: the three URBs exclude each other.
-/

namespace Sur40

open Devlib

/-! ## The results -/

/-- **No buffer is lost, doubled or overtaken.** After every run, the buffers
returned, the current one and the waiting ones are, in this order, the buffers
handed over. A frame is transferred into the current buffer only. When
`sur40_start_streaming` fails and when `sur40_stop_streaming` returns, the driver
owns no buffer and no transfer. -/
theorem buffers_conserved {videoNode : Bool} {touchPktSize videoPktSize : ℕ}
    {as : List VideoAction} {sys : VideoSys}
    (hrun : videoSystem.run as (VideoSys.probe videoNode touchPktSize videoPktSize) = some sys) :
    sys.drv.done.map Vb2BufferDone.buf ++ sys.drv.curBuf.toList ++ sys.drv.bufList =
      sys.queued ∧
    (sys.drv.videoFrameUrb.inFlight = true →
      sys.drv.curBuf.isSome = true ∧ sys.drv.videoFrameUrb.sg = sys.drv.curBuf) ∧
    (∀ env sys', (VideoAction.startStreaming env).step sys = some sys' →
      sys'.vb2 = .stopped → OwnsNothing sys'.drv) ∧
    ∀ sys', VideoAction.stopReturn.step sys = some sys' → OwnsNothing sys'.drv := by
  have h := VideoInv.of_run hrun
  refine ⟨h.conserved, fun hf => ⟨h.cur.mpr (.inl hf), h.target hf⟩, ?_, ?_⟩
  · intro env sys' hstep hfail
    cases VideoAction.step_cases hstep with
    | startStreaming _ hstop hgone =>
        have hvideo := (h.start_video hstop hgone env).1
        split_ifs at hvideo hfail
        exact hvideo.owns
  · intro sys' hstep
    cases VideoAction.step_cases hstep with
    | stopReturn hstop =>
        have hidle : Idle sys.drv := fun u => (h.stopping _ hstop).idle u (by simp)
        exact (sur40StopStreamingReclaim_video hidle).1

/-- Buffers with room for one frame. -/
def frameBuffer : Sur40Buffer := { index := 0, planeSize := 518400, payload := 0 }
def secondBuffer : Sur40Buffer := { frameBuffer with index := 1 }

/-- The header of a frame of the size that userspace expects. -/
def frameHeader : Completion where
  status := 0
  data := Sur40ImageHeader.layout.encode
    { magic := videoHeaderMagic, packetId := 1, size := 518400, timestamp := 0, unknown := 0 }

/-- Streaming is stopped in the middle of a frame; the frame URB is cancelled. -/
def stoppedMidFrame : List VideoAction :=
  [.bufferQueue frameBuffer, .startStreaming willingEnv, .complete .hdr frameHeader 0,
    .stopStreaming, .stopStep, .stopStep, .stopStep, .complete .frame ⟨-enoent, []⟩ 0,
    .stopStep, .stopStep, .stopStep]

theorem buffers_conserved_stoppedMidFrame :
    ∃ sys sys', videoSystem.run stoppedMidFrame (VideoSys.probe false 512 512) = some sys ∧
      sys.drv.curBuf = some frameBuffer ∧
      sys.drv.done.map Vb2BufferDone.buf ++ sys.drv.curBuf.toList ++ sys.drv.bufList =
        [frameBuffer] ∧
      VideoAction.stopReturn.step sys = some sys' ∧ OwnsNothing sys'.drv := by
  obtain ⟨hconserved, -, -, hreturn⟩ :=
    @buffers_conserved false 512 512 stoppedMidFrame _ rfl
  exact ⟨_, _, rfl, rfl, hconserved, rfl, hreturn _ rfl⟩

/-- Nothing fails, is cancelled or is stopped. -/
def VideoAction.Undisturbed : VideoAction → Prop
  | .complete _ c err => sur40UrbDead c.status = false ∧ err = 0
  | .stopStreaming => False
  | .disconnect => False
  | _ => True

theorem VideoAction.Undisturbed.intact {sys sys' : VideoSys} {a : VideoAction}
    (ha : a.Undisturbed) (h : VideoInv sys) (hi : sys.intact = true)
    (hstep : a.step sys = some sys') : sys'.intact = true := by
  obtain ⟨hrun, hatt, -⟩ := h.intact hi
  cases VideoAction.step_cases hstep with
  | stopStreaming hrun' => cases ha
  | disconnect hattached => cases ha
  | startStreaming env hstop hgone => simp [hrun] at hstop
  | stopStep hstop hloop => simp [hrun] at hstop
  | stopReturn hstop => simp [hrun] at hstop
  | disconnectStep hunplug hloop => simp [hatt] at hunplug
  | disconnectFlag hunplug => simp [hatt] at hunplug
  | complete u c err hflight =>
      obtain ⟨hdead, herr⟩ := ha
      simp [hi, hdead, herr]
  | bufferQueue buf => exact hi
  | openInput env => exact hi
  | closeInput => exact hi
  | touchComplete i c err => exact hi

/-- After a successful start nothing has disturbed the stream yet. -/
theorem intact_of_started {sys started : VideoSys} {env : StreamEnv}
    (hstep : (VideoAction.startStreaming env).step sys = some started)
    (hstream : started.vb2 = .streaming) (hatt : started.unplug = .attached) :
    started.intact = true := by
  cases VideoAction.step_cases hstep with
  | startStreaming _ hstop hgone =>
      dsimp only at hstream hatt ⊢
      split_ifs at hstream with hret
      simp [hret, hatt]

/-- **The three URBs exclude each other.** After every run at most one is in flight;
there is a current buffer exactly while the frame URB is in flight or cancelled, so
`WARN_ON(!buf)` never fires; a drain in flight is the one that the remaining count
describes. If nothing disturbs the stream after a successful start, exactly one URB
is in flight. -/
theorem endpoint_exclusive {videoNode : Bool} {touchPktSize videoPktSize : ℕ}
    {as : List VideoAction} {sys : VideoSys}
    (hrun : videoSystem.run as (VideoSys.probe videoNode touchPktSize videoPktSize) = some sys) :
    (∀ u u', (sys.drv.videoUrb u).inFlight = true → (sys.drv.videoUrb u').inFlight = true →
      u = u') ∧
    (sys.drv.curBuf.isSome = true ↔
      sys.drv.videoFrameUrb.inFlight = true ∨ sys.cancelled = true) ∧
    sys.drv.warnedBuf = false ∧
    (sys.drv.videoDrainUrb.inFlight = true →
      sys.drv.drainRemaining = sys.drv.drainRequested ∧
      sys.drv.videoDrainUrb.transferBufferLength = drainLength sys.drv.drainRemaining) ∧
    ∀ env started bs last, (VideoAction.startStreaming env).step sys = some started →
      started.vb2 = .streaming → started.unplug = .attached → (∀ b ∈ bs, b.Undisturbed) →
      videoSystem.run bs started = some last → ∃! u, (last.drv.videoUrb u).inFlight = true := by
  have h := VideoInv.of_run hrun
  refine ⟨h.exclusive, h.cur, h.quiet, h.drain, ?_⟩
  intro env started bs last hstep hstream hatt hquiet hlast
  have hstarted := intact_of_started hstep hstream hatt
  obtain ⟨hinv, hintact⟩ := Machine.run_invariant_of
    (I := fun s => VideoInv s ∧ s.intact = true)
    (fun b s s' hb hs hstep' => ⟨hs.1.step hstep', hb.intact hs.1 hs.2 hstep'⟩)
    hquiet ⟨h.step hstep, hstarted⟩ hlast
  obtain ⟨-, -, u, hu⟩ := hinv.intact hintact
  exact ⟨u, hu, fun w hw => hinv.exclusive w u hw hu⟩

/-- A frame has begun and nothing disturbs it. -/
theorem endpoint_exclusive_frameBegun :
    ∃ last, videoSystem.run [.startStreaming willingEnv, .complete .hdr frameHeader 0]
        (VideoSys.probe false 512 512) = some last ∧
      ∃! u, (last.drv.videoUrb u).inFlight = true := by
  obtain ⟨-, -, -, -, hone⟩ :=
    @endpoint_exclusive false 512 512 [] _ rfl
  exact ⟨_, rfl, hone willingEnv _ [.complete .hdr frameHeader 0] _ rfl rfl rfl
    (by simp [VideoAction.Undisturbed, sur40UrbDead, frameHeader, enoent, econnreset, eshutdown,
      enodev]) rfl⟩

end Sur40
