import Sur40.VideoTransfers

/-!
# The video stream

Whatever the schedule, the driver receives from the stream what a receiver does that
is told of the frames themselves.

## Main definitions

* `TransferCase.aligned`: every transfer leaves the driver aligned with the stream.
* `Follows`: the driver and its receiver along a run.
* `video_stream_refined`: the driver and the receiver on frames that are all whole.
-/

namespace Sur40

open Devlib

variable {frames : ℕ → VideoFrame} {start : ℕ}

/-! ## Alignment -/

/-- The headers that have gone by are those before the position. -/
theorem Aligned.passed {s : Sur40State} {pos n : ℕ} {r : VideoReceiver}
    (h : Aligned frames start s pos r n) (i : ℕ) : headerPos frames i < pos ↔ i < n := by
  have happroach : ∀ {m}, Approaches frames start pos n m → (headerPos frames i < pos ↔ i < n) := by
    intro m hnext
    refine ⟨fun hi => ?_, hnext.after i⟩
    have hle := hnext.pos_eq
    have hlt : headerPos frames i < headerPos frames n := by omega
    exact headerPos_lt_iff.mp hlt
  cases h with
  | hdr hflight hnext => exact happroach hnext
  | resync hflight hrem hnext => exact happroach hnext
  | frame hflight hlen hcur hseen hsize hpos =>
      rw [hpos]
      exact headerPos_lt_add_iff (Nat.zero_le _)
  | drain hflight hseen hsize hj hrem hpart hpos =>
      rw [hpos]
      exact headerPos_lt_add_iff hj

/-- After a header the frame is received, discarded or skipped. -/
theorem aligned_handleHeader {t : Sur40State} (h : Ready t) {n : ℕ}
    (hseen : headerSeen frames start n = true) :
    Aligned frames start (sur40VideoHandleHeader (frames n).header 0 t) (headerPos frames n + 1)
      (t.receiver.step frames 518400 (.frame n)) (n + 1) := by
  by_cases hsize : (frames n).size.toNat = 518400
  · have himg : (frames n).header.size.toNat = t.pixFmt.sizeimage := hsize.trans h.sizeimage.symm
    cases hbufs : t.bufList with
    | nil =>
        have hstep : t.receiver.step frames 518400 (.frame n) =
            { t.receiver with dropped := t.receiver.dropped + 1 } := by
          simp [VideoReceiver.step, hsize, Sur40State.receiver, hbufs]
        rw [sur40VideoHandleHeader_of_nil 0 t rfl himg hbufs, hstep]
        refine Aligned.drain (k := n) (j := 0) (h.submitDrain _) hseen (frameSize_le_max hsize)
          (Nat.zero_le _) rfl ?_ rfl
        exact (frames n).nonempty
    | cons buf bufs =>
        have hstep : t.receiver.step frames 518400 (.frame n) =
            VideoReceiver.finish { t.receiver with waiting := bufs } buf (frames n) := by
          simp [VideoReceiver.step, hsize, Sur40State.receiver, hbufs]
        rw [sur40VideoHandleHeader_of_cons 0 t rfl himg hbufs, h.submitFrame, if_pos rfl, hstep]
        exact Aligned.frame (k := n) rfl h.sizeimage rfl hseen hsize rfl
  · have himg : (frames n).header.size.toNat ≠ t.pixFmt.sizeimage :=
      fun heq => hsize (heq.trans h.sizeimage)
    have hstep : t.receiver.step frames 518400 (.frame n) = t.receiver := if_pos hsize
    rw [sur40VideoHandleHeader_of_size 0 t rfl himg, hstep]
    by_cases hmax : (frames n).size.toNat ≤ sur40MaxFrameSize
    · rw [if_pos (by exact hmax)]
      refine Aligned.drain (k := n) (j := 0) (h.submitDrain _) hseen hmax (Nat.zero_le _) rfl ?_ rfl
      exact (frames n).nonempty
    · rw [if_neg (by exact hmax)]
      refine Aligned.resync (h.submitDrain _) rfl (.in_frame (j := 0) (Nat.zero_le _) ?_)
      exact headerSeen_succ_of_size hseen (not_le.mp hmax)

/-- The header logic makes one entry in the history, and returns no buffer. -/
theorem Ready.handleHeader {t : Sur40State} (h : Ready t) (img : Sur40ImageHeader) :
    (sur40VideoHandleHeader img 0 t).videoTrace = t.videoTrace ++ [.handleHeader img] ∧
    (sur40VideoHandleHeader img 0 t).done = t.done := by
  have hcases := sur40VideoHandleHeader_cases img 0 t
  generalize sur40VideoHandleHeader img 0 t = s at hcases ⊢
  cases hcases with
  | drain count framesDropped => exact ⟨rfl, rfl⟩
  | frame buf bufs hbufs hret => exact ⟨rfl, rfl⟩
  | failed buf bufs hbufs hret =>
      rw [h.submitFrame] at hret
      exact absurd rfl hret

/-- After a frame that has taken the next header with it, the header after that one is
waited for. -/
theorem Approaches.after_cut {k : ℕ} (hseen : headerSeen frames start k = true)
    (hcut : ¬(frames k).Complete) (hsize : (frames k).size.toNat ≤ sur40MaxFrameSize) :
    Approaches frames start (headerPos frames (k + 1) + 1) (k + 2) (frames (k + 1)).sent :=
  .in_frame (j := 0) (Nat.zero_le _) (headerSeen_succ_of_unseen
    (start_le_succ (start_le_of_headerSeen hseen)) (headerSeen_succ_of_cut hseen hcut hsize))

/-- **A transfer leaves the driver aligned.** Either nothing has come for its receiver,
though a header may have been missed; or a header has. -/
theorem TransferCase.aligned {t s' : Sur40State} {pos pos' n : ℕ} {r : VideoReceiver}
    (ht : Ready t) (h : TransferCase frames start t pos r n s' pos') :
    (∃ n', Aligned frames start s' pos' r n' ∧ s'.videoTrace = t.videoTrace ∧
      (n' = n ∨ n' = n + 1 ∧ headerSeen frames start n = false)) ∨
    (headerSeen frames start n = true ∧
      Aligned frames start s' pos' (r.step frames 518400 (.frame n)) (n + 1) ∧
      s'.videoTrace = t.videoTrace ++ [.handleHeader (frames n).header]) := by
  cases h with
  | hunting hcur hpos hnext =>
      exact .inl ⟨n, .resync (ht.submitDrain 0) rfl hnext, rfl, .inl rfl⟩
  | header hcur hpos hseen =>
      exact .inr ⟨hseen, aligned_handleHeader ht hseen, (ht.handleHeader _).1⟩
  | frameDone hcur hseen hwhole hpos =>
      rw [VideoReceiver.finish, if_pos hwhole]
      exact .inl ⟨_, .hdr ht.submitHdr (.at_header (headerSeen_succ_of_complete hseen hwhole)),
        rfl, .inl rfl⟩
  | frameLost hcur hseen hcut hsize hpos =>
      rw [VideoReceiver.finish, if_neg hcut]
      exact .inl ⟨_, .hdr ht.submitHdr (.after_cut hseen hcut hsize), rfl,
        .inr ⟨rfl, headerSeen_succ_of_cut hseen hcut hsize⟩⟩
  | drained hcur hseen hwhole hpos hpos' =>
      exact .inl ⟨_, .hdr ht.submitHdr (.at_header (headerSeen_succ_of_complete hseen hwhole)),
        rfl, .inl rfl⟩
  | draining hcur hseen hsize hj hrem hcount hpos hpos' =>
      exact .inl ⟨_, .drain (ht.submitDrain _) hseen hsize hj hrem hcount rfl, rfl, .inl rfl⟩
  | drainLost hcur hseen hcut hsize hpos hpos' =>
      exact .inl ⟨_, .resync (ht.submitDrain 0) rfl (.after_cut hseen hcut hsize), rfl,
        .inr ⟨rfl, headerSeen_succ_of_cut hseen hcut hsize⟩⟩

/-- A transfer moves on in the stream. -/
theorem TransferCase.pos_lt {t s' : Sur40State} {pos pos' n : ℕ} {r : VideoReceiver}
    (h : TransferCase frames start t pos r n s' pos') : pos < pos' := by
  have hend : ∀ k, headerPos frames (k + 1) = headerPos frames k + 1 + (frames k).sent :=
    headerPos_succ
  cases h with
  | hunting hcur hpos hnext => exact hpos
  | header hcur hpos hseen => exact Nat.lt_succ_of_le hpos
  | @frameDone k buf hcur hseen hwhole hpos =>
      have hsent : 0 < (frames k).sent := by
        have := (frames k).nonempty
        rw [VideoFrame.complete_iff] at hwhole
        omega
      rw [hpos, hend]
      omega
  | @frameLost k buf hcur hseen hcut hsize hpos =>
      rw [hpos, hend]
      omega
  | drained hcur hseen hwhole hpos hpos' => exact hpos'
  | draining hcur hseen hsize hj hrem hcount hpos hpos' => exact hpos'
  | drainLost hcur hseen hcut hsize hpos hpos' => exact Nat.lt_succ_of_le hpos'

/-! ## Along a run -/

/-- The frames of the events are, in order, those before `n` whose headers are seen. -/
def Handled (frames : ℕ → VideoFrame) (start : ℕ) (events : List StreamEvent) (n : ℕ) : Prop :=
  (events.filterMap StreamEvent.frame?).Pairwise (· < ·) ∧
    ∀ i, i ∈ events.filterMap StreamEvent.frame? ↔ headerSeen frames start i = true ∧ i < n

theorem Handled.append {events : List StreamEvent} {n : ℕ} (h : Handled frames start events n)
    (hseen : headerSeen frames start n = true) :
    Handled frames start (events ++ [.frame n]) (n + 1) := by
  obtain ⟨hsorted, hmem⟩ := h
  rw [Handled, List.filterMap_append]
  refine ⟨List.pairwise_append.mpr ⟨hsorted, List.pairwise_singleton _ _, ?_⟩, fun i => ?_⟩
  · intro i hi j hj
    obtain rfl : j = n := List.mem_singleton.mp hj
    exact ((hmem i).mp hi).2
  · have hlast : [StreamEvent.frame n].filterMap StreamEvent.frame? = [n] := rfl
    rw [List.mem_append, hmem, hlast, List.mem_singleton]
    constructor
    · rintro (⟨hi, hlt⟩ | rfl)
      · exact ⟨hi, Nat.lt_succ_of_lt hlt⟩
      · exact ⟨hseen, Nat.lt_succ_self i⟩
    · rintro ⟨hi, hlt⟩
      rcases Nat.lt_succ_iff_lt_or_eq.mp hlt with hlt | rfl
      · exact .inl ⟨hi, hlt⟩
      · exact .inr rfl

theorem Handled.bufferQueue {events : List StreamEvent} {n : ℕ}
    (h : Handled frames start events n) (buf : Sur40Buffer) :
    Handled frames start (events ++ [StreamEvent.bufferQueue buf]) n := by
  have hsame : (events ++ [StreamEvent.bufferQueue buf]).filterMap StreamEvent.frame? =
      events.filterMap StreamEvent.frame? := by
    rw [List.filterMap_append]
    exact List.append_nil _
  rw [Handled, hsame]
  exact h

theorem Handled.skip {events : List StreamEvent} {n : ℕ} (h : Handled frames start events n)
    (hseen : headerSeen frames start n = false) : Handled frames start events (n + 1) := by
  refine ⟨h.1, fun i => (h.2 i).trans ⟨fun ⟨hi, hlt⟩ => ⟨hi, Nat.lt_succ_of_lt hlt⟩, ?_⟩⟩
  rintro ⟨hi, hlt⟩
  rcases Nat.lt_succ_iff_lt_or_eq.mp hlt with hlt | rfl
  · exact ⟨hi, hlt⟩
  · rw [hseen] at hi
    cases hi

/-- The driver has come from `sys` to `c`, and `events` is what its receiver has been
told. -/
structure Follows (frames : ℕ → VideoFrame) (start : ℕ) (sys : VideoSys) (c : VideoLink)
    (events : List StreamEvent) (n : ℕ) : Prop where
  session : InSession c.video
  trace : c.video.drv.videoTrace =
    sys.drv.videoTrace ++ events.map (StreamEvent.traced frames)
  queued : c.video.queued = sys.queued ++ events.filterMap StreamEvent.buffer?
  handled : Handled frames start events n
  aligned : Aligned frames start c.video.drv c.pos (sys.drv.receiver.run frames 518400 events) n

theorem JustStarted.follows {sys : VideoSys} (h : JustStarted sys) :
    ∃ n, Follows frames start sys { video := sys, pos := start } [] n := by
  obtain ⟨n, m, hnext⟩ := exists_approaches frames start
  refine ⟨n, h.inSession, (List.append_nil _).symm, (List.append_nil _).symm, ?_,
    .hdr h.started.1 hnext⟩
  refine ⟨.nil, fun i => ⟨nofun, fun ⟨hi, hlt⟩ => ?_⟩⟩
  have hbefore := hnext.after i hlt
  exact absurd (start_le_of_headerSeen hi) (not_le.mpr hbefore)

/-- A buffer is queued. -/
theorem Aligned.bufferQueue {s : Sur40State} {pos n : ℕ} {r : VideoReceiver}
    (h : Aligned frames start s pos r n) (buf : Sur40Buffer) :
    Aligned frames start (sur40BufferQueue buf s) pos
      (r.step frames 518400 (.bufferQueue buf)) n := by
  cases h with
  | hdr hflight hnext => exact .hdr (by exact hflight) hnext
  | resync hflight hrem hnext => exact .resync (by exact hflight) hrem hnext
  | @frame k b hflight hlen hcur hseen hsize hpos =>
      have h := @Aligned.frame frames start (sur40BufferQueue buf s) pos k b hflight hlen hcur
        hseen hsize hpos
      have hsame : VideoReceiver.step frames 518400 (s.receiver.finish b (frames k))
          (.bufferQueue buf) = (sur40BufferQueue buf s).receiver.finish b (frames k) := by
        simp only [VideoReceiver.finish]
        split_ifs <;> rfl
      rw [hsame]
      exact h
  | drain hflight hseen hsize hj hrem hpart hpos =>
      exact .drain (by exact hflight) hseen hsize hj hrem hpart hpos

theorem Follows.step {sys : VideoSys} {c c' : VideoLink} {events : List StreamEvent} {n : ℕ}
    (h : Follows frames start sys c events n) {a : LinkAction}
    (hstep : a.step frames c = some c') :
    ∃ events' n', Follows frames start sys c' events' n' := by
  have hsession := a.inSession h.session hstep
  cases a with
  | bufferQueue buf =>
      cases hstep
      refine ⟨events ++ [.bufferQueue buf], n, hsession, ?_, ?_, ?_, ?_⟩
      · rw [List.map_append, ← List.append_assoc, ← h.trace]
        rfl
      · rw [List.filterMap_append, ← List.append_assoc, ← h.queued]
        rfl
      · exact h.handled.bufferQueue buf
      · rw [VideoReceiver.run_append]
        exact h.aligned.bufferQueue buf
  | transfer u =>
      obtain ⟨hflight, hqueued⟩ := transfer_inFlight hstep
      have htrace : (c.video.drv.mapVideoUrb u Urb.giveback).videoTrace =
          c.video.drv.videoTrace := by
        cases u <;> rfl
      have hcase := transfer_cases h.session h.aligned hstep
      rcases hcase.aligned (h.session.ready hflight) with
        ⟨n', haligned, hsame, hn⟩ | ⟨hseen, haligned, hlogged⟩
      · refine ⟨events, n', hsession, ?_, hqueued.trans h.queued, ?_, haligned⟩
        · rw [hsame, htrace, h.trace]
        · rcases hn with rfl | ⟨rfl, hunseen⟩
          · exact h.handled
          · exact h.handled.skip hunseen
      · refine ⟨events ++ [.frame n], n + 1, hsession, ?_, ?_, h.handled.append hseen, ?_⟩
        · rw [hlogged, htrace, h.trace, List.map_append, List.append_assoc]
          rfl
        · rw [hqueued, h.queued, List.filterMap_append]
          exact congrArg _ (List.append_nil _).symm
        · rw [VideoReceiver.run_append]
          exact haligned

theorem Follows.run {sys : VideoSys} {c c' : VideoLink} {events : List StreamEvent} {n : ℕ}
    (h : Follows frames start sys c events n) {as : List LinkAction}
    (hrun : (videoLink frames).run as c = some c') :
    ∃ events' n', Follows frames start sys c' events' n' :=
  Machine.run_invariant (I := fun c => ∃ events n, Follows frames start sys c events n)
    (fun _ _ _ ⟨_, _, h⟩ hstep => h.step hstep) ⟨events, n, h⟩ hrun

theorem Follows.of_run {sys : VideoSys} (hstart : JustStarted sys) {as : List LinkAction}
    {c : VideoLink} (hrun : (videoLink frames).run as { video := sys, pos := start } = some c) :
    ∃ events n, Follows frames start sys c events n := by
  obtain ⟨n, hbegin⟩ : ∃ n, Follows frames start sys _ [] n := hstart.follows
  exact hbegin.run hrun

/-- Every transfer takes at least one packet. -/
theorem transfers_le {sys : VideoSys} (hstart : JustStarted sys) {as : List LinkAction}
    {c : VideoLink} (hrun : (videoLink frames).run as { video := sys, pos := start } = some c) :
    start + as.countP LinkAction.isTransfer ≤ c.pos := by
  obtain ⟨n, hbegin⟩ : ∃ n, Follows frames start sys _ [] n := hstart.follows
  refine Machine.run_measure (I := fun c => ∃ events n, Follows frames start sys c events n)
    (f := VideoLink.pos) ?_ ⟨[], n, hbegin⟩ hrun
  rintro a c c' ⟨events, n, h⟩ hstep
  refine ⟨h.step hstep, ?_⟩
  cases a with
  | bufferQueue buf =>
      cases hstep
      exact Nat.le_refl _
  | transfer u => exact (transfer_cases h.session h.aligned hstep).pos_lt

/-- What the driver has returned is what its receiver has, but for the frame that is
being received. -/
theorem Follows.receiver {sys : VideoSys} {c : VideoLink} {events : List StreamEvent} {n : ℕ}
    (h : Follows frames start sys c events n) :
    (c.video.drv.curBuf = none →
      sys.drv.receiver.run frames 518400 events = c.video.drv.receiver) ∧
    ∀ buf, c.video.drv.curBuf = some buf → ∃ i, c.pos = headerPos frames i + 1 ∧
      sys.drv.receiver.run frames 518400 events = c.video.drv.receiver.finish buf (frames i) := by
  have hidle : ∀ u, u ≠ .frame → (c.video.drv.videoUrb u).inFlight = true →
      ∀ buf, c.video.drv.curBuf ≠ some buf := by
    intro u hu hflight buf hbuf
    rw [h.session.curBuf_eq_none hu hflight] at hbuf
    cases hbuf
  have haligned := h.aligned
  generalize sys.drv.receiver.run frames 518400 events = r at haligned ⊢
  cases haligned with
  | hdr hflight hnext =>
      exact ⟨fun _ => rfl, fun buf hbuf => absurd hbuf (hidle .hdr (by decide) hflight buf)⟩
  | resync hflight hrem hnext =>
      exact ⟨fun _ => rfl, fun buf hbuf => absurd hbuf (hidle .drain (by decide) hflight buf)⟩
  | @frame k b hflight hlen hcur hseen hsize hpos =>
      refine ⟨fun hnone => ?_, fun buf hbuf => ⟨k, hpos, ?_⟩⟩
      · rw [hcur] at hnone
        cases hnone
      · rw [hcur, Option.some.injEq] at hbuf
        rw [hbuf]
  | drain hflight hseen hsize hj hrem hpart hpos =>
      exact ⟨fun _ => rfl, fun buf hbuf => absurd hbuf (hidle .drain (by decide) hflight buf)⟩

/-- **The driver receives the stream.** Let every frame be whole. Wherever in the stream
streaming is started, and whenever buffers are queued, the frames whose headers lie
between the start and the current position have been handled, in order and once each;
and the driver has done with them what its receiver does: a frame of the expected size
is returned with exactly its bytes in the next buffer, with the next sequence number,
or counted as dropped if there is no buffer; other frames are discarded. One URB is in
flight, and every transfer moves on. -/
theorem video_stream_refined {frames : ℕ → VideoFrame} (hall : ∀ i, (frames i).Complete)
    {sys : VideoSys} (hstart : JustStarted sys) {start : ℕ} {as : List LinkAction}
    {c : VideoLink} (hrun : (videoLink frames).run as { video := sys, pos := start } = some c) :
    sys.drv.receiver =
      { waiting := sys.drv.bufList, returned := sys.drv.done, sequence := 0, dropped := 0 } ∧
    (∃ events : List StreamEvent,
      c.video.drv.videoTrace =
        sys.drv.videoTrace ++ events.map (StreamEvent.traced frames) ∧
      c.video.queued = sys.queued ++ events.filterMap StreamEvent.buffer? ∧
      (events.filterMap StreamEvent.frame?).Pairwise (· < ·) ∧
      (∀ i, i ∈ events.filterMap StreamEvent.frame? ↔
        start ≤ headerPos frames i ∧ headerPos frames i < c.pos) ∧
      (c.video.drv.curBuf = none →
        sys.drv.receiver.run frames sys.drv.pixFmt.sizeimage events = c.video.drv.receiver) ∧
      ∀ buf, c.video.drv.curBuf = some buf → ∃ i, c.pos = headerPos frames i + 1 ∧
        sys.drv.receiver.run frames sys.drv.pixFmt.sizeimage events =
          c.video.drv.receiver.finish buf (frames i)) ∧
    start + as.countP LinkAction.isTransfer ≤ c.pos ∧
    ∃! u, (c.video.drv.videoUrb u).inFlight = true := by
  obtain ⟨events, n, h⟩ := Follows.of_run hstart hrun
  obtain ⟨-, -, hsequence, hdropped⟩ := hstart.started
  refine ⟨?_, ⟨events, h.trace, h.queued, h.handled.1, fun i => ?_, ?_⟩,
    transfers_le hstart hrun, ?_⟩
  · rw [Sur40State.receiver, hsequence, hdropped]
  · rw [h.handled.2, headerSeen_of_complete hall, h.aligned.passed]
  · rw [hstart.inSession.sizeimage]
    exact h.receiver
  · obtain ⟨u, hu⟩ := h.session.live
    exact ⟨u, hu, fun w hw => h.session.inv.exclusive w u hw hu⟩

/-- Nothing is cut short. -/
def wholeFrames (_ : ℕ) : VideoFrame := blackFrame 1013 (by decide)

theorem wholeFrames_complete (i : ℕ) : (wholeFrames i).Complete := by
  rw [wholeFrames, VideoFrame.Complete, blackFrame]
  decide

/-- The first frame has been handled. -/
theorem video_stream_refined_firstFrame :
    ∃ (c : VideoLink) (events : List StreamEvent),
      (videoLink wholeFrames).run [.transfer .hdr, .transfer .frame]
        { video := streamingSys, pos := 0 } = some c ∧
      c.video.drv.videoTrace =
        streamingSys.drv.videoTrace ++ events.map (StreamEvent.traced wholeFrames) ∧
      0 ∈ events.filterMap StreamEvent.frame? := by
  have hsome : ((videoLink wholeFrames).run [.transfer .hdr, .transfer .frame]
      { video := streamingSys, pos := 0 }).isSome = true := by decide +kernel
  obtain ⟨c, hrun⟩ := Option.isSome_iff_exists.mp hsome
  obtain ⟨-, ⟨events, htrace, -, -, hmem, -⟩, hpos, -⟩ :=
    video_stream_refined wholeFrames_complete justStarted_streamingSys hrun
  refine ⟨c, events, hrun, htrace, (hmem 0).mpr ⟨Nat.zero_le _, ?_⟩⟩
  exact Nat.lt_of_lt_of_le (by decide) hpos

end Sur40
