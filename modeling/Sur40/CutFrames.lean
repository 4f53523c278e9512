import Sur40.VideoRefinement

/-!
# Frames that are cut short

When the rest of a frame is lost, the header of the next one ends the transfer that is
in flight. Only the handler of the resync drain looks for it there: the frame transfer
and the counted drain take it for image data, and the next frame is lost as well.

## Main definitions

* `FrameArrives`: a whole frame comes while a buffer is waiting for it.
* `FrameReturned`: the next transfer returns the buffer with exactly its bytes.
* `frameReturned_iff`: it is returned exactly if its header is seen.
-/

namespace Sur40

open Devlib

variable {frames : ℕ → VideoFrame} {start : ℕ}

/-! ## What can go on around a header -/

section Cases

variable {t s' : Sur40State} {pos pos' n : ℕ} {r : VideoReceiver}

/-- A header that is seen is handled when it has come. -/
theorem TransferCase.eq_header (h : TransferCase frames start t pos r n s' pos')
    (hseen : headerSeen frames start n = true) (hpos : headerPos frames n < pos') :
    s' = sur40VideoHandleHeader (frames n).header 0 t ∧ pos' = headerPos frames n + 1 := by
  cases h with
  | hunting hcur hlt hnext =>
      have hle := hnext.pos_eq
      omega
  | header hcur hle hseen' => exact ⟨rfl, rfl⟩
  | frameDone hcur hseen' hwhole hpos' => exact absurd hpos (lt_irrefl _)
  | frameLost hcur hseen' hcut hsize hpos' =>
      rw [headerSeen_succ_of_cut hseen' hcut hsize] at hseen
      cases hseen
  | drained hcur hseen' hwhole hlt hlt' => exact absurd hpos (lt_irrefl _)
  | @draining k j count hcur hseen' hsize hj hrem hcount hlt hlt' =>
      have hend : headerPos frames (k + 1) = headerPos frames k + 1 + (frames k).sent :=
        headerPos_succ k
      omega
  | drainLost hcur hseen' hcut hsize hlt hlt' =>
      rw [headerSeen_succ_of_cut hseen' hcut hsize] at hseen
      cases hseen

/-- When a header has been missed no frame is being received. -/
theorem TransferCase.curBuf_of_unseen (h : TransferCase frames start t pos r n s' pos')
    (hseen : headerSeen frames start n = false) : s'.curBuf = none := by
  cases h with
  | hunting hcur hlt hnext => exact hcur
  | header hcur hle hseen' =>
      rw [hseen'] at hseen
      cases hseen
  | frameDone hcur hseen' hwhole hpos => rfl
  | frameLost hcur hseen' hcut hsize hpos => rfl
  | drained hcur hseen' hwhole hlt hlt' => exact hcur
  | draining hcur hseen' hsize hj hrem hcount hlt hlt' => exact hcur
  | drainLost hcur hseen' hcut hsize hlt hlt' => exact hcur

/-- No buffer is returned while no frame is being received. -/
theorem TransferCase.done_of_none (h : TransferCase frames start t pos r n s' pos')
    (ht : Ready t) (hcur : t.curBuf = none) : s'.done = t.done := by
  have hno : ∀ {buf}, t.curBuf ≠ some buf := by simp [hcur]
  cases h with
  | hunting hcur' hlt hnext => rfl
  | header hcur' hle hseen => exact (ht.handleHeader _).2
  | frameDone hcur' hseen hwhole hpos => exact absurd hcur' hno
  | frameLost hcur' hseen hcut hsize hpos => exact absurd hcur' hno
  | drained hcur' hseen hwhole hlt hlt' => rfl
  | draining hcur' hseen hsize hj hrem hcount hlt hlt' => rfl
  | drainLost hcur' hseen hcut hsize hlt hlt' => rfl

/-- A whole frame that is being received is returned. -/
theorem TransferCase.done_of_whole (h : TransferCase frames start t pos r n s' pos') {i : ℕ}
    {buf : Sur40Buffer} (hcur : t.curBuf = some buf) (hpos : pos = headerPos frames i + 1)
    (hwhole : (frames i).Complete) :
    s'.done = t.done ++ [⟨buf, .done, some (t.sequence, (frames i).image)⟩] := by
  have hno : t.curBuf ≠ none := by simp [hcur]
  have hsame : ∀ {k}, pos = headerPos frames k + 1 → k = i := by
    intro k hk
    exact headerPos_strictMono.injective (Nat.succ_injective (hk.symm.trans hpos))
  cases h with
  | hunting hcur' hlt hnext => exact absurd hcur' hno
  | header hcur' hle hseen => exact absurd hcur' hno
  | frameDone hcur' hseen hwhole' hpos' =>
      rw [hcur, Option.some.injEq] at hcur'
      rw [hcur', hsame hpos']
      rfl
  | frameLost hcur' hseen hcut hsize hpos' =>
      rw [hsame hpos'] at hcut
      exact absurd hwhole hcut
  | drained hcur' hseen hwhole' hlt hlt' => exact absurd hcur' hno
  | draining hcur' hseen hsize hj hrem hcount hlt hlt' => exact absurd hcur' hno
  | drainLost hcur' hseen hcut hsize hlt hlt' => exact absurd hcur' hno

end Cases

/-- Queueing buffers leaves everything else in place. -/
theorem run_bufferQueue (bufs : List Sur40Buffer) {c c' : VideoLink}
    (hrun : (videoLink frames).run (bufs.map .bufferQueue) c = some c') :
    c'.pos = c.pos ∧ c'.video.drv.curBuf = c.video.drv.curBuf ∧
      c'.video.drv.done = c.video.drv.done := by
  induction bufs generalizing c with
  | nil =>
      cases hrun
      exact ⟨rfl, rfl, rfl⟩
  | cons buf bufs ih =>
      exact ih (c := { c with video := { c.video with
        drv := sur40BufferQueue buf c.video.drv
        queued := c.video.queued ++ [buf] } }) hrun

theorem mapVideoUrb_same (s : Sur40State) (u : VideoUrb) (f : Urb → Urb) :
    (s.mapVideoUrb u f).curBuf = s.curBuf ∧ (s.mapVideoUrb u f).done = s.done ∧
      (s.mapVideoUrb u f).bufList = s.bufList := by
  cases u <;> exact ⟨rfl, rfl, rfl⟩

/-! ## Frames that come back -/

/-- Frame `i`, whole and of the expected size, comes while `buf` waits for it: the
transfer from `c` to `c₁` takes its header, and the next one ends in `c₃`. -/
structure FrameArrives (frames : ℕ → VideoFrame) (i : ℕ) (buf : Sur40Buffer)
    (c c₁ c₃ : VideoLink) : Prop where
  whole : (frames i).Complete
  size : (frames i).size.toNat = c.video.drv.pixFmt.sizeimage
  buffer : c.video.drv.bufList.head? = some buf
  header : ∃ u, (LinkAction.transfer u).step frames c = some c₁
  pos : c.pos ≤ headerPos frames i ∧ headerPos frames i < c₁.pos
  next : ∃ (bufs : List Sur40Buffer) (u : VideoUrb) (c₂ : VideoLink),
    (videoLink frames).run (bufs.map .bufferQueue) c₁ = some c₂ ∧
    (LinkAction.transfer u).step frames c₂ = some c₃

/-- Between `c₁` and `c₃` the buffer is returned, with exactly the bytes of the frame. -/
def FrameReturned (f : VideoFrame) (buf : Sur40Buffer) (c₁ c₃ : VideoLink) : Prop :=
  ∃ sequence, c₃.video.drv.done =
    c₁.video.drv.done ++ [⟨buf, .done, some (sequence, f.image)⟩]

/-- The header that has come is the next one. -/
theorem FrameArrives.index_eq {sys : VideoSys} {c c₁ c₃ : VideoLink} {i n : ℕ}
    {buf : Sur40Buffer} {events : List StreamEvent} (h : FrameArrives frames i buf c c₁ c₃)
    (hfollows : Follows frames start sys c events n) : i = n := by
  obtain ⟨u, hstep⟩ := h.header
  obtain ⟨hbefore, hafter⟩ := h.pos
  have hle : ¬i < n := fun hi =>
    absurd ((hfollows.aligned.passed i).mpr hi) (not_lt.mpr hbefore)
  obtain ⟨hflight, -⟩ := transfer_inFlight hstep
  have hcase := transfer_cases hfollows.session hfollows.aligned hstep
  rcases hcase.aligned (hfollows.session.ready hflight) with
    ⟨n', haligned, -, hn⟩ | ⟨-, haligned, -⟩
  · have hlt := (haligned.passed i).mp hafter
    omega
  · have hlt := (haligned.passed i).mp hafter
    omega

theorem frameReturned_of_seen {sys : VideoSys} {c c₁ c₃ : VideoLink} {i : ℕ}
    {buf : Sur40Buffer} {events : List StreamEvent}
    (h : FrameArrives frames i buf c c₁ c₃) (hfollows : Follows frames start sys c events i)
    (hseen : headerSeen frames start i = true) : FrameReturned (frames i) buf c₁ c₃ := by
  obtain ⟨u, hstep⟩ := h.header
  obtain ⟨bufs, u', c₂, hqueue, hnext⟩ := h.next
  obtain ⟨hflight, -⟩ := transfer_inFlight hstep
  have ht := hfollows.session.ready hflight
  have hcase := transfer_cases hfollows.session hfollows.aligned hstep
  obtain ⟨hdrv, hpos⟩ := hcase.eq_header hseen h.pos.2
  obtain ⟨rest, hbufs⟩ := List.head?_eq_some_iff.mp h.buffer
  -- the frame URB carries the buffer
  have hcur : c₁.video.drv.curBuf = some buf := by
    have hsize : (frames i).header.size.toNat =
        (c.video.drv.mapVideoUrb u Urb.giveback).pixFmt.sizeimage := by
      rw [ht.sizeimage, ← hfollows.session.sizeimage]
      exact h.size
    rw [hdrv, sur40VideoHandleHeader_of_cons 0 _ rfl hsize
      ((mapVideoUrb_same _ u _).2.2.trans hbufs), ht.submitFrame, if_pos rfl]
  obtain ⟨events₁, n₁, hfollows₁⟩ := hfollows.step hstep
  obtain ⟨events₂, n₂, hfollows₂⟩ := hfollows₁.run hqueue
  obtain ⟨hpos₂, hcur₂, hdone₂⟩ := run_bufferQueue bufs hqueue
  have hcase₂ := transfer_cases hfollows₂.session hfollows₂.aligned hnext
  obtain ⟨hcurSame, hdoneSame, -⟩ := mapVideoUrb_same c₂.video.drv u' Urb.giveback
  have hdone := hcase₂.done_of_whole (hcurSame.trans (hcur₂.trans hcur)) (hpos₂.trans hpos)
    h.whole
  exact ⟨_, hdone.trans (by rw [hdoneSame, hdone₂])⟩

theorem not_frameReturned_of_unseen {sys : VideoSys} {c c₁ c₃ : VideoLink} {i : ℕ}
    {buf : Sur40Buffer} {events : List StreamEvent}
    (h : FrameArrives frames i buf c c₁ c₃) (hfollows : Follows frames start sys c events i)
    (hseen : headerSeen frames start i = false) : ¬FrameReturned (frames i) buf c₁ c₃ := by
  obtain ⟨u, hstep⟩ := h.header
  obtain ⟨bufs, u', c₂, hqueue, hnext⟩ := h.next
  have hcase := transfer_cases hfollows.session hfollows.aligned hstep
  have hcur := hcase.curBuf_of_unseen hseen
  obtain ⟨events₁, n₁, hfollows₁⟩ := hfollows.step hstep
  obtain ⟨events₂, n₂, hfollows₂⟩ := hfollows₁.run hqueue
  obtain ⟨-, hcur₂, hdone₂⟩ := run_bufferQueue bufs hqueue
  obtain ⟨hflight₂, -⟩ := transfer_inFlight hnext
  have hcase₂ := transfer_cases hfollows₂.session hfollows₂.aligned hnext
  obtain ⟨hcurSame, hdoneSame, -⟩ := mapVideoUrb_same c₂.video.drv u' Urb.giveback
  have hdone := hcase₂.done_of_none (hfollows₂.session.ready hflight₂)
    (hcurSame.trans (hcur₂.trans hcur))
  rintro ⟨sequence, hreturned⟩
  rw [hdone, hdoneSame, hdone₂] at hreturned
  simp at hreturned

/-- **Which frames survive a cut.** A whole frame that comes while a buffer waits for it
is returned in this buffer exactly if its header is seen: the frame before it is whole,
or its own header was not seen, or its size was not believed. A header that is not seen
is not handled in any run either. -/
theorem frameReturned_iff {frames : ℕ → VideoFrame} {sys : VideoSys}
    (hstart : JustStarted sys) {start : ℕ} {as : List LinkAction} {c c₁ c₃ : VideoLink}
    (hrun : (videoLink frames).run as { video := sys, pos := start } = some c) {i : ℕ}
    {buf : Sur40Buffer} (h : FrameArrives frames i buf c c₁ c₃) :
    (FrameReturned (frames i) buf c₁ c₃ ↔ headerSeen frames start i = true) ∧
    (headerSeen frames start i = false → ∀ bs c',
      (videoLink frames).run bs { video := sys, pos := start } = some c' →
      ∃ events : List StreamEvent,
        c'.video.drv.videoTrace =
          sys.drv.videoTrace ++ events.map (StreamEvent.traced frames) ∧
        i ∉ events.filterMap StreamEvent.frame?) := by
  refine ⟨?_, fun hunseen bs c' hrun' => ?_⟩
  · obtain ⟨events, n, hfollows⟩ := Follows.of_run hstart hrun
    obtain rfl := h.index_eq hfollows
    cases hseen : headerSeen frames start i with
    | true => exact iff_of_true (frameReturned_of_seen h hfollows hseen) rfl
    | false =>
        exact iff_of_false (not_frameReturned_of_unseen h hfollows hseen) Bool.false_ne_true
  · obtain ⟨events, n, hfollows⟩ := Follows.of_run hstart hrun'
    refine ⟨events, hfollows.trace, fun hmem => ?_⟩
    rw [((hfollows.handled.2 i).mp hmem).1] at hunseen
    cases hunseen

/-- Larger than any frame of the panel. -/
def oversizedFrame : VideoFrame where
  packetId := 0
  size := 8294912
  timestamp := 0
  unknown := 0
  image := List.replicate 8294912 0
  sent := 1
  length_image := List.length_replicate
  nonempty := by decide
  no_header := by decide
  sent_le := by decide

/-- The size of the first frame is not believed, and the frame is lost but for a packet. -/
def oversizedFrames (i : ℕ) : VideoFrame := bif i.beq 0 then oversizedFrame else wholeFrames i

/-- The driver hunts for the header of the second frame, and returns it. -/
theorem frameReturned_iff_oversizedFrames :
    ¬(oversizedFrames 0).Complete ∧
    ∃ c c₁ c₃, (videoLink oversizedFrames).run [.transfer .hdr]
        { video := streamingSys, pos := 0 } = some c ∧
      (LinkAction.transfer .drain).step oversizedFrames c = some c₁ ∧
      (LinkAction.transfer .frame).step oversizedFrames c₁ = some c₃ ∧
      FrameReturned (oversizedFrames 1) frameBuffer c₁ c₃ := by
  refine ⟨by decide, ?_⟩
  have hfirst : ((videoLink oversizedFrames).run [.transfer .hdr]
      { video := streamingSys, pos := 0 }).map (fun c => (c.pos, c.video.drv.bufList)) =
        some (1, [frameBuffer, secondBuffer]) := by decide +kernel
  have hsecond : ((videoLink oversizedFrames).run [.transfer .hdr, .transfer .drain]
      { video := streamingSys, pos := 0 }).map VideoLink.pos = some 3 := by decide +kernel
  have hthird : ((videoLink oversizedFrames).run
      [.transfer .hdr, .transfer .drain, .transfer .frame]
      { video := streamingSys, pos := 0 }).isSome = true := by decide +kernel
  obtain ⟨c₃, hthird⟩ := Option.isSome_iff_exists.mp hthird
  obtain ⟨c₁, hrun₁, hnext⟩ := Machine.run_concat_eq_some.mp
    (show (videoLink oversizedFrames).run ([.transfer .hdr, .transfer .drain] ++
      [.transfer .frame]) _ = some c₃ from hthird)
  obtain ⟨c, hrun, hstep⟩ := Machine.run_concat_eq_some.mp
    (show (videoLink oversizedFrames).run ([.transfer .hdr] ++ [.transfer .drain]) _ = some c₁ from
      hrun₁)
  rw [hrun, Option.map_some, Option.some.injEq, Prod.mk.injEq] at hfirst
  rw [hrun₁, Option.map_some, Option.some.injEq] at hsecond
  obtain ⟨events, n, hfollows⟩ := Follows.of_run justStarted_streamingSys hrun
  have harrives : FrameArrives oversizedFrames 1 frameBuffer c c₁ c₃ :=
    { whole := wholeFrames_complete 1
      size := hfollows.session.sizeimage.symm
      buffer := by rw [hfirst.2]; rfl
      header := ⟨.drain, hstep⟩
      pos := by
        rw [hfirst.1, hsecond]
        decide
      next := ⟨[], .frame, c₁, rfl, hnext⟩ }
  exact ⟨c, c₁, c₃, hrun, hstep, hnext,
    (frameReturned_iff justStarted_streamingSys hrun harrives).1.mpr (by decide)⟩

/-- The first frame is lost right after its header. -/
def cutFrames (i : ℕ) : VideoFrame :=
  bif i.beq 0 then blackFrame 0 (by decide) else wholeFrames i

/-- The second frame is whole, and a buffer is waiting, but its header has ended the
transfer of the first frame. -/
theorem not_frameReturned_cutFrames :
    ∃ as c c₁ c₃, (videoLink cutFrames).run as { video := streamingSys, pos := 0 } = some c ∧
      FrameArrives cutFrames 1 secondBuffer c c₁ c₃ ∧
      ¬FrameReturned (cutFrames 1) secondBuffer c₁ c₃ := by
  have hfirst : ((videoLink cutFrames).run [.transfer .hdr]
      { video := streamingSys, pos := 0 }).map (fun c => (c.pos, c.video.drv.bufList)) =
        some (1, [secondBuffer]) := by decide +kernel
  have hsecond : ((videoLink cutFrames).run [.transfer .hdr, .transfer .frame]
      { video := streamingSys, pos := 0 }).map VideoLink.pos = some 2 := by decide +kernel
  have hthird : ((videoLink cutFrames).run [.transfer .hdr, .transfer .frame, .transfer .hdr]
      { video := streamingSys, pos := 0 }).isSome = true := by decide +kernel
  obtain ⟨c₃, hthird⟩ := Option.isSome_iff_exists.mp hthird
  obtain ⟨c₁, hrun₁, hnext⟩ := Machine.run_concat_eq_some.mp
    (show (videoLink cutFrames).run ([.transfer .hdr, .transfer .frame] ++ [.transfer .hdr]) _ =
      some c₃ from hthird)
  obtain ⟨c, hrun, hstep⟩ := Machine.run_concat_eq_some.mp
    (show (videoLink cutFrames).run ([.transfer .hdr] ++ [.transfer .frame]) _ = some c₁ from
      hrun₁)
  rw [hrun, Option.map_some, Option.some.injEq, Prod.mk.injEq] at hfirst
  rw [hrun₁, Option.map_some, Option.some.injEq] at hsecond
  obtain ⟨events, n, hfollows⟩ := Follows.of_run justStarted_streamingSys hrun
  have harrives : FrameArrives cutFrames 1 secondBuffer c c₁ c₃ :=
    { whole := by decide
      size := hfollows.session.sizeimage.symm
      buffer := by rw [hfirst.2]; rfl
      header := ⟨.frame, hstep⟩
      pos := by
        rw [hfirst.1, hsecond]
        decide
      next := ⟨[], .hdr, c₁, rfl, hnext⟩ }
  obtain rfl := harrives.index_eq hfollows
  exact ⟨_, c, c₁, c₃, hrun, harrives,
    not_frameReturned_of_unseen harrives hfollows (by decide +kernel)⟩

end Sur40
