import Sur40.Video

/-!
# One completion on the video endpoint

The three handlers share one endpoint, one scratch buffer and one current buffer.
Whatever a completion brings, the handler hands over to at most one URB and leaves
the fields that the URBs share in step with it.

## Main definitions

* `Exclusive`: at most one URB of the endpoint is in flight.
* `handedOver`: the buffers that videobuf2 has handed over, wherever they are now.
* `Settled`: the shared fields after a handler that came to its end.
* `settled_videoComplete`: every completion ends in such a state.
-/

namespace Sur40

/-- At most one URB of the video endpoint is in flight. -/
def Exclusive (s : Sur40State) : Prop :=
  ∀ u u', (s.videoUrb u).inFlight = true → (s.videoUrb u').inFlight = true → u = u'

/-- No URB of the video endpoint is in flight. -/
def Idle (s : Sur40State) : Prop := ∀ u, (s.videoUrb u).inFlight = false

/-- Returned, current, waiting: every buffer handed over, in order. -/
def Sur40State.handedOver (s : Sur40State) : List Sur40Buffer :=
  s.done.map Vb2BufferDone.buf ++ s.curBuf.toList ++ s.bufList

theorem Sur40State.handedOver_of_none {s : Sur40State} (hcur : s.curBuf = none) :
    s.handedOver = s.done.map Vb2BufferDone.buf ++ s.bufList := by
  rw [Sur40State.handedOver, hcur, Option.toList_none, List.append_nil]

/-- The shared fields agree with the one URB that is in flight, if there is one; a
poisoned URB is not, and one is if its submission could not fail. -/
structure Settled (err : ℤ) (s : Sur40State) : Prop where
  exclusive : Exclusive s
  cur : s.curBuf.isSome = s.videoFrameUrb.inFlight
  target : s.videoFrameUrb.inFlight = true → s.videoFrameUrb.sg = s.curBuf
  drain : s.videoDrainUrb.inFlight = true → s.drainRemaining = s.drainRequested ∧
    s.videoDrainUrb.transferBufferLength = drainLength s.drainRemaining
  blocked : ∀ u, 0 < (s.videoUrb u).reject → (s.videoUrb u).inFlight = false
  live : err = 0 → (∀ u, (s.videoUrb u).reject ≤ 0) → ∃ u, (s.videoUrb u).inFlight = true

theorem Idle.not_inFlight {s : Sur40State} (h : Idle s) (u : VideoUrb) :
    ¬(s.videoUrb u).inFlight = true := by
  rw [h u]
  exact Bool.false_ne_true

theorem Idle.exclusive {s : Sur40State} (h : Idle s) : Exclusive s :=
  fun u _ hu => absurd hu (h.not_inFlight u)

/-- Once the URB in flight is given back, all are idle. -/
theorem Exclusive.idle_giveback {s : Sur40State} {u : VideoUrb} (h : Exclusive s)
    (hflight : (s.videoUrb u).inFlight = true) : Idle (s.mapVideoUrb u Urb.giveback) := by
  intro w
  by_cases hw : w = u
  · subst hw
    cases w <;> rfl
  · have hoff : (s.videoUrb w).inFlight = false := by
      cases hb : (s.videoUrb w).inFlight with
      | false => rfl
      | true => exact absurd (h w u hb hflight) hw
    cases u <;> cases w <;> first
      | exact hoff
      | exact absurd rfl hw

/-- A submission leaves a poisoned URB idle. -/
theorem usbSubmitUrb_blocked {u : Urb} (err : ℤ) (hidle : u.inFlight = false)
    (hr : 0 < u.reject) : (usbSubmitUrb u err).1.inFlight = false := by
  rw [usbSubmitUrb_of_poisoned hidle hr]
  exact hidle

/-- A submission that nothing refuses puts the URB in flight. -/
theorem usbSubmitUrb_live {u : Urb} {err : ℤ} (hidle : u.inFlight = false) (hr : u.reject ≤ 0)
    (herr : err = 0) : (usbSubmitUrb u err).1.inFlight = true := by
  rw [herr, usbSubmitUrb_of_ready hidle hr]

/-! ## The submission helpers -/

/-- The state `s'` comes from the idle state `s` by the submission of one URB. -/
structure Submits (u : VideoUrb) (urb : Urb) (err : ℤ) (s s' : Sur40State) : Prop where
  idle : Idle s
  ready : urb.inFlight = false
  self : s'.videoUrb u = (usbSubmitUrb urb err).1
  others : ∀ w, w ≠ u → s'.videoUrb w = s.videoUrb w

namespace Submits

variable {u : VideoUrb} {urb : Urb} {err : ℤ} {s s' : Sur40State}

theorem idle_others (h : Submits u urb err s s') (w : VideoUrb) (hw : w ≠ u) :
    (s'.videoUrb w).inFlight = false := by
  rw [h.others w hw]
  exact h.idle w

theorem eq_of_inFlight (h : Submits u urb err s s') {w : VideoUrb}
    (hw : (s'.videoUrb w).inFlight = true) : w = u := by
  by_contra hne
  rw [h.idle_others w hne] at hw
  cases hw

theorem exclusive (h : Submits u urb err s s') : Exclusive s' := by
  intro w w' hw hw'
  rw [h.eq_of_inFlight hw, h.eq_of_inFlight hw']

theorem blocked (h : Submits u urb err s s') (w : VideoUrb) (hr : 0 < (s'.videoUrb w).reject) :
    (s'.videoUrb w).inFlight = false := by
  by_cases hw : w = u
  · subst hw
    rw [h.self] at hr ⊢
    exact usbSubmitUrb_blocked err h.ready (by simpa using hr)
  · exact h.idle_others w hw

theorem live (h : Submits u urb err s s') (herr : err = 0)
    (hr : ∀ w, (s'.videoUrb w).reject ≤ 0) : ∃ w, (s'.videoUrb w).inFlight = true := by
  refine ⟨u, ?_⟩
  have hu := hr u
  rw [h.self] at hu ⊢
  exact usbSubmitUrb_live h.ready (by simpa using hu) herr

end Submits

theorem submits_hdr (err : ℤ) {s : Sur40State} (hidle : Idle s) :
    Submits .hdr s.videoHdrUrb err s (sur40VideoSubmitHdr err s) where
  idle := hidle
  ready := hidle .hdr
  self := rfl
  others := by
    intro w hw
    cases w
    · exact absurd rfl hw
    · rfl
    · rfl

theorem settled_submitHdr (err : ℤ) {s : Sur40State} (hidle : Idle s) (hcur : s.curBuf = none) :
    Settled err (sur40VideoSubmitHdr err s) := by
  have h := submits_hdr err hidle
  refine ⟨h.exclusive, ?_, ?_, ?_, h.blocked, h.live⟩
  · exact (congrArg Option.isSome hcur).trans (hidle .frame).symm
  · exact fun hf => absurd (h.eq_of_inFlight (w := .frame) hf) (by decide)
  · exact fun hd => absurd (h.eq_of_inFlight (w := .drain) hd) (by decide)

theorem submits_drain (count : ℕ) (err : ℤ) {s : Sur40State} (hidle : Idle s) :
    Submits .drain { s.videoDrainUrb with transferBufferLength := drainLength count } err s
      (sur40VideoSubmitDrain count err s) where
  idle := hidle
  ready := hidle .drain
  self := rfl
  others := by
    intro w hw
    cases w
    · rfl
    · rfl
    · exact absurd rfl hw

theorem settled_submitDrain (count : ℕ) (err : ℤ) {s : Sur40State} (hidle : Idle s)
    (hcur : s.curBuf = none) : Settled err (sur40VideoSubmitDrain count err s) := by
  have h := submits_drain count err hidle
  refine ⟨h.exclusive, ?_, ?_, ?_, h.blocked, h.live⟩
  · exact (congrArg Option.isSome hcur).trans (hidle .frame).symm
  · exact fun hf => absurd (h.eq_of_inFlight (w := .frame) hf) (by decide)
  · intro hd
    have hret : (usbSubmitUrb { s.videoDrainUrb with
        transferBufferLength := drainLength count } err).2 = 0 := by
      have hflight := usbSubmitUrb_inFlight { s.videoDrainUrb with
        transferBufferLength := drainLength count } err (hidle .drain)
      rw [show (usbSubmitUrb _ err).1.inFlight = true from hd] at hflight
      exact of_decide_eq_true hflight.symm
    refine ⟨(if_pos hret).symm, ?_⟩
    exact usbSubmitUrb_transferBufferLength _ err

/-- The header logic: the data is drained, or the frame URB carries the current buffer,
or the buffer has been handed back. -/
theorem settled_handleHeader (img : Sur40ImageHeader) (err : ℤ) {s : Sur40State}
    (hidle : Idle s) (hcur : s.curBuf = none) :
    Settled err (sur40VideoHandleHeader img err s) := by
  have hcases := sur40VideoHandleHeader_cases img err s
  generalize sur40VideoHandleHeader img err s = s' at hcases ⊢
  cases hcases with
  | drain count framesDropped => exact settled_submitDrain count err (by exact hidle) hcur
  | frame buf bufs hbufs hret =>
      have h : Submits .frame (s.frameUrbFor buf) err s { s.logHeader img with
          bufList := bufs
          curBuf := some buf
          videoFrameUrb := (usbSubmitUrb (s.frameUrbFor buf) err).1 } := by
        refine ⟨hidle, hidle .frame, rfl, fun w hw => ?_⟩
        cases w
        · rfl
        · exact absurd rfl hw
        · rfl
      refine ⟨h.exclusive, ?_, ?_, ?_, h.blocked, h.live⟩
      · have hflight := usbSubmitUrb_inFlight (s.frameUrbFor buf) err (hidle .frame)
        rw [hret] at hflight
        exact hflight.symm
      · exact fun _ => usbSubmitUrb_sg _ err
      · exact fun hd => absurd (h.eq_of_inFlight (w := .drain) hd) (by decide)
  | failed buf bufs hbufs hret =>
      have h : Submits .frame (s.frameUrbFor buf) err s (vb2BufferDone buf .error none
          { s.logHeader img with
            bufList := bufs
            curBuf := none
            videoFrameUrb := (usbSubmitUrb (s.frameUrbFor buf) err).1 }) := by
        refine ⟨hidle, hidle .frame, rfl, fun w hw => ?_⟩
        cases w
        · rfl
        · exact absurd rfl hw
        · rfl
      have hflight := usbSubmitUrb_inFlight (s.frameUrbFor buf) err (hidle .frame)
      rw [decide_eq_false hret] at hflight
      refine ⟨h.exclusive, hflight.symm, ?_, ?_, h.blocked, h.live⟩
      · exact fun hf => absurd (hflight.symm.trans hf) Bool.false_ne_true
      · exact fun hd => absurd (h.eq_of_inFlight (w := .drain) hd) (by decide)

/-- The header logic moves a buffer at most, from the list to the current one or back
to videobuf2. -/
theorem handleHeader_handedOver (img : Sur40ImageHeader) (err : ℤ) {s : Sur40State}
    (hcur : s.curBuf = none) :
    (sur40VideoHandleHeader img err s).handedOver = s.handedOver := by
  have hcases := sur40VideoHandleHeader_cases img err s
  generalize sur40VideoHandleHeader img err s = s' at hcases ⊢
  cases hcases with
  | drain count framesDropped => rfl
  | frame buf bufs hbufs hret =>
      rw [s.handedOver_of_none hcur, hbufs]
      exact List.append_assoc _ [buf] bufs
  | failed buf bufs hbufs hret =>
      rw [s.handedOver_of_none hcur, hbufs]
      simp [Sur40State.handedOver, vb2BufferDone, Sur40State.logHeader]

theorem map_buf_returned (state : Vb2BufferState) (bufs : List Sur40Buffer) :
    (bufs.map fun buf => (⟨buf, state, none⟩ : Vb2BufferDone)).map Vb2BufferDone.buf = bufs := by
  rw [List.map_map]
  exact List.map_id bufs

theorem returnAllBuffers_handedOver (state : Vb2BufferState) {s : Sur40State}
    (hcur : s.curBuf = none) : (returnAllBuffers state s).handedOver = s.handedOver := by
  rw [returnAllBuffers_eq, s.handedOver_of_none hcur]
  rw [Sur40State.handedOver_of_none (by exact hcur), List.map_append, map_buf_returned,
    List.append_nil]

/-! ## Completions -/

/-- **Every completion ends well.** When a URB of the endpoint comes back, all of them
are idle. If it is dead that is all; otherwise the handler leaves the shared fields
settled. No buffer is lost, and `WARN_ON(!buf)` does not fire. -/
theorem videoComplete_settled {u : VideoUrb} (c : Completion) (err : ℤ) {s : Sur40State}
    (hflight : (s.videoUrb u).inFlight = true) (hexcl : Exclusive s)
    (hcur : s.curBuf.isSome = s.videoFrameUrb.inFlight) :
    (if sur40UrbDead c.status then
        videoComplete u c err s = s.mapVideoUrb u Urb.giveback ∧ Idle (videoComplete u c err s)
      else Settled err (videoComplete u c err s)) ∧
    (videoComplete u c err s).handedOver = s.handedOver ∧
    (videoComplete u c err s).warnedBuf = s.warnedBuf ∧
    (videoComplete u c err s).disconnected = s.disconnected := by
  have hidle := hexcl.idle_giveback hflight
  have hcases := videoComplete_cases u c err s
  have hnone : u ≠ .frame → (s.mapVideoUrb u Urb.giveback).curBuf = none := by
    intro hu
    have hoff : s.videoFrameUrb.inFlight = false := by
      cases hb : s.videoFrameUrb.inFlight with
      | false => rfl
      | true => exact absurd (hexcl u .frame hflight hb) hu
    rw [hoff] at hcur
    cases u <;> exact Option.isSome_eq_false_iff.mp hcur |> Option.isNone_iff_eq_none.mp
  have hsome : u = .frame → (s.mapVideoUrb u Urb.giveback).curBuf.isSome := by
    intro hu
    subst hu
    exact hcur.trans hflight
  have hsame : (s.mapVideoUrb u Urb.giveback).handedOver = s.handedOver ∧
      (s.mapVideoUrb u Urb.giveback).warnedBuf = s.warnedBuf ∧
      (s.mapVideoUrb u Urb.giveback).disconnected = s.disconnected := by
    cases u <;> exact ⟨rfl, rfl, rfl⟩
  rw [← hsame.1, ← hsame.2.1, ← hsame.2.2]
  have hdead : sur40UrbDead c.status = true →
      videoComplete u c err s = s.mapVideoUrb u Urb.giveback := by
    intro hdead
    cases u <;> exact if_pos hdead
  clear hsame hcur hexcl hflight
  generalize s.mapVideoUrb u Urb.giveback = t at *
  generalize videoComplete u c err s = s' at *
  split_ifs with hd
  · rw [hdead hd]
    exact ⟨⟨rfl, hidle⟩, rfl, rfl, rfl⟩
  · cases hcases with
    | dead hdead' => exact absurd hdead' hd
    | hdr hu =>
        exact ⟨settled_submitHdr err hidle (hnone (by simp [hu])), rfl, rfl, rfl⟩
    | frameDone hu buf hcur state frame sequence =>
        refine ⟨settled_submitHdr err (by exact hidle) rfl, ?_, rfl, rfl⟩
        simp [Sur40State.handedOver, hcur, sur40VideoSubmitHdr, vb2BufferDone]
    | frameNone hu hcur =>
        have hbuf := hsome hu
        rw [hcur] at hbuf
        cases hbuf
    | drained hu =>
        exact ⟨settled_submitHdr err (by exact hidle) (hnone (by simp [hu])), rfl, rfl, rfl⟩
    | drain hu count => exact ⟨settled_submitDrain count err hidle (hnone hu), rfl, rfl, rfl⟩
    | header hu img =>
        refine ⟨settled_handleHeader img err hidle (hnone hu),
          handleHeader_handedOver img err (hnone hu), ?_⟩
        have hexits := sur40VideoHandleHeader_cases img err t
        generalize sur40VideoHandleHeader img err t = t' at hexits ⊢
        cases hexits <;> exact ⟨rfl, rfl⟩

end Sur40
