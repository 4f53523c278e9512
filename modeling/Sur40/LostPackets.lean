import Sur40.TouchStream
import Mathlib.Data.List.TakeWhile

/-!
# Touch streams with lost packets

Any packet of the stream may be replaced by a failed or malformed transfer, and
the pipeline may be started in the middle of a frame. On an error the handler goes
back to waiting for a first packet, but it neither takes back the blobs of the
broken frame that it has reported already nor skips the packets of that frame
which are still to come. A continuation packet has count 0, so the decoder takes it
for an empty frame and syncs; blobs that were reported before the loss go into
whatever sync comes next.

## Main definitions

* `Arrives`, `LossyFrame`, `LateStart`: the stream as it is received.
* `DamagesOnlyItself`: each sync reports one intact frame, and each intact frame
  is reported by one sync.
* `Harmless`: the losses that the handler copes with.
* `damagesOnlyItself_iff`: these are the only ones.
-/

namespace Sur40

/-! ## Streams with losses -/

/-- A transfer that failed without cancelling the URB, or whose length is not that
of a packet. -/
def touchLost (c : Completion) : Bool := !sur40UrbDead c.status && !touchGood c

/-- What can arrive in place of a packet. -/
def Arrives (p : TouchPacket) (t : TouchTransfer) : Prop :=
  t.completion = p.completion ∨ touchLost t.completion

/-- A frame of the device and the transfers that arrive in place of its packets. -/
structure LossyFrame where
  frame : DeviceFrame
  received : List TouchTransfer
  arrives : List.Forall₂ Arrives frame.packets received

/-- The rest of a frame whose first packets were sent before the start; `tail` is
empty when the pipeline is started between two frames. -/
structure LateStart where
  frame : DeviceFrame
  missed : List TouchPacket
  tail : List TouchPacket
  split : frame.packets = missed ++ tail
  missed_ne_nil : missed ≠ []
  received : List TouchTransfer
  arrives : List.Forall₂ Arrives tail received

/-- Every packet of the frame arrived. -/
def LossyFrame.lossless (f : LossyFrame) : Bool := f.received.all fun t => touchGood t.completion

/-- The transfers before the first lost packet. -/
def LossyFrame.goodPrefix (f : LossyFrame) : List TouchTransfer :=
  f.received.takeWhile fun t => touchGood t.completion

/-- The blobs received before the first lost packet. -/
def LossyFrame.held (f : LossyFrame) : List Sur40Blob :=
  (f.frame.packets.take f.goodPrefix.length).flatMap TouchPacket.blobs

/-- The packets received after the first lost one. -/
def LossyFrame.late (f : LossyFrame) : List TouchTransfer :=
  (f.received.dropWhile fun t => touchGood t.completion).filter fun t => touchGood t.completion

/-! ## What the input device sees -/

/-- The calls of each piece of a run. -/
def callsOfPieces : List (List TouchTransfer) → Sur40State → List (List InputCall)
  | [], _ => []
  | ts :: pieces, s => newCalls ts s :: callsOfPieces pieces (touchRun ts s)

/-- For each sync the blobs reported since the one before; `pending` are the blobs
reported so far. -/
def syncedBlobs : List Sur40Blob → List InputCall → List (List Sur40Blob)
  | _, [] => []
  | pending, .reportBlob b :: cs => syncedBlobs (pending ++ [b]) cs
  | pending, .mtSyncFrame :: cs => syncedBlobs pending cs
  | pending, .sync :: cs => pending :: syncedBlobs [] cs

/-- The blobs reported since the last sync. -/
def pendingBlobs (calls : List InputCall) : List Sur40Blob :=
  calls.foldl (fun pending call => match call with
    | .reportBlob b => pending ++ [b]
    | .mtSyncFrame => pending
    | .sync => []) []

/-- Number of `input_sync` calls. -/
def syncCount (calls : List InputCall) : ℕ := calls.count .sync

/-- **Losses stay local.** The frame that was under way at the start and every frame
with a lost packet produce no sync, every other frame produces one, and the blobs
reported between two syncs are exactly those of one intact frame. -/
structure DamagesOnlyItself (s : Sur40State) (start : LateStart) (frames : List LossyFrame) :
    Prop where
  start_silent : syncCount (newCalls start.received s) = 0
  one_sync : List.Forall₂ (fun f calls => syncCount calls = if f.lossless then 1 else 0) frames
    (callsOfPieces (frames.map LossyFrame.received) (touchRun start.received s))
  contents : syncedBlobs (pendingBlobs s.input.calls)
      (newCalls (start.received ++ frames.flatMap LossyFrame.received) s) =
    (frames.filter LossyFrame.lossless).map fun f => f.frame.blobs

/-- The losses that stay local: nothing arrives of a frame after its first lost
packet, and nothing at all of a frame that was under way at the start; and a frame
that is followed by an intact one had no blob before its first lost packet, and no
blob was left over from before the start. -/
structure Harmless (s : Sur40State) (start : LateStart) (frames : List LossyFrame) : Prop where
  start_lost : ∀ t ∈ start.received, touchLost t.completion
  tail_lost : ∀ f ∈ frames, f.late = []
  fresh : pendingBlobs s.input.calls = [] ∨ ∀ f ∈ frames, f.lossless = false
  nothing_held : frames.Pairwise fun f g => f.lossless = false → g.lossless → f.held = []

/-! ## The decoder on lost packets -/

theorem touchGood_eq_not_touchLost {p : TouchPacket} {t : TouchTransfer} (h : Arrives p t) :
    touchGood t.completion = !touchLost t.completion := by
  rcases h with h | h
  · rw [h]
    simp [touchLost]
  · simp only [touchLost, Bool.and_eq_true, Bool.not_eq_true'] at h
    simp [touchLost, h.1, h.2]

/-- A transfer of the stream either arrived or was lost. -/
theorem touchGood_eq_of_mem {ps : List TouchPacket} {ts : List TouchTransfer}
    (h : List.Forall₂ Arrives ps ts) :
    ∀ t ∈ ts, touchGood t.completion = !touchLost t.completion := by
  induction h with
  | nil => simp
  | cons hp _ ih =>
      intro t ht
      rcases List.mem_cons.mp ht with rfl | ht
      · exact touchGood_eq_not_touchLost hp
      · exact ih t ht

/-- A received packet is the one that was sent. -/
theorem Arrives.eq_of_good {p : TouchPacket} {t : TouchTransfer} (h : Arrives p t)
    (hg : touchGood t.completion = true) : t.completion = p.completion := by
  rcases h with h | h
  · exact h
  · simp [touchLost, hg] at h

/-- What does not arrive is lost. -/
theorem Arrives.lost_of_not_good {p : TouchPacket} {t : TouchTransfer} (h : Arrives p t)
    (hg : touchGood t.completion = false) : touchLost t.completion = true := by
  have hgood := touchGood_eq_not_touchLost h
  rw [hg] at hgood
  simpa using hgood.symm

theorem receive_lost {c : Completion} (h : touchLost c) (d : TouchDecoder) :
    d.receive c = ⟨-1, d.input⟩ := by
  simp only [touchLost, Bool.and_eq_true, Bool.not_eq_true'] at h
  simp [TouchDecoder.receive, h.1, h.2]

/-- The syncs of `n` continuation packets taken for empty frames. -/
def emptySyncs (n : ℕ) : List InputCall := (List.replicate n [.mtSyncFrame, .sync]).flatten

theorem emptySyncs_succ (n : ℕ) :
    emptySyncs (n + 1) = .mtSyncFrame :: .sync :: emptySyncs n := by
  simp [emptySyncs, List.replicate_succ]

/-- **Continuation packets without their frame.** Read at the sentinel, every one
that arrives is taken for an empty frame. -/
theorem receive_continuations {ps : List TouchPacket} {ts : List TouchTransfer}
    (harr : List.Forall₂ Arrives ps ts) (hcount : ∀ p ∈ ps, p.header.count = 0)
    (input : InputDev) :
    ∃ input', (ts.map TouchTransfer.completion).foldl TouchDecoder.receive ⟨-1, input⟩ =
        ⟨-1, input'⟩ ∧
      input'.calls = input.calls ++
        emptySyncs (ts.filter fun t => touchGood t.completion).length := by
  induction harr generalizing input with
  | nil => exact ⟨input, rfl, by simp [emptySyncs]⟩
  | @cons p t ps ts hp _ ih =>
      have hrest : ∀ p ∈ ps, p.header.count = 0 := fun q hq =>
        hcount q (List.mem_cons_of_mem p hq)
      rw [List.map_cons, List.foldl_cons]
      cases hg : touchGood t.completion with
      | false =>
          rw [receive_lost (hp.lost_of_not_good hg)]
          obtain ⟨input', hrun, hcalls⟩ := ih hrest input
          exact ⟨input', hrun, by simpa [hg] using hcalls⟩
      | true =>
          have hann : announced (-1) p.bytes = 0 := by
            rw [announced, if_pos (by omega), TouchPacket.decode_header, hcount p (by simp)]
            rfl
          rw [hp.eq_of_good hg, receive_last (d := ⟨-1, input⟩) hann (Nat.zero_le _)]
          obtain ⟨input', hrun, hcalls⟩ := ih hrest _
          refine ⟨input', hrun, ?_⟩
          rw [hcalls]
          simp [hg, emptySyncs_succ, reportBlobs]

/-- The calls that a frame causes from the sentinel on. -/
def LossyFrame.calls (f : LossyFrame) : List InputCall :=
  if f.lossless then f.frame.calls
  else f.held.map .reportBlob ++ emptySyncs f.late.length

theorem forall₂_split {p : TouchTransfer → Bool} {ps : List TouchPacket}
    {ts : List TouchTransfer} (h : List.Forall₂ Arrives ps ts) :
    List.Forall₂ Arrives (ps.take (ts.takeWhile p).length) (ts.takeWhile p) ∧
      List.Forall₂ Arrives (ps.drop (ts.takeWhile p).length) (ts.dropWhile p) := by
  rw [← List.takeWhile_append_dropWhile (p := p) (l := ts)] at h
  have htake := List.forall₂_take (ts.takeWhile p).length h
  have hdrop := List.forall₂_drop (ts.takeWhile p).length h
  rw [List.take_left] at htake
  rw [List.drop_left] at hdrop
  exact ⟨htake, hdrop⟩

/-- Transfers that all arrived are the packets that were sent. -/
theorem delivers_of_arrives {ps : List TouchPacket} {ts : List TouchTransfer}
    (h : List.Forall₂ Arrives ps ts) (hgood : ∀ t ∈ ts, touchGood t.completion) :
    Delivers ts ps := by
  induction h with
  | nil => rfl
  | @cons p t ps ts hp _ ih =>
      have := ih fun t ht => hgood t (List.mem_cons_of_mem _ ht)
      simp only [Delivers, List.map_cons] at this ⊢
      rw [hp.eq_of_good (hgood t (by simp)), this]

/-- A frame with a lost packet: its transfers are those before the loss, the lost
one, and those after it. -/
theorem LossyFrame.split_of_lossy (f : LossyFrame) (h : f.lossless = false) :
    ∃ lost rest, f.received.dropWhile (fun t => touchGood t.completion) = lost :: rest ∧
      touchGood lost.completion = false ∧
      f.late = rest.filter fun t => touchGood t.completion := by
  obtain ⟨t, ht, htg⟩ : ∃ t ∈ f.received, touchGood t.completion = false := by
    simpa [LossyFrame.lossless] using h
  cases hd : f.received.dropWhile fun t => touchGood t.completion with
  | nil =>
      rw [List.dropWhile_eq_nil_iff] at hd
      rw [hd t ht] at htg
      cases htg
  | cons lost rest =>
      have hlost : touchGood lost.completion = false := by
        have := List.head_dropWhile_not (fun t => touchGood t.completion) (l := f.received)
          (by rw [hd]; simp)
        simpa only [hd, List.head_cons] using this
      exact ⟨lost, rest, rfl, hlost, by simp [LossyFrame.late, hd, hlost]⟩

theorem LossyFrame.late_of_lossless (f : LossyFrame) (h : f.lossless) : f.late = [] := by
  have hnil : f.received.dropWhile (fun t => touchGood t.completion) = [] :=
    List.dropWhile_eq_nil_iff.mpr (by simpa [LossyFrame.lossless] using h)
  simp [LossyFrame.late, hnil]

/-- Before the loss the frame has begun, or not even that. -/
theorem receive_prefix (f : DeviceFrame) {pre : List TouchPacket} {p : TouchPacket}
    {ps : List TouchPacket} (hsplit : f.packets = pre ++ p :: ps) (input : InputDev) :
    ∃ need, receivePackets pre ⟨-1, input⟩ =
      ⟨need, reportBlobs (pre.flatMap TouchPacket.blobs) input⟩ := by
  by_cases hnil : pre = []
  · subst hnil
    exact ⟨-1, rfl⟩
  · exact ⟨_, receive_begun f hsplit hnil (by simp) input⟩

/-- Behind its first packet a frame has continuation packets only. -/
theorem DeviceFrame.count_after (f : DeviceFrame) {pre : List TouchPacket} {p : TouchPacket}
    {ps : List TouchPacket} (hsplit : f.packets = pre ++ p :: ps) :
    ∀ q ∈ ps, q.header.count = 0 := by
  intro q hq
  obtain ⟨a, b, rfl⟩ := List.append_of_mem hq
  refine f.count_of_split (pre ++ p :: a) b ?_ (by simp)
  rw [List.append_assoc, List.cons_append]
  exact hsplit

/-- **One frame, with or without losses.** The decoder is back at its sentinel, and
the calls are those of `LossyFrame.calls`. -/
theorem receive_lossyFrame (f : LossyFrame) (input : InputDev) :
    ∃ input', (f.received.map TouchTransfer.completion).foldl TouchDecoder.receive ⟨-1, input⟩ =
        ⟨-1, input'⟩ ∧ input'.calls = input.calls ++ f.calls := by
  cases hl : f.lossless with
  | true =>
      have hdel : Delivers f.received f.frame.packets :=
        delivers_of_arrives f.arrives (by simpa [LossyFrame.lossless] using hl)
      refine ⟨inputSync (inputMtSyncFrame (reportBlobs f.frame.blobs input)), ?_, ?_⟩
      · rw [hdel]
        exact receive_frame f.frame input
      · simp [LossyFrame.calls, hl, DeviceFrame.calls]
  | false =>
      obtain ⟨lost, rest, hdrop, hlost, hlate⟩ := f.split_of_lossy hl
      obtain ⟨harr, harr'⟩ := forall₂_split (p := fun t => touchGood t.completion) f.arrives
      have hdel : Delivers f.goodPrefix (f.frame.packets.take f.goodPrefix.length) :=
        delivers_of_arrives harr fun t ht =>
          List.mem_takeWhile_imp (p := fun t : TouchTransfer => touchGood t.completion) ht
      rw [hdrop] at harr'
      -- The lost packet, and the packets of the frame after it.
      obtain ⟨p, ps, hp, htail, hpackets⟩ := List.forall₂_cons_right_iff.mp harr'
      have hsplit : f.frame.packets = f.frame.packets.take f.goodPrefix.length ++ p :: ps := by
        conv_lhs => rw [← List.take_append_drop f.goodPrefix.length f.frame.packets]
        rw [← hpackets]
        rfl
      have hreceived : f.received = f.goodPrefix ++ lost :: rest := by
        rw [← hdrop]
        exact List.takeWhile_append_dropWhile.symm
      obtain ⟨need, hneed⟩ := receive_prefix f.frame hsplit input
      obtain ⟨input', hrun, hcalls⟩ :=
        receive_continuations htail (f.frame.count_after hsplit) (reportBlobs f.held input)
      refine ⟨input', ?_, ?_⟩
      · rw [hreceived, List.map_append, List.foldl_append, hdel]
        change ((lost :: rest).map TouchTransfer.completion).foldl TouchDecoder.receive
          (receivePackets _ _) = _
        rw [hneed, List.map_cons, List.foldl_cons, receive_lost (hp.lost_of_not_good hlost)]
        exact hrun
      · rw [hcalls, reportBlobs_calls, LossyFrame.calls, hl, hlate, List.append_assoc]
        rfl

/-! ## Whole streams -/

/-- What arrives of the frame under way at the start. -/
theorem run_start (start : LateStart) (s : Sur40State) (hs : s.needBlobs = -1) :
    (touchRun start.received s).needBlobs = -1 ∧
      (touchRun start.received s).input.calls = s.input.calls ++
        emptySyncs (start.received.filter fun t => touchGood t.completion).length := by
  have hcount : ∀ p ∈ start.tail, p.header.count = 0 := by
    intro p hp
    obtain ⟨a, b, hab⟩ := List.append_of_mem hp
    refine start.frame.count_of_split (start.missed ++ a) b ?_
      (by simp [start.missed_ne_nil])
    rw [start.split, hab, List.append_assoc]
  obtain ⟨input', hrun, hcalls⟩ := receive_continuations start.arrives hcount s.input
  have hdec := decoder_touchRun start.received s
  have hbegin : s.decoder = ⟨-1, s.input⟩ := congrArg (TouchDecoder.mk · s.input) hs
  rw [hbegin, hrun] at hdec
  simp only [Sur40State.decoder, TouchDecoder.mk.injEq] at hdec
  exact ⟨hdec.1, by rw [hdec.2, hcalls]⟩

/-- One frame of the stream. -/
theorem run_lossyFrame (f : LossyFrame) (s : Sur40State) (hs : s.needBlobs = -1) :
    (touchRun f.received s).needBlobs = -1 ∧
      (touchRun f.received s).input.calls = s.input.calls ++ f.calls := by
  obtain ⟨input', hrun, hcalls⟩ := receive_lossyFrame f s.input
  have hdec := decoder_touchRun f.received s
  have hbegin : s.decoder = ⟨-1, s.input⟩ := congrArg (TouchDecoder.mk · s.input) hs
  rw [hbegin, hrun] at hdec
  simp only [Sur40State.decoder, TouchDecoder.mk.injEq] at hdec
  exact ⟨hdec.1, by rw [hdec.2, hcalls]⟩

theorem callsOfPieces_frames (frames : List LossyFrame) (s : Sur40State)
    (hs : s.needBlobs = -1) :
    callsOfPieces (frames.map LossyFrame.received) s = frames.map LossyFrame.calls ∧
      (touchRun (frames.flatMap LossyFrame.received) s).input.calls =
        s.input.calls ++ frames.flatMap LossyFrame.calls := by
  induction frames generalizing s with
  | nil => exact ⟨rfl, by simp [touchRun]⟩
  | cons f frames ih =>
      obtain ⟨hneed, hcalls⟩ := run_lossyFrame f s hs
      obtain ⟨ih1, ih2⟩ := ih (touchRun f.received s) hneed
      constructor
      · rw [List.map_cons, callsOfPieces, newCalls_eq hcalls, ih1, List.map_cons]
      · rw [List.flatMap_cons, touchRun_append, ih2, hcalls, List.flatMap_cons,
          List.append_assoc]

@[simp] theorem syncCount_emptySyncs (n : ℕ) : syncCount (emptySyncs n) = n := by
  induction n with
  | zero => rfl
  | succ n ih =>
      rw [syncCount] at ih ⊢
      simp [emptySyncs_succ, ih]

theorem syncCount_map_reportBlob (bs : List Sur40Blob) :
    syncCount (bs.map .reportBlob) = 0 := by
  simp [syncCount, List.count_eq_zero]

theorem LossyFrame.syncCount_calls (f : LossyFrame) :
    syncCount f.calls = if f.lossless then 1 else f.late.length := by
  have happ : ∀ as bs : List InputCall, syncCount (as ++ bs) = syncCount as + syncCount bs :=
    fun as bs => List.count_append
  cases hl : f.lossless with
  | true =>
      simp only [LossyFrame.calls, hl, if_true, DeviceFrame.calls, happ,
        syncCount_map_reportBlob]
      rfl
  | false =>
      simp [LossyFrame.calls, hl, happ, syncCount_map_reportBlob]

theorem syncedBlobs_reports (bs pending : List Sur40Blob) (cs : List InputCall) :
    syncedBlobs pending (bs.map .reportBlob ++ cs) = syncedBlobs (pending ++ bs) cs := by
  induction bs generalizing pending with
  | nil => simp
  | cons b bs ih =>
      rw [List.map_cons, List.cons_append, syncedBlobs, ih]
      simp [List.append_assoc]

/-- With nothing received after a loss, the blobs of a broken frame go into the
next sync, and only there. -/
theorem syncedBlobs_frames (frames : List LossyFrame) (pending : List Sur40Blob)
    (htail : ∀ f ∈ frames, f.late = []) :
    syncedBlobs pending (frames.flatMap LossyFrame.calls) =
        (frames.filter LossyFrame.lossless).map (fun f => f.frame.blobs) ↔
      (pending = [] ∨ ∀ f ∈ frames, f.lossless = false) ∧
        frames.Pairwise fun f g => f.lossless = false → g.lossless → f.held = [] := by
  induction frames generalizing pending with
  | nil => simp [syncedBlobs]
  | cons f frames ih =>
      have hrest := fun pending' => ih pending' fun g hg => htail g (List.mem_cons_of_mem f hg)
      rw [List.flatMap_cons, List.pairwise_cons]
      cases hl : f.lossless with
      | true =>
          simp only [LossyFrame.calls, hl, if_true, DeviceFrame.calls, List.append_assoc,
            syncedBlobs_reports, List.cons_append, List.nil_append, syncedBlobs]
          rw [List.filter_cons_of_pos hl, List.map_cons, List.cons.injEq, hrest []]
          simp [hl]
      | false =>
          have hlate : f.late = [] := htail f (by simp)
          simp only [LossyFrame.calls, hl, Bool.false_eq_true, if_false, hlate,
            List.length_nil, emptySyncs, List.replicate_zero, List.flatten_nil,
            List.append_nil, syncedBlobs_reports]
          rw [List.filter_cons_of_neg (by simp [hl]), hrest (pending ++ f.held)]
          simp only [List.append_eq_nil_iff, List.mem_cons, forall_eq_or_imp, hl, true_and,
            forall_true_left]
          constructor
          · rintro ⟨⟨rfl, hheld⟩ | hnone, hpair⟩
            · exact ⟨Or.inl rfl, fun _ _ _ => hheld, hpair⟩
            · refine ⟨Or.inr hnone, ?_, hpair⟩
              intro g hg hgl
              rw [hnone g hg] at hgl
              cases hgl
          · rintro ⟨hpend | hnone, hheld, hpair⟩
            · refine ⟨?_, hpair⟩
              by_cases hsome : ∃ g ∈ frames, g.lossless
              · obtain ⟨g, hg, hgl⟩ := hsome
                exact Or.inl ⟨hpend, hheld g hg hgl⟩
              · right
                intro g hg
                by_contra hgl
                exact hsome ⟨g, hg, by simpa using hgl⟩
            · exact ⟨Or.inr hnone, hpair⟩

/-- **Exactly the harmless losses stay local.** -/
theorem damagesOnlyItself_iff (s : Sur40State) (hs : s.needBlobs = -1) (start : LateStart)
    (frames : List LossyFrame) :
    DamagesOnlyItself s start frames ↔ Harmless s start frames := by
  obtain ⟨hneed, hstart⟩ := run_start start s hs
  obtain ⟨hpieces, hrun⟩ := callsOfPieces_frames frames (touchRun start.received s) hneed
  -- The three parts of the statement are the three parts of the condition; the third
  -- one needs the second, because late packets sync as well.
  have hstartLost : syncCount (newCalls start.received s) = 0 ↔
      ∀ t ∈ start.received, touchLost t.completion := by
    rw [newCalls_eq hstart, syncCount_emptySyncs, List.length_eq_zero_iff,
      List.filter_eq_nil_iff]
    refine forall₂_congr fun t ht => ?_
    rw [touchGood_eq_of_mem start.arrives t ht]
    simp
  have hsync : List.Forall₂ (fun f calls => syncCount calls = if f.lossless then 1 else 0) frames
      (callsOfPieces (frames.map LossyFrame.received) (touchRun start.received s)) ↔
      ∀ f ∈ frames, f.late = [] := by
    rw [hpieces, List.forall₂_map_right_iff, List.forall₂_same]
    refine forall₂_congr fun f _ => ?_
    rw [f.syncCount_calls]
    cases hl : f.lossless with
    | true => simp [f.late_of_lossless hl]
    | false => simp
  have hcontents : (∀ t ∈ start.received, touchLost t.completion) → (∀ f ∈ frames, f.late = []) →
      (syncedBlobs (pendingBlobs s.input.calls)
          (newCalls (start.received ++ frames.flatMap LossyFrame.received) s) =
        (frames.filter LossyFrame.lossless).map (fun f => f.frame.blobs) ↔
      (pendingBlobs s.input.calls = [] ∨ ∀ f ∈ frames, f.lossless = false) ∧
        frames.Pairwise fun f g => f.lossless = false → g.lossless → f.held = []) := by
    intro hlost hlate
    have hnone :
        emptySyncs (start.received.filter fun t => touchGood t.completion).length = [] := by
      have h0 := hstartLost.mpr hlost
      rw [newCalls_eq hstart, syncCount_emptySyncs] at h0
      rw [h0]
      rfl
    rw [hstart, hnone, List.append_nil, ← touchRun_append] at hrun
    rw [newCalls_eq hrun]
    exact syncedBlobs_frames frames _ hlate
  constructor
  · rintro ⟨h1, h2, h3⟩
    have hlost := hstartLost.mp h1
    have hlate := hsync.mp h2
    obtain ⟨hfresh, hheld⟩ := (hcontents hlost hlate).mp h3
    exact ⟨hlost, hlate, hfresh, hheld⟩
  · rintro ⟨hlost, hlate, hfresh, hheld⟩
    exact ⟨hstartLost.mpr hlost, hsync.mpr hlate, (hcontents hlost hlate).mpr ⟨hfresh, hheld⟩⟩

/-! ## Concrete streams -/

/-- A protocol error on the bus. -/
def failedTransfer : TouchTransfer :=
  { urb := firstTouchUrb, completion := { status := -71, data := [] }, err := 0 }

@[simp] theorem failedTransfer_lost : touchGood failedTransfer.completion = false := rfl

/-- The pipeline is started between two frames. -/
def startBetweenFrames : LateStart where
  frame := fiveFingers
  missed := fiveFingers.packets
  tail := []
  split := by simp
  missed_ne_nil := by simp [DeviceFrame.packets]
  received := []
  arrives := .nil

/-- Both packets are lost. -/
def allLost : LossyFrame where
  frame := fiveFingers
  received := [failedTransfer, failedTransfer]
  arrives := .cons (.inr rfl) (.cons (.inr rfl) .nil)

/-- Both packets arrive. -/
def allReceived : LossyFrame where
  frame := fiveFingers
  received := deliver fiveFingers.packets
  arrives := .cons (.inl rfl) (.cons (.inl rfl) .nil)

/-- The first packet is lost, the second one arrives. -/
def firstLost : LossyFrame where
  frame := fiveFingers
  received := [failedTransfer,
    { urb := ⟨1, by decide⟩
      completion := (touchPacket 0 [finger 5, finger 0, finger 0, finger 0]).completion
      err := 0 }]
  arrives := .cons (.inr rfl) (.cons (.inl rfl) .nil)

/-- A frame lost as a whole leaves the next one alone. -/
theorem damagesOnlyItself_allLost :
    DamagesOnlyItself armed startBetweenFrames [allLost, allReceived] :=
  (damagesOnlyItself_iff armed rfl startBetweenFrames [allLost, allReceived]).mpr
    { start_lost := by simp [startBetweenFrames]
      tail_lost := by
        intro f hf
        simp only [List.mem_cons, List.not_mem_nil, or_false] at hf
        rcases hf with rfl | rfl
        · simp [LossyFrame.late, allLost]
        · exact allReceived.late_of_lossless (by simp [LossyFrame.lossless, allReceived, deliver])
      fresh := .inl rfl
      nothing_held := .cons (fun _ _ _ _ => rfl) (.cons (by simp) .nil) }

/-- A frame whose first packet is lost and whose second one arrives is synced, with
none of its blobs: every contact is released. -/
theorem not_damagesOnlyItself_firstLost :
    ¬ DamagesOnlyItself armed startBetweenFrames [firstLost] := by
  intro h
  have hsync := h.one_sync
  rw [(callsOfPieces_frames [firstLost] (touchRun startBetweenFrames.received armed) rfl).1,
    List.map_cons, List.map_nil, List.forall₂_cons] at hsync
  have hcount := hsync.1
  rw [LossyFrame.syncCount_calls] at hcount
  have hlate : firstLost.late.length = 1 := by simp [LossyFrame.late, firstLost]
  have hlossy : firstLost.lossless = false := by simp [LossyFrame.lossless, firstLost]
  rw [hlossy, hlate] at hcount
  cases hcount

end Sur40
