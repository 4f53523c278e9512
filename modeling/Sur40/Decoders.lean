import Sur40.TouchStream
import Sur40.Surface
import Mathlib.Data.List.Forall2

/-!
# The two touch decoders agree

The kernel counts the blobs of a frame down, the userspace library counts them up
and copies padding as well. Fed with the same packets, whatever these contain, the
two recognise the same frames and find the same blobs in them.

## Main definitions

* `PacketVerdict`: what a decoder makes of a packet.
* `touchVerdicts`, `touchFrames`: the kernel's verdicts and frames.
* `surfaceVerdicts`: those of repeated `surface_get_blobs` calls.
* `Coupled`: the two decoders in the middle of a frame.
-/

namespace Sur40

open Devlib

/-! ## What is compared -/

/-- What a decoder makes of a packet: the frame goes on, the frame is complete, or
the packet has an impossible length. -/
inductive PacketVerdict where
  | more
  | complete
  | rejected
  deriving DecidableEq

/-- The kernel completes a frame where it syncs, and rejects a packet where it waits for
a new frame without having synced. -/
def touchVerdict (t : TouchTransfer) (s : Sur40State) : PacketVerdict :=
  if .sync ∈ newCalls [t] s then .complete
  else if (touchRun [t] s).needBlobs = -1 then .rejected
  else .more

def touchVerdicts : List TouchTransfer → Sur40State → List PacketVerdict
  | [], _ => []
  | t :: ts, s => touchVerdict t s :: touchVerdicts ts (touchRun [t] s)

/-- The blobs handed to `sur40_report_blob`. -/
def reportedBlobs (calls : List InputCall) : List Sur40Blob :=
  calls.filterMap fun call => match call with
    | .reportBlob b => some b
    | .mtSyncFrame => none
    | .sync => none

/-- The blobs of each frame that the kernel completes; `pending` are those of the
frame under way. -/
def touchFrames (pending : List Sur40Blob) :
    List TouchTransfer → Sur40State → List (List Sur40Blob)
  | [], _ => []
  | t :: ts, s =>
      let blobs := pending ++ reportedBlobs (newCalls [t] s)
      match touchVerdict t s with
      | .more => touchFrames blobs ts (touchRun [t] s)
      | .complete => blobs :: touchFrames [] ts (touchRun [t] s)
      | .rejected => touchFrames [] ts (touchRun [t] s)

/-- The same packet, delivered to userspace. -/
def TouchTransfer.bulk (t : TouchTransfer) : BulkTransfer :=
  { ret := 0, transferred := some t.completion.data.length, data := t.completion.data }

/-- A call of `surface_get_blobs` completes a frame if it returns a count. -/
def GetBlobsResult.verdict (r : GetBlobsResult) : PacketVerdict :=
  if r.value < 0 then .rejected else .complete

/-- The verdicts of a sequence of calls on `n` packets. -/
def surfaceVerdicts : ℕ → List GetBlobsResult → List PacketVerdict
  | n, [] => List.replicate n .more
  | n, r :: rs =>
      List.replicate (n - 1 - r.rest.length) .more ++
        r.verdict :: surfaceVerdicts r.rest.length rs

/-- The count that a call returns, and that many entries of its output array, are
the kernel's frame, up to the rewritten actions. -/
def GetBlobsResult.IsFrame (r : GetBlobsResult) (blobs : List Sur40Blob) : Prop :=
  r.value = blobs.length ∧
    List.Forall₂ SurfaceBlob.SameExceptAction (r.outblob.take r.value.toNat) blobs

/-! ## One packet in userspace -/

theorem toInt32_of_small {x : ℤ} (h : -512 ≤ x) (h' : x ≤ 512) : toInt32 x = x := by
  rw [toInt32, Int.bmod_def]
  split_ifs <;> omega

theorem drop_storeBytes {offset k : ℕ} {bytes buffer : List UInt8}
    (hoff : offset ≤ buffer.length) (hk : offset + bytes.length ≤ k) :
    (storeBytes offset bytes buffer).drop k = buffer.drop k := by
  have hpre : (buffer.take offset ++ bytes).length = offset + bytes.length := by
    rw [List.length_append, List.length_take, Nat.min_eq_left hoff]
  obtain ⟨d, rfl⟩ := Nat.exists_eq_add_of_le hk
  rw [storeBytes, ← hpre, ← List.drop_drop, List.drop_left, hpre, List.drop_drop]

/-- A received packet is the start of the buffer. -/
theorem storeBytes_zero (bytes buffer : List UInt8) :
    storeBytes 0 bytes buffer = bytes ++ buffer.drop bytes.length := by
  simp [storeBytes]

/-- The copy loop appends the first `k` blobs of the buffer, some of them with a
rewritten action. -/
theorem foldl_surfaceCopyBlob (k : ℕ) (g : GetBlobs) (hk : 16 + 64 * k ≤ g.buffer.length) :
    ∃ blobs, ((List.range k).foldl surfaceCopyBlob g).outblob = g.outblob ++ blobs ∧
      List.Forall₂ SurfaceBlob.SameExceptAction blobs
        ((List.range k).map (touchBlob g.buffer)) ∧
      ((List.range k).foldl surfaceCopyBlob g).needBlobs = g.needBlobs ∧
      ((List.range k).foldl surfaceCopyBlob g).buffer.length = g.buffer.length ∧
      ((List.range k).foldl surfaceCopyBlob g).buffer.drop (16 + 64 * k) =
        g.buffer.drop (16 + 64 * k) := by
  induction k with
  | zero => exact ⟨[], by simp⟩
  | succ k ih =>
      obtain ⟨blobs, hout, hsame, hneed, hlen, hdrop⟩ := ih (by omega)
      rw [List.range_succ, List.foldl_append, List.foldl_cons, List.foldl_nil]
      generalize (List.range k).foldl surfaceCopyBlob g = g' at hout hneed hlen hdrop ⊢
      -- blob `k` is read before anything at or behind it has been rewritten
      have hread : surfaceInblob g'.buffer k = SurfaceBlob.layout.block (g.buffer.drop 16) k := by
        simp only [surfaceInblob, Codec.block]
        rw [List.drop_drop, List.drop_drop]
        exact congrArg SurfaceBlob.layout.decode hdrop
      have hblob : (surfaceInblob g'.buffer k).SameExceptAction (touchBlob g.buffer k) := by
        rw [hread]
        exact SurfaceBlob.decode_sameExceptAction _
      have hnext : g'.buffer.drop (16 + 64 * (k + 1)) = g.buffer.drop (16 + 64 * (k + 1)) := by
        have := congrArg (List.drop 64) hdrop
        rw [List.drop_drop, List.drop_drop] at this
        exact this
      simp only [surfaceCopyBlob]
      split_ifs with henters
      · refine ⟨blobs ++ [{ surfaceInblob g'.buffer k with action := 1 }], ?_, ?_, hneed, ?_, ?_⟩
        · rw [hout, List.append_assoc]
        · rw [List.map_append]
          exact List.rel_append hsame (.cons (by rw [SurfaceBlob.SameExceptAction, hblob]) .nil)
        · simp only [storeBytes, List.length_append, List.length_take, List.length_drop,
            Codec.length_encode, SurfaceBlob.layout_size, SurfaceHeader.layout_size, hlen]
          omega
        · rw [drop_storeBytes (by simp; omega) (by simp; omega)]
          exact hnext
      · refine ⟨blobs ++ [surfaceInblob g'.buffer k], ?_, ?_, hneed, hlen, hnext⟩
        · rw [hout, List.append_assoc]
        · rw [List.map_append]
          exact List.rel_append hsame (.cons hblob .nil)

/-- A packet of impossible length ends the call with an error. -/
theorem surfaceGetBlobsTurn_rejected {t : TouchTransfer} (hlen : t.completion.data.length ≤ 512)
    (hsize : touchSizeMismatch t.completion.actualLength) (g : GetBlobs) :
    ∃ g' value, surfaceGetBlobsTurn t.bulk g = (g', some value) ∧ value < 0 := by
  have hres : toInt32 ((t.completion.data.length : ℤ) - SurfaceHeader.layout.size) =
      (t.completion.data.length : ℤ) - 16 :=
    toInt32_of_small (by simp; omega) (by simp; omega)
  rw [touchSizeMismatch_eq_true, Completion.actualLength] at hsize
  rw [surfaceGetBlobsTurn]
  simp only [TouchTransfer.bulk, hres, SurfaceBlob.layout_size]
  by_cases hshort : (t.completion.data.length : ℤ) - 16 < 0
  · rw [if_pos hshort]
    exact ⟨_, _, rfl, hshort⟩
  · rw [if_neg hshort, if_pos (by omega)]
    exact ⟨_, _, rfl, by omega⟩

/-- A packet of plausible length: all its blobs are copied, and the call returns if
the announced number has been reached. -/
theorem surfaceGetBlobsTurn_accepted {t : TouchTransfer} (hlen : t.completion.data.length ≤ 512)
    (hsize : touchSizeMismatch t.completion.actualLength = false) (g : GetBlobs) {need : ℤ}
    (hneed : need = if g.needBlobs = -1 then
      ((Sur40Header.layout.decode t.completion.data).count.toNat : ℤ) else g.needBlobs) :
    ∃ g' blobs, surfaceGetBlobsTurn t.bulk g =
        (g', if (g'.outblob.length : ℤ) < need then none else some need) ∧
      g'.needBlobs = need ∧ g'.outblob = g.outblob ++ blobs ∧
      List.Forall₂ SurfaceBlob.SameExceptAction blobs (touchBlobs t.completion.data) := by
  have hres : toInt32 ((t.completion.data.length : ℤ) - SurfaceHeader.layout.size) =
      (t.completion.data.length : ℤ) - 16 :=
    toInt32_of_small (by simp; omega) (by simp; omega)
  rw [touchSizeMismatch_eq_false, Completion.actualLength] at hsize
  have hcount : surfaceCount (t.completion.data ++ g.buffer.drop t.completion.data.length) =
      (Sur40Header.layout.decode t.completion.data).count := by
    rw [surfaceCount, SurfaceHeader.decode_count,
      Sur40Header.layout.decode_append _ _ (by simp; omega)]
  have hblobs : (((t.completion.data.length : ℤ) - 16) / ((64 : ℕ) : ℤ)).toNat =
      touchPacketBlobs t.completion.data.length := by
    simp only [touchPacketBlobs, Sur40Header.layout_size, Sur40Blob.layout_size]
    omega
  have hfit : 16 + 64 * touchPacketBlobs t.completion.data.length ≤ t.completion.data.length := by
    simp only [touchPacketBlobs, Sur40Header.layout_size, Sur40Blob.layout_size]
    omega
  have hread : (List.range (touchPacketBlobs t.completion.data.length)).map
      (touchBlob (t.completion.data ++ g.buffer.drop t.completion.data.length)) =
      touchBlobs t.completion.data := by
    refine List.map_congr_left fun i hi => ?_
    have hi' := List.mem_range.mp hi
    rw [touchBlob, List.drop_append_of_le_length (by simp; omega),
      Codec.block_append _ _ _ _ (by simp; omega)]
    rfl
  rw [surfaceGetBlobsTurn]
  simp only [TouchTransfer.bulk, hres, SurfaceBlob.layout_size, storeBytes_zero, hcount, hblobs,
    ← hneed]
  rw [if_neg (by omega), if_neg (by omega)]
  obtain ⟨blobs, hout, hsame, hneed', -, -⟩ := foldl_surfaceCopyBlob
    (touchPacketBlobs t.completion.data.length)
    { g with
      buffer := t.completion.data ++ g.buffer.drop t.completion.data.length
      result := (t.completion.data.length : ℤ) - 16
      needBlobs := need } (by simp; omega)
  refine ⟨_, blobs, ?_, hneed', hout, ?_⟩
  rotate_left
  · rw [← hread]
    exact hsame
  · rw [hneed']
    exact apply_ite (Prod.mk _) _ _ _ |>.symm

/-! ## One packet in the kernel -/

theorem decoder_touchRun_singleton (t : TouchTransfer) (s : Sur40State) :
    (touchRun [t] s).decoder = s.decoder.receive t.completion :=
  decoder_touchGiveback t.urb t.completion t.err s

@[simp] theorem reportedBlobs_append (cs cs' : List InputCall) :
    reportedBlobs (cs ++ cs') = reportedBlobs cs ++ reportedBlobs cs' :=
  List.filterMap_append

@[simp] theorem reportedBlobs_map (blobs : List Sur40Blob) :
    reportedBlobs (blobs.map .reportBlob) = blobs := by
  rw [reportedBlobs, List.filterMap_map]
  exact List.filterMap_some

theorem touchGood_of_accepted {c : Completion} (hstatus : c.status = 0)
    (hsize : touchSizeMismatch c.actualLength = false) : touchGood c := by
  simp [touchGood, hstatus, hsize]

theorem sur40UrbDead_zero : sur40UrbDead 0 = false := rfl

/-- The kernel drops a packet of impossible length, and with it the frame. -/
theorem touchRun_rejected {t : TouchTransfer} (hstatus : t.completion.status = 0)
    (hsize : touchSizeMismatch t.completion.actualLength) (s : Sur40State) :
    touchVerdict t s = .rejected ∧ (touchRun [t] s).needBlobs = -1 ∧ newCalls [t] s = [] := by
  have hdec := decoder_touchRun_singleton t s
  rw [TouchDecoder.receive, hstatus, sur40UrbDead_zero, if_neg Bool.false_ne_true,
    if_pos (by simp [touchGood, hsize])] at hdec
  have hneed : (touchRun [t] s).needBlobs = -1 := congrArg TouchDecoder.needBlobs hdec
  have hcalls : newCalls [t] s = [] := by
    apply newCalls_eq
    rw [List.append_nil]
    exact congrArg (fun d => d.input.calls) hdec
  refine ⟨?_, hneed, hcalls⟩
  rw [touchVerdict, if_neg (by simp [hcalls]), if_pos hneed]

/-- A packet that completes the frame. -/
theorem touchRun_last {t : TouchTransfer} (hstatus : t.completion.status = 0)
    (hsize : touchSizeMismatch t.completion.actualLength = false) (s : Sur40State)
    (hlast : announced s.needBlobs t.completion.data ≤
      touchPacketBlobs t.completion.data.length) :
    touchVerdict t s = .complete ∧ (touchRun [t] s).needBlobs = -1 ∧
      reportedBlobs (newCalls [t] s) =
        (touchBlobs t.completion.data).take (announced s.needBlobs t.completion.data) := by
  have hdec := decoder_touchRun_singleton t s
  rw [TouchDecoder.receive, hstatus, sur40UrbDead_zero, if_neg Bool.false_ne_true,
    if_neg (by simp [touchGood_of_accepted hstatus hsize]), decoder_needBlobs, if_pos hlast] at hdec
  have hcalls : newCalls [t] s = ((touchBlobs t.completion.data).take
      (announced s.needBlobs t.completion.data)).map .reportBlob ++ [.mtSyncFrame, .sync] := by
    refine newCalls_eq ?_
    have := congrArg (fun d => d.input.calls) hdec
    simpa using this
  refine ⟨?_, congrArg TouchDecoder.needBlobs hdec, ?_⟩
  · rw [touchVerdict, if_pos (by simp [hcalls])]
  · rw [hcalls, reportedBlobs_append, reportedBlobs_map]
    exact List.append_nil _

/-- A packet in the middle of the frame. -/
theorem touchRun_more {t : TouchTransfer} (hstatus : t.completion.status = 0)
    (hsize : touchSizeMismatch t.completion.actualLength = false) (s : Sur40State)
    (hmore : touchPacketBlobs t.completion.data.length <
      announced s.needBlobs t.completion.data) :
    touchVerdict t s = .more ∧
      (touchRun [t] s).needBlobs =
        (announced s.needBlobs t.completion.data : ℤ) -
          touchPacketBlobs t.completion.data.length ∧
      reportedBlobs (newCalls [t] s) = touchBlobs t.completion.data := by
  have hdec := decoder_touchRun_singleton t s
  rw [TouchDecoder.receive, hstatus, sur40UrbDead_zero, if_neg Bool.false_ne_true,
    if_neg (by simp [touchGood_of_accepted hstatus hsize]), decoder_needBlobs,
    if_neg (not_le.mpr hmore)] at hdec
  have hcalls : newCalls [t] s = (touchBlobs t.completion.data).map .reportBlob := by
    refine newCalls_eq ?_
    have := congrArg (fun d => d.input.calls) hdec
    simpa using this
  have hneed : (touchRun [t] s).needBlobs = (announced s.needBlobs t.completion.data : ℤ) -
      touchPacketBlobs t.completion.data.length := congrArg TouchDecoder.needBlobs hdec
  refine ⟨?_, hneed, ?_⟩
  · rw [touchVerdict, if_neg (by simp [hcalls]), if_neg (by omega)]
  · rw [hcalls, reportedBlobs_map]

/-- The packets that the kernel rejects are those of impossible length. -/
theorem touchVerdict_rejected_iff {t : TouchTransfer} (hstatus : t.completion.status = 0)
    (s : Sur40State) :
    touchVerdict t s = .rejected ↔ touchSizeMismatch t.completion.actualLength := by
  cases hsize : touchSizeMismatch t.completion.actualLength with
  | true => simp [(touchRun_rejected hstatus hsize s).1]
  | false =>
      by_cases hlast : announced s.needBlobs t.completion.data ≤
          touchPacketBlobs t.completion.data.length
      · simp [(touchRun_last hstatus hsize s hlast).1]
      · simp [(touchRun_more hstatus hsize s (not_le.mp hlast)).1]

/-! ## The simulation -/

/-- The two decoders in the middle of a frame: either both wait for a first packet,
or what userspace needs in all is what the kernel still needs and what has been
copied so far. -/
structure Coupled (g : GetBlobs) (needBlobs : ℤ) (pending : List Sur40Blob) : Prop where
  same : List.Forall₂ SurfaceBlob.SameExceptAction g.outblob pending
  need : (g.needBlobs = -1 ∧ needBlobs = -1 ∧ g.outblob = []) ∨
    (0 < needBlobs ∧ g.needBlobs = needBlobs + g.outblob.length)

theorem Coupled.enter (l : GetBlobsLocals) (maxBlobId : UInt16) :
    Coupled (l.enter maxBlobId) (-1) [] :=
  ⟨.nil, .inl ⟨rfl, rfl, rfl⟩⟩

/-- The countdown and the total agree when a packet arrives. -/
theorem Coupled.announced_eq {g : GetBlobs} {needBlobs : ℤ} {pending : List Sur40Blob}
    (h : Coupled g needBlobs pending) (data : List UInt8) :
    ((announced needBlobs data + g.outblob.length : ℕ) : ℤ) =
      if g.needBlobs = -1 then ((Sur40Header.layout.decode data).count.toNat : ℤ)
      else g.needBlobs := by
  rw [announced]
  rcases h.need with ⟨hg, hk, hout⟩ | ⟨hpos, hg⟩
  · rw [hg, hk, hout]
    simp
  · rw [if_neg (by omega), if_neg (by omega)]
    omega

/-- A packet in the middle of a frame keeps the decoders together. -/
theorem Coupled.more {t : TouchTransfer} (hlen : t.completion.data.length ≤ 512)
    (hsize : touchSizeMismatch t.completion.actualLength = false) {g : GetBlobs}
    {needBlobs : ℤ} {pending : List Sur40Blob} (h : Coupled g needBlobs pending)
    (hmore : touchPacketBlobs t.completion.data.length <
      announced needBlobs t.completion.data) :
    ∃ g', surfaceGetBlobsTurn t.bulk g = (g', none) ∧
      Coupled g' ((announced needBlobs t.completion.data : ℤ) -
        touchPacketBlobs t.completion.data.length) (pending ++ touchBlobs t.completion.data) := by
  obtain ⟨g', blobs, hturn, hneed, hout, hsame⟩ :=
    surfaceGetBlobsTurn_accepted hlen hsize g (h.announced_eq t.completion.data)
  have hcount : blobs.length = touchPacketBlobs t.completion.data.length := by
    rw [hsame.length_eq, touchBlobs, List.length_map, List.length_range]
  have hlength : g'.outblob.length = g.outblob.length + blobs.length := by
    rw [hout, List.length_append]
  rw [if_pos (by omega)] at hturn
  refine ⟨g', hturn, ?_, .inr ⟨by omega, by omega⟩⟩
  rw [hout]
  exact List.rel_append h.same hsame

/-- Both decoders complete a frame with the same packet, and it holds the same
blobs. -/
theorem Coupled.last {t : TouchTransfer} (hlen : t.completion.data.length ≤ 512)
    (hsize : touchSizeMismatch t.completion.actualLength = false) {g : GetBlobs}
    {needBlobs : ℤ} {pending : List Sur40Blob} (h : Coupled g needBlobs pending)
    (hlast : announced needBlobs t.completion.data ≤
      touchPacketBlobs t.completion.data.length) (rest : List BulkTransfer) :
    ∃ g' value, surfaceGetBlobsTurn t.bulk g = (g', some value) ∧ 0 ≤ value ∧
      GetBlobsResult.IsFrame ⟨value, g'.outblob, g'.maxBlobId, rest⟩
        (pending ++ (touchBlobs t.completion.data).take
          (announced needBlobs t.completion.data)) := by
  obtain ⟨g', blobs, hturn, -, hout, hsame⟩ :=
    surfaceGetBlobsTurn_accepted hlen hsize g (h.announced_eq t.completion.data)
  have hcount : (touchBlobs t.completion.data).length =
      touchPacketBlobs t.completion.data.length := by
    rw [touchBlobs, List.length_map, List.length_range]
  have hlength : g'.outblob.length = g.outblob.length + blobs.length := by
    rw [hout, List.length_append]
  have hblobs := hsame.length_eq
  have hpending := h.same.length_eq
  rw [if_neg (by omega)] at hturn
  refine ⟨g', _, hturn, Int.natCast_nonneg _, ?_, ?_⟩
  · rw [List.length_append, List.length_take, Nat.min_eq_left (by omega), hpending,
      Nat.add_comm]
  · rw [Int.toNat_natCast, hout, List.take_append, List.take_of_length_le (by omega),
      Nat.add_sub_cancel]
    exact List.rel_append h.same (List.forall₂_take _ hsame)

/-! ## Whole calls -/

/-- A packet as it is delivered to both sides. -/
def TouchTransfer.Delivered (t : TouchTransfer) : Prop :=
  t.completion.status = 0 ∧ t.completion.data.length ≤ 512

/-- A call returned `r` after some of the packets `ts`, and up to there the kernel,
which then is in state `s'` and has the packets `us` left, came to the same verdicts
and found the same frame. -/
structure Returned (pending : List Sur40Blob) (ts : List TouchTransfer) (s : Sur40State)
    (r : GetBlobsResult) (us : List TouchTransfer) (s' : Sur40State) : Prop where
  rest_eq : r.rest = us.map TouchTransfer.bulk
  suffix : us <:+ ts
  fresh : s'.needBlobs = -1
  verdicts : touchVerdicts ts s =
    List.replicate (ts.length - 1 - us.length) .more ++ r.verdict :: touchVerdicts us s'
  frames : if 0 ≤ r.value then
      ∃ blobs, r.IsFrame blobs ∧ touchFrames pending ts s = blobs :: touchFrames [] us s'
    else touchFrames pending ts s = touchFrames [] us s'

/-- The packet before those of a call that returned was taken in by both sides. -/
theorem Returned.cons {pending blobs : List Sur40Blob} {t : TouchTransfer}
    {ts us : List TouchTransfer} {s s' : Sur40State} {r : GetBlobsResult}
    (h : Returned blobs ts (touchRun [t] s) r us s') (hlen : us.length < ts.length)
    (hverdict : touchVerdict t s = .more)
    (hblobs : blobs = pending ++ reportedBlobs (newCalls [t] s)) :
    Returned pending (t :: ts) s r us s' where
  rest_eq := h.rest_eq
  suffix := h.suffix.trans (List.suffix_cons t ts)
  fresh := h.fresh
  verdicts := by
    have hcount : (t :: ts).length - 1 - us.length = ts.length - 1 - us.length + 1 := by
      rw [List.length_cons]
      omega
    rw [touchVerdicts, hverdict, h.verdicts, hcount, List.replicate_succ, List.cons_append]
  frames := by
    have hframes : touchFrames pending (t :: ts) s = touchFrames blobs ts (touchRun [t] s) := by
      rw [touchFrames, hverdict, hblobs]
    rw [hframes]
    exact h.frames

/-- One call of `surface_get_blobs` against the kernel, by induction on the packets;
`Coupled` is the invariant. -/
theorem surfaceGetBlobsLoop_agrees (ts : List TouchTransfer) (hts : ∀ t ∈ ts, t.Delivered)
    (g : GetBlobs) (s : Sur40State) (pending : List Sur40Blob)
    (h : Coupled g s.needBlobs pending) :
    (surfaceGetBlobsLoop (ts.map TouchTransfer.bulk) g = none ∧
      touchVerdicts ts s = List.replicate ts.length .more ∧ touchFrames pending ts s = []) ∨
    ∃ r us s', surfaceGetBlobsLoop (ts.map TouchTransfer.bulk) g = some r ∧
      us.length < ts.length ∧ Returned pending ts s r us s' := by
  induction ts generalizing g s pending with
  | nil => exact .inl ⟨rfl, rfl, rfl⟩
  | cons t ts ih =>
      obtain ⟨hstatus, hlen⟩ := hts t List.mem_cons_self
      rw [List.map_cons, surfaceGetBlobsLoop]
      cases hsize : touchSizeMismatch t.completion.actualLength with
      | true =>
          obtain ⟨hverdict, hfresh, -⟩ := touchRun_rejected hstatus hsize s
          obtain ⟨g', value, hturn, hneg⟩ := surfaceGetBlobsTurn_rejected hlen hsize g
          rw [hturn]
          refine .inr ⟨_, ts, touchRun [t] s, rfl, Nat.lt_succ_self _, rfl,
            List.suffix_cons t ts, hfresh, ?_, ?_⟩
          · simp [touchVerdicts, hverdict, GetBlobsResult.verdict, hneg]
          · rw [if_neg (not_le.mpr hneg), touchFrames, hverdict]
      | false =>
          by_cases hlast : announced s.needBlobs t.completion.data ≤
              touchPacketBlobs t.completion.data.length
          · obtain ⟨hverdict, hfresh, hblobs⟩ := touchRun_last hstatus hsize s hlast
            obtain ⟨g', value, hturn, hnonneg, hframe⟩ :=
              h.last hlen hsize hlast (ts.map TouchTransfer.bulk)
            rw [hturn]
            refine .inr ⟨_, ts, touchRun [t] s, rfl, Nat.lt_succ_self _, rfl,
              List.suffix_cons t ts, hfresh, ?_, ?_⟩
            · simp [touchVerdicts, hverdict, GetBlobsResult.verdict, not_lt.mpr hnonneg]
            · rw [if_pos hnonneg, touchFrames, hverdict, hblobs]
              exact ⟨_, hframe, rfl⟩
          · obtain ⟨hverdict, hneed, hblobs⟩ :=
              touchRun_more hstatus hsize s (not_le.mp hlast)
            obtain ⟨g', hturn, hcoupled⟩ := h.more hlen hsize (not_le.mp hlast)
            rw [← hneed, ← hblobs] at hcoupled
            rw [hturn]
            rcases ih (fun u hu => hts u (List.mem_cons_of_mem t hu)) g' _ _ hcoupled with
              ⟨hnone, hverdicts, hframes⟩ | ⟨r, us, s', hsome, hlt, hret⟩
            · refine .inl ⟨hnone, ?_, ?_⟩
              · rw [touchVerdicts, hverdict, hverdicts, List.length_cons, List.replicate_succ]
              · rw [touchFrames, hverdict]
                exact hframes
            · exact .inr ⟨r, us, s', hsome, Nat.lt_succ_of_lt hlt, hret.cons hlt hverdict rfl⟩

/-- Sequences of calls, by induction on the number of packets. -/
theorem surfaceCalls_agree (ts : List TouchTransfer) (hts : ∀ t ∈ ts, t.Delivered)
    (s : Sur40State) (hs : s.needBlobs = -1) (locals : ℕ → GetBlobsLocals)
    (maxBlobId : UInt16) :
    let calls := surfaceCalls locals (ts.map TouchTransfer.bulk) maxBlobId
    touchVerdicts ts s = surfaceVerdicts ts.length calls ∧
      List.Forall₂ GetBlobsResult.IsFrame (calls.filter fun r => 0 ≤ r.value)
        (touchFrames [] ts s) := by
  induction hn : ts.length using Nat.strong_induction_on generalizing ts s locals maxBlobId with
  | _ n ih =>
      have hcoupled : Coupled ((locals 0).enter maxBlobId) s.needBlobs [] := by
        rw [hs]
        exact .enter (locals 0) maxBlobId
      subst hn
      dsimp only at ih ⊢
      rcases surfaceGetBlobsLoop_agrees ts hts _ s [] hcoupled with
        ⟨hnone, hverdicts, hframes⟩ | ⟨r, us, s', hsome, hlt, hret⟩
      · rw [surfaceCalls_of_none hnone, hframes]
        exact ⟨hverdicts, .nil⟩
      · have hmem : ∀ u ∈ us, u.Delivered := fun u hu => hts u (hret.suffix.subset hu)
        obtain ⟨hverdicts, hframes⟩ := ih us.length hlt us hmem s' hret.fresh
          (fun k => locals (k + 1)) r.maxBlobId rfl
        rw [surfaceCalls_of_some hsome, surfaceVerdicts, hret.rest_eq, List.length_map]
        refine ⟨by rw [hret.verdicts, hverdicts], ?_⟩
        have hframe := hret.frames
        split_ifs at hframe with hvalue
        · obtain ⟨blobs, hblobs, hfirst⟩ := hframe
          rw [hfirst, List.filter_cons_of_pos (by simpa using hvalue)]
          exact .cons hblobs hframes
        · rw [hframe, List.filter_cons_of_neg (by simpa using hvalue)]
          exact hframes

/-- **Kernel and userspace decode alike.** Whatever packets arrive, both complete a
frame with the same packets and reject the same packets, and a completed frame holds
the same blobs, up to the action that the library rewrites. The rejected packets are
those of impossible length, and the kernel neither reports nor syncs anything there. -/
theorem decoders_agree (ts : List TouchTransfer) (hts : ∀ t ∈ ts, t.Delivered)
    (s : Sur40State) (hs : s.needBlobs = -1) (locals : ℕ → GetBlobsLocals)
    (maxBlobId : UInt16) :
    let calls := surfaceCalls locals (ts.map TouchTransfer.bulk) maxBlobId
    touchVerdicts ts s = surfaceVerdicts ts.length calls ∧
      List.Forall₂ GetBlobsResult.IsFrame (calls.filter fun r => 0 ≤ r.value)
        (touchFrames [] ts s) ∧
      ∀ pre t post, ts = pre ++ t :: post →
        (touchVerdict t (touchRun pre s) = .rejected ↔
          touchSizeMismatch t.completion.actualLength) ∧
        (touchSizeMismatch t.completion.actualLength → newCalls [t] (touchRun pre s) = []) := by
  obtain ⟨hverdicts, hframes⟩ := surfaceCalls_agree ts hts s hs locals maxBlobId
  refine ⟨hverdicts, hframes, ?_⟩
  intro pre t post hsplit
  have hstatus : t.completion.status = 0 := (hts t (by simp [hsplit])).1
  refine ⟨touchVerdict_rejected_iff hstatus _, ?_⟩
  intro hsize
  exact (touchRun_rejected hstatus hsize _).2.2

/-- A packet that is too short to hold a header. -/
def shortPacket : TouchTransfer :=
  { urb := firstTouchUrb, completion := { status := 0, data := [1, 0, 5] }, err := 0 }

theorem decoders_agree_fiveFingers :
    touchVerdicts (shortPacket :: deliver fiveFingers.packets) armed =
        surfaceVerdicts 3 (surfaceCalls (fun _ => ⟨[], 0⟩)
          ((shortPacket :: deliver fiveFingers.packets).map TouchTransfer.bulk) 0) ∧
      List.Forall₂ GetBlobsResult.IsFrame
        ((surfaceCalls (fun _ => ⟨[], 0⟩)
          ((shortPacket :: deliver fiveFingers.packets).map TouchTransfer.bulk) 0).filter
            fun r => 0 ≤ r.value)
        (touchFrames [] (shortPacket :: deliver fiveFingers.packets) armed) ∧
      ∀ pre t post, shortPacket :: deliver fiveFingers.packets = pre ++ t :: post →
        (touchVerdict t (touchRun pre armed) = .rejected ↔
          touchSizeMismatch t.completion.actualLength) ∧
        (touchSizeMismatch t.completion.actualLength →
          newCalls [t] (touchRun pre armed) = []) := by
  refine decoders_agree (shortPacket :: deliver fiveFingers.packets) ?_ armed rfl _ 0
  simp [deliver, fiveFingers, DeviceFrame.packets, TouchTransfer.Delivered, shortPacket,
    TouchPacket.completion, touchPacket, TouchPacket.bytes]

end Sur40
