import Sur40.Touch

/-!
# Device frames and their reassembly

The touch endpoint carries frames of up to 65535 blobs, split over packets. The
first packet of a frame announces the number of blobs, the others announce 0, and
the last one may be filled up with padding. The decoder counts the announced
number down across the packets, so it finds the end of the frame without being
told which packet is the last.

## Main definitions

* `TouchPacket`, `DeviceFrame`: what the device sends.
* `DeviceFrame.calls`: what a frame should do to the input device.
* `receive_begun`, `receive_frame`: the decoder inside and at the end of a frame.
* `touchRun_reassembles`: the handler undoes the packetization.
-/

namespace Sur40

open Devlib

/-! ## Packets -/

/-- A packet as the device builds it: a header and whole blobs. -/
structure TouchPacket where
  header : Sur40Header
  blobs : List Sur40Blob
  deriving DecidableEq

def TouchPacket.bytes (p : TouchPacket) : List UInt8 :=
  Sur40Header.layout.encode p.header ++ p.blobs.flatMap Sur40Blob.layout.encode

/-- The packet's transfer, received without an error. -/
def TouchPacket.completion (p : TouchPacket) : Completion := { status := 0, data := p.bytes }

@[simp] theorem TouchPacket.length_bytes (p : TouchPacket) :
    p.bytes.length = 16 + 64 * p.blobs.length := by
  rw [TouchPacket.bytes, List.length_append, Codec.length_encodeAll, Codec.length_encode,
    Sur40Header.layout_size, Sur40Blob.layout_size]

@[simp] theorem TouchPacket.touchPacketBlobs_bytes (p : TouchPacket) :
    touchPacketBlobs (16 + 64 * p.blobs.length) = p.blobs.length := by
  rw [touchPacketBlobs, Sur40Header.layout_size, Sur40Blob.layout_size]
  omega

/-- Parsing a packet gives back the blobs it was built from. -/
@[simp] theorem TouchPacket.touchBlobs_bytes (p : TouchPacket) :
    touchBlobs p.bytes = p.blobs := by
  apply List.ext_getElem
  · simp [touchBlobs]
  · intro i _ hi
    have hdrop : p.bytes.drop Sur40Header.layout.size =
        p.blobs.flatMap Sur40Blob.layout.encode ++ [] := by
      rw [TouchPacket.bytes, ← Codec.length_encode Sur40Header.layout p.header,
        List.drop_left, List.append_nil]
    simp only [touchBlobs, List.getElem_map, List.getElem_range, touchBlob, hdrop]
    exact Codec.decode_block _ _ _ _ hi

@[simp] theorem TouchPacket.decode_header (p : TouchPacket) :
    Sur40Header.layout.decode p.bytes = p.header :=
  Codec.decode_encode_append _ _ _

@[simp] theorem TouchPacket.touchGood_completion (p : TouchPacket) :
    touchGood p.completion = true := by
  simp [touchGood, touchSizeMismatch, TouchPacket.completion, Completion.actualLength]

/-- The packet that completes a frame: `n` blobs are still missing. -/
theorem receive_last {p : TouchPacket} {d : TouchDecoder} {n : ℕ}
    (hn : announced d.needBlobs p.bytes = n) (h : n ≤ p.blobs.length) :
    d.receive p.completion =
      ⟨-1, inputSync (inputMtSyncFrame (reportBlobs (p.blobs.take n) d.input))⟩ := by
  have hgood := p.touchGood_completion
  have hdead : sur40UrbDead p.completion.status = false := rfl
  rw [TouchDecoder.receive, hdead, hgood]
  simp [TouchPacket.completion, hn, h]

/-- A packet inside a frame: more than its blobs are missing. -/
theorem receive_more {p : TouchPacket} {d : TouchDecoder} {n : ℕ}
    (hn : announced d.needBlobs p.bytes = n) (h : p.blobs.length < n) :
    d.receive p.completion = ⟨n - p.blobs.length, reportBlobs p.blobs d.input⟩ := by
  have hgood := p.touchGood_completion
  have hdead : sur40UrbDead p.completion.status = false := rfl
  rw [TouchDecoder.receive, hdead, hgood]
  simp [TouchPacket.completion, hn, not_le.mpr h]

/-! ## Frames -/

/-- A frame of the device, split into packets. -/
structure DeviceFrame where
  blobs : List Sur40Blob
  /-- What fills up the last packet. -/
  padding : List Sur40Blob
  first : TouchPacket
  rest : List TouchPacket
  count_first : first.header.count.toNat = blobs.length
  count_rest : ∀ p ∈ rest, p.header.count = 0
  contents : (first :: rest).flatMap TouchPacket.blobs = blobs ++ padding
  /-- Before the last packet the frame is not complete yet. -/
  unfinished : rest ≠ [] →
    ((first :: rest).dropLast.flatMap TouchPacket.blobs).length < blobs.length

namespace DeviceFrame

def packets (f : DeviceFrame) : List TouchPacket := f.first :: f.rest

/-- The calls a frame should cause: its blobs in order, then one sync. -/
def calls (f : DeviceFrame) : List InputCall :=
  f.blobs.map .reportBlob ++ [.mtSyncFrame, .sync]

theorem length_blobs_lt (f : DeviceFrame) : f.blobs.length < 65536 := by
  rw [← f.count_first]
  exact f.first.header.count.toNat_lt

/-- The packets before the last one hold an initial piece of the frame. -/
theorem length_prefix_lt (f : DeviceFrame) {pre q : List TouchPacket}
    (h : f.packets = pre ++ q) (hpre : pre ≠ []) (hq : q ≠ []) :
    (pre.flatMap TouchPacket.blobs).length < f.blobs.length := by
  have hrest : f.rest ≠ [] := by
    intro hnil
    have hlen := congrArg List.length h
    simp only [packets, hnil, List.length_singleton, List.length_append] at hlen
    have := List.length_pos_of_ne_nil hpre
    have := List.length_pos_of_ne_nil hq
    omega
  have hdrop : (f.first :: f.rest).dropLast = pre ++ q.dropLast := by
    rw [show f.first :: f.rest = pre ++ q from h, List.dropLast_append_of_ne_nil hq]
  have hlt := f.unfinished hrest
  rw [hdrop, List.flatMap_append, List.length_append] at hlt
  omega

theorem prefix_isPrefix (f : DeviceFrame) {pre q : List TouchPacket}
    (h : f.packets = pre ++ q) (hpre : pre ≠ []) (hq : q ≠ []) :
    pre.flatMap TouchPacket.blobs <+: f.blobs := by
  have hall : pre.flatMap TouchPacket.blobs ++ q.flatMap TouchPacket.blobs =
      f.blobs ++ f.padding := by
    rw [← List.flatMap_append, ← h]
    exact f.contents
  exact List.prefix_of_prefix_length_le (List.prefix_append _ _)
    (hall.symm ▸ List.prefix_append _ _) (f.length_prefix_lt h hpre hq).le

/-- A packet of the frame that has another packet before it announces 0. -/
theorem count_of_split (f : DeviceFrame) (pre q : List TouchPacket) {p : TouchPacket}
    (h : f.packets = pre ++ p :: q) (hpre : pre ≠ []) : p.header.count = 0 := by
  cases pre with
  | nil => exact absurd rfl hpre
  | cons a pre =>
      simp only [packets, List.cons_append, List.cons.injEq] at h
      exact f.count_rest p (by rw [h.2]; simp)

end DeviceFrame

/-- The decoder in a run of successfully received packets. -/
def receivePackets (ps : List TouchPacket) (d : TouchDecoder) : TouchDecoder :=
  (ps.map TouchPacket.completion).foldl TouchDecoder.receive d

theorem receivePackets_append (ps qs : List TouchPacket) (d : TouchDecoder) :
    receivePackets (ps ++ qs) d = receivePackets qs (receivePackets ps d) := by
  simp [receivePackets]

/-- **Inside a frame.** After some of a frame's packets, but not all, the decoder
has reported their blobs and waits for the others. -/
theorem receive_begun (f : DeviceFrame) {pre q : List TouchPacket}
    (h : f.packets = pre ++ q) (hpre : pre ≠ []) (hq : q ≠ []) (input : InputDev) :
    receivePackets pre ⟨-1, input⟩ =
      ⟨f.blobs.length - (pre.flatMap TouchPacket.blobs).length,
        reportBlobs (pre.flatMap TouchPacket.blobs) input⟩ := by
  -- Induction on the packets received so far. Only the first one is read with the
  -- sentinel in place, so only its count is looked at.
  induction pre using List.reverseRecOn generalizing q with
  | nil => exact absurd rfl hpre
  | append_singleton pre p ih =>
      have hlt := f.length_prefix_lt h hpre hq
      simp only [List.flatMap_append, List.length_append, List.flatMap_singleton] at hlt ⊢
      by_cases hnil : pre = []
      · subst hnil
        have hp : p = f.first := by
          simp only [DeviceFrame.packets, List.nil_append, List.singleton_append,
            List.cons.injEq] at h
          exact h.1.symm
        have hann : announced (-1) p.bytes = f.blobs.length := by
          rw [hp, announced, if_pos (by omega), TouchPacket.decode_header, f.count_first]
        simp only [List.flatMap_nil, List.length_nil, Nat.zero_add] at hlt
        have := receive_more (d := ⟨-1, input⟩) hann hlt
        simpa [receivePackets] using this
      · have hsplit : f.packets = pre ++ p :: q := by simpa using h
        rw [receivePackets_append, ih hsplit hnil (by simp)]
        have hann : announced (f.blobs.length - (pre.flatMap TouchPacket.blobs).length)
            p.bytes = f.blobs.length - (pre.flatMap TouchPacket.blobs).length := by
          rw [announced, if_neg (by omega)]
          omega
        have := receive_more (d := ⟨f.blobs.length - (pre.flatMap TouchPacket.blobs).length,
          reportBlobs (pre.flatMap TouchPacket.blobs) input⟩) hann (by omega)
        simp only [receivePackets, List.map_cons, List.map_nil, List.foldl_cons,
          List.foldl_nil, this, reportBlobs_append, TouchDecoder.mk.injEq, and_true]
        push_cast
        omega

/-- **A whole frame.** Its last packet completes it, whatever padding it carries. -/
theorem receive_frame (f : DeviceFrame) (input : InputDev) :
    receivePackets f.packets ⟨-1, input⟩ =
      ⟨-1, inputSync (inputMtSyncFrame (reportBlobs f.blobs input))⟩ := by
  obtain ⟨pre, p, hsplit⟩ : ∃ pre p, f.packets = pre ++ [p] :=
    ⟨_, _, (List.dropLast_append_getLast (l := f.packets) (by simp [DeviceFrame.packets])).symm⟩
  have hall : pre.flatMap TouchPacket.blobs ++ p.blobs = f.blobs ++ f.padding := by
    have := f.contents
    rw [show f.first :: f.rest = pre ++ [p] from hsplit] at this
    simpa using this
  rw [hsplit, receivePackets_append]
  by_cases hnil : pre = []
  · subst hnil
    have hp : p = f.first := by
      simp only [DeviceFrame.packets, List.nil_append, List.cons.injEq] at hsplit
      exact hsplit.1.symm
    have hann : announced (-1) p.bytes = f.blobs.length := by
      rw [hp, announced, if_pos (by omega), TouchPacket.decode_header, f.count_first]
    simp only [List.flatMap_nil, List.nil_append] at hall
    have := receive_last (d := ⟨-1, input⟩) hann (by simp [hall])
    simpa [receivePackets, hall] using this
  · have hlt := f.length_prefix_lt hsplit hnil (by simp)
    rw [receive_begun f hsplit hnil (by simp)]
    have hann : announced (f.blobs.length - (pre.flatMap TouchPacket.blobs).length)
        p.bytes = f.blobs.length - (pre.flatMap TouchPacket.blobs).length := by
      rw [announced, if_neg (by omega)]
      omega
    have hlen := congrArg List.length hall
    simp only [List.length_append] at hlen
    have htake : pre.flatMap TouchPacket.blobs ++
        p.blobs.take (f.blobs.length - (pre.flatMap TouchPacket.blobs).length) = f.blobs := by
      have := congrArg (List.take f.blobs.length) hall
      rwa [List.take_append, List.take_of_length_le hlt.le, List.take_left] at this
    have := receive_last (d := ⟨f.blobs.length - (pre.flatMap TouchPacket.blobs).length,
      reportBlobs (pre.flatMap TouchPacket.blobs) input⟩) hann (by omega)
    simp only [receivePackets, List.map_cons, List.map_nil, List.foldl_cons, List.foldl_nil,
      this, ← reportBlobs_append, htake]

/-- What a list of frames does to the input device. -/
def reportFrames (fs : List DeviceFrame) (input : InputDev) : InputDev :=
  fs.foldl (fun input f => inputSync (inputMtSyncFrame (reportBlobs f.blobs input))) input

/-- Frame after frame, the decoder is back at its sentinel. -/
theorem receive_frames (fs : List DeviceFrame) (input : InputDev) :
    receivePackets (fs.flatMap DeviceFrame.packets) ⟨-1, input⟩ =
      ⟨-1, reportFrames fs input⟩ := by
  induction fs generalizing input with
  | nil => rfl
  | cons f fs ih =>
      rw [List.flatMap_cons, receivePackets_append, receive_frame, ih]
      rfl

theorem reportFrames_calls (fs : List DeviceFrame) (input : InputDev) :
    (reportFrames fs input).calls = input.calls ++ fs.flatMap DeviceFrame.calls := by
  induction fs generalizing input with
  | nil => simp [reportFrames]
  | cons f fs ih =>
      have hcons : reportFrames (f :: fs) input =
          reportFrames fs (inputSync (inputMtSyncFrame (reportBlobs f.blobs input))) := rfl
      rw [hcons, ih]
      simp [DeviceFrame.calls, List.append_assoc]

/-! ## The handler -/

/-- The transfers `ts` deliver the packets `ps`, in order and without errors. -/
def Delivers (ts : List TouchTransfer) (ps : List TouchPacket) : Prop :=
  ts.map TouchTransfer.completion = ps.map TouchPacket.completion

theorem Delivers.take {ts : List TouchTransfer} {ps qs : List TouchPacket}
    (h : Delivers ts (ps ++ qs)) : Delivers (ts.take ps.length) ps := by
  have := congrArg (List.take ps.length) h
  rw [← List.map_take, List.map_append, List.take_left' (by simp)] at this
  exact this

theorem decoder_touchRun_of_delivers {ts : List TouchTransfer} {ps : List TouchPacket}
    (h : Delivers ts ps) (s : Sur40State) (hs : s.needBlobs = -1) :
    (touchRun ts s).decoder = receivePackets ps ⟨-1, s.input⟩ := by
  rw [decoder_touchRun, h, ← hs]
  rfl

/-- **The touch handler undoes the device's packetization.** Whichever URBs carry
the packets, the blobs of each frame are reported in order and padding is not,
each frame ends with one sync, and in between the decoder knows how many blobs
the frame still misses. -/
theorem touchRun_reassembles (frames : List DeviceFrame) (ts : List TouchTransfer)
    (s : Sur40State) (hs : s.needBlobs = -1)
    (hts : Delivers ts (frames.flatMap DeviceFrame.packets)) :
    (touchRun ts s).input.calls = s.input.calls ++ frames.flatMap DeviceFrame.calls ∧
    (∀ before after, frames = before ++ after →
      let mid := touchRun (ts.take (before.flatMap DeviceFrame.packets).length) s
      mid.input.calls = s.input.calls ++ before.flatMap DeviceFrame.calls ∧
        mid.needBlobs = -1) ∧
    (∀ before f after pre q, frames = before ++ f :: after → f.packets = pre ++ q →
      pre ≠ [] → q ≠ [] →
      let mid := touchRun (ts.take (before.flatMap DeviceFrame.packets ++ pre).length) s
      mid.input.calls = s.input.calls ++ before.flatMap DeviceFrame.calls ++
          (pre.flatMap TouchPacket.blobs).map .reportBlob ∧
        pre.flatMap TouchPacket.blobs <+: f.blobs ∧
        1 ≤ mid.needBlobs ∧ mid.needBlobs ≤ 65535) := by
  have hwhole : ∀ before after, frames = before ++ after →
      let mid := touchRun (ts.take (before.flatMap DeviceFrame.packets).length) s
      mid.input.calls = s.input.calls ++ before.flatMap DeviceFrame.calls ∧
        mid.needBlobs = -1 := by
    intro before after heq
    subst heq
    rw [List.flatMap_append] at hts
    have hrun := decoder_touchRun_of_delivers hts.take s hs
    rw [receive_frames] at hrun
    simp only [Sur40State.decoder, TouchDecoder.mk.injEq] at hrun
    exact ⟨by rw [hrun.2, reportFrames_calls], hrun.1⟩
  refine ⟨?_, hwhole, ?_⟩
  · have hlen : (ts.take (frames.flatMap DeviceFrame.packets).length) = ts := by
      have := congrArg List.length hts
      simp only [List.length_map] at this
      exact List.take_of_length_le this.le
    simpa only [hlen] using (hwhole frames [] (by simp)).1
  · intro before f after pre q hframes hpackets hpre hq
    subst hframes
    rw [List.flatMap_append, List.flatMap_cons, hpackets, ← List.append_assoc,
      ← List.append_assoc, List.append_assoc _ q] at hts
    have hrun := decoder_touchRun_of_delivers hts.take s hs
    rw [receivePackets_append, receive_frames, receive_begun f hpackets hpre hq] at hrun
    simp only [Sur40State.decoder, TouchDecoder.mk.injEq] at hrun
    have hlt := f.length_prefix_lt hpackets hpre hq
    have hmax := f.length_blobs_lt
    refine ⟨?_, f.prefix_isPrefix hpackets hpre hq, ?_, ?_⟩
    · rw [hrun.2, reportBlobs_calls, reportFrames_calls]
    · rw [hrun.1]; omega
    · rw [hrun.1]; omega

/-! ## A concrete stream -/

/-- A finger without extent, known by its id. -/
def finger (blobId : UInt16) : Sur40Blob where
  blobId := blobId
  action := 3
  type := sur40Touch
  bbPosX := 0
  bbPosY := 0
  bbSizeX := 0
  bbSizeY := 0
  posX := 0
  posY := 0
  ctrX := 0
  ctrY := 0
  axisX := 0
  axisY := 0
  angle := 0
  area := 0
  padding := Vector.replicate 24 0
  tagId := 0
  unknown := 0

/-- A packet with the given count, whatever its other header fields say. -/
def touchPacket (count : UInt16) (blobs : List Sur40Blob) : TouchPacket :=
  { header := { type := 1, count := count, packetId := 0, timestamp := 0, unknown := 2 }
    blobs := blobs }

/-- Five fingers in two packets of four blobs. -/
def fiveFingers : DeviceFrame where
  blobs := [finger 1, finger 2, finger 3, finger 4, finger 5]
  padding := [finger 0, finger 0, finger 0]
  first := touchPacket 5 [finger 1, finger 2, finger 3, finger 4]
  rest := [touchPacket 0 [finger 5, finger 0, finger 0, finger 0]]
  count_first := rfl
  count_rest := by simp [touchPacket]
  contents := rfl
  unfinished := fun _ => by decide

/-- Deliver packets on the first touch URB, every resubmission succeeding. -/
def deliver (ps : List TouchPacket) : List TouchTransfer :=
  ps.map fun p => { urb := firstTouchUrb, completion := p.completion, err := 0 }

theorem deliver_delivers (ps : List TouchPacket) : Delivers (deliver ps) ps := by
  simp [Delivers, deliver]

/-- The driver right after `sur40_touch_start` armed the decoder. -/
def armed : Sur40State := { sur40Probe false 512 512 with needBlobs := -1 }

theorem touchRun_reassembles_fiveFingers :
    (touchRun (deliver fiveFingers.packets) armed).input.calls =
      [.reportBlob (finger 1), .reportBlob (finger 2), .reportBlob (finger 3),
        .reportBlob (finger 4), .reportBlob (finger 5), .mtSyncFrame, .sync] := by
  have h := touchRun_reassembles [fiveFingers] (deliver fiveFingers.packets) armed rfl
    (by simpa using deliver_delivers fiveFingers.packets)
  simpa [DeviceFrame.calls, fiveFingers, armed, sur40Probe, InputDev.init] using h.1

end Sur40
