import Sur40.State

/-!
# The touch handler

`sur40_touch_complete`: one packet of the touch endpoint has arrived. The
decoder's whole state is `needBlobs`, the number of blobs the current frame still
misses, or -1 between frames.

## Main definitions

* `touchSizeMismatch`, `touchBlobs`: the framing of one packet.
* `sur40TouchPacket`: a packet whose length is plausible.
* `sur40TouchComplete`: the completion handler.
* `touchRun`: the completions of the endpoint, in order.
* `TouchDecoder`, `TouchDecoder.receive`: the same handler, reduced to the two
  fields it decides on; `decoder_touchRun` connects the two.
-/

namespace Sur40

open Devlib

/-- The length check: a header followed by whole blobs. -/
def touchSizeMismatch (len : ℕ) : Bool :=
  len < Sur40Header.layout.size ||
    (len - Sur40Header.layout.size) % Sur40Blob.layout.size ≠ 0

theorem touchSizeMismatch_eq_true {len : ℕ} :
    touchSizeMismatch len = true ↔ len < 16 ∨ (len - 16) % 64 ≠ 0 := by
  rw [touchSizeMismatch, Bool.or_eq_true, decide_eq_true_iff, decide_eq_true_iff]
  exact Iff.rfl

theorem touchSizeMismatch_eq_false {len : ℕ} :
    touchSizeMismatch len = false ↔ 16 ≤ len ∧ (len - 16) % 64 = 0 := by
  rw [← Bool.not_eq_true, touchSizeMismatch_eq_true]
  omega

/-- Number of blobs in a packet of `len` bytes. -/
def touchPacketBlobs (len : ℕ) : ℕ :=
  (len - Sur40Header.layout.size) / Sur40Blob.layout.size

/-- `data->blobs[i]`. -/
def touchBlob (data : List UInt8) (i : ℕ) : Sur40Blob :=
  Sur40Blob.layout.block (data.drop Sur40Header.layout.size) i

/-- A packet of plausible length. -/
def sur40TouchPacket (data : List UInt8) (sur40 : Sur40State) : Sur40State :=
  let packetBlobs : ℤ := touchPacketBlobs data.length
  -- The first packet of a frame carries the total blob count, the following
  -- packets have count 0.
  let needBlobs : ℤ :=
    if sur40.needBlobs < 0 then (Sur40Header.layout.decode data).count.toNat
    else sur40.needBlobs
  let packetBlobs := if packetBlobs > needBlobs then needBlobs else packetBlobs
  let input := (List.range packetBlobs.toNat).foldl
    (fun input i => sur40ReportBlob (touchBlob data i) input) sur40.input
  let needBlobs := needBlobs - packetBlobs
  if needBlobs ≤ 0 then
    { sur40 with input := inputSync (inputMtSyncFrame input), needBlobs := -1 }
  else { sur40 with input := input, needBlobs := needBlobs }

/-- Core function: one touch packet has arrived on URB `i`; `err` is what the
resubmission will return. -/
def sur40TouchComplete (i : Fin sur40TouchUrbs) (c : Completion) (err : ℤ)
    (sur40 : Sur40State) : Sur40State :=
  if sur40UrbDead c.status then sur40
  else
    let sur40 :=
      if c.status ≠ 0 then { sur40 with needBlobs := -1 }
      else if touchSizeMismatch c.actualLength then { sur40 with needBlobs := -1 }
      else sur40TouchPacket c.data sur40
    { sur40 with touchUrbs :=
        Function.update sur40.touchUrbs i (sur40Resubmit (sur40.touchUrbs i) err) }

/-- The USB core gives URB `i` back and calls its handler. -/
def touchGiveback (i : Fin sur40TouchUrbs) (c : Completion) (err : ℤ)
    (sur40 : Sur40State) : Sur40State :=
  sur40TouchComplete i c err
    { sur40 with touchUrbs := Function.update sur40.touchUrbs i (sur40.touchUrbs i).giveback }

/-- One completion on the touch endpoint. -/
structure TouchTransfer where
  urb : Fin sur40TouchUrbs
  completion : Completion
  /-- Outcome of the resubmission. -/
  err : ℤ

/-- The completions of the touch endpoint, which are serialised. -/
def touchRun (ts : List TouchTransfer) (sur40 : Sur40State) : Sur40State :=
  ts.foldl (fun s t => touchGiveback t.urb t.completion t.err s) sur40

/-! ## What one packet does -/

/-- The blobs that a packet carries, padding included. -/
def touchBlobs (data : List UInt8) : List Sur40Blob :=
  (List.range (touchPacketBlobs data.length)).map (touchBlob data)

/-- Hand blobs to `sur40_report_blob`, in order. -/
def reportBlobs (blobs : List Sur40Blob) (input : InputDev) : InputDev :=
  blobs.foldl (fun input b => sur40ReportBlob b input) input

theorem reportBlobs_append (as bs : List Sur40Blob) (input : InputDev) :
    reportBlobs (as ++ bs) input = reportBlobs bs (reportBlobs as input) :=
  List.foldl_append

@[simp] theorem reportBlobs_calls (blobs : List Sur40Blob) (input : InputDev) :
    (reportBlobs blobs input).calls = input.calls ++ blobs.map .reportBlob := by
  induction blobs generalizing input with
  | nil => simp [reportBlobs]
  | cons b blobs ih =>
      have hcons : reportBlobs (b :: blobs) input =
          reportBlobs blobs (sur40ReportBlob b input) := rfl
      rw [hcons, ih, sur40ReportBlob_calls]
      simp

/-- The handler's loop over the first `k` blobs of a packet. -/
theorem foldl_touchBlob (data : List UInt8) (k : ℕ) (hk : k ≤ touchPacketBlobs data.length)
    (input : InputDev) :
    (List.range k).foldl (fun input i => sur40ReportBlob (touchBlob data i) input) input =
      reportBlobs ((touchBlobs data).take k) input := by
  rw [touchBlobs, ← List.map_take, List.take_range, Nat.min_eq_left hk, reportBlobs,
    List.foldl_map]

/-- The number of blobs the decoder waits for when a packet arrives. -/
def announced (needBlobs : ℤ) (data : List UInt8) : ℕ :=
  if needBlobs < 0 then (Sur40Header.layout.decode data).count.toNat else needBlobs.toNat

/-- A packet that completes its frame: the blobs still missing are reported, the
rest of the packet is padding, and the frame is synced. -/
theorem sur40TouchPacket_last (data : List UInt8) (s : Sur40State)
    (h : announced s.needBlobs data ≤ touchPacketBlobs data.length) :
    sur40TouchPacket data s =
      { s with
        input := inputSync (inputMtSyncFrame
          (reportBlobs ((touchBlobs data).take (announced s.needBlobs data)) s.input))
        needBlobs := -1 } := by
  simp only [sur40TouchPacket]
  have hneed : (if s.needBlobs < 0 then ((Sur40Header.layout.decode data).count.toNat : ℤ)
      else s.needBlobs) = (announced s.needBlobs data : ℕ) := by
    rw [announced]
    split_ifs <;> omega
  rw [hneed]
  have hclamp : (if (touchPacketBlobs data.length : ℤ) > announced s.needBlobs data then
      (announced s.needBlobs data : ℤ) else touchPacketBlobs data.length) =
      (announced s.needBlobs data : ℕ) := by
    split_ifs <;> omega
  rw [hclamp, if_pos (by omega), Int.toNat_natCast, foldl_touchBlob data _ h]

/-- A packet in the middle of its frame: all its blobs are reported. -/
theorem sur40TouchPacket_more (data : List UInt8) (s : Sur40State)
    (h : touchPacketBlobs data.length < announced s.needBlobs data) :
    sur40TouchPacket data s =
      { s with
        input := reportBlobs (touchBlobs data) s.input
        needBlobs := announced s.needBlobs data - touchPacketBlobs data.length } := by
  simp only [sur40TouchPacket]
  have hneed : (if s.needBlobs < 0 then ((Sur40Header.layout.decode data).count.toNat : ℤ)
      else s.needBlobs) = (announced s.needBlobs data : ℕ) := by
    rw [announced]
    split_ifs <;> omega
  rw [hneed]
  have hclamp : (if (touchPacketBlobs data.length : ℤ) > announced s.needBlobs data then
      (announced s.needBlobs data : ℤ) else touchPacketBlobs data.length) =
      (touchPacketBlobs data.length : ℕ) := by
    split_ifs <;> omega
  have hall : (touchBlobs data).take (touchPacketBlobs data.length) = touchBlobs data :=
    List.take_of_length_le (by simp [touchBlobs])
  rw [hclamp, if_neg (by omega), Int.toNat_natCast, foldl_touchBlob data _ le_rfl, hall]

/-! ## The decoder on its own

Which URB carries a packet, and whether it can be resubmitted, makes no
difference to decoding. -/

/-- The fields of the state that the touch handler works on. -/
structure TouchDecoder where
  needBlobs : ℤ
  input : InputDev

def Sur40State.decoder (s : Sur40State) : TouchDecoder := ⟨s.needBlobs, s.input⟩

@[simp] theorem decoder_needBlobs (s : Sur40State) : s.decoder.needBlobs = s.needBlobs := rfl
@[simp] theorem decoder_input (s : Sur40State) : s.decoder.input = s.input := rfl

/-- A completion that is decoded: a successful transfer of plausible length. -/
def touchGood (c : Completion) : Bool := c.status = 0 && !touchSizeMismatch c.actualLength

/-- One completion, seen by the decoder. -/
def TouchDecoder.receive (d : TouchDecoder) (c : Completion) : TouchDecoder :=
  if sur40UrbDead c.status then d
  else if !touchGood c then { d with needBlobs := -1 }
  else if announced d.needBlobs c.data ≤ touchPacketBlobs c.data.length then
    { needBlobs := -1
      input := inputSync (inputMtSyncFrame
        (reportBlobs ((touchBlobs c.data).take (announced d.needBlobs c.data)) d.input)) }
  else
    { needBlobs := announced d.needBlobs c.data - touchPacketBlobs c.data.length
      input := reportBlobs (touchBlobs c.data) d.input }

/-- A packet of plausible length, seen by the decoder. -/
theorem decoder_sur40TouchPacket (data : List UInt8) (s : Sur40State) :
    (sur40TouchPacket data s).decoder =
      if announced s.decoder.needBlobs data ≤ touchPacketBlobs data.length then
        { needBlobs := -1
          input := inputSync (inputMtSyncFrame
            (reportBlobs ((touchBlobs data).take (announced s.decoder.needBlobs data))
              s.decoder.input)) }
      else
        { needBlobs := announced s.decoder.needBlobs data - touchPacketBlobs data.length
          input := reportBlobs (touchBlobs data) s.decoder.input } := by
  by_cases hn : announced s.needBlobs data ≤ touchPacketBlobs data.length
  · rw [sur40TouchPacket_last data s hn]
    exact (if_pos hn).symm
  · rw [sur40TouchPacket_more data s (not_le.mp hn)]
    exact (if_neg hn).symm

/-- The handler decodes. -/
@[simp] theorem decoder_touchGiveback (i : Fin sur40TouchUrbs) (c : Completion) (err : ℤ)
    (s : Sur40State) : (touchGiveback i c err s).decoder = s.decoder.receive c := by
  rw [touchGiveback, sur40TouchComplete, TouchDecoder.receive, touchGood]
  by_cases hdead : sur40UrbDead c.status
  · rw [if_pos hdead, if_pos hdead]
    rfl
  · rw [if_neg hdead, if_neg hdead]
    by_cases hstatus : c.status = 0
    · by_cases hlen : touchSizeMismatch c.actualLength
      · simp only [hstatus, hlen, ne_eq, not_true_eq_false, if_false, if_true]
        rfl
      · simp only [hstatus, hlen, ne_eq, not_true_eq_false, if_false, Bool.false_eq_true]
        exact decoder_sur40TouchPacket c.data _
    · simp only [hstatus, ne_eq, not_false_eq_true, if_true]
      rfl

/-- A run of the handler is a run of the decoder on the same completions. -/
theorem decoder_touchRun (ts : List TouchTransfer) (s : Sur40State) :
    (touchRun ts s).decoder =
      (ts.map TouchTransfer.completion).foldl TouchDecoder.receive s.decoder := by
  induction ts generalizing s with
  | nil => rfl
  | cons t ts ih =>
      have hcons : touchRun (t :: ts) s =
          touchRun ts (touchGiveback t.urb t.completion t.err s) := rfl
      rw [hcons, ih, decoder_touchGiveback]
      rfl

/-! ## Runs -/

theorem touchRun_append (ts us : List TouchTransfer) (s : Sur40State) :
    touchRun (ts ++ us) s = touchRun us (touchRun ts s) := by
  simp [touchRun]

/-- The calls added to the history by a run. -/
def newCalls (ts : List TouchTransfer) (s : Sur40State) : List InputCall :=
  (touchRun ts s).input.calls.drop s.input.calls.length

theorem newCalls_eq {ts : List TouchTransfer} {s : Sur40State} {cs : List InputCall}
    (h : (touchRun ts s).input.calls = s.input.calls ++ cs) : newCalls ts s = cs := by
  rw [newCalls, h, List.drop_left]

/-! ## What a completion leaves alone -/

theorem sur40TouchPacket_eq (data : List UInt8) (s : Sur40State) :
    ∃ needBlobs input, sur40TouchPacket data s = { s with needBlobs, input } := by
  simp only [sur40TouchPacket]
  split_ifs <;> exact ⟨_, _, rfl⟩

/-- A touch completion changes the decoder and the URB, and no poison counter. -/
theorem touchGiveback_eq (i : Fin sur40TouchUrbs) (c : Completion) (err : ℤ) (s : Sur40State) :
    ∃ touchUrbs needBlobs input,
      touchGiveback i c err s = { s with touchUrbs, needBlobs, input } ∧
      ∀ j, (touchUrbs j).reject = (s.touchUrbs j).reject := by
  have hgive : ∀ j, (Function.update s.touchUrbs i (s.touchUrbs i).giveback j).reject =
      (s.touchUrbs j).reject := by
    intro j
    rw [Function.update_apply]
    split_ifs with hj
    · rw [hj, giveback_reject]
    · rfl
  have hresubmit : ∀ (urbs : Fin sur40TouchUrbs → Urb) j,
      (Function.update urbs i (sur40Resubmit (urbs i) err) j).reject = (urbs j).reject := by
    intro urbs j
    rw [Function.update_apply]
    split_ifs with hj
    · rw [hj, sur40Resubmit_reject]
    · rfl
  rw [touchGiveback, sur40TouchComplete]
  split_ifs with hdead hstatus hsize
  · exact ⟨_, _, _, rfl, hgive⟩
  · exact ⟨_, _, _, rfl, fun j => (hresubmit _ j).trans (hgive j)⟩
  · exact ⟨_, _, _, rfl, fun j => (hresubmit _ j).trans (hgive j)⟩
  · obtain ⟨needBlobs, input, heq⟩ := sur40TouchPacket_eq c.data
      { s with touchUrbs := Function.update s.touchUrbs i (s.touchUrbs i).giveback }
    rw [heq]
    exact ⟨_, _, _, rfl, fun j => (hresubmit _ j).trans (hgive j)⟩

end Sur40
