import Sur40.TouchStream

/-!
# Contacts and slots

Every blob of type touch asks the input core for the slot of its `blob_id`. The
slots of contacts that have gone are released by the sync at the end of the frame,
after the new contacts have asked for theirs. So a frame is reported completely
exactly if its ids and those of the frame before fit into the slots together; the
bound of `maxContacts` on each frame is not enough.

## Main definitions

* `touches`, `touchIds`: the contacts of a frame and their ids.
* `FrameReported`: the slots show a frame.
* `framesReported_iff`: the runs that show every frame.
-/

namespace Sur40

open Devlib

/-- The contacts among some blobs: key and axis values of each touch. -/
def touches (blobs : List Sur40Blob) : List (ℤ × (AbsMt → ℤ)) :=
  (blobs.filter fun b => b.type = sur40Touch).map fun b => ((b.blobId.toNat : ℤ), contactAbs b)

/-- The ids of a frame's touch blobs. -/
def touchIds (f : DeviceFrame) : List ℤ := (touches f.blobs).map Prod.fst

/-- The slots `t'` after a frame show its contacts, one to one and with their
values, and a contact that was in the slots `t` before has kept its slot. -/
structure FrameReported (t t' : SlotTable maxContacts ℤ (AbsMt → ℤ)) (f : DeviceFrame) :
    Prop where
  bijective : SlotTable.Tracks t' (touchIds f).toFinset
  values : ∀ c ∈ touches f.blobs, ∃ i, t' i = ⟨true, c.1, false, c.2⟩
  same_slot : ∀ i, (t i).active → (t i).key ∈ touchIds f →
    (t' i).active ∧ (t' i).key = (t i).key

/-- The ids shown before the frame that follows `before`. -/
def shownIds (ks : Finset ℤ) (before : List DeviceFrame) : Finset ℤ :=
  (before.getLast?.map fun f => (touchIds f).toFinset).getD ks

/-! ## One frame -/

/-- Reporting blobs is reporting the touches among them. -/
theorem reportBlobs_slots (blobs : List Sur40Blob) (input : InputDev) :
    (reportBlobs blobs input).slots = (touches blobs).foldl SlotTable.report input.slots := by
  induction blobs generalizing input with
  | nil => rfl
  | cons b blobs ih =>
      have hcons : reportBlobs (b :: blobs) input =
          reportBlobs blobs (sur40ReportBlob b input) := rfl
      rw [hcons, ih]
      by_cases htype : b.type = sur40Touch
      · rw [sur40ReportBlob_slots b input htype]
        simp [touches, htype]
      · rw [sur40ReportBlob_slots_of_ne b input htype]
        simp [touches, htype]

/-- The slots after a frame. -/
def frameSlots (f : DeviceFrame) (t : SlotTable maxContacts ℤ (AbsMt → ℤ)) :
    SlotTable maxContacts ℤ (AbsMt → ℤ) :=
  ((touches f.blobs).foldl SlotTable.report t).sync

/-- A frame is reported exactly if its ids and the ids shown before have room. -/
theorem frameReported_iff {t : SlotTable maxContacts ℤ (AbsMt → ℤ)} {ks : Finset ℤ}
    (h : SlotTable.Tracks t ks) (f : DeviceFrame) (hnd : (touchIds f).Nodup) :
    FrameReported t (frameSlots f t) f ↔ (ks ∪ (touchIds f).toFinset).card ≤ maxContacts := by
  constructor
  · intro hf
    exact SlotTable.room_of_tracks h hf.bijective
  · intro hroom
    obtain ⟨htracks, hvalues⟩ := SlotTable.tracks_round h hnd hroom
    exact ⟨htracks, hvalues, fun i hi hkey => SlotTable.round_keeps_slot h hnd hroom hi hkey⟩

/-! ## Runs of frames -/

theorem reportFrames_append (fs : List DeviceFrame) (f : DeviceFrame) (input : InputDev) :
    (reportFrames (fs ++ [f]) input).slots = frameSlots f (reportFrames fs input).slots := by
  simp [reportFrames, frameSlots, reportBlobs_slots]

/-- While every frame so far had room, the slots show the last one. -/
theorem tracks_shownIds (input : InputDev) (ks : Finset ℤ)
    (hslots : SlotTable.Tracks input.slots ks) (frames : List DeviceFrame)
    (hnd : ∀ f ∈ frames, (touchIds f).Nodup)
    (hroom : ∀ before f after, frames = before ++ f :: after →
      (shownIds ks before ∪ (touchIds f).toFinset).card ≤ maxContacts) :
    SlotTable.Tracks (reportFrames frames input).slots (shownIds ks frames) := by
  induction frames using List.reverseRecOn with
  | nil => exact hslots
  | append_singleton frames f ih =>
      have hprev := ih (fun g hg => hnd g (List.mem_append_left _ hg))
        (fun before g after heq => hroom before g (after ++ [f]) (by simp [heq]))
      rw [reportFrames_append]
      have hshown : shownIds ks (frames ++ [f]) = (touchIds f).toFinset := by simp [shownIds]
      rw [hshown]
      exact ((frameReported_iff hprev f (hnd f (by simp))).mpr (hroom frames f [] rfl)).bijective

/-- The slots when the frames `before` of a run have been received. -/
def slotsAfter (ts : List TouchTransfer) (before : List DeviceFrame) (s : Sur40State) :
    SlotTable maxContacts ℤ (AbsMt → ℤ) :=
  (touchRun (ts.take (before.flatMap DeviceFrame.packets).length) s).input.slots

/-- Every frame of a run is shown by the slots when its sync has happened. -/
def FramesReported (ts : List TouchTransfer) (frames : List DeviceFrame) (s : Sur40State) :
    Prop :=
  ∀ before f after, frames = before ++ f :: after →
    FrameReported (slotsAfter ts before s) (slotsAfter ts (before ++ [f]) s) f

theorem slotsAfter_eq {ts : List TouchTransfer} (before after : List DeviceFrame)
    {s : Sur40State} (hs : s.needBlobs = -1)
    (hts : Delivers ts ((before ++ after).flatMap DeviceFrame.packets)) :
    slotsAfter ts before s = (reportFrames before s.input).slots := by
  rw [List.flatMap_append] at hts
  have hrun := decoder_touchRun_of_delivers hts.take s hs
  rw [receive_frames] at hrun
  simp only [Sur40State.decoder, TouchDecoder.mk.injEq] at hrun
  rw [slotsAfter, hrun.2]

/-- **Which runs report every finger.** In a run of frames that arrive completely,
every frame is shown by the slots, with each contact in its own slot and in the slot
it had before, exactly if the ids of any two consecutive frames fit into the slots
together. `ks` are the ids that the slots show at the start. -/
theorem framesReported_iff (frames : List DeviceFrame) (ts : List TouchTransfer)
    (s : Sur40State) (ks : Finset ℤ) (hs : s.needBlobs = -1)
    (hslots : SlotTable.Tracks s.input.slots ks)
    (hts : Delivers ts (frames.flatMap DeviceFrame.packets))
    (hnd : ∀ f ∈ frames, (touchIds f).Nodup) :
    FramesReported ts frames s ↔
      ∀ before f after, frames = before ++ f :: after →
        (shownIds ks before ∪ (touchIds f).toFinset).card ≤ maxContacts := by
  -- One frame, given that the run has shown the frames before it.
  have hstep : ∀ before f after, frames = before ++ f :: after →
      SlotTable.Tracks (reportFrames before s.input).slots (shownIds ks before) →
      (FrameReported (slotsAfter ts before s) (slotsAfter ts (before ++ [f]) s) f ↔
        (shownIds ks before ∪ (touchIds f).toFinset).card ≤ maxContacts) := by
    intro before f after heq htracks
    rw [slotsAfter_eq _ (f :: after) hs (heq ▸ hts),
      slotsAfter_eq _ after hs (by rw [List.append_assoc]; exact heq ▸ hts),
      reportFrames_append]
    exact frameReported_iff htracks f (hnd f (by rw [heq]; simp))
  constructor
  · intro hall
    -- A frame that is reported leaves its ids in the slots.
    have htracks : ∀ before after, frames = before ++ after →
        SlotTable.Tracks (reportFrames before s.input).slots (shownIds ks before) := by
      intro before after heq
      obtain rfl | ⟨init, f, rfl⟩ := List.eq_nil_or_concat' before
      · exact hslots
      · have hrep := (hall init f after (by rw [heq]; simp)).bijective
        rw [slotsAfter_eq _ after hs (heq ▸ hts)] at hrep
        simpa [shownIds] using hrep
    intro before f after heq
    exact (hstep before f after heq (htracks before (f :: after) heq)).mp
      (hall before f after heq)
  · intro hroom before f after heq
    refine (hstep before f after heq ?_).mpr (hroom before f after heq)
    refine tracks_shownIds s.input ks hslots before
      (fun g hg => hnd g (by rw [heq]; exact List.mem_append_left _ hg)) ?_
    intro before' g after' heq'
    exact hroom before' g (after' ++ f :: after) (by rw [heq, heq']; simp)

/-! ## Concrete runs -/

/-- A frame without padding, from the blobs of its packets. -/
def DeviceFrame.ofChunks (first : List Sur40Blob) (rest : List (List Sur40Blob))
    (hlen : (first ++ rest.flatten).length < 65536) (hne : ∀ c ∈ rest, c ≠ []) :
    DeviceFrame where
  blobs := first ++ rest.flatten
  padding := []
  first := touchPacket (UInt16.ofNat (first ++ rest.flatten).length) first
  rest := rest.map (touchPacket 0)
  count_first := by
    simp only [touchPacket, UInt16.toNat_ofNat']
    exact Nat.mod_eq_of_lt hlen
  count_rest := by
    intro p hp
    obtain ⟨c, _, rfl⟩ := List.mem_map.mp hp
    rfl
  contents := by
    have hblobs : TouchPacket.blobs ∘ touchPacket 0 = id := rfl
    simp [List.flatMap_def, List.map_map, hblobs, touchPacket]
  unfinished := by
    intro hrest
    obtain rfl | ⟨init, c, rfl⟩ := List.eq_nil_or_concat' rest
    · exact absurd rfl hrest
    · have hblobs : TouchPacket.blobs ∘ touchPacket 0 = id := rfl
      have hpos := List.length_pos_of_ne_nil (hne c (by simp))
      rw [List.map_append, List.map_singleton, ← List.cons_append, List.dropLast_concat]
      simpa [List.flatMap_def, List.map_map, hblobs, touchPacket] using hpos

/-- The fingers with ids `start`, `start + 1`, … -/
def fingers (start n : ℕ) : List Sur40Blob :=
  (List.range n).map fun k => finger (UInt16.ofNat (start + k))

/-- 52 fingers with the ids 0 to 51, four to a packet. -/
def fullFrame : DeviceFrame :=
  .ofChunks (fingers 0 4) ((List.range 12).map fun j => fingers (4 * (j + 1)) 4)
    (by decide) (by decide)

/-- One finger, with the id 52. -/
def newFrame : DeviceFrame := .ofChunks (fingers 52 1) [] (by decide) (by decide)

/-- All slots are free on a new input device. -/
theorem tracks_init : SlotTable.Tracks InputDev.init.slots ∅ where
  distinct := fun _ _ hi => by cases hi
  unused := fun _ => rfl
  keys := by
    ext k
    rw [SlotTable.mem_activeKeys]
    simp [InputDev.init]

/-- Five fingers on an empty table, and the same five again. -/
theorem framesReported_fiveFingers :
    FramesReported (deliver ([fiveFingers, fiveFingers].flatMap DeviceFrame.packets))
      [fiveFingers, fiveFingers] armed := by
  have hnd : ∀ f ∈ [fiveFingers, fiveFingers], (touchIds f).Nodup := by
    intro f hf
    simp only [List.mem_cons, List.not_mem_nil, or_false, or_self] at hf
    subst hf
    decide
  refine (framesReported_iff _ _ armed ∅ rfl tracks_init (deliver_delivers _) hnd).mpr ?_
  intro before f after heq
  match before, heq with
  | [], heq => cases heq; decide
  | [_], heq => cases heq; decide
  | _ :: _ :: _, heq => simp at heq

/-- 52 contacts leave the table and one new contact touches it: the slots of the old
ones are still taken when the new one asks for a slot. -/
theorem not_framesReported_newFinger :
    (∀ f ∈ [fullFrame, newFrame], (touches f.blobs).length ≤ maxContacts ∧
      (touchIds f).Nodup) ∧
    ¬ FramesReported (deliver ([fullFrame, newFrame].flatMap DeviceFrame.packets))
        [fullFrame, newFrame] armed := by
  have hdel := deliver_delivers ([fullFrame, newFrame].flatMap DeviceFrame.packets)
  constructor
  · intro f hf
    simp only [List.mem_cons, List.not_mem_nil, or_false] at hf
    rcases hf with rfl | rfl
    · exact ⟨by decide +kernel, by decide +kernel⟩
    · exact ⟨by decide, by decide⟩
  · intro hall
    have hfull := (hall [] fullFrame [newFrame] rfl).bijective
    rw [List.nil_append, slotsAfter_eq [fullFrame] [newFrame] rfl hdel] at hfull
    have hnew := hall [fullFrame] newFrame [] rfl
    rw [slotsAfter_eq [fullFrame] [newFrame] rfl hdel,
      slotsAfter_eq ([fullFrame] ++ [newFrame]) [] rfl hdel,
      reportFrames_append, frameReported_iff hfull newFrame (by decide)] at hnew
    exact absurd hnew (by decide +kernel)

end Sur40
