import Sur40.SurfacePackets
import Sur40.Contacts
import Mathlib.Tactic.IntervalCases

/-!
# Enter and exit

The device sends action 2 both when a contact appears and when it leaves. The
library takes it for an arrival whenever the id differs from the one it has seen
with action 2 before, so what it reports depends on which blob with action 2 came
last, whosever it was.

## Main definitions

* `lastActionTwo`: the id that came last with action 2.
* `ContactStream`: contacts that come and go, and the frames that carry them.
* `ActionsDocumented`: all returned actions are as documented.
* `actions_documented_iff`: when they are.
-/

namespace Sur40

open Devlib

/-! ## The global -/

/-- The id of the last blob with action 2. -/
def lastActionTwo (maxBlobId : UInt16) (bs : List Sur40Blob) : UInt16 :=
  ((bs.filter fun b => b.action = 2).getLast?.map Sur40Blob.blobId).getD maxBlobId

theorem nextMaxBlobId_eq (maxBlobId : UInt16) (b : SurfaceBlob) :
    nextMaxBlobId maxBlobId b = if b.action = 2 then b.blobId else maxBlobId := by
  simp only [nextMaxBlobId, surfaceEnters_iff]
  by_cases hid : b.blobId = maxBlobId <;> simp [hid]

/-- The global is the id that came last with action 2. -/
theorem enterBlobs_snd (maxBlobId : UInt16) (bs : List Sur40Blob) :
    (enterBlobs maxBlobId (bs.map Sur40Blob.surface)).2 = lastActionTwo maxBlobId bs := by
  induction bs using List.reverseRecOn with
  | nil => simp [enterBlobs, lastActionTwo]
  | append_singleton bs b ih =>
      rw [List.map_append, enterBlobs_append, ih]
      by_cases haction : b.action = 2
      · simp [enterBlobs, nextMaxBlobId_eq, lastActionTwo, haction]
      · simp [enterBlobs, nextMaxBlobId_eq, lastActionTwo, haction]

/-- Entry `j` depends on the blobs before it through the global alone. -/
theorem getElem_enterBlobs (maxBlobId : UInt16) (bs : List SurfaceBlob) (j : ℕ)
    (hj : j < bs.length) :
    (enterBlobs maxBlobId bs).1[j]? =
      some (enterBlob (enterBlobs maxBlobId (bs.take j)).2 bs[j]) := by
  induction bs generalizing maxBlobId j with
  | nil => simp at hj
  | cons b bs ih =>
      cases j with
      | zero => simp [enterBlobs]
      | succ j =>
          have htail := ih (nextMaxBlobId maxBlobId b) j (by simpa using hj)
          simpa [enterBlobs] using htail

theorem enterBlob_blobId (maxBlobId : UInt16) (b : SurfaceBlob) :
    (enterBlob maxBlobId b).blobId = b.blobId := by
  rw [enterBlob]
  split <;> rfl

theorem enterBlob_action (maxBlobId : UInt16) (b : SurfaceBlob) :
    (enterBlob maxBlobId b).action =
      if b.action = 2 ∧ b.blobId ≠ maxBlobId then 1 else b.action := by
  simp only [enterBlob, surfaceEnters_iff]
  split <;> rfl

/-! ## Frame after frame -/

/-- The blobs that carry the frame, its padding among them. -/
def DeviceFrame.sent (f : DeviceFrame) : List Sur40Blob := f.blobs ++ f.padding

/-- What a call on the frame's packets returns. -/
def DeviceFrame.call (f : DeviceFrame) (maxBlobId : UInt16) (rest : List BulkTransfer) :
    GetBlobsResult :=
  { value := f.blobs.length
    outblob := (enterBlobs maxBlobId (f.sent.map Sur40Blob.surface)).1
    maxBlobId := lastActionTwo maxBlobId f.sent
    rest }

/-- The call in the middle of a frame, behind the packets `pre`. -/
structure InFrame (f : DeviceFrame) (maxBlobId : UInt16) (pre : List TouchPacket)
    (p : TouchPacket) (g : GetBlobs) : Prop where
  copied : (g.outblob, g.maxBlobId) =
    enterBlobs maxBlobId ((pre.flatMap TouchPacket.blobs).map Sur40Blob.surface)
  need : announcedBlobs p g.needBlobs = f.blobs.length

theorem enterBlobs_packet {maxBlobId : UInt16} {pre : List TouchPacket} {p : TouchPacket}
    {g : GetBlobs}
    (h : (g.outblob, g.maxBlobId) =
      enterBlobs maxBlobId ((pre.flatMap TouchPacket.blobs).map Sur40Blob.surface)) :
    (g.outblob ++ (enterBlobs g.maxBlobId (p.blobs.map Sur40Blob.surface)).1,
        (enterBlobs g.maxBlobId (p.blobs.map Sur40Blob.surface)).2) =
      enterBlobs maxBlobId (((pre ++ [p]).flatMap TouchPacket.blobs).map Sur40Blob.surface) := by
  simp [enterBlobs_append, ← h]

/-- The call on the rest of a frame, by induction on its packets. -/
theorem surfaceGetBlobsLoop_inFrame (f : DeviceFrame) (maxBlobId : UInt16)
    (rest : List BulkTransfer) (ps : List TouchPacket) :
    ∀ (pre : List TouchPacket) (p : TouchPacket) (g : GetBlobs),
      f.packets = pre ++ p :: ps → (∀ q ∈ p :: ps, q.Fits) → InFrame f maxBlobId pre p g →
      surfaceGetBlobsLoop ((p :: ps).map TouchPacket.transfer ++ rest) g =
        some (f.call maxBlobId rest) := by
  induction ps with
  | nil =>
      intro pre p g hsplit hfits hg
      obtain ⟨g', hturn, -, hout, hmax⟩ :=
        surfaceGetBlobsTurn_packet (hfits p List.mem_cons_self) g
      have hcopied := enterBlobs_packet (p := p) hg.copied
      have hsent : (pre ++ [p]).flatMap TouchPacket.blobs = f.sent := by
        rw [← hsplit]
        exact f.contents
      rw [hsent, ← hout, ← hmax] at hcopied
      have hlength : g'.outblob.length = f.sent.length := by
        simpa using congrArg (fun x => x.1.length) hcopied
      have hle : ¬ (g'.outblob.length : ℤ) < f.blobs.length := by
        rw [hlength]
        simp [DeviceFrame.sent]
      rw [List.map_singleton, List.singleton_append, surfaceGetBlobsLoop, hturn, hg.need,
        if_neg hle]
      simp only [DeviceFrame.call, ← enterBlobs_snd, ← hcopied]
  | cons q ps ih =>
      intro pre p g hsplit hfits hg
      obtain ⟨g', hturn, hneed, hout, hmax⟩ :=
        surfaceGetBlobsTurn_packet (hfits p List.mem_cons_self) g
      have hcopied := enterBlobs_packet (p := p) hg.copied
      rw [← hout, ← hmax] at hcopied
      have hsplit' : f.packets = (pre ++ [p]) ++ q :: ps := by simp [hsplit]
      have hlt := f.length_prefix_lt hsplit' (by simp) (by simp)
      have hlength : g'.outblob.length = ((pre ++ [p]).flatMap TouchPacket.blobs).length := by
        have h := congrArg (fun x => x.1.length) hcopied
        simpa using h
      rw [List.map_cons, List.cons_append, surfaceGetBlobsLoop, hturn, hg.need, if_pos (by omega)]
      refine ih (pre ++ [p]) q g' hsplit' (fun r hr => hfits r (List.mem_cons_of_mem p hr))
        ⟨hcopied, ?_⟩
      rw [hneed, hg.need, announcedBlobs, if_neg (by omega)]

/-- A call reads exactly one frame. -/
theorem surfaceGetBlobs_frame (f : DeviceFrame) (hfits : ∀ p ∈ f.packets, p.Fits)
    (l : GetBlobsLocals) (rest : List BulkTransfer) (maxBlobId : UInt16) :
    surfaceGetBlobs l (f.packets.map TouchPacket.transfer ++ rest) maxBlobId =
      some (f.call maxBlobId rest) := by
  refine surfaceGetBlobsLoop_inFrame f maxBlobId rest f.rest [] f.first _ rfl hfits ⟨?_, ?_⟩
  · simp [GetBlobsLocals.enter, enterBlobs]
  · simp [GetBlobsLocals.enter, announcedBlobs, f.count_first]

/-- The transfers of a sequence of frames. -/
def frameTransfers (fs : List DeviceFrame) : List BulkTransfer :=
  fs.flatMap fun f => f.packets.map TouchPacket.transfer

/-- The blobs of a sequence of frames. -/
def sentBlobs (fs : List DeviceFrame) : List Sur40Blob := fs.flatMap DeviceFrame.sent

theorem lastActionTwo_append (maxBlobId : UInt16) (bs cs : List Sur40Blob) :
    lastActionTwo maxBlobId (bs ++ cs) = lastActionTwo (lastActionTwo maxBlobId bs) cs := by
  simp only [← enterBlobs_snd, List.map_append, enterBlobs_append]

/-- What calls on a sequence of frames return. -/
def frameCalls : List DeviceFrame → UInt16 → List GetBlobsResult
  | [], _ => []
  | f :: fs, maxBlobId =>
      f.call maxBlobId (frameTransfers fs) :: frameCalls fs (lastActionTwo maxBlobId f.sent)

theorem surfaceCalls_frames (fs : List DeviceFrame) (hfits : ∀ f ∈ fs, ∀ p ∈ f.packets, p.Fits)
    (locals : ℕ → GetBlobsLocals) (maxBlobId : UInt16) :
    surfaceCalls locals (frameTransfers fs) maxBlobId = frameCalls fs maxBlobId := by
  induction fs generalizing locals maxBlobId with
  | nil => exact surfaceCalls_of_none rfl
  | cons f fs ih =>
      have hcall := surfaceGetBlobs_frame f (hfits f List.mem_cons_self) (locals 0)
        (frameTransfers fs) maxBlobId
      have hrest := ih (fun g hg => hfits g (List.mem_cons_of_mem f hg))
        (fun k => locals (k + 1)) (lastActionTwo maxBlobId f.sent)
      have hcons : frameTransfers (f :: fs) =
          f.packets.map TouchPacket.transfer ++ frameTransfers fs := by simp [frameTransfers]
      rw [hcons, surfaceCalls_of_some hcall, frameCalls]
      exact congrArg _ hrest

@[simp] theorem length_frameCalls (fs : List DeviceFrame) (maxBlobId : UInt16) :
    (frameCalls fs maxBlobId).length = fs.length := by
  induction fs generalizing maxBlobId with
  | nil => simp [frameCalls]
  | cons f fs ih => simp [frameCalls, ih]

theorem getElem?_frameCalls (fs : List DeviceFrame) (maxBlobId : UInt16) {i : ℕ}
    {f : DeviceFrame} (hf : fs[i]? = some f) :
    (frameCalls fs maxBlobId)[i]? =
      some (f.call (lastActionTwo maxBlobId (sentBlobs (fs.take i)))
        (frameTransfers (fs.drop (i + 1)))) := by
  induction fs generalizing maxBlobId i with
  | nil => simp at hf
  | cons g fs ih =>
      cases i with
      | zero =>
          obtain rfl : g = f := by simpa using hf
          simp [frameCalls, sentBlobs, lastActionTwo]
      | succ i =>
          have htail := ih (lastActionTwo maxBlobId g.sent) (i := i) (by simpa using hf)
          rw [← lastActionTwo_append] at htail
          simpa [frameCalls, sentBlobs] using htail

/-! ## Contacts -/

/-- Contacts that come and go on the table, numbered by their arrival, over `length`
frames. -/
structure ContactStream where
  length : ℕ
  frame : ℕ → DeviceFrame
  /-- The contacts of a frame, in the order of its blobs. -/
  contacts : ℕ → List ℕ
  /-- The first and the last frame of a contact. -/
  enter : ℕ → ℕ
  leave : ℕ → ℕ
  /-- The id of contact 0; each further one gets the next id. -/
  firstId : UInt16
  enter_mono : Monotone enter
  enter_lt_leave : ∀ c, enter c < leave c
  nodup : ∀ f < length, (contacts f).Nodup
  mem_contacts : ∀ f < length, ∀ c, c ∈ contacts f ↔ enter c ≤ f ∧ f ≤ leave c
  close : ∀ f < length, ∀ c ∈ contacts f, ∀ c' ∈ contacts f, c' < c + 2 ^ 15
  blobs : ∀ f < length, List.Forall₂ (fun c (b : Sur40Blob) =>
    b.blobId = firstId + UInt16.ofNat c ∧
      b.action = if f = enter c ∨ f = leave c then 2 else 3) (contacts f) (frame f).blobs
  fits : ∀ f < length, ∀ p ∈ (frame f).packets, p.Fits

namespace ContactStream

variable (s : ContactStream)

def blobId (c : ℕ) : UInt16 := s.firstId + UInt16.ofNat c

/-- The frames, in the order of sending. -/
def frames : List DeviceFrame := firsts s.frame s.length

/-- The action that is documented for a contact: 1 = enter, 2 = exit, 3 = update. -/
def documentedAction (f c : ℕ) : UInt8 :=
  if f = s.enter c then 1 else if f = s.leave c then 2 else 3

/-- Every frame is returned, and every contact in it with the documented action. -/
def ActionsDocumented (locals : ℕ → GetBlobsLocals) : Prop :=
  let calls := surfaceCalls locals (frameTransfers s.frames) 0
  calls.length = s.length ∧ ∀ (f : ℕ) (r : GetBlobsResult), calls[f]? = some r →
    r.value = (s.contacts f).length ∧
      ∀ j c : ℕ, (s.contacts f)[j]? = some c → ∃ b : SurfaceBlob, r.outblob[j]? = some b ∧
        b.blobId = s.blobId c ∧ b.action = s.documentedAction f c

/-- Everything that is sent before blob `j` of frame `f`. -/
def sentBefore (f j : ℕ) : List Sur40Blob :=
  sentBlobs (firsts s.frame f) ++ (s.frame f).blobs.take j

/-- The id that comes with an action 2 last before blob `j` of frame `f`. -/
def lastActionTwoBefore (f j : ℕ) : UInt16 := lastActionTwo 0 (s.sentBefore f j)

theorem frames_fit : ∀ g ∈ s.frames, ∀ p ∈ g.packets, p.Fits := by
  intro g hg
  obtain ⟨i, hi, rfl⟩ := mem_firsts.mp hg
  exact s.fits i hi

theorem surfaceCalls_getElem? (locals : ℕ → GetBlobsLocals) {f : ℕ} (hf : f < s.length) :
    ∃ rest, (surfaceCalls locals (frameTransfers s.frames) 0)[f]? =
      some ((s.frame f).call (lastActionTwo 0 (sentBlobs (firsts s.frame f))) rest) := by
  have hframe : s.frames[f]? = some (s.frame f) := by simp [frames, firsts, hf]
  have htake : s.frames.take f = firsts s.frame f := take_firsts s.frame hf.le
  rw [surfaceCalls_frames s.frames s.frames_fit]
  exact ⟨_, by rw [getElem?_frameCalls s.frames 0 hframe, htake]⟩

/-- The blob of a contact, and what is returned for it. -/
theorem entry {f j c : ℕ} (hf : f < s.length) (hc : (s.contacts f)[j]? = some c)
    (rest : List BulkTransfer) :
    ∃ b : Sur40Blob, b.blobId = s.blobId c ∧
      b.action = (if f = s.enter c ∨ f = s.leave c then 2 else 3) ∧
      ((s.frame f).call (lastActionTwo 0 (sentBlobs (firsts s.frame f))) rest).outblob[j]? =
        some (enterBlob (s.lastActionTwoBefore f j) b.surface) := by
  obtain ⟨hj, rfl⟩ := List.getElem?_eq_some_iff.mp hc
  obtain ⟨hlength, hall⟩ := List.forall₂_iff_get.mp (s.blobs f hf)
  have hj' : j < (s.frame f).blobs.length := hlength ▸ hj
  have hsent : j < ((s.frame f).sent.map Sur40Blob.surface).length := by
    simp [DeviceFrame.sent]
    omega
  obtain ⟨hid, haction⟩ := hall j hj hj'
  refine ⟨(s.frame f).blobs[j], hid, haction, ?_⟩
  have htake : (s.frame f).sent.take j = (s.frame f).blobs.take j :=
    List.take_append_of_le_length hj'.le
  have hget : ((s.frame f).sent.map Sur40Blob.surface)[j] = (s.frame f).blobs[j].surface := by
    rw [List.getElem_map]
    exact congrArg Sur40Blob.surface (List.getElem_append_left hj')
  simp only [DeviceFrame.call]
  rw [getElem_enterBlobs _ _ _ hsent, ← List.map_take, enterBlobs_snd, htake,
    ← lastActionTwo_append, hget]
  rfl

/-- The global tells an arrival from a departure: before the first blob of a contact
another id came last with action 2, before its last blob its own. -/
def EntryTold (f j c : ℕ) : Prop :=
  (f = s.enter c → s.lastActionTwoBefore f j ≠ s.blobId c) ∧
    (f = s.leave c → s.lastActionTwoBefore f j = s.blobId c)

theorem documented_iff {f j c : ℕ} {b : Sur40Blob} (hid : b.blobId = s.blobId c)
    (haction : b.action = if f = s.enter c ∨ f = s.leave c then 2 else 3) :
    (enterBlob (s.lastActionTwoBefore f j) b.surface).action = s.documentedAction f c ↔
      s.EntryTold f j c := by
  have hlt := s.enter_lt_leave c
  rw [enterBlob_action, Sur40Blob.surface_action, Sur40Blob.surface_blobId, hid, haction,
    documentedAction, EntryTold]
  generalize s.lastActionTwoBefore f j = last, s.enter c = enter, s.leave c = leave at *
  by_cases henter : f = enter
  · have hleave : f ≠ leave := by omega
    by_cases hlast : last = s.blobId c
    · simp [henter, hlast, henter ▸ hleave]
    · simp [henter, hlast, Ne.symm hlast, henter ▸ hleave]
  · by_cases hleave : f = leave
    · by_cases hlast : last = s.blobId c
      · simp [hleave, hlast, hleave ▸ henter]
      · simp [hleave, hlast, Ne.symm hlast, hleave ▸ henter]
    · simp [henter, hleave]

theorem told_of_documented {locals : ℕ → GetBlobsLocals} (h : s.ActionsDocumented locals)
    {f j c : ℕ} (hf : f < s.length) (hc : (s.contacts f)[j]? = some c) : s.EntryTold f j c := by
  obtain ⟨rest, hcall⟩ := s.surfaceCalls_getElem? locals hf
  obtain ⟨b, hid, haction, hentry⟩ := s.entry hf hc rest
  obtain ⟨b', hb', -, hdocumented⟩ := (h.2 f _ hcall).2 j c hc
  rw [hentry] at hb'
  cases hb'
  exact (s.documented_iff hid haction).mp hdocumented

/-- **Actions are as documented** exactly in those streams in which the blob with
action 2 before an arrival, padding included, has another id, and the one before a
departure the contact's own. -/
theorem actions_documented_iff (locals : ℕ → GetBlobsLocals) :
    s.ActionsDocumented locals ↔
      ∀ f < s.length, ∀ j c, (s.contacts f)[j]? = some c → s.EntryTold f j c := by
  constructor
  · intro h f hf j c hc
    exact s.told_of_documented h hf hc
  · intro h
    refine ⟨?_, fun f r hr => ?_⟩
    · rw [surfaceCalls_frames s.frames s.frames_fit, length_frameCalls]
      simp [frames]
    · have hf : f < s.length := by
        have hlt := (List.getElem?_eq_some_iff.mp hr).1
        rw [surfaceCalls_frames s.frames s.frames_fit, length_frameCalls] at hlt
        simpa [frames] using hlt
      obtain ⟨rest, hcall⟩ := s.surfaceCalls_getElem? locals hf
      obtain rfl := Option.some.inj (hr.symm.trans hcall)
      refine ⟨?_, fun j c hc => ?_⟩
      · simp [DeviceFrame.call, (s.blobs f hf).length_eq]
      · obtain ⟨b, hid, haction, hentry⟩ := s.entry hf hc rest
        exact ⟨_, hentry, by rw [enterBlob_blobId]; exact hid,
          (s.documented_iff hid haction).mpr (h f hf j c hc)⟩

end ContactStream

/-- A finger with an action. -/
def fingerAction (blobId : UInt16) (action : UInt8) : Sur40Blob :=
  { finger blobId with action }

/-- Two fingers; the second arrives while the first is there, and the first leaves
before it. -/
def crossing : ContactStream where
  length := 3
  frame f := match f with
    | 0 => .ofChunks [fingerAction 1 2] [] (by decide) (by simp)
    | 1 => .ofChunks [fingerAction 1 3, fingerAction 2 2] [] (by decide) (by simp)
    | _ => .ofChunks [fingerAction 1 2, fingerAction 2 3] [] (by decide) (by simp)
  contacts f := match f with
    | 0 => [0]
    | _ => [0, 1]
  enter c := if c < 2 then c else c + 10
  leave c := if c < 2 then c + 2 else c + 20
  firstId := 1
  enter_mono := by
    intro c c' h
    dsimp only
    split_ifs <;> omega
  enter_lt_leave := by
    intro c
    split_ifs <;> omega
  nodup := by
    intro f hf
    interval_cases f <;> simp
  mem_contacts := by
    intro f hf c
    interval_cases f <;> grind
  close := by
    intro f hf c hc c' hc'
    interval_cases f <;> simp at hc hc' <;> omega
  blobs := by
    intro f hf
    interval_cases f <;> simp [DeviceFrame.ofChunks, fingerAction, finger]
  fits := by
    intro f hf p hp
    interval_cases f <;>
      simp [DeviceFrame.ofChunks, DeviceFrame.packets] at hp <;>
      simp [hp, TouchPacket.fits_iff, touchPacket]

/-- The first finger's departure is taken for an arrival. -/
theorem not_documented_crossing : ¬ crossing.ActionsDocumented (fun _ => ⟨[], 0⟩) := by
  intro h
  have htold : crossing.EntryTold 2 0 0 := crossing.told_of_documented h (by decide) rfl
  have hlast : crossing.lastActionTwoBefore 2 0 = 2 := by decide
  have hid : crossing.blobId 0 = 1 := by decide
  have := htold.2 rfl
  rw [hlast, hid] at this
  exact absurd this (by decide)

end Sur40
