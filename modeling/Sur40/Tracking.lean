import Sur40.BlobArray
import Sur40.TuioManager
import Mathlib.Analysis.SpecialFunctions.Sqrt
import Mathlib.Analysis.SpecialFunctions.Trigonometric.Basic

/-!
# The TUIO server's loop

`Sur40_TUIO::run` reads the contacts of a frame, enters them under their blob ids,
and lets the manager stop and remove the contacts that were not among them. A
cursor is on the list behind a frame exactly when the frame had it; an object that
still moved when it was lifted stays for one or two frames more.

## Main definitions

* `BlobRead`: what a call of `surface_get_blobs` hands to the loop.
* `processFrame`, `processedFrames`: a frame, and the frames of a run.
* `processedFrames_track`: the lists follow the frames.
-/

namespace Sur40

open Devlib

/-- A call of `surface_get_blobs`: its result, and the caller's array behind it. -/
structure BlobRead where
  result : ℤ
  blob : List SurfaceBlob
  length_eq : blob.length = blobArraySize
  result_le : result ≤ blobArraySize

namespace BlobRead

/-- The entries that the loop looks at. -/
def entries (r : BlobRead) : List SurfaceBlob := r.blob.take r.result.toNat

theorem entries_of_nonpos (r : BlobRead) (h : r.result ≤ 0) : r.entries = [] := by
  rw [entries, Int.toNat_of_nonpos h, List.take_zero]

/-- A call that returns contacts. -/
def of (blobs : List SurfaceBlob) (h : blobs.length ≤ blobArraySize) : BlobRead where
  result := blobs.length
  blob := blobs ++ List.replicate (blobArraySize - blobs.length) (finger 0).surface
  length_eq := by simp [h]
  result_le := by exact_mod_cast h

/-- A call that fails. -/
def failed (code : ℤ) (h : code < 0) : BlobRead where
  result := code
  blob := List.replicate blobArraySize (finger 0).surface
  length_eq := by simp
  result_le := by omega

end BlobRead

/-- The blob ids of the entries of one type. -/
def blobIdsOfType (type : UInt8) (blobs : List SurfaceBlob) : List ℤ :=
  (blobs.filter fun b => b.type = type).map fun b => b.blobId.toNat

@[simp] theorem blobIdsOfType_nil (type : UInt8) : blobIdsOfType type [] = [] := rfl

theorem blobIdsOfType_append (type : UInt8) (bs cs : List SurfaceBlob) :
    blobIdsOfType type (bs ++ cs) = blobIdsOfType type bs ++ blobIdsOfType type cs := by
  simp [blobIdsOfType]

theorem blobIdsOfType_cons (type : UInt8) (b : SurfaceBlob) (bs : List SurfaceBlob) :
    blobIdsOfType type (b :: bs) =
      (if b.type = type then [(b.blobId.toNat : ℤ)] else []) ++ blobIdsOfType type bs := by
  simp only [blobIdsOfType]
  by_cases h : b.type = type <;> simp [h]

section

variable {K : Type*} [Field K] [LinearOrder K] (A : Arithmetic K) (m : TuioManager K)

/-! ## The loop -/

/-- `pos_x/width` -/
def SurfaceBlob.relX (K : Type*) [Field K] (b : SurfaceBlob) : K := b.posX.toNat / 1920

/-- `pos_y/height` -/
def SurfaceBlob.relY (K : Type*) [Field K] (b : SurfaceBlob) : K := b.posY.toNat / 1080

namespace TuioManager

/-- `setSessionID` of a new object. -/
def setObjectSession (tobj : ℕ) (sId : ℤ) : TuioManager K :=
  { m with
    objectList := m.objectList.modify tobj fun o => { o with sessionId := sId }
    events := m.events ++ [.addObject sId] }

/-- `setSessionID` of a new cursor. -/
def setCursorSession (tcur : ℕ) (sId : ℤ) : TuioManager K :=
  { m with
    cursorList := m.cursorList.modify tcur fun c => { c with sessionId := sId }
    events := m.events ++ [.addCursor sId] }

/-- The body of the loop over the entries. The blob profile is off, so that a plain
blob changes nothing. -/
def processBlob (b : SurfaceBlob) : TuioManager K :=
  if b.type = 0x02 then
    match m.getTuioCursor b.blobId.toNat with
    | none =>
        let (m, tcur) := m.addTuioCursor A (b.relX K) (b.relY K)
        m.setCursorSession tcur b.blobId.toNat
    | some tcur => m.updateTuioCursor A tcur (b.relX K) (b.relY K)
  else if b.type = 0x04 then
    match m.getTuioObject b.blobId.toNat with
    | none =>
        let (m, tobj) :=
          m.addTuioObject (toInt32 b.tagId.toNat) (b.relX K) (b.relY K) (A.float b.angle)
        m.setObjectSession tobj b.blobId.toNat
    | some tobj => m.updateTuioObject A tobj (b.relX K) (b.relY K) (A.float b.angle)
  else m

/-- A frame behind the test at its start. -/
def processFrame (frameTime : TuioTime) (blobs : List SurfaceBlob) : TuioManager K :=
  let m := blobs.foldl (processBlob A) (m.initFrame frameTime)
  let m := (m.stopUntouchedMovingCursors A).removeUntouchedStoppedCursors
  let m := (m.stopUntouchedMovingObjects A).removeUntouchedStoppedObjects
  m.commitFrame

/-- `count` -/
def contactCount : ℤ := m.getTuioObjectCount + m.getTuioCursorCount

/-- The frame is skipped. -/
def skips (r : BlobRead) : Prop := r.result ≤ 0 ∧ m.contactCount ≤ 0

instance (r : BlobRead) : Decidable (m.skips r) := inferInstanceAs (Decidable (_ ∧ _))

/-- One turn of the loop; the clock is asked only if the frame is not skipped. -/
def turn (t : BlobRead × TuioTime) : TuioManager K :=
  if m.skips t.1 then m else m.processFrame A t.2 t.1.entries

section

variable {m}

omit [Field K] [LinearOrder K]

theorem contactCount_le_zero : m.contactCount ≤ 0 ↔ m.cursorList = [] ∧ m.objectList = [] := by
  simp only [contactCount, getTuioObjectCount, getTuioCursorCount, ← List.length_eq_zero_iff]
  omega

/-- A turn that is skipped has read nothing, and finds nothing on the lists. -/
theorem skips_spec {r : BlobRead} (h : m.skips r) :
    r.entries = [] ∧ m.cursorList = [] ∧ m.objectList = [] :=
  ⟨r.entries_of_nonpos h.1, contactCount_le_zero.mp h.2⟩

end

end TuioManager

/-- A processed frame. -/
structure TuioFrame (K : Type*) where
  time : TuioTime
  blobs : List SurfaceBlob
  /-- The manager behind it. -/
  after : TuioManager K

/-- At least a millisecond earlier. -/
def TuioFrame.Before {K : Type*} (f g : TuioFrame K) : Prop := f.time.Before g.time

instance {K : Type*} : Trans (TuioFrame.Before (K := K)) (TuioFrame.Before (K := K))
    (TuioFrame.Before (K := K)) :=
  ⟨TuioTime.Before.trans⟩

/-- The frames that the loop has processed behind a number of turns. -/
def processedFrames : TuioManager K → List (BlobRead × TuioTime) → List (TuioFrame K)
  | _, [] => []
  | m, t :: ts =>
      if m.skips t.1 then processedFrames m ts
      else ⟨t.2, t.1.entries, m.processFrame A t.2 t.1.entries⟩ ::
        processedFrames (m.processFrame A t.2 t.1.entries) ts

/-! ## The entries of a frame -/

namespace TuioManager

variable {A m}

/-- A finger touches the cursor of its blob id. -/
theorem processBlob_finger {b : SurfaceBlob} (hb : b.type = 0x02) :
    ∃ f : TuioCursor K → TuioCursor K, ∃ a : TuioCursor K,
      (∀ c, (f c).sessionId = c.sessionId ∧ (f c).toTuioPoint =
        c.toTuioPoint.update m.currentFrameTime (b.relX K) (b.relY K)) ∧
      (a.sessionId = b.blobId.toNat ∧
        a.toTuioPoint = .new m.currentFrameTime (b.relX K) (b.relY K)) ∧
      (m.processBlob A b).cursorList =
        KeyedList.touch (fun c => c.sessionId) (b.blobId.toNat : ℤ) f a m.cursorList ∧
      (m.processBlob A b).objectList = m.objectList ∧
      (m.processBlob A b).currentFrameTime = m.currentFrameTime := by
  obtain ⟨hpos, ⟨ci, hlist⟩, hobjects, htime, -⟩ :=
    addTuioCursor_spec (A := A) (m := m) (b.relX K) (b.relY K)
  refine ⟨fun c => { c with
      toTuioContainer := c.toTuioContainer.update A m.currentFrameTime (b.relX K) (b.relY K) },
    { TuioCursor.new m.currentFrameTime (m.sessionID + 1) ci (b.relX K) (b.relY K) with
      sessionId := b.blobId.toNat },
    fun c => by simp, ⟨rfl, rfl⟩, ?_⟩
  cases hfind : m.getTuioCursor b.blobId.toNat with
  | none =>
      have hadd : m.processBlob A b = (m.addTuioCursor A (b.relX K) (b.relY K)).1.setCursorSession
          m.cursorList.length b.blobId.toNat := by simp [processBlob, hb, hfind, hpos]
      rw [KeyedList.touch_of_position_eq_none _ _ hfind, hadd]
      refine ⟨?_, hobjects, htime⟩
      simp only [setCursorSession, hlist]
      exact KeyedList.modify_append _
  | some tcur =>
      have hupdate : m.processBlob A b = m.updateTuioCursor A tcur (b.relX K) (b.relY K) := by
        simp [processBlob, hb, hfind]
      rw [KeyedList.touch_of_position_eq_some _ _ hfind, hupdate]
      exact ⟨rfl, rfl, rfl⟩

/-- A tag touches the object of its blob id, once in a frame. -/
theorem processBlob_tag {b : SurfaceBlob} (hb : b.type = 0x04) :
    ∃ f : TuioObject K → TuioObject K, ∃ a : TuioObject K,
      (∀ o, (f o).sessionId = o.sessionId ∧
        (f o).toTuioPoint = (if o.currentTime = m.currentFrameTime then o.toTuioPoint
          else o.toTuioPoint.update m.currentFrameTime (b.relX K) (b.relY K)) ∧
        (o.Settled → (f o).Settled)) ∧
      (a.sessionId = b.blobId.toNat ∧
        a.toTuioPoint = .new m.currentFrameTime (b.relX K) (b.relY K) ∧ a.Settled) ∧
      (m.processBlob A b).objectList =
        KeyedList.touch (fun o => o.sessionId) (b.blobId.toNat : ℤ) f a m.objectList ∧
      (m.processBlob A b).cursorList = m.cursorList ∧
      (m.processBlob A b).currentFrameTime = m.currentFrameTime := by
  have hne : ¬ b.type = 0x02 := by rw [hb]; decide
  refine ⟨fun o => if o.currentTime = m.currentFrameTime then o
      else o.update A m.currentFrameTime (b.relX K) (b.relY K) (A.float b.angle),
    { TuioObject.new m.currentFrameTime (m.sessionID + 1) (toInt32 b.tagId.toNat) (b.relX K)
        (b.relY K) (A.float b.angle) with
      sessionId := b.blobId.toNat }, ?_, ⟨rfl, rfl, TuioContainer.settled_new _ _ _ _⟩, ?_⟩
  · intro o
    by_cases htime : o.currentTime = m.currentFrameTime
    · simp [htime]
    · simp [htime, TuioObject.settled_update]
  · cases hfind : m.getTuioObject b.blobId.toNat with
    | none =>
        rw [KeyedList.touch_of_position_eq_none _ _ hfind]
        simp only [processBlob, hb, hfind, setObjectSession, addTuioObject]
        exact ⟨KeyedList.modify_append _, rfl, rfl⟩
    | some tobj =>
        obtain ⟨hlist, hcursors, htime, -⟩ :=
          updateTuioObject_spec (A := A) (m := m) tobj (b.relX K) (b.relY K) (A.float b.angle)
        rw [KeyedList.touch_of_position_eq_some _ _ hfind]
        simp only [processBlob, hb, hfind]
        exact ⟨hlist, hcursors, htime⟩

theorem processBlob_other {b : SurfaceBlob} (hfinger : b.type ≠ 0x02) (htag : b.type ≠ 0x04) :
    m.processBlob A b = m := by
  simp [processBlob, hfinger, htag]

/-- The lists while the entries of a frame come in. -/
structure Entered (m : TuioManager K) (blobs : List SurfaceBlob) (m' : TuioManager K) : Prop where
  time : m'.currentFrameTime = m.currentFrameTime
  cursors : KeyedList.TouchedBy (fun c : TuioCursor K => c.sessionId)
    (fun c => c.currentTime = m.currentFrameTime) (blobIdsOfType 0x02 blobs)
    m.cursorList m'.cursorList
  objects : KeyedList.TouchedBy (fun o : TuioObject K => o.sessionId)
    (fun o => o.currentTime = m.currentFrameTime) (blobIdsOfType 0x04 blobs)
    m.objectList m'.objectList
  settled : ∀ o ∈ m'.objectList, o.Settled

theorem Entered.processBlob {m' : TuioManager K} {blobs : List SurfaceBlob}
    (h : Entered m blobs m') (b : SurfaceBlob) :
    Entered m (blobs ++ [b]) (m'.processBlob A b) := by
  by_cases hfinger : b.type = 0x02
  · obtain ⟨f, a, hf, ha, hlist, hobjects, htime⟩ := processBlob_finger (A := A) (m := m') hfinger
    simp only [h.time] at hf ha
    have hnow (c : TuioCursor K) : (f c).currentTime = m.currentFrameTime := by
      rw [(hf c).2, TuioPoint.update_currentTime]
    have hnew : a.currentTime = m.currentFrameTime := by rw [ha.2, TuioPoint.new]
    constructor
    · rw [htime, h.time]
    · rw [hlist, blobIdsOfType_append, blobIdsOfType_cons, if_pos hfinger]
      exact h.cursors.touch (fun c hc => ⟨(hf c).1.trans hc, hnow c⟩) ⟨ha.1, hnew⟩
    · rw [hobjects, blobIdsOfType_append, blobIdsOfType_cons, hfinger]
      simpa using h.objects
    · rw [hobjects]
      exact h.settled
  · by_cases htag : b.type = 0x04
    · obtain ⟨f, a, hf, ha, hlist, hcursors, htime⟩ := processBlob_tag (A := A) (m := m') htag
      simp only [h.time] at hf ha
      have hnow (o : TuioObject K) : (f o).currentTime = m.currentFrameTime := by
        rw [(hf o).2.1]
        split_ifs with htime
        · exact htime
        · exact TuioPoint.update_currentTime _ _ _ _
      have hnew : a.currentTime = m.currentFrameTime := by rw [ha.2.1, TuioPoint.new]
      constructor
      · rw [htime, h.time]
      · rw [hcursors, blobIdsOfType_append, blobIdsOfType_cons, htag]
        simpa using h.cursors
      · rw [hlist, blobIdsOfType_append, blobIdsOfType_cons, if_pos htag]
        exact h.objects.touch (fun o ho => ⟨(hf o).1.trans ho, hnow o⟩) ⟨ha.1, hnew⟩
      · intro o ho
        rw [hlist] at ho
        rcases KeyedList.mem_of_mem_touch ho with ho | rfl | ⟨o', ho', -, rfl⟩
        · exact h.settled o ho
        · exact ha.2.2
        · exact (hf o').2.2 (h.settled o' ho')
    · rw [processBlob_other hfinger htag]
      constructor
      · exact h.time
      · rw [blobIdsOfType_append, blobIdsOfType_cons, if_neg hfinger]
        simpa using h.cursors
      · rw [blobIdsOfType_append, blobIdsOfType_cons, if_neg htag]
        simpa using h.objects
      · exact h.settled

theorem Entered.foldl {m' : TuioManager K} {blobs : List SurfaceBlob} (h : Entered m blobs m')
    (bs : List SurfaceBlob) :
    Entered m (blobs ++ bs) (bs.foldl (TuioManager.processBlob A) m') := by
  induction bs generalizing blobs m' with
  | nil => simpa using h
  | cons b bs ih => simpa using ih (h.processBlob b)

/-! ## A frame -/

/-- Between two frames. -/
structure Steady (m : TuioManager K) : Prop where
  cursors_nodup : m.cursorIds.Nodup
  objects_nodup : m.objectIds.Nodup
  cursors_time : ∀ c ∈ m.cursorList, c.currentTime = m.currentFrameTime
  objects_time : ∀ o ∈ m.objectList, o.currentTime = m.currentFrameTime
  settled : ∀ o ∈ m.objectList, o.Settled

omit [Field K] [LinearOrder K] in
theorem steady_new (systemTime : TuioTime) : (new systemTime : TuioManager K).Steady := by
  constructor <;> simp [new, cursorIds, objectIds]

/-- Every contact on the list was there at least a millisecond before. -/
def ContactsBefore (m : TuioManager K) (frameTime : TuioTime) : Prop :=
  m.cursorList ≠ [] ∨ m.objectList ≠ [] → m.currentFrameTime.Before frameTime

/-- The lists behind a frame with the entries `blobs`: the cursors are the fingers of the
frame, the tags of the frame are among the objects, and no contact is there twice. -/
structure Tracks (m : TuioManager K) (blobs : List SurfaceBlob) : Prop where
  cursors_nodup : m.cursorIds.Nodup
  cursors_iff : ∀ id, id ∈ m.cursorIds ↔ id ∈ blobIdsOfType 0x02 blobs
  objects_nodup : m.objectIds.Nodup
  objects : ∀ id ∈ blobIdsOfType 0x04 blobs, id ∈ m.objectIds

omit [Field K] [LinearOrder K] in
theorem Steady.cursor_before (h : m.Steady) {frameTime : TuioTime}
    (hbefore : m.ContactsBefore frameTime) {c : TuioCursor K} (hc : c ∈ m.cursorList) :
    c.currentTime.Before frameTime := by
  rw [h.cursors_time c hc]
  exact hbefore (.inl (List.ne_nil_of_mem hc))

omit [Field K] [LinearOrder K] in
theorem Steady.object_before (h : m.Steady) {frameTime : TuioTime}
    (hbefore : m.ContactsBefore frameTime) {o : TuioObject K} (ho : o ∈ m.objectList) :
    o.currentTime.Before frameTime := by
  rw [h.objects_time o ho]
  exact hbefore (.inr (List.ne_nil_of_mem ho))

section

variable {frameTime : TuioTime} (blobs : List SurfaceBlob)

/-- The manager behind the entries of a frame. -/
theorem Steady.entered (h : m.Steady) (hbefore : m.ContactsBefore frameTime) :
    Entered (m.initFrame frameTime) blobs
      (blobs.foldl (TuioManager.processBlob A) (m.initFrame frameTime)) := by
  have hstart : Entered (m.initFrame frameTime) [] (m.initFrame frameTime) := by
    constructor
    · rfl
    · exact .nil h.cursors_nodup fun c hc => (h.cursor_before hbefore hc).ne
    · exact .nil h.objects_nodup fun o ho => (h.object_before hbefore ho).ne
    · exact h.settled
  simpa using hstart.foldl blobs

/-- What a frame does to the lists, in terms of the manager behind its entries. -/
theorem processFrame_spec {m' : TuioManager K}
    (hm' : blobs.foldl (TuioManager.processBlob A) (m.initFrame frameTime) = m')
    (htime : m'.currentFrameTime = frameTime) :
    (m.processFrame A frameTime blobs).currentFrameTime = frameTime ∧
    (m.processFrame A frameTime blobs).cursorList =
        m'.cursorList.filter (fun c => c.currentTime = frameTime) ∧
      (m.processFrame A frameTime blobs).objectList =
        (m'.objectList.filter (fun o => !objectLeft frameTime o)).map (stopObject A frameTime) ∧
      (m.processFrame A frameTime blobs).events = m'.events ++
        (m'.cursorList.filter (fun c => c.currentTime ≠ frameTime)).map
          (fun c => .removeCursor c.sessionId) ++
        (m'.objectList.filter (objectLeft frameTime)).map (fun o => .removeObject o.sessionId) := by
  obtain ⟨hcursors, hobjects, htimec, hevents⟩ := passCursors_spec A m'
  obtain ⟨hobjects', hcursors', htimeo, hevents'⟩ := passObjects_spec A
    (m'.stopUntouchedMovingCursors A).removeUntouchedStoppedCursors
  simp only [htimec, htime, hcursors, hobjects, hevents] at hobjects' hcursors' hevents' htimeo
  simp only [processFrame, hm', commitFrame]
  exact ⟨htimeo, hcursors', hobjects', hevents'⟩

omit [Field K] [LinearOrder K] in
/-- The cursors that a frame has touched are its fingers. -/
theorem Entered.mem_cursors_left {m' : TuioManager K} {blobs : List SurfaceBlob}
    (h : Entered (m.initFrame frameTime) blobs m') (id : ℤ) :
    id ∈ (m'.cursorList.filter fun c => c.currentTime = frameTime).map (fun c => c.sessionId) ↔
      id ∈ blobIdsOfType 0x02 blobs := by
  constructor
  · intro hid
    obtain ⟨c, hc, rfl⟩ := List.mem_map.mp hid
    obtain ⟨hc, hnow⟩ := List.mem_filter.mp hc
    exact (h.cursors.marked_iff c hc).mp (of_decide_eq_true hnow)
  · intro hid
    obtain ⟨c, hc, rfl⟩ := List.mem_map.mp (h.cursors.entered id hid)
    have hnow : c.currentTime = frameTime := (h.cursors.marked_iff c hc).mpr hid
    exact List.mem_map_of_mem (List.mem_filter.mpr ⟨hc, decide_eq_true hnow⟩)

/-- An object that stays is as the next frame needs it. -/
theorem Entered.stopObject_ready {m' : TuioManager K} {blobs : List SurfaceBlob}
    (h : Entered (m.initFrame frameTime) blobs m') {o : TuioObject K} (ho : o ∈ m'.objectList)
    (hstays : objectLeft frameTime o = false) :
    (stopObject A frameTime o).currentTime = frameTime ∧ (stopObject A frameTime o).Settled := by
  rcases stopObject_of_stays A hstays with ⟨hnow, hstop⟩ | ⟨-, hstop⟩
  · rw [hstop]
    exact ⟨hnow, h.settled o ho⟩
  · rw [hstop]
    exact ⟨by simp [TuioObject.stop], TuioObject.settled_update A o _ _ _ _⟩

variable [IsStrictOrderedRing K]

/-- A frame without the object costs it one frame of its patience. -/
theorem Steady.patience_stopObject (h : m.Steady) (hbefore : m.ContactsBefore frameTime)
    {o : TuioObject K} (ho : o ∈ m.objectList) (hstays : objectLeft frameTime o = false) :
    (stopObject A frameTime o).patience + 1 = o.patience := by
  have hearlier := h.object_before hbefore ho
  rcases stopObject_of_stays A hstays with ⟨hnow, -⟩ | ⟨hmoving, hstop⟩
  · exact absurd hnow hearlier.ne
  · rw [hstop]
    exact TuioObject.patience_stop A (h.settled o ho) hearlier hmoving

/-- What becomes of an object that a frame did not have. -/
def Rests (m m' : TuioManager K) (blobs : List SurfaceBlob) : Prop :=
  ∀ o' ∈ m'.objectList, o'.sessionId ∉ blobIdsOfType 0x04 blobs →
    ∃ o ∈ m.objectList, o.sessionId = o'.sessionId ∧ o.patience = o'.patience + 1

/-- A frame behind the other frames. -/
theorem Steady.processFrame (h : m.Steady) (hbefore : m.ContactsBefore frameTime) :
    (m.processFrame A frameTime blobs).Steady ∧
      (m.processFrame A frameTime blobs).currentFrameTime = frameTime ∧
      (m.processFrame A frameTime blobs).Tracks blobs ∧
      Rests m (m.processFrame A frameTime blobs) blobs := by
  have hentered := h.entered (A := A) blobs hbefore
  generalize hm' : blobs.foldl (TuioManager.processBlob A) (m.initFrame frameTime) = m'
    at hentered
  obtain ⟨htime, hcursors, hobjects, -⟩ := processFrame_spec blobs hm' hentered.time
  have hids : (m.processFrame A frameTime blobs).objectIds =
      (m'.objectList.filter fun o => !objectLeft frameTime o).map fun o => o.sessionId := by
    simp [objectIds, hobjects, Function.comp_def]
  -- where an object behind the frame comes from
  have hfrom : ∀ o' ∈ (m.processFrame A frameTime blobs).objectList, ∃ o ∈ m'.objectList,
      o' = stopObject A frameTime o ∧ objectLeft frameTime o = false := by
    intro o' ho'
    rw [hobjects] at ho'
    obtain ⟨o, ho, rfl⟩ := List.mem_map.mp ho'
    obtain ⟨ho, hkept⟩ := List.mem_filter.mp ho
    exact ⟨o, ho, rfl, by simpa using hkept⟩
  have hcursors_nodup : (m.processFrame A frameTime blobs).cursorIds.Nodup := by
    rw [cursorIds, hcursors]
    exact (List.filter_sublist.map _).nodup hentered.cursors.nodup
  have hobjects_nodup : (m.processFrame A frameTime blobs).objectIds.Nodup := by
    rw [hids]
    exact (List.filter_sublist.map _).nodup hentered.objects.nodup
  refine ⟨⟨hcursors_nodup, hobjects_nodup, ?_, ?_, ?_⟩, htime,
    ⟨hcursors_nodup, ?_, hobjects_nodup, ?_⟩, ?_⟩
  · intro c hc
    rw [hcursors] at hc
    rw [htime]
    simpa using (List.mem_filter.mp hc).2
  · intro o' ho'
    obtain ⟨o, ho, rfl, hstays⟩ := hfrom o' ho'
    rw [htime]
    exact (hentered.stopObject_ready ho hstays).1
  · intro o' ho'
    obtain ⟨o, ho, rfl, hstays⟩ := hfrom o' ho'
    exact (hentered.stopObject_ready ho hstays).2
  · intro id
    rw [cursorIds, hcursors]
    exact hentered.mem_cursors_left id
  · intro id hid
    obtain ⟨o, ho, rfl⟩ := List.mem_map.mp (hentered.objects.entered id hid)
    have hnow : o.currentTime = frameTime := (hentered.objects.marked_iff o ho).mpr hid
    rw [hids]
    exact List.mem_map_of_mem (List.mem_filter.mpr ⟨ho, by simp [objectLeft, hnow]⟩)
  · intro o' ho' hid
    obtain ⟨o, ho, rfl, hstays⟩ := hfrom o' ho'
    rw [stopObject_sessionId] at hid
    have hold : o ∈ m.objectList := (hentered.objects.others o hid).mp ho
    exact ⟨o, hold, by simp, (h.patience_stopObject hbefore hold hstays).symm⟩

end

end TuioManager

/-! ## The frames of a run -/

section

variable [IsStrictOrderedRing K] {m : TuioManager K}

open TuioManager (Rests)

/-- **The lists follow the frames**: each of them is right behind its frame, and the
objects a frame did not have were on the list behind the frame before. -/
theorem processedFrames_track (ts : List (BlobRead × TuioTime)) (hm : m.Steady)
    (hbefore : ∀ f ∈ processedFrames A m ts, m.ContactsBefore f.time)
    (htimes : (processedFrames A m ts).Pairwise TuioFrame.Before) :
    (∀ f ∈ processedFrames A m ts, f.after.Tracks f.blobs ∧
      ∃ before : TuioManager K, Rests before f.after f.blobs) ∧
    (∀ f ∈ (processedFrames A m ts).head?, Rests m f.after f.blobs) ∧
    (processedFrames A m ts).IsChain fun f g => Rests f.after g.after g.blobs := by
  induction ts generalizing m with
  | nil => simp [processedFrames]
  | cons t ts ih =>
      by_cases hskips : m.skips t.1
      · simp only [processedFrames, hskips, if_true] at *
        exact ih hm hbefore htimes
      · simp only [processedFrames, hskips, if_false, List.mem_cons, forall_eq_or_imp,
          List.pairwise_cons] at *
        obtain ⟨hsteady, htime, htracks, hrests⟩ :=
          hm.processFrame (A := A) t.1.entries hbefore.1
        have hlater : ∀ f ∈ processedFrames A (m.processFrame A t.2 t.1.entries) ts,
            (m.processFrame A t.2 t.1.entries).ContactsBefore f.time := by
          intro f hf _
          rw [htime]
          exact htimes.1 f hf
        obtain ⟨hall, hhead, hchain⟩ := ih hsteady hlater htimes.2
        refine ⟨⟨⟨htracks, m, hrests⟩, hall⟩, by simpa using hrests, ?_⟩
        exact List.isChain_cons.mpr ⟨hhead, hchain⟩

/-- **The server tracks the contacts on the table**: no contact is lost, doubled or kept
on the list, an object at the latest in the third frame without it. A turn whose frame is not
processed has read nothing and finds nothing on the lists (`TuioManager.skips_spec`). -/
theorem run_tracks_contacts (systemTime : TuioTime) (ts : List (BlobRead × TuioTime))
    (htimes : (processedFrames A (.new systemTime) ts).IsChain TuioFrame.Before) :
    (∀ f ∈ processedFrames A (.new systemTime) ts, f.after.Tracks f.blobs) ∧
    ∀ f g h, [f, g, h] <:+: processedFrames A (.new systemTime) ts →
      ∀ id, id ∉ blobIdsOfType 0x04 f.blobs → id ∉ blobIdsOfType 0x04 g.blobs →
        id ∉ blobIdsOfType 0x04 h.blobs → id ∉ h.after.objectIds := by
  have hbefore : ∀ f ∈ processedFrames A (.new systemTime) ts,
      (TuioManager.new systemTime : TuioManager K).ContactsBefore f.time := by
    intro f _ h
    simp [TuioManager.new] at h
  obtain ⟨hall, -, hchain⟩ := processedFrames_track A ts (TuioManager.steady_new systemTime)
    hbefore (List.isChain_iff_pairwise.mp htimes)
  refine ⟨fun f hf => (hall f hf).1, ?_⟩
  · intro f g h hin id hf hg hh hid
    obtain ⟨-, before, hrests⟩ := hall f (hin.subset (by simp))
    obtain ⟨hfg, hgh⟩ : Rests f.after g.after g.blobs ∧ Rests g.after h.after h.blobs := by
      obtain ⟨s, t, heq⟩ := hin
      rw [← heq] at hchain
      simpa using hchain.left_of_append.right_of_append
    -- the object has three frames of patience in front of the first of them
    obtain ⟨o₃, ho₃, rfl⟩ := List.mem_map.mp hid
    obtain ⟨o₂, ho₂, hid₂, hpatience₂⟩ := hgh o₃ ho₃ hh
    obtain ⟨o₁, ho₁, hid₁, hpatience₁⟩ := hfg o₂ ho₂ (hid₂ ▸ hg)
    obtain ⟨o₀, ho₀, -, hpatience₀⟩ := hrests o₁ ho₁ (by rwa [hid₁, hid₂])
    have hle := o₀.patience_le
    omega

end

/-! ## Real numbers -/

/-- Exact arithmetic. -/
noncomputable def Arithmetic.real (float : UInt32 → ℝ) : Arithmetic ℝ where
  sqrt := Real.sqrt
  sqrt_zero := Real.sqrt_zero
  pi := Real.pi
  pi_pos := Real.pi_pos
  float := float

/-- A clock that increases from turn to turn is more than the frames need. -/
theorem processedFrames_isChain {m : TuioManager K} {ts : List (BlobRead × TuioTime)}
    (h : ts.Pairwise fun t u => t.2.Before u.2) :
    (processedFrames A m ts).IsChain TuioFrame.Before := by
  have hsub : ((processedFrames A m ts).map fun f => f.time).Sublist (ts.map Prod.snd) := by
    induction ts generalizing m with
    | nil => simp [processedFrames]
    | cons t ts ih =>
        simp only [processedFrames]
        split
        · exact (ih h.tail).cons _
        · simpa using ih h.tail
  exact ((List.pairwise_map.mp ((List.pairwise_map.mpr h).sublist hsub))).isChain

/-- A turn that has read something is processed. -/
theorem processedFrames_blobs {m : TuioManager K} {ts : List (BlobRead × TuioTime)}
    (h : ∀ t ∈ ts, 0 < t.1.result) :
    (processedFrames A m ts).map (fun f => f.blobs) = ts.map fun t => t.1.entries := by
  induction ts generalizing m with
  | nil => rfl
  | cons t ts ih =>
      rw [List.forall_mem_cons] at h
      have hreads : ¬m.skips t.1 := fun hskips => not_le.mpr h.1 hskips.1
      rw [processedFrames, if_neg hreads, List.map_cons, List.map_cons, ih h.2]

def tagAt (posX : UInt16) : SurfaceBlob := { (finger 9).surface with type := 0x04, posX := posX }

/-- A tag beside a finger. -/
def fingerAndTag (posX : UInt16) : BlobRead :=
  .of [(finger 7).surface, tagAt posX] (Nat.le_add_left 2 254)

/-- A finger that stays where it is. -/
def fingerAlone : BlobRead := .of [(finger 7).surface] (by decide)

/-- The tag is moved, and then lifted. -/
def movingTag : List (BlobRead × TuioTime) :=
  [(fingerAndTag 100, .ofMsec 0), (fingerAndTag 300, .ofMsec 1), (fingerAlone, .ofMsec 2),
    (fingerAlone, .ofMsec 3), (fingerAlone, .ofMsec 4)]

theorem run_tracks_movingTag :
    ((processedFrames (.real fun _ => 0) (.new (.ofMsec 0)) movingTag).map (fun f => f.blobs) =
      movingTag.map fun t => t.1.entries) ∧
    (∀ f ∈ processedFrames (.real fun _ => 0) (.new (.ofMsec 0)) movingTag,
      f.after.Tracks f.blobs) ∧
    ∀ f g h, [f, g, h] <:+: processedFrames (.real fun _ => 0) (.new (.ofMsec 0)) movingTag →
      ∀ id, id ∉ blobIdsOfType 0x04 f.blobs → id ∉ blobIdsOfType 0x04 g.blobs →
        id ∉ blobIdsOfType 0x04 h.blobs → id ∉ h.after.objectIds :=
  ⟨processedFrames_blobs _ (by decide), run_tracks_contacts (.real fun _ => 0) (.ofMsec 0)
    movingTag (processedFrames_isChain _ (by decide))⟩

end

end Sur40
