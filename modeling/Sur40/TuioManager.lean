import Sur40.Lib.KeyedList
import Sur40.TuioContacts

/-!
# The contact lists of the TUIO library

The manager keeps a list of cursors and one of objects, and the cursors whose
number can be given out again. A pointer into a list is a position in it. Nothing
listens to the manager in this server; the calls a listener would get when a
contact comes or goes are recorded.

## Main definitions

* `TuioManager.addTuioCursor`, `updateTuioCursor`, `removeTuioCursor`, and the same
  for objects: the operations.
* `stopUntouchedMovingCursors`, `removeUntouchedStoppedCursors`, and the same for
  objects: the passes at the end of a frame.
* `removeUntouchedStoppedCursors_cursorList`: what the removal leaves.
-/

namespace Sur40

open Devlib

/-- A contact comes or goes. -/
inductive TuioEvent where
  | addCursor (sId : ℤ)
  | removeCursor (sId : ℤ)
  | addObject (sId : ℤ)
  | removeObject (sId : ℤ)
  deriving DecidableEq

structure TuioManager (K : Type*) where
  objectList : List (TuioObject K)
  cursorList : List (TuioCursor K)
  freeCursorList : List (TuioCursor K)
  currentFrameTime : TuioTime
  currentFrame : ℤ
  maxCursorID : ℤ
  sessionID : ℤ
  updateObject : Bool
  updateCursor : Bool
  /-- What happened to the contacts in the frame. -/
  events : List TuioEvent

namespace TuioManager

/-- The constructor. -/
def new {K : Type*} (systemTime : TuioTime) : TuioManager K :=
  { objectList := [], cursorList := [], freeCursorList := [], currentFrameTime := systemTime,
    currentFrame := -1, maxCursorID := -1, sessionID := -1, updateObject := false,
    updateCursor := false, events := [] }

section

variable {K : Type*} (m : TuioManager K)

def initFrame (ttime : TuioTime) : TuioManager K :=
  { m with currentFrameTime := ttime, currentFrame := m.currentFrame + 1, events := [] }

/-- The messages are sent and the flags are cleared. -/
def commitFrame : TuioManager K := { m with updateObject := false, updateCursor := false }

def getTuioObjectCount : ℤ := m.objectList.length

def getTuioCursorCount : ℤ := m.cursorList.length

def getTuioObject (sId : ℤ) : Option ℕ :=
  KeyedList.position (fun o : TuioObject K => o.sessionId) sId m.objectList

def getTuioCursor (sId : ℤ) : Option ℕ :=
  KeyedList.position (fun c : TuioCursor K => c.sessionId) sId m.cursorList

def objectIds : List ℤ := m.objectList.map fun o => o.sessionId

def cursorIds : List ℤ := m.cursorList.map fun c => c.sessionId

end

variable {K : Type*} [Field K] [LinearOrder K] (A : Arithmetic K) (m : TuioManager K)

/-! ## Objects -/

/-- The second component points to the object. -/
def addTuioObject (fId : ℤ) (x y a : K) : TuioManager K × ℕ :=
  let m := { m with sessionID := m.sessionID + 1 }
  let tobj := TuioObject.new m.currentFrameTime m.sessionID fId x y a
  ({ m with objectList := m.objectList ++ [tobj], updateObject := true }, m.objectList.length)

def updateTuioObject (tobj : ℕ) (x y a : K) : TuioManager K :=
  match m.objectList[tobj]? with
  | none => m
  | some o =>
      if o.currentTime = m.currentFrameTime then m
      else
        { m with
          objectList := m.objectList.modify tobj fun o => o.update A m.currentFrameTime x y a
          updateObject := true }

def removeTuioObject (tobj : ℕ) : TuioManager K :=
  match m.objectList[tobj]? with
  | none => m
  | some o =>
      { m with
        objectList := m.objectList.eraseIdx tobj
        updateObject := true
        events := m.events ++ [.removeObject o.sessionId] }

/-! ## Cursors -/

/-- The closest of the free cursors, the first one among equals. -/
def closestCursor (x y : K) : List (TuioCursor K) → Option (TuioCursor K × ℕ)
  | [] => none
  | c :: cs =>
      some (((c :: cs).zipIdx).foldl
        (fun closest iter =>
          if iter.1.getDistance A x y < closest.1.getDistance A x y then iter else closest)
        (c, 0))

/-- The second component points to the cursor. -/
def addTuioCursor (x y : K) : TuioManager K × ℕ :=
  let m := { m with sessionID := m.sessionID + 1 }
  let size : ℤ := m.cursorList.length
  let (cursorID, m) :=
    if size ≤ m.maxCursorID then
      match closestCursor A x y m.freeCursorList with
      | some (freeCursor, i) =>
          (freeCursor.cursorId, { m with freeCursorList := m.freeCursorList.eraseIdx i })
      | none => (m.maxCursorID + 1, { m with maxCursorID := m.maxCursorID + 1 })
    else (size, { m with maxCursorID := size })
  let tcur := TuioCursor.new m.currentFrameTime m.sessionID cursorID x y
  ({ m with cursorList := m.cursorList ++ [tcur], updateCursor := true }, m.cursorList.length)

def updateTuioCursor (tcur : ℕ) (x y : K) : TuioManager K :=
  { m with
    cursorList := m.cursorList.modify tcur fun c =>
      { c with toTuioContainer := c.toTuioContainer.update A m.currentFrameTime x y }
    updateCursor := true }

/-- The largest number in use. -/
def maxID (cs : List (TuioCursor K)) : ℤ :=
  cs.foldl (fun maxCursorID c => if c.cursorId > maxCursorID then c.cursorId else maxCursorID) (-1)

def removeTuioCursor (tcur : ℕ) : TuioManager K :=
  match m.cursorList[tcur]? with
  | none => m
  | some c =>
      let m := { m with
        cursorList := m.cursorList.eraseIdx tcur
        updateCursor := true
        events := m.events ++ [.removeCursor c.sessionId] }
      let c := { c with toTuioContainer := c.toTuioContainer.remove m.currentFrameTime }
      if c.cursorId = m.maxCursorID then
        if 0 < m.cursorList.length then
          { m with
            maxCursorID := maxID m.cursorList
            freeCursorList := m.freeCursorList.filter fun f => f.cursorId ≤ maxID m.cursorList }
        else { m with maxCursorID := -1, freeCursorList := [] }
      else if c.cursorId < m.maxCursorID then
        { m with freeCursorList := m.freeCursorList ++ [c] }
      else m

/-! ## The end of a frame -/

/-- The contact was not touched in the frame and is at rest. -/
def cursorLeft (frameTime : TuioTime) (c : TuioCursor K) : Bool :=
  decide (c.currentTime ≠ frameTime) && !c.isMoving

def objectLeft (frameTime : TuioTime) (o : TuioObject K) : Bool :=
  decide (o.currentTime ≠ frameTime) && !o.isMoving

/-- The contact was not touched in the frame and moves. -/
def cursorSlips (frameTime : TuioTime) (c : TuioCursor K) : Bool :=
  decide (c.currentTime ≠ frameTime) && c.isMoving

def objectSlips (frameTime : TuioTime) (o : TuioObject K) : Bool :=
  decide (o.currentTime ≠ frameTime) && o.isMoving

def stopCursor (frameTime : TuioTime) (c : TuioCursor K) : TuioCursor K :=
  if cursorSlips frameTime c then
    { c with toTuioContainer := c.toTuioContainer.stop A frameTime }
  else c

def stopObject (frameTime : TuioTime) (o : TuioObject K) : TuioObject K :=
  if objectSlips frameTime o then o.stop A frameTime else o

def stopUntouchedMovingCursors : TuioManager K :=
  { m with
    cursorList := m.cursorList.map (stopCursor A m.currentFrameTime)
    updateCursor := m.updateCursor || m.cursorList.any (cursorSlips m.currentFrameTime) }

def stopUntouchedMovingObjects : TuioManager K :=
  { m with
    objectList := m.objectList.map (stopObject A m.currentFrameTime)
    updateObject := m.updateObject || m.objectList.any (objectSlips m.currentFrameTime) }

/-- The loop starts over at the front behind every removal. -/
def removeUntouchedStoppedCursors : TuioManager K :=
  KeyedList.sweep (fun m : TuioManager K => m.cursorList) (fun m => cursorLeft m.currentFrameTime)
    (fun tcur m => m.removeTuioCursor tcur) m.cursorList.length m

/-- The loop starts over at the front behind every removal. -/
def removeUntouchedStoppedObjects : TuioManager K :=
  KeyedList.sweep (fun m : TuioManager K => m.objectList) (fun m => objectLeft m.currentFrameTime)
    (fun tobj m => m.removeTuioObject tobj) m.objectList.length m

/-! ## What the operations do to the lists -/

section

variable {A m}

/-- An object is updated once in a frame. -/
theorem updateTuioObject_spec (tobj : ℕ) (x y a : K) :
    (m.updateTuioObject A tobj x y a).objectList = (m.objectList.modify tobj fun o =>
        if o.currentTime = m.currentFrameTime then o else o.update A m.currentFrameTime x y a) ∧
      (m.updateTuioObject A tobj x y a).cursorList = m.cursorList ∧
      (m.updateTuioObject A tobj x y a).currentFrameTime = m.currentFrameTime ∧
      (m.updateTuioObject A tobj x y a).events = m.events := by
  rw [updateTuioObject]
  cases hobj : m.objectList[tobj]? with
  | none =>
      have hself (f : TuioObject K → TuioObject K) : m.objectList.modify tobj f = m.objectList :=
        List.modify_eq_self (by simpa using hobj)
      simp [hself]
  | some o =>
      have hset := KeyedList.modify_eq_set hobj
      by_cases htime : o.currentTime = m.currentFrameTime
      · have hsame : m.objectList.set tobj o = m.objectList := by
          obtain ⟨hlt, rfl⟩ := List.getElem?_eq_some_iff.mp hobj
          exact List.set_getElem_self hlt
        simp [htime, hset, hsame]
      · simp [htime, hset]

theorem addTuioCursor_spec (x y : K) :
    (m.addTuioCursor A x y).2 = m.cursorList.length ∧
      (∃ ci, (m.addTuioCursor A x y).1.cursorList =
        m.cursorList ++ [.new m.currentFrameTime (m.sessionID + 1) ci x y]) ∧
      (m.addTuioCursor A x y).1.objectList = m.objectList ∧
      (m.addTuioCursor A x y).1.currentFrameTime = m.currentFrameTime ∧
      (m.addTuioCursor A x y).1.events = m.events := by
  rw [addTuioCursor]
  dsimp only
  split_ifs
  · split
    · exact ⟨rfl, ⟨_, rfl⟩, rfl, rfl, rfl⟩
    · exact ⟨rfl, ⟨_, rfl⟩, rfl, rfl, rfl⟩
  · exact ⟨rfl, ⟨_, rfl⟩, rfl, rfl, rfl⟩

omit [Field K] [LinearOrder K] in
theorem removeTuioCursor_removes :
    KeyedList.Removes (fun m : TuioManager K => m.cursorList)
      (fun m => cursorLeft m.currentFrameTime) (fun m => (m.objectList, m.currentFrameTime))
      (fun m => m.events) (fun c => .removeCursor c.sessionId)
      (fun tcur m => m.removeTuioCursor tcur) := by
  intro m tcur c hc
  simp only [removeTuioCursor, hc]
  split_ifs <;> simp

omit [Field K] [LinearOrder K] in
theorem removeTuioObject_removes :
    KeyedList.Removes (fun m : TuioManager K => m.objectList)
      (fun m => objectLeft m.currentFrameTime) (fun m => (m.cursorList, m.currentFrameTime))
      (fun m => m.events) (fun o => .removeObject o.sessionId)
      (fun tobj m => m.removeTuioObject tobj) := by
  intro m tobj o ho
  simp [removeTuioObject, ho]

/-- An untouched cursor has left the table behind the first pass, whether it moved or
not: a stop makes it idle and leaves its time alone. -/
theorem cursorLeft_stopCursor (A : Arithmetic K) (frameTime : TuioTime) (c : TuioCursor K) :
    cursorLeft frameTime (stopCursor A frameTime c) = decide (c.currentTime ≠ frameTime) := by
  by_cases hslips : cursorSlips frameTime c = true
  · obtain ⟨htime, hmoving⟩ : c.currentTime ≠ frameTime ∧ c.isMoving = true := by
      simpa [cursorSlips] using hslips
    have hidle : c.state ≠ .idle := by
      rintro hidle
      simp [TuioContainer.isMoving, hidle] at hmoving
    have hstop : stopCursor A frameTime c = { c with state := .idle } := by
      rw [stopCursor, if_pos hslips, TuioContainer.stop, if_neg hidle]
    simp [cursorLeft, hstop, htime, TuioContainer.isMoving]
  · have hrests : c.currentTime ≠ frameTime → c.isMoving = false := by
      simpa [cursorSlips] using hslips
    by_cases htime : c.currentTime = frameTime
    · simp [cursorLeft, stopCursor, hslips, htime]
    · simp [cursorLeft, stopCursor, hslips, htime, hrests htime]

/-- A cursor that was touched in the frame is not stopped. -/
theorem stopCursor_of_touched (A : Arithmetic K) {frameTime : TuioTime} {c : TuioCursor K}
    (h : c.currentTime = frameTime) : stopCursor A frameTime c = c := by
  simp [stopCursor, cursorSlips, h]

@[simp] theorem stopCursor_sessionId (A : Arithmetic K) (frameTime : TuioTime)
    (c : TuioCursor K) : (stopCursor A frameTime c).sessionId = c.sessionId := by
  rw [stopCursor, TuioContainer.stop]
  split_ifs <;> simp

/-- A stop moves the time of an object on, so that the object stays for this frame. -/
theorem objectLeft_stopObject (A : Arithmetic K) (frameTime : TuioTime) (o : TuioObject K) :
    objectLeft frameTime (stopObject A frameTime o) = objectLeft frameTime o := by
  by_cases hslips : objectSlips frameTime o = true
  · have hmoving : o.isMoving = true := by
      simp only [objectSlips, Bool.and_eq_true] at hslips
      exact hslips.2
    simp [objectLeft, stopObject, hslips, TuioObject.stop, hmoving]
  · simp [stopObject, hslips]

@[simp] theorem stopObject_sessionId (A : Arithmetic K) (frameTime : TuioTime)
    (o : TuioObject K) : (stopObject A frameTime o).sessionId = o.sessionId := by
  rw [stopObject, TuioObject.stop]
  split_ifs <;> simp

/-- An object that stays on the list was touched in the frame, or is stopped. -/
theorem stopObject_of_stays (A : Arithmetic K) {frameTime : TuioTime} {o : TuioObject K}
    (h : objectLeft frameTime o = false) :
    (o.currentTime = frameTime ∧ stopObject A frameTime o = o) ∨
      (o.isMoving = true ∧ stopObject A frameTime o = o.stop A frameTime) := by
  by_cases htime : o.currentTime = frameTime
  · exact .inl ⟨htime, by simp [stopObject, objectSlips, htime]⟩
  · have hmoving : o.isMoving = true := by simpa [objectLeft, htime] using h
    exact .inr ⟨hmoving, by simp [stopObject, objectSlips, htime, hmoving]⟩

/-- What the two passes over the cursors leave. -/
theorem passCursors_spec (A : Arithmetic K) (m : TuioManager K) :
    let m' := (m.stopUntouchedMovingCursors A).removeUntouchedStoppedCursors
    m'.cursorList = m.cursorList.filter (fun c => c.currentTime = m.currentFrameTime) ∧
      m'.objectList = m.objectList ∧ m'.currentFrameTime = m.currentFrameTime ∧
      m'.events = m.events ++
        (m.cursorList.filter (fun c => c.currentTime ≠ m.currentFrameTime)).map
          fun c => .removeCursor c.sessionId := by
  obtain ⟨hlist, hrest, hevents⟩ := KeyedList.sweep_spec removeTuioCursor_removes
    (m.stopUntouchedMovingCursors A).cursorList.length (le_refl _)
  obtain ⟨hobjects, htime⟩ := Prod.ext_iff.mp hrest
  refine ⟨hlist.trans ?_, hobjects, htime, hevents.trans ?_⟩
  · simp only [stopUntouchedMovingCursors, List.filter_map, Function.comp_def,
      cursorLeft_stopCursor]
    rw [← List.map_id (m.cursorList.filter fun c => c.currentTime = m.currentFrameTime)]
    simp only [ne_eq, decide_not, Bool.not_not]
    refine List.map_congr_left fun c hc => ?_
    exact stopCursor_of_touched A (by simpa using (List.mem_filter.mp hc).2)
  · simp [stopUntouchedMovingCursors, List.filter_map, Function.comp_def, cursorLeft_stopCursor]

/-- What the two passes over the objects leave. -/
theorem passObjects_spec (A : Arithmetic K) (m : TuioManager K) :
    let m' := (m.stopUntouchedMovingObjects A).removeUntouchedStoppedObjects
    m'.objectList = (m.objectList.filter (fun o => !objectLeft m.currentFrameTime o)).map
        (stopObject A m.currentFrameTime) ∧
      m'.cursorList = m.cursorList ∧ m'.currentFrameTime = m.currentFrameTime ∧
      m'.events = m.events ++ (m.objectList.filter (objectLeft m.currentFrameTime)).map
          fun o => .removeObject o.sessionId := by
  obtain ⟨hlist, hrest, hevents⟩ := KeyedList.sweep_spec removeTuioObject_removes
    (m.stopUntouchedMovingObjects A).objectList.length (le_refl _)
  obtain ⟨hcursors, htime⟩ := Prod.ext_iff.mp hrest
  refine ⟨hlist.trans ?_, hcursors, htime, hevents.trans ?_⟩
  · simp [stopUntouchedMovingObjects, List.filter_map, Function.comp_def, objectLeft_stopObject]
  · simp [stopUntouchedMovingObjects, List.filter_map, Function.comp_def, objectLeft_stopObject]

end

end TuioManager

end Sur40
