import Mathlib.Algebra.Order.Field.Basic
import Mathlib.Algebra.Order.Group.Abs
import Mathlib.Tactic.Linarith
import Mathlib.Tactic.Ring

/-!
# The contacts of the TUIO library

Times, points, containers, objects and cursors, with the motion state that
`update` and `stop` compute. Speeds and angles are elements of an ordered field,
with the two library functions the code calls on them.

A contact that is not on the table any more is stopped while it moves. A cursor
becomes idle by that at once. An object is moved onto its own position instead,
which takes it one frame to come to rest, or two if it had a speed.

## Main definitions

* `TuioTime`, `TuioPoint`, `TuioPath`: the parts of a contact.
* `TuioContainer.update`, `TuioContainer.stop`: the motion state of a cursor.
* `TuioObject.update`, `TuioObject.stop`: the motion state of an object.
* `TuioObject.patience`: the frames an object stays when it is not touched.
* `TuioObject.patience_stop`: every stop takes one of them.
-/

namespace Sur40

/-! ## Times -/

/-- A time as `gettimeofday` gives it. -/
structure TuioTime where
  seconds : ℤ
  microSeconds : ℤ
  nonneg : 0 ≤ microSeconds
  lt_second : microSeconds < 1000000
  deriving DecidableEq

namespace TuioTime

/-- The constructor from milliseconds. -/
def ofMsec (msec : ℕ) : TuioTime where
  seconds := msec / 1000
  microSeconds := 1000 * (msec % 1000)
  nonneg := by omega
  lt_second := by omega

/-- `operator-`. -/
def sub (t s : TuioTime) : TuioTime :=
  if h : t.microSeconds - s.microSeconds < 0 then
    { seconds := t.seconds - s.seconds - 1
      microSeconds := t.microSeconds - s.microSeconds + 1000000
      nonneg := by have := t.nonneg; have := s.lt_second; omega
      lt_second := by omega }
  else
    { seconds := t.seconds - s.seconds
      microSeconds := t.microSeconds - s.microSeconds
      nonneg := by omega
      lt_second := by have := t.lt_second; have := s.nonneg; omega }

instance : Sub TuioTime := ⟨sub⟩

def getTotalMilliseconds (t : TuioTime) : ℤ := t.seconds * 1000 + t.microSeconds / 1000

/-- The time in microseconds. -/
def micros (t : TuioTime) : ℤ := t.seconds * 1000000 + t.microSeconds

/-- At least a millisecond earlier. -/
def Before (s t : TuioTime) : Prop := s.micros + 1000 ≤ t.micros

instance : DecidableRel Before :=
  fun s t => inferInstanceAs (Decidable (s.micros + 1000 ≤ t.micros))

/-- A second later. -/
def later (t : TuioTime) : TuioTime := { t with seconds := t.seconds + 1 }

theorem before_later (t : TuioTime) : t.Before t.later := by
  simp only [Before, later, micros]
  omega

theorem micros_sub (t s : TuioTime) : (t - s).micros = t.micros - s.micros := by
  change (sub t s).micros = _
  simp only [sub, micros]
  split
  · ring
  · ring

theorem Before.ne {s t : TuioTime} (h : Before s t) : s ≠ t := by
  rintro rfl
  rw [Before] at h
  omega

theorem Before.trans {s t u : TuioTime} (h : Before s t) (h' : Before t u) : Before s u := by
  rw [Before] at *
  omega

theorem Before.one_le_milliseconds {s t : TuioTime} (h : Before s t) :
    1 ≤ (t - s).getTotalMilliseconds := by
  have hmicros := micros_sub t s
  have hlt := (t - s).lt_second
  rw [Before] at h
  rw [getTotalMilliseconds]
  simp only [micros] at *
  omega

end TuioTime

/-! ## Paths -/

/-- A point. Nothing in the server installs a position filter. -/
structure TuioPoint (K : Type*) where
  xpos : K
  ypos : K
  currentTime : TuioTime
  startTime : TuioTime
  posThreshold : K

/-- `MAX_PATH_SIZE` -/
def maxPathSize : ℕ := 128

/-- Where a contact has been. -/
structure TuioPath (K : Type*) where
  points : List (TuioPoint K)
  ne_nil : points ≠ []
  length_le : points.length ≤ maxPathSize

namespace TuioPath

variable {K : Type*}

def single (p : TuioPoint K) : TuioPath K := ⟨[p], by simp, by simp [maxPathSize]⟩

def back (path : TuioPath K) : TuioPoint K := path.points.getLast path.ne_nil

/-- `push_back`, and `pop_front` if the path has become too long. -/
def push (path : TuioPath K) (p : TuioPoint K) : TuioPath K :=
  if h : (path.points ++ [p]).length > maxPathSize then
    { points := (path.points ++ [p]).tail
      ne_nil := by
        have hne := path.ne_nil
        cases hp : path.points with
        | nil => exact absurd hp hne
        | cons q qs => simp
      length_le := by
        have hle := path.length_le
        simp only [List.length_tail, List.length_append, List.length_singleton]
        omega }
  else ⟨path.points ++ [p], by simp, by omega⟩

@[simp] theorem back_push (path : TuioPath K) (p : TuioPoint K) : (path.push p).back = p := by
  rw [push]
  split
  · simp [back, List.getLast_tail]
  · simp [back]

end TuioPath

/-! ## Arithmetic -/

/-- What the code takes from its libraries to compute with speeds and angles. -/
structure Arithmetic (K : Type*) [Field K] [LinearOrder K] where
  sqrt : K → K
  sqrt_zero : sqrt 0 = 0
  /-- `M_PI` -/
  pi : K
  pi_pos : 0 < pi
  /-- The number that the bits of a `float` stand for. -/
  float : UInt32 → K

variable {K : Type*} [Field K] [LinearOrder K]

/-- `getTotalMilliseconds()/1000.0f` -/
def TuioTime.dt (K : Type*) [Field K] (t : TuioTime) : K := (t.getTotalMilliseconds : K) / 1000

theorem TuioTime.Before.dt_pos [IsStrictOrderedRing K] {s t : TuioTime} (h : s.Before t) :
    0 < TuioTime.dt K (t - s) := by
  have hms : (0 : ℤ) < (t - s).getTotalMilliseconds := h.one_le_milliseconds
  exact div_pos (Int.cast_pos.mpr hms) (by norm_num)

/-- A difference of two angles, brought back between `-π` and `π`. -/
def Arithmetic.wrap (A : Arithmetic K) (da : K) : K :=
  if da > A.pi then da - 2 * A.pi else if da < -A.pi then da + 2 * A.pi else da

/-- An angle, brought back between 0 and `2π`. -/
def Arithmetic.turn (A : Arithmetic K) (angle : K) : K :=
  if angle > 2 * A.pi then angle - 2 * A.pi
  else if angle < 0 then angle + 2 * A.pi else angle

/-- `2.0f*M_PI - angle` -/
def Arithmetic.invert (A : Arithmetic K) (angle : K) : K := 2 * A.pi - angle

section

variable [IsStrictOrderedRing K] (A : Arithmetic K)

@[simp] theorem Arithmetic.wrap_zero : A.wrap 0 = 0 := by
  have hpi := A.pi_pos
  have hgt : ¬ (0 : K) > A.pi := not_lt.mpr hpi.le
  have hlt : ¬ (0 : K) < -A.pi := by linarith
  simp [wrap, hgt, hlt]

/-- Whole turns are no rotation. -/
@[simp] theorem Arithmetic.wrap_turn_sub (angle : K) : A.wrap (A.turn angle - angle) = 0 := by
  have hpi := A.pi_pos
  by_cases hgt : angle > 2 * A.pi
  · have hda : A.turn angle - angle = -(2 * A.pi) := by rw [turn, if_pos hgt]; ring
    rw [hda, wrap, if_neg (by linarith), if_pos (by linarith)]
    ring
  · by_cases hlt : angle < 0
    · have hda : A.turn angle - angle = 2 * A.pi := by
        rw [turn, if_neg hgt, if_pos hlt]
        ring
      rw [hda, wrap, if_pos (by linarith)]
      ring
    · simp [turn, hgt, hlt]

end

/-! ## Points -/

/-- The constructor. -/
def TuioPoint.new (ttime : TuioTime) (xp yp : K) : TuioPoint K :=
  { xpos := xp, ypos := yp, currentTime := ttime, startTime := ttime, posThreshold := 0 }

def TuioPoint.update (p : TuioPoint K) (ttime : TuioTime) (xp yp : K) : TuioPoint K :=
  let dx := |p.xpos - xp|
  let dy := |p.ypos - yp|
  if dx > p.posThreshold ∨ dy > p.posThreshold then
    { p with xpos := xp, ypos := yp, currentTime := ttime }
  else { p with currentTime := ttime }

/-- The distance to a place. -/
def TuioPoint.getDistance (A : Arithmetic K) (p : TuioPoint K) (xp yp : K) : K :=
  let dx := p.xpos - xp
  let dy := p.ypos - yp
  A.sqrt (dx * dx + dy * dy)

@[simp] theorem TuioPoint.update_currentTime (p : TuioPoint K) (ttime : TuioTime) (xp yp : K) :
    (p.update ttime xp yp).currentTime = ttime := by
  unfold update
  dsimp only
  split <;> rfl

/-- A point moved onto itself stays where it is. -/
theorem TuioPoint.update_self (p : TuioPoint K) (ttime : TuioTime) :
    p.update ttime p.xpos p.ypos = { p with currentTime := ttime } := by
  unfold update
  dsimp only
  split <;> rfl

/-! ## Containers -/

inductive TuioState where
  | idle | added | accelerating | decelerating | rotating | stopped | removed
  deriving DecidableEq

/-- What cursors and objects have in common; the path ends with the last update. -/
structure TuioContainer (K : Type*) extends TuioPoint K where
  state : TuioState
  sessionId : ℤ
  xSpeed : K
  ySpeed : K
  motionSpeed : K
  motionAccel : K
  xAccel : K
  yAccel : K
  path : TuioPath K

namespace TuioContainer

/-- The constructor. -/
def new (ttime : TuioTime) (si : ℤ) (xp yp : K) : TuioContainer K :=
  { toTuioPoint := .new ttime xp yp, state := .added, sessionId := si, xSpeed := 0, ySpeed := 0,
    motionSpeed := 0, motionAccel := 0, xAccel := 0, yAccel := 0,
    path := .single (.new ttime xp yp) }

/-- The state that a motion acceleration stands for. -/
def motionState (motionAccel : K) : TuioState :=
  if motionAccel > 0 then .accelerating
  else if motionAccel < 0 then .decelerating else .stopped

def update (A : Arithmetic K) (c : TuioContainer K) (ttime : TuioTime) (xp yp : K) :
    TuioContainer K :=
  let lastPoint := c.path.back
  let c := { c with toTuioPoint := c.toTuioPoint.update ttime xp yp }
  let dt := TuioTime.dt K (c.currentTime - lastPoint.currentTime)
  let dx := c.xpos - lastPoint.xpos
  let dy := c.ypos - lastPoint.ypos
  let dist := A.sqrt (dx * dx + dy * dy)
  let c :=
    if dt > 0 then
      { c with
        xSpeed := dx / dt
        ySpeed := dy / dt
        motionSpeed := dist / dt
        motionAccel := (dist / dt - c.motionSpeed) / dt
        xAccel := (dx / dt - c.xSpeed) / dt
        yAccel := (dy / dt - c.ySpeed) / dt }
    else c
  { c with
    path := c.path.push (.new c.currentTime c.xpos c.ypos)
    state := motionState c.motionAccel }

def stop (A : Arithmetic K) (c : TuioContainer K) (ttime : TuioTime) : TuioContainer K :=
  if c.state = .idle then c.update A ttime c.xpos c.ypos else { c with state := .idle }

def remove (c : TuioContainer K) (ttime : TuioTime) : TuioContainer K :=
  { c with currentTime := ttime, state := .removed }

def isMoving (c : TuioContainer K) : Bool :=
  decide (c.state = .accelerating) || decide (c.state = .decelerating)

/-- The path ends where the contact is. -/
def Settled (c : TuioContainer K) : Prop :=
  c.path.back.currentTime = c.currentTime ∧ c.path.back.xpos = c.xpos ∧ c.path.back.ypos = c.ypos

omit [LinearOrder K] in
theorem settled_new (ttime : TuioTime) (si : ℤ) (xp yp : K) : (new ttime si xp yp).Settled :=
  ⟨rfl, rfl, rfl⟩

section

variable (A : Arithmetic K) (c : TuioContainer K) (ttime : TuioTime) (xp yp : K)

@[simp] theorem update_toTuioPoint :
    (c.update A ttime xp yp).toTuioPoint = c.toTuioPoint.update ttime xp yp := by
  simp only [update]
  split <;> rfl

@[simp] theorem update_sessionId : (c.update A ttime xp yp).sessionId = c.sessionId := by
  simp only [update]
  split <;> rfl

theorem settled_update : (c.update A ttime xp yp).Settled := by
  simp only [Settled, update]
  split <;> simp [TuioPoint.new]

end

theorem motionState_eq_stopped {a : K} : motionState a = .stopped ↔ a = 0 := by
  rcases lt_trichotomy a 0 with hlt | heq | hgt
  · simp [motionState, hlt, hlt.ne, hlt.not_gt]
  · simp [motionState, heq]
  · simp [motionState, hgt, hgt.ne']

theorem motionState_moving {a : K} :
    motionState a = .accelerating ∨ motionState a = .decelerating ↔ a ≠ 0 := by
  rcases lt_trichotomy a 0 with hlt | heq | hgt
  · simp [motionState, hlt, hlt.ne, hlt.not_gt]
  · simp [motionState, heq]
  · simp [motionState, hgt, hgt.ne']

/-- A container that is moved onto its own position loses its speed. -/
theorem update_self [IsStrictOrderedRing K] (A : Arithmetic K) {c : TuioContainer K}
    {ttime : TuioTime} (hc : c.Settled) (htime : c.currentTime.Before ttime) :
    (c.update A ttime c.xpos c.ypos).motionSpeed = 0 ∧
      (c.update A ttime c.xpos c.ypos).state =
        motionState (-c.motionSpeed / TuioTime.dt K (ttime - c.currentTime)) := by
  have hdt := htime.dt_pos (K := K)
  obtain ⟨htime', hx, hy⟩ := hc
  simp [update, TuioPoint.update_self, htime', hx, hy, A.sqrt_zero, hdt]

end TuioContainer

/-! ## Cursors and objects -/

/-- A finger. -/
structure TuioCursor (K : Type*) extends TuioContainer K where
  cursorId : ℤ

/-- A tag, which also turns. -/
structure TuioObject (K : Type*) extends TuioContainer K where
  symbolId : ℤ
  angle : K
  angleThreshold : K
  rotationSpeed : K
  rotationAccel : K

/-- The constructor. -/
def TuioCursor.new (ttime : TuioTime) (si ci : ℤ) (xp yp : K) : TuioCursor K :=
  { toTuioContainer := .new ttime si xp yp, cursorId := ci }

namespace TuioObject

/-- The constructor. -/
def new (ttime : TuioTime) (si sym : ℤ) (xp yp a : K) : TuioObject K :=
  { toTuioContainer := .new ttime si xp yp, symbolId := sym, angle := a, angleThreshold := 0,
    rotationSpeed := 0, rotationAccel := 0 }

/-- Nothing in the server installs an angle filter. -/
def update (A : Arithmetic K) (o : TuioObject K) (ttime : TuioTime) (xp yp a : K) :
    TuioObject K :=
  let lastPoint := o.path.back
  let o := { o with toTuioContainer := o.toTuioContainer.update A ttime xp yp }
  let dt := TuioTime.dt K (o.currentTime - lastPoint.currentTime)
  let da := A.wrap (a - o.angle)
  let prevAngle := o.angle
  let angle := o.angle + da
  let angle := if |angle - prevAngle| < o.angleThreshold then prevAngle else angle
  let angle := A.turn angle
  let da := A.wrap (angle - prevAngle) / (2 * A.pi)
  let o := { o with angle := angle }
  let o :=
    if dt > 0 then
      { o with
        rotationSpeed := da / dt
        rotationAccel := (da / dt - o.rotationSpeed) / dt }
    else o
  if o.rotationAccel ≠ 0 ∧ o.state = .stopped then { o with state := .rotating } else o

def stop (A : Arithmetic K) (o : TuioObject K) (ttime : TuioTime) : TuioObject K :=
  o.update A ttime o.xpos o.ypos o.angle

def isMoving (o : TuioObject K) : Bool :=
  decide (o.state = .accelerating) || decide (o.state = .decelerating) ||
    decide (o.state = .rotating)

section

variable (A : Arithmetic K) (o : TuioObject K) (ttime : TuioTime) (xp yp a : K)

@[simp] theorem update_toTuioPoint :
    (o.update A ttime xp yp a).toTuioPoint = o.toTuioPoint.update ttime xp yp := by
  simp only [update]
  split_ifs <;> simp

@[simp] theorem update_sessionId : (o.update A ttime xp yp a).sessionId = o.sessionId := by
  simp only [update]
  split_ifs <;> simp

@[simp] theorem update_path :
    (o.update A ttime xp yp a).path = (o.toTuioContainer.update A ttime xp yp).path := by
  simp only [update]
  split_ifs <;> simp

@[simp] theorem update_motionSpeed : (o.update A ttime xp yp a).motionSpeed =
    (o.toTuioContainer.update A ttime xp yp).motionSpeed := by
  simp only [update]
  split_ifs <;> simp

theorem settled_update : (o.update A ttime xp yp a).Settled := by
  have h := o.toTuioContainer.settled_update A ttime xp yp
  simp only [TuioContainer.Settled, TuioContainer.update_toTuioPoint] at h
  simpa [TuioContainer.Settled] using h

end

/-- The frames an object stays on the list when nothing touches it. -/
def patience (o : TuioObject K) : ℕ :=
  if o.isMoving then (if o.motionSpeed = 0 ∧ o.rotationSpeed = 0 then 1 else 2) else 0

theorem patience_le (o : TuioObject K) : o.patience ≤ 2 := by
  rw [patience]
  split_ifs <;> omega

theorem patience_eq_zero {o : TuioObject K} : o.patience = 0 ↔ o.isMoving = false := by
  rw [patience]
  split_ifs with h h' <;> simp [h]

section

variable [IsStrictOrderedRing K] (A : Arithmetic K) {o : TuioObject K} {ttime : TuioTime}

/-- An object that is stopped loses both speeds, and moves on if it had one. -/
theorem stop_spec (ho : o.Settled) (htime : o.currentTime.Before ttime) :
    (o.stop A ttime).motionSpeed = 0 ∧ (o.stop A ttime).rotationSpeed = 0 ∧
      ((o.stop A ttime).isMoving = true ↔ o.motionSpeed ≠ 0 ∨ o.rotationSpeed ≠ 0) := by
  have hdt := htime.dt_pos (K := K)
  obtain ⟨hspeed, hstate⟩ := TuioContainer.update_self A ho htime
  have hzero (v : K) : -v / TuioTime.dt K (ttime - o.currentTime) = 0 ↔ v = 0 := by
    rw [div_eq_zero_iff, or_iff_left hdt.ne', neg_eq_zero]
  have hmotion := TuioContainer.motionState_moving
    (a := -o.motionSpeed / TuioTime.dt K (ttime - o.currentTime))
  have hstopped := TuioContainer.motionState_eq_stopped
    (a := -o.motionSpeed / TuioTime.dt K (ttime - o.currentTime))
  rw [hzero] at hstopped
  rw [ne_eq, hzero] at hmotion
  refine ⟨by simp [stop, hspeed], ?_, ?_⟩
  · simp only [stop, update, TuioContainer.update_toTuioPoint, TuioPoint.update_currentTime, ho.1,
      sub_self, Arithmetic.wrap_zero, add_zero, ite_self, Arithmetic.wrap_turn_sub, zero_div,
      gt_iff_lt, hdt, if_true]
    split <;> rfl
  · simp only [stop, update, TuioContainer.update_toTuioPoint, TuioPoint.update_currentTime, ho.1,
      sub_self, Arithmetic.wrap_zero, add_zero, ite_self, Arithmetic.wrap_turn_sub, zero_div,
      gt_iff_lt, hdt, if_true, hstate, zero_sub, ne_eq, hzero, hstopped]
    by_cases hm : o.motionSpeed = 0
    · by_cases hr : o.rotationSpeed = 0
      · simp [isMoving, hm, hr, hstate, TuioContainer.motionState]
      · simp [isMoving, hm, hr]
    · rcases hmotion.mpr hm with h | h
      · simp [isMoving, hm, hstate, h]
      · simp [isMoving, hm, hstate, h]

/-- Stopping takes one of the frames an object stays. -/
theorem patience_stop (ho : o.Settled) (htime : o.currentTime.Before ttime)
    (hmoving : o.isMoving = true) : (o.stop A ttime).patience + 1 = o.patience := by
  obtain ⟨hmotion, hrotation, hmoves⟩ := stop_spec A ho htime
  by_cases hspeed : o.motionSpeed = 0 ∧ o.rotationSpeed = 0
  · have hrests : (o.stop A ttime).isMoving = false := by
      rw [Bool.eq_false_iff, ne_eq, hmoves]
      simp [hspeed]
    simp [patience, hrests, hmoving, hspeed]
  · have hmoves' : (o.stop A ttime).isMoving = true := by
      rw [hmoves]
      tauto
    simp only [patience, hmoves', hmoving, hmotion, hrotation, hspeed, and_self, if_true, if_false]

end

end TuioObject

end Sur40
