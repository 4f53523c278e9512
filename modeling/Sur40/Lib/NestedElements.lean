import Mathlib.Data.List.Basic
import Mathlib.Data.Nat.Notation

/-!
# Nested elements written in place

Elements inside elements, each with its length in front, are written in one pass. While an
element is open its length is not known, and the slot for the length keeps the position of the
slot of the element around it. The outermost element has no slot.

The slot of a length and the slot of a position are of one size, so nothing moves when an
element ends and the number of bytes is known before.

## Main definitions

* `Nesting`: the elements that are complete, and the contents of the open ones.
* `Nesting.layout`: what is in memory, and the slot of the innermost open element.
* `Nesting.push`, `Nesting.append`, `Nesting.pop`, `Nesting.finish`: an element begins, grows and
  ends, and all of them end.
-/

namespace Devlib

/-- Complete outermost elements, and the contents of the open elements, innermost first. -/
structure Nesting where
  closed : List UInt8
  stack : List (List UInt8)

/-- The bytes in memory, and the position of the slot of the innermost open element; the
outermost element, which has none, stands as 0. -/
structure NestingLayout where
  bytes : List UInt8
  slot : Option ℕ

namespace Nesting
variable (link size : ℕ → List UInt8) (n : Nesting)

/-- The open elements on top of the closed ones. -/
def layoutOf (closed : List UInt8) : List (List UInt8) → NestingLayout
  | [] => ⟨closed, none⟩
  | c :: outer =>
      match (layoutOf closed outer).slot with
      | none => ⟨(layoutOf closed outer).bytes ++ c, some 0⟩
      | some p =>
          ⟨(layoutOf closed outer).bytes ++ link p ++ c, some (layoutOf closed outer).bytes.length⟩

def layout : NestingLayout := layoutOf link n.closed n.stack

/-- An element begins with the bytes `bs`. -/
def push (bs : List UInt8) : Nesting := { n with stack := bs :: n.stack }

/-- The innermost element grows. -/
def append (bs : List UInt8) : Nesting :=
  match n.stack with
  | [] => { n with closed := n.closed ++ bs }
  | c :: outer => { n with stack := (c ++ bs) :: outer }

/-- The innermost element ends. -/
def pop : Nesting :=
  match n.stack with
  | [] => n
  | [c] => { closed := n.closed ++ c, stack := [] }
  | c :: d :: outer => { n with stack := (d ++ size c.length ++ c) :: outer }

/-- An element without an outer one, and one inside an outer one, in their final form. -/
def finishOf (closed : List UInt8) : List UInt8 → List (List UInt8) → List UInt8
  | c, [] => closed ++ c
  | c, d :: outer => finishOf closed (d ++ size c.length ++ c) outer

/-- What the memory holds when every element has ended. -/
def finish : List UInt8 :=
  match n.stack with
  | [] => n.closed
  | c :: outer => finishOf size n.closed c outer

variable {link size n}

theorem slot_layoutOf_cons (link : ℕ → List UInt8) (closed c : List UInt8)
    (outer : List (List UInt8)) :
    ((layoutOf link closed (c :: outer)).slot).isSome = true := by
  rw [layoutOf]
  split <;> rfl

theorem slot_layoutOf_le {closed : List UInt8} {stack : List (List UInt8)} {p : ℕ}
    (h : (layoutOf link closed stack).slot = some p) :
    p ≤ (layoutOf link closed stack).bytes.length := by
  cases stack with
  | nil => simp [layoutOf] at h
  | cons c outer =>
      rw [layoutOf] at h ⊢
      split at h
      · have hp : 0 = p := Option.some.inj h
        omega
      · have hp : (layoutOf link closed outer).bytes.length = p := Option.some.inj h
        rw [List.length_append, List.length_append]
        omega

/-! ## One operation -/

/-- The slot that an element gets: none if it is the outermost one. -/
def slotBytes (link : ℕ → List UInt8) : Option ℕ → List UInt8
  | none => []
  | some p => link p

/-- Where the slot of an element is that begins at `p`. -/
def slotAt (p : ℕ) : Option ℕ → ℕ
  | none => 0
  | some _ => p

theorem layout_push (bs : List UInt8) :
    (n.push bs).layout link =
      ⟨(n.layout link).bytes ++ slotBytes link (n.layout link).slot ++ bs,
        some (slotAt (n.layout link).bytes.length (n.layout link).slot)⟩ := by
  simp only [layout, push, layoutOf]
  cases (layoutOf link n.closed n.stack).slot with
  | none => simp [slotBytes, slotAt]
  | some p => simp [slotBytes, slotAt]

theorem layout_append (link : ℕ → List UInt8) (n : Nesting) (bs : List UInt8) :
    (n.append bs).layout link = ⟨(n.layout link).bytes ++ bs, (n.layout link).slot⟩ := by
  rcases n with ⟨closed, _ | ⟨c, outer⟩⟩
  · rfl
  · simp only [layout, append, layoutOf]
    cases (layoutOf link closed outer).slot with
    | none => simp
    | some p => simp

/-- The outermost element ends: nothing is written. -/
theorem layout_pop_single (link size : ℕ → List UInt8) {c : List UInt8} (h : n.stack = [c]) :
    (n.pop size).layout link = ⟨(n.layout link).bytes, none⟩ := by
  simp [layout, pop, h, layoutOf]

/-- An inner element ends: its slot, which held the position `p` of the slot around it, gets the
length. -/
theorem layout_pop_inner (link size : ℕ → List UInt8) {c d : List UInt8} {outer : List (List UInt8)}
    (h : n.stack = c :: d :: outer) :
    ∃ before p, n.layout link = ⟨before ++ link p ++ c, some before.length⟩ ∧
      (n.pop size).layout link = ⟨before ++ size c.length ++ c, some p⟩ ∧
      d.length ≤ before.length ∧ p ≤ before.length := by
  have hsome := slot_layoutOf_cons link n.closed d outer
  cases hslot : (layoutOf link n.closed (d :: outer)).slot with
  | none => simp [hslot] at hsome
  | some p =>
      refine ⟨(layoutOf link n.closed (d :: outer)).bytes, p, ?_, ?_, ?_, slot_layoutOf_le hslot⟩
      · rw [layout, h, layoutOf, hslot]
      · have happend := layout_append link { n with stack := d :: outer }
          (size c.length ++ c)
        simp only [append, layout, hslot, ← List.append_assoc] at happend
        simp only [pop, h, layout]
        exact happend
      · rw [layoutOf]
        split
        · simp
        · rw [List.length_append]
          omega

/-! ## The end of all elements -/

theorem length_finishOf (hsize : ∀ p q, (link p).length = (size q).length) (closed c : List UInt8)
    (outer : List (List UInt8)) :
    (finishOf size closed c outer).length = (layoutOf link closed (c :: outer)).bytes.length := by
  induction outer generalizing c with
  | nil => simp [finishOf, layoutOf]
  | cons d outer ih =>
      have hsome := slot_layoutOf_cons link closed d outer
      rw [finishOf, ih, layoutOf, layoutOf]
      cases hslot : (layoutOf link closed (d :: outer)).slot with
      | none => simp [hslot] at hsome
      | some p =>
          have hd : (layoutOf link closed (d :: outer)).bytes =
              (layoutOf link closed outer).bytes ++
                slotBytes link (layoutOf link closed outer).slot ++ d := by
            rw [layoutOf]
            cases (layoutOf link closed outer).slot <;> simp [slotBytes]
          rw [hd]
          cases (layoutOf link closed outer).slot with
          | none => simp [slotBytes, hsize p c.length]
          | some p' => simp [slotBytes, hsize p c.length]

/-- Ending the elements takes no room. -/
theorem length_finish (hsize : ∀ p q, (link p).length = (size q).length) :
    (n.finish size).length = (n.layout link).bytes.length := by
  rcases n with ⟨closed, _ | ⟨c, outer⟩⟩
  · rfl
  · exact length_finishOf hsize closed c outer

end Nesting

end Devlib
