import Sur40.OscPackets

/-!
# Streaming whole elements

An element is streamed as the operators of its parts. The size of the packet only grows on the
way, so the operators of a tree go through exactly if the tree fits, wherever they are used.

## Main definitions

* `OscElement.ops`: the operators that write an element.
* `PacketBuilder.Proper`: an operator that is used where it belongs.
* `PacketBuilder.runAll_stepWithin`: a sequence of such operators.
* `OutboundPacketStream.runAll_ops`: an element that is streamed into an empty packet.
-/

namespace Sur40

open Devlib

namespace PacketBuilder
variable {b : PacketBuilder} {capacity : ℕ}

/-- The operator belongs where it is used. -/
def Proper (b : PacketBuilder) : StreamOp → Prop
  | .clear => False
  | .beginBundle _ | .beginMessage _ => b.message = none
  | .endBundle => b.message = none ∧ b.bundles ≠ []
  | .endMessage | .argument _ => b.message.isSome = true

/-- A sequence of proper operations. -/
def ProperAll (b : PacketBuilder) : List StreamOp → Prop
  | [] => True
  | op :: ops => b.Proper op ∧ (b.step op).ProperAll ops

/-- A proper operation is refused for want of room at most. -/
theorem Proper.misuse {op : StreamOp} (h : b.Proper op) : b.misuse op = none := by
  cases op with
  | clear => rfl
  | argument rhs => rfl
  | beginBundle timeTag | beginMessage addressPattern =>
      rw [PacketBuilder.misuse, h]
      rfl
  | endBundle =>
      rw [PacketBuilder.misuse, h.1]
      simpa using h.2
  | endMessage => exact if_pos h

theorem Proper.allows {op : StreamOp} (h : b.Proper op) : b.Allows op := by
  cases op with
  | argument rhs => exact h
  | _ => trivial

theorem size_endBundle (h : b.message = none) : (b.step .endBundle).size = b.size := by
  rw [← length_finish, finish_endBundle h, length_finish]

theorem size_endMessage : (b.step .endMessage).size = b.size := by
  rw [← length_finish, finish_endMessage, length_finish]

/-- The packet does not shrink. -/
theorem Proper.size_le {op : StreamOp} (h : b.Proper op) : b.size ≤ (b.step op).size := by
  cases op with
  | clear => exact h.elim
  | beginBundle timeTag =>
      rw [OutboundPacketStream.size_beginBundle h, size, pending, h]
      simp only [List.length_nil]
      omega
  | beginMessage addressPattern =>
      rw [OutboundPacketStream.size_beginMessage h, size, pending, h]
      simp only [List.length_nil]
      omega
  | endBundle => exact Nat.le_of_eq (size_endBundle h.1).symm
  | endMessage => exact Nat.le_of_eq size_endMessage.symm
  | argument rhs =>
      cases hm : b.message with
      | none => simp [Proper, hm] at h
      | some m =>
          have hround : roundUp4 (m.2.length + 2) ≤ roundUp4 (m.2.length + 3) :=
            roundUp4_mono (by omega)
          rw [OutboundPacketStream.size_argument hm, size, pending, hm]
          simp only [List.length_append, length_typeTagString]
          omega

/-- Elements that are begun only make the packet larger. -/
theorem ProperAll.size_le {ops : List StreamOp} (h : b.ProperAll ops) :
    b.size ≤ (ops.foldl step b).size := by
  induction ops generalizing b with
  | nil => exact Nat.le_refl _
  | cons op ops ih => exact Nat.le_trans h.1.size_le (ih h.2)

theorem properAll_append {ops ops' : List StreamOp} :
    b.ProperAll (ops ++ ops') ↔ b.ProperAll ops ∧ (ops.foldl step b).ProperAll ops' := by
  induction ops generalizing b with
  | nil => simp [ProperAll]
  | cons op ops ih =>
      simp only [List.cons_append, ProperAll, List.foldl_cons, ih]
      exact and_assoc.symm

/-- Operators that are used where they belong go through exactly if the result fits. -/
theorem runAll_stepWithin {ops : List StreamOp} (h : b.ProperAll ops) (hsize : b.size ≤ capacity) :
    Throwing.runAll (·.stepWithin capacity) b ops =
      if (ops.foldl step b).size ≤ capacity then .ok (ops.foldl step b)
      else .error .outOfBufferMemory := by
  induction ops generalizing b with
  | nil =>
      rw [Throwing.runAll, List.foldl_nil]
      exact (if_pos hsize).symm
  | cons op ops ih =>
      rw [Throwing.runAll, stepWithin, h.1.misuse, List.foldl_cons]
      by_cases hle : (b.step op).size ≤ capacity
      · simp only [if_pos hle]
        exact ih h.2 hle
      · have hlarge : ¬(ops.foldl step (b.step op)).size ≤ capacity := by
          have hgrow := h.2.size_le
          omega
        simp only [if_neg hle, if_neg hlarge]
        rfl

/-- The restriction on arguments is kept, wherever the sequence ends. -/
theorem ProperAll.allowsUntil {ops : List StreamOp} (h : b.ProperAll ops) (capacity : ℕ) :
    Throwing.AllowsUntil (·.stepWithin capacity) Allows b ops := by
  induction ops generalizing b with
  | nil => trivial
  | cons op ops ih =>
      refine ⟨h.1.allows, ?_⟩
      intro b' hb'
      simp only [stepWithin, h.1.misuse] at hb'
      split at hb'
      · have hstep := Except.ok.inj hb'
        subst hstep
        exact ih h.2
      · cases hb'

end PacketBuilder

/-! ## The operators of an element -/

/-- The operations for a message. -/
def messageOps (addressPattern : CString) (arguments : List Argument) : List StreamOp :=
  .beginMessage addressPattern :: (arguments.map .argument ++ [.endMessage])

mutual

/-- The operations for a tree, from the outside to the inside. -/
def OscElement.ops : OscElement → List StreamOp
  | .message addressPattern arguments => messageOps addressPattern arguments
  | .bundle timeTag elements => .beginBundle timeTag :: (elementsOps elements ++ [.endBundle])

def elementsOps : List OscElement → List StreamOp
  | [] => []
  | e :: es => e.ops ++ elementsOps es

end

namespace PacketBuilder
variable {b : PacketBuilder}

theorem arguments_properAll {addressPattern : CString} {before : List Argument}
    (h : b.message = some (addressPattern, before)) (arguments : List Argument) :
    b.ProperAll (arguments.map .argument) ∧
      (arguments.map StreamOp.argument).foldl step b =
        { b with message := some (addressPattern, before ++ arguments) } := by
  induction arguments generalizing b before with
  | nil =>
      constructor
      · trivial
      · simp [← h]
  | cons a arguments ih =>
      have hstep : b.step (.argument a) =
          { b with message := some (addressPattern, before ++ [a]) } := by simp [step, h]
      have hmessage : (b.step (.argument a)).message =
          some (addressPattern, before ++ [a]) := by rw [hstep]
      have hrest := ih hmessage
      rw [List.map_cons, List.foldl_cons, hrest.2, hstep, List.append_assoc,
        List.singleton_append]
      exact ⟨⟨by simp [Proper, h], hrest.1⟩, rfl⟩

/-- A message that is streamed from its beginning to its end. -/
theorem messageOps_properAll (h : b.message = none) (addressPattern : CString)
    (arguments : List Argument) :
    b.ProperAll (messageOps addressPattern arguments) ∧
      (messageOps addressPattern arguments).foldl step b =
        b.add (.message addressPattern arguments) := by
  have harguments := arguments_properAll (b := b.step (.beginMessage addressPattern)) rfl arguments
  have hself : { b with message := none } = b := by rw [← h]
  rw [messageOps, ProperAll, properAll_append, List.foldl_cons, List.foldl_append, harguments.2]
  refine ⟨⟨h, harguments.1, rfl, trivial⟩, ?_⟩
  simp only [List.foldl_cons, List.foldl_nil, step, List.nil_append]
  rw [hself]

theorem addAll_bundle (b : PacketBuilder) (timeTag : UInt64) (before es : List OscElement)
    (outer : List (UInt64 × List OscElement)) :
    es.foldl add { b with bundles := (timeTag, before) :: outer } =
      { b with bundles := (timeTag, before ++ es) :: outer } := by
  induction es generalizing before with
  | nil => simp
  | cons e es ih =>
      rw [List.foldl_cons, add, ih, List.append_assoc, List.singleton_append]

end PacketBuilder

mutual

/-- The operations of a tree are proper, and add the tree. By recursion on the tree. -/
theorem OscElement.ops_properAll : ∀ (e : OscElement) {b : PacketBuilder}, b.message = none →
    b.ProperAll e.ops ∧ e.ops.foldl PacketBuilder.step b = b.add e
  | .message addressPattern arguments, b, h => by
      rw [OscElement.ops]
      exact PacketBuilder.messageOps_properAll h addressPattern arguments
  | .bundle timeTag elements, b, h => by
      have hbegun : (b.step (.beginBundle timeTag)).message = none := h
      have helements := elementsOps_properAll elements hbegun
      have hadded := PacketBuilder.addAll_bundle b timeTag [] elements b.bundles
      rw [List.nil_append] at hadded
      rw [OscElement.ops, PacketBuilder.ProperAll, PacketBuilder.properAll_append,
        List.foldl_cons, List.foldl_append, helements.2]
      simp only [PacketBuilder.step, hadded]
      exact ⟨⟨h, helements.1, ⟨h, List.cons_ne_nil _ _⟩, trivial⟩, rfl⟩

theorem elementsOps_properAll : ∀ (es : List OscElement) {b : PacketBuilder}, b.message = none →
    b.ProperAll (elementsOps es) ∧
      (elementsOps es).foldl PacketBuilder.step b = es.foldl PacketBuilder.add b
  | [], b, _ => by
      rw [elementsOps]
      exact ⟨trivial, rfl⟩
  | e :: es, b, h => by
      have he := OscElement.ops_properAll e h
      have hes := elementsOps_properAll es (b := b.add e) (by rw [PacketBuilder.message_add, h])
      rw [elementsOps, PacketBuilder.properAll_append, List.foldl_append, he.2, hes.2]
      exact ⟨⟨he.1, hes.1⟩, rfl⟩

end

namespace OutboundPacketStream
variable {s : OutboundPacketStream} {b : PacketBuilder}

/-- Operators that are used where they belong, on a stream. -/
theorem BuildsExactly.runAll (h : s.BuildsExactly b) (hsmall : s.capacity ≤ oscMaxCapacity)
    {ops : List StreamOp} (hops : b.ProperAll ops) :
    ((ops.foldl PacketBuilder.step b).size ≤ s.capacity ∧ ∃ s', s.runAll ops = .ok s' ∧
        s'.BuildsExactly (ops.foldl PacketBuilder.step b) ∧ s'.capacity = s.capacity) ∨
      (s.capacity < (ops.foldl PacketBuilder.step b).size ∧
        s.runAll ops = .error .outOfBufferMemory) := by
  have hsize : b.size ≤ s.capacity := by
    rw [← h.size_eq]
    exact h.toBuilds.size_le
  have hagree := Throwing.runAll_agrees (apply_agrees hsmall) ⟨h, rfl⟩
    (hops.allowsUntil s.capacity)
  rw [PacketBuilder.runAll_stepWithin hops hsize] at hagree
  by_cases hle : (ops.foldl PacketBuilder.step b).size ≤ s.capacity
  · rw [if_pos hle] at hagree
    rcases hagree.of_ok with ⟨s', hs', hbuilds⟩
    exact .inl ⟨hle, s', hs', hbuilds⟩
  · rw [if_neg hle] at hagree
    exact .inr ⟨Nat.not_le.mp hle, hagree.of_error⟩

/-- A tree of messages and bundles in an empty packet. -/
theorem runAll_ops (buffer : Memory) {capacity : ℕ} (hsmall : capacity ≤ oscMaxCapacity)
    (e : OscElement) :
    (e.encode.length ≤ capacity ∧ ∃ s, (new buffer capacity).runAll e.ops = .ok s ∧
        s.isReady = true ∧ s.data = e.encode) ∨
      (capacity < e.encode.length ∧
        (new buffer capacity).runAll e.ops = .error .outOfBufferMemory) := by
  have hops := OscElement.ops_properAll e (b := .empty) rfl
  have hsize : (PacketBuilder.empty.add e).size = e.encode.length := by
    rw [← PacketBuilder.length_finish]
    simp [PacketBuilder.add, PacketBuilder.empty, PacketBuilder.finish]
  have hrun := (buildsExactly_new buffer capacity).runAll hsmall hops.1
  rw [hops.2, hsize] at hrun
  rcases hrun with ⟨hle, s, hs, hbuilds, -⟩ | ⟨hlt, hs⟩
  · have hready := hbuilds.isReady_iff.mpr ⟨rfl, rfl⟩
    refine .inl ⟨hle, s, hs, hready, ?_⟩
    rw [hbuilds.data_ready hready]
    simp [PacketBuilder.add, PacketBuilder.empty]
  · exact .inr ⟨hlt, hs⟩

/-- A tree of messages and bundles is streamed as a whole exactly if its bytes fit, and is then
what the packet holds; otherwise the stream throws for want of memory. -/
theorem runAll_element (buffer : Memory) {capacity : ℕ} (hsmall : capacity ≤ oscMaxCapacity)
    (e : OscElement) :
    (e.encode.length ≤ capacity → ∃ s, (new buffer capacity).runAll e.ops = .ok s ∧
        s.isReady = true ∧ s.data = e.encode) ∧
      (capacity < e.encode.length →
        (new buffer capacity).runAll e.ops = .error .outOfBufferMemory) := by
  rcases runAll_ops buffer hsmall e with ⟨hle, hs⟩ | ⟨hlt, hs⟩
  · exact ⟨fun _ => hs, fun hlt => absurd hle (Nat.not_le.mpr hlt)⟩
  · exact ⟨fun hle => absurd hle (Nat.not_le.mpr hlt), fun _ => hs⟩

theorem runAll_element_status :
    ∃ s, (new (fun _ => 0) 36).runAll
        (OscElement.bundle 1 [.message (.ofString "/s") [.int32 7, .string (.ofString "up")]]).ops =
          .ok s ∧ s.isReady = true ∧
      s.data = (OscElement.bundle 1
        [.message (.ofString "/s") [.int32 7, .string (.ofString "up")]]).encode :=
  (runAll_element (fun _ => 0) (by decide) _).1 (by decide)

end OutboundPacketStream

end Sur40
