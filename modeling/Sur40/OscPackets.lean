import Sur40.OscStream

/-!
# When a packet fits

A packet stream throws for want of memory exactly when the packet, with everything that is open
ended, would be larger than the buffer. So whatever it took it can end, in the room that `Size()`
has counted.

## Main definitions

* `PacketBuilder.stepWithin`: an operation on a tree of bounded size.
* `PacketBuilder.Allows`: an argument is streamed into a message.
* `PacketBuilder.closing`: the operators that end what is open.
* `OutboundPacketStream.run_closes`: they end it, without an exception.
-/

namespace Sur40

open Devlib

namespace PacketBuilder
variable (b : PacketBuilder)

/-- What the caller of an operation overlooked. -/
def misuse : StreamOp → Option OscException
  | .beginBundle _ | .beginMessage _ => if b.message.isSome then some .messageInProgress else none
  | .endBundle =>
      if b.message.isSome then some .messageInProgress
      else if b.bundles.isEmpty then some .bundleNotInProgress
      else none
  | .endMessage => if b.message.isSome then none else some .messageNotInProgress
  | .clear | .argument _ => none

/-- An operation, if the packet stays within the buffer. -/
def stepWithin (capacity : ℕ) (op : StreamOp) : Except OscException PacketBuilder :=
  match b.misuse op with
  | some e => .error e
  | none => if (b.step op).size ≤ capacity then .ok (b.step op) else .error .outOfBufferMemory

/-- An argument is streamed into a message. -/
def Allows : StreamOp → Prop
  | .argument _ => b.message.isSome = true
  | _ => True

variable {b}

/-- An operation for which there is no room. -/
theorem stepWithin_full {capacity : ℕ} {op : StreamOp} (hop : b.misuse op = none)
    (h : capacity < (b.step op).size) :
    b.stepWithin capacity op = .error .outOfBufferMemory := by
  rw [stepWithin, hop]
  exact if_neg (Nat.not_le.mpr h)

end PacketBuilder

namespace OutboundPacketStream
variable {s s' : OutboundPacketStream} {b : PacketBuilder}

/-- No argument was streamed outside a message since the last element began or ended. -/
def NoStray (s : OutboundPacketStream) : Prop :=
  s.messageIsInProgress = false → s.argumentCurrent = s.messageCursor

/-- The stream holds nothing but the packet under construction. -/
structure BuildsExactly (s : OutboundPacketStream) (b : PacketBuilder) : Prop extends
    s.Builds b where
  noStray : s.NoStray

/-- A new stream is an empty tree. -/
theorem buildsExactly_new (buffer : Memory) (capacity : ℕ) :
    (new buffer capacity).BuildsExactly .empty :=
  ⟨builds_new buffer capacity, fun _ => rfl⟩

/-- `Size()` is the size of the tree. -/
theorem BuildsExactly.size_eq (h : s.BuildsExactly b) : s.size = b.size := by
  have hcursor := h.cursor
  cases hm : b.message with
  | none =>
      have hprogress : s.messageIsInProgress = false := by rw [h.inProgress, hm]; rfl
      have hargument := h.noStray hprogress
      simp [size, isMessageInProgress, hprogress, PacketBuilder.size, PacketBuilder.pending, hm]
      omega
  | some m =>
      have hprogress : s.messageIsInProgress = true := by rw [h.inProgress, hm]; rfl
      have hend := (h.message m hm).dataEnd
      have hcount : s.capacity - s.typeTagsCurrent = m.2.length := by
        have htagCount := (h.message m hm).tagCount
        omega
      simp [size, isMessageInProgress, hprogress, PacketBuilder.size, PacketBuilder.pending, hm,
        hcount]
      omega

theorem endElement_cursors (p : ℕ) : (s.endElement p).messageCursor = s.messageCursor ∧
    (s.endElement p).argumentCurrent = s.argumentCurrent := by
  rw [endElement]
  split <;> exact ⟨rfl, rfl⟩

/-- An operation that does not throw, if its argument has a message to go to. -/
theorem BuildsExactly.apply (h : s.BuildsExactly b) (hsmall : s.capacity ≤ oscMaxCapacity)
    {op : StreamOp} (hop : b.Allows op) (hs : s.apply op = .ok s') :
    s'.BuildsExactly (b.step op) := by
  refine ⟨(h.toBuilds.apply hsmall hs).builds, ?_⟩
  intro hprogress'
  cases op with
  | clear =>
      have hs' := Except.ok.inj hs
      subst hs'
      rfl
  | beginBundle timeTag =>
      simp only [OutboundPacketStream.apply, beginBundle] at hs
      split at hs
      · cases hs
      split at hs
      · cases hs
      have hs' := Except.ok.inj hs
      subst hs'
      rfl
  | endBundle =>
      simp only [OutboundPacketStream.apply, endBundle] at hs
      split at hs
      · cases hs
      split at hs
      · cases hs
      rename_i hprogress
      have hs' := Except.ok.inj hs
      subst hs'
      have hcursors := s.endElement_cursors s.messageCursor
      rw [hcursors.1, hcursors.2]
      exact h.noStray (Bool.eq_false_of_not_eq_true hprogress)
  | beginMessage addressPattern =>
      simp only [OutboundPacketStream.apply, beginMessage] at hs
      split at hs
      · cases hs
      split at hs
      · cases hs
      have hs' := Except.ok.inj hs
      subst hs'
      cases hprogress'
  | endMessage =>
      simp only [OutboundPacketStream.apply, endMessage] at hs
      split at hs
      · cases hs
      have hs' := Except.ok.inj hs
      subst hs'
      simp only [endElement_cursors]
  | argument rhs =>
      simp only [OutboundPacketStream.apply, argument_eq, putArgument] at hs
      split at hs
      · cases hs
      have hs' := Except.ok.inj hs
      subst hs'
      have hsome : s.messageIsInProgress = true := by rw [h.inProgress]; exact hop
      simp [hsome] at hprogress'

/-! ## The operations that throw -/

theorem size_beginBundle (h : b.message = none) (timeTag : UInt64) :
    (b.step (.beginBundle timeTag)).size =
      b.layout.bytes.length + (Nesting.slotBytes offsetSlot b.layout.slot).length + 16 := by
  rw [PacketBuilder.size, PacketBuilder.layout, PacketBuilder.nesting_beginBundle h,
    Nesting.layout_push]
  simp [PacketBuilder.pending, PacketBuilder.step, h, PacketBuilder.layout, Nat.add_assoc]

theorem size_beginMessage (h : b.message = none) (addressPattern : CString) :
    (b.step (.beginMessage addressPattern)).size =
      b.layout.bytes.length + (Nesting.slotBytes offsetSlot b.layout.slot).length +
        roundUp4 (addressPattern.strlen + 1) + 4 := by
  rw [PacketBuilder.size, PacketBuilder.layout, PacketBuilder.nesting_beginMessage h,
    Nesting.layout_push]
  simp [PacketBuilder.pending, PacketBuilder.step, argumentData, PacketBuilder.layout,
    Nat.add_assoc, roundUp4]

theorem size_argument {m : CString × List Argument} (h : b.message = some m) (a : Argument) :
    (b.step (.argument a)).size = b.layout.bytes.length + (argumentData m.2).length +
      a.data.length + roundUp4 (m.2.length + 3) := by
  rw [PacketBuilder.size, PacketBuilder.layout, PacketBuilder.nesting_argument]
  have hcount : (m.2 ++ [a]).length + 2 = m.2.length + 3 := by
    rw [List.length_append, List.length_singleton]
  simp only [PacketBuilder.pending, PacketBuilder.step, h, Option.map_some, List.length_append,
    length_typeTagString, argumentData_append, PacketBuilder.layout, ← hcount]
  omega

theorem slot_isSome : b.layout.slot.isSome = (b.message.isSome || !b.bundles.isEmpty) := by
  rcases b with ⟨packets, bundles, _ | m⟩
  · rcases bundles with _ | ⟨bundle, outer⟩
    · rfl
    · exact Nesting.slot_layoutOf_cons _ _ _ _
  · exact Nesting.slot_layoutOf_cons _ _ _ _

/-- What does not throw was no misuse. -/
theorem misuse_of_ok (h : s.Builds b) {op : StreamOp} (hs : s.apply op = .ok s') :
    b.misuse op = none := by
  have hmessage := h.inProgress
  have hslot : s.elementSizePtr.isSome = (b.message.isSome || !b.bundles.isEmpty) := by
    rw [h.slot, slot_isSome]
  cases op with
  | clear => rfl
  | argument rhs => rfl
  | beginBundle timeTag | beginMessage addressPattern =>
      simp only [OutboundPacketStream.apply, beginBundle, beginMessage, isMessageInProgress,
        hmessage] at hs
      rw [PacketBuilder.misuse]
      split at hs
      · cases hs
      · rename_i hnone
        rw [if_neg hnone]
  | endBundle =>
      simp only [OutboundPacketStream.apply, endBundle, isMessageInProgress, isBundleInProgress,
        hmessage, hslot] at hs
      rw [PacketBuilder.misuse]
      split at hs
      · cases hs
      rename_i hopen
      split at hs
      · cases hs
      rename_i hnone
      rw [if_neg hnone]
      rw [Bool.eq_false_of_not_eq_true hnone] at hopen
      simpa using hopen
  | endMessage =>
      simp only [OutboundPacketStream.apply, endMessage, isMessageInProgress, hmessage] at hs
      rw [PacketBuilder.misuse]
      split at hs
      · cases hs
      · rename_i hsome
        simpa using hsome

/-- What the stream takes the bounded tree takes as well. -/
theorem BuildsExactly.stepWithin_of_ok (h : s.BuildsExactly b)
    (hsmall : s.capacity ≤ oscMaxCapacity) {op : StreamOp} (hop : b.Allows op)
    (hs : s.apply op = .ok s') : b.stepWithin s.capacity op = .ok (b.step op) := by
  have hsize := (h.apply hsmall hop hs).size_eq
  have hreaches := h.toBuilds.apply hsmall hs
  have hle := hreaches.builds.size_le
  rw [hreaches.capacity, hsize] at hle
  rw [PacketBuilder.stepWithin, misuse_of_ok h.toBuilds hs]
  exact if_pos hle

/-- What the stream refuses the bounded tree refuses with the same exception. -/
theorem BuildsExactly.stepWithin_of_error (h : s.BuildsExactly b) {op : StreamOp}
    (hop : b.Allows op) {e : OscException} (hs : s.apply op = .error e) :
    b.stepWithin s.capacity op = .error e := by
  have hmessage := h.inProgress
  have hslot : s.elementSizePtr.isSome = (b.message.isSome || !b.bundles.isEmpty) := by
    rw [h.slot, slot_isSome]
  have hslotSize : (Nesting.slotBytes offsetSlot b.layout.slot).length = s.slotSize := by
    rw [← h.slot, length_slotBytes]
  cases op with
  | clear => cases hs
  | beginBundle timeTag =>
      simp only [OutboundPacketStream.apply, beginBundle] at hs
      split at hs
      · rename_i hprogress
        rw [isMessageInProgress, hmessage] at hprogress
        simpa [PacketBuilder.stepWithin, PacketBuilder.misuse, hprogress] using hs
      rename_i hprogress
      have hnone := h.message_eq_none (Bool.eq_false_of_not_eq_true hprogress)
      split at hs
      · rename_i hspace
        have hsize := size_beginBundle hnone timeTag
        have hstream := h.noStray (Bool.eq_false_of_not_eq_true hprogress)
        have hfull : s.capacity < (b.step (.beginBundle timeTag)).size := by
          have hcursor := h.cursor
          simp [availableBundleSpace, size, hprogress] at hspace
          omega
        rw [← Except.error.inj hs]
        apply PacketBuilder.stepWithin_full _ hfull
        simp [PacketBuilder.misuse, hnone]
      · cases hs
  | endBundle =>
      simp only [OutboundPacketStream.apply, endBundle, isMessageInProgress, isBundleInProgress,
        hmessage, hslot] at hs
      rw [PacketBuilder.stepWithin, PacketBuilder.misuse]
      split at hs
      · rename_i hopen
        have hclosed : b.message.isSome = false ∧ b.bundles.isEmpty = true := by
          simpa using hopen
        simpa [hclosed.1, hclosed.2] using hs
      split at hs
      · rename_i hsome
        simpa [hsome] using hs
      · cases hs
  | beginMessage addressPattern =>
      simp only [OutboundPacketStream.apply, beginMessage] at hs
      split at hs
      · rename_i hprogress
        rw [isMessageInProgress, hmessage] at hprogress
        simpa [PacketBuilder.stepWithin, PacketBuilder.misuse, hprogress] using hs
      rename_i hprogress
      have hnone := h.message_eq_none (Bool.eq_false_of_not_eq_true hprogress)
      split at hs
      · rename_i hspace
        have hsize := size_beginMessage hnone addressPattern
        have hstream := h.noStray (Bool.eq_false_of_not_eq_true hprogress)
        have hfull : s.capacity < (b.step (.beginMessage addressPattern)).size := by
          have hcursor := h.cursor
          simp [availableMessageSpace, size, hprogress] at hspace
          omega
        rw [← Except.error.inj hs]
        apply PacketBuilder.stepWithin_full _ hfull
        simp [PacketBuilder.misuse, hnone]
      · cases hs
  | endMessage =>
      simp only [OutboundPacketStream.apply, endMessage, isMessageInProgress, hmessage] at hs
      rw [PacketBuilder.stepWithin, PacketBuilder.misuse]
      split at hs
      · rename_i hnone
        have hnone' : b.message.isSome = false := by simpa using hnone
        simpa [hnone'] using hs
      · cases hs
  | argument rhs =>
      rw [OutboundPacketStream.apply, argument_eq, putArgument] at hs
      split at hs
      · rename_i hspace
        cases hm : b.message with
        | none => simp [PacketBuilder.Allows, hm] at hop
        | some m =>
            have hsize := size_argument hm rhs
            have hend := (h.message m hm).dataEnd
            have hcount : s.capacity - s.typeTagsCurrent = m.2.length := by
              have htagCount := (h.message m hm).tagCount
              omega
            have hfull : s.capacity < (b.step (.argument rhs)).size := by
              have hcursor := h.cursor
              simp [availableArgumentSpace, hcount] at hspace
              omega
            rw [← Except.error.inj hs]
            exact PacketBuilder.stepWithin_full rfl hfull
      · cases hs

/-- The stream and the tree of bounded size succeed and throw together. -/
theorem apply_agrees {capacity : ℕ} (hsmall : capacity ≤ oscMaxCapacity)
    (s : OutboundPacketStream) (b : PacketBuilder) (op : StreamOp)
    (h : s.BuildsExactly b ∧ s.capacity = capacity) (hop : b.Allows op) :
    Throwing.Agree (fun s b => s.BuildsExactly b ∧ s.capacity = capacity) (s.apply op)
      (b.stepWithin capacity op) := by
  rcases h with ⟨hbuilds, rfl⟩
  cases hs : s.apply op with
  | error e =>
      rw [hbuilds.stepWithin_of_error hop hs]
      rfl
  | ok s' =>
      rw [hbuilds.stepWithin_of_ok hsmall hop hs]
      exact ⟨hbuilds.apply hsmall hop hs, (hbuilds.toBuilds.apply hsmall hs).capacity⟩

/-! ## The packet -/

/-- The stream is ready when nothing is open. -/
theorem Builds.isReady_iff (h : s.Builds b) :
    s.isReady = true ↔ b.message = none ∧ b.bundles = [] := by
  have hslot : s.elementSizePtr.isSome = (b.message.isSome || !b.bundles.isEmpty) := by
    rw [h.slot, slot_isSome]
  rw [isReady, isMessageInProgress, isBundleInProgress, hslot, h.inProgress]
  cases b.message with
  | none => simp
  | some m => simp

theorem layout_of_ready (hm : b.message = none) (hb : b.bundles = []) :
    b.layout.bytes = b.packets.flatMap OscElement.encode := by
  rw [PacketBuilder.layout, PacketBuilder.nesting, hm, hb]
  rfl

/-- Where the elements that are complete stand. -/
theorem Builds.read_ready (h : s.Builds b) (hready : s.isReady = true) :
    s.mem.read 0 s.messageCursor = b.packets.flatMap OscElement.encode := by
  have hparts := h.isReady_iff.mp hready
  rw [h.cursor, ← layout_of_ready hparts.1 hparts.2]
  exact h.image

theorem BuildsExactly.data_ready (h : s.BuildsExactly b) (hready : s.isReady = true) :
    s.data = b.packets.flatMap OscElement.encode := by
  have hparts := h.isReady_iff.mp hready
  have hprogress : s.messageIsInProgress = false := by rw [h.inProgress, hparts.1]; rfl
  rw [data, size, isMessageInProgress, hprogress, h.noStray hprogress]
  exact h.read_ready hready

/-- Whatever is streamed, and whatever throws: the buffer is never left, and a stream that is
ready holds the bytes of the elements that were completed, up to the message cursor. An argument
that was streamed outside a message stands behind it and counts in `Size()`. -/
theorem run_writes (buffer : Memory) {capacity : ℕ} (hsmall : capacity ≤ oscMaxCapacity)
    (ops : List StreamOp) :
    let s := (new buffer capacity).run ops
    s.size ≤ capacity ∧ Memory.SameOutside capacity buffer s.mem ∧
      (s.isReady = true → s.mem.read 0 s.messageCursor =
        ((new buffer capacity).built .empty ops).packets.flatMap OscElement.encode) := by
  have hrun := (builds_new buffer capacity).run hsmall ops
  have hsize := hrun.builds.size_le
  rw [hrun.capacity] at hsize
  exact ⟨hsize, hrun.outside, hrun.builds.read_ready⟩

theorem run_writes_status :
    let s := (new (fun _ => 0xAA) 64).run
      [.beginBundle 1, .endMessage, .beginMessage (.ofString "/s"), .argument (.int32 7),
        .argument .nil, .endMessage, .endBundle]
    s.isReady = true ∧ s.size = 32 ∧ Memory.SameOutside 64 (fun _ => 0xAA) s.mem := by
  have h := run_writes (fun _ => 0xAA) (show 64 ≤ oscMaxCapacity by decide)
    [.beginBundle 1, .endMessage, .beginMessage (.ofString "/s"), .argument (.int32 7),
      .argument .nil, .endMessage, .endBundle]
  exact ⟨by decide, by decide, h.2.1⟩

/-- Without arguments outside messages the stream throws exactly where the tree of bounded size
does, its size is that of the tree, and a packet that is ready is the bytes of its elements. -/
theorem run_throws (buffer : Memory) {capacity : ℕ} (hsmall : capacity ≤ oscMaxCapacity)
    {ops : List StreamOp}
    (hops : Throwing.AllowsAll (·.stepWithin capacity) PacketBuilder.Allows .empty ops) :
    let s := (new buffer capacity).run ops
    let b := Throwing.run (·.stepWithin capacity) PacketBuilder.empty ops
    Throwing.outcomes OutboundPacketStream.apply (new buffer capacity) ops =
        Throwing.outcomes (·.stepWithin capacity) PacketBuilder.empty ops ∧
      s.size = b.size ∧
      (s.isReady = true → s.data = b.packets.flatMap OscElement.encode) := by
  have hrun := Throwing.run_agrees (apply_agrees hsmall)
    ⟨buildsExactly_new buffer capacity, rfl⟩ hops
  exact ⟨hrun.2, hrun.1.1.size_eq, hrun.1.1.data_ready⟩

theorem run_throws_status :
    Throwing.outcomes apply (new (fun _ => 0) 24)
        [.endBundle, .beginMessage (.ofString "/s"), .beginBundle 1, .argument (.int32 7),
          .argument (.int64 1), .argument (.int32 7), .endMessage] =
      [some .bundleNotInProgress, none, some .messageInProgress, none, none,
        some .outOfBufferMemory, none] := by
  have h := @run_throws (fun _ => 0) 24 (by decide)
    [.endBundle, .beginMessage (.ofString "/s"), .beginBundle 1, .argument (.int32 7),
      .argument (.int64 1), .argument (.int32 7), .endMessage]
    ⟨trivial, trivial, trivial, rfl, rfl, rfl, trivial, trivial⟩
  rw [h.1]
  decide

/-! ## Ending what is open -/

end OutboundPacketStream

namespace PacketBuilder
variable {b : PacketBuilder}

/-- The operators that end everything that is open. -/
def closing (b : PacketBuilder) : List StreamOp :=
  (if b.message.isSome then [.endMessage] else []) ++ List.replicate b.bundles.length .endBundle

theorem bundles_add_length (e : OscElement) : (b.add e).bundles.length = b.bundles.length := by
  rw [add]
  split
  · rfl
  · rename_i hb
    rw [hb]
    rfl

theorem bundles_endBundle_length : (b.step .endBundle).bundles.length = b.bundles.length - 1 := by
  rcases hb : b.bundles with _ | ⟨⟨timeTag, elements⟩, outer⟩
  · simp [step, hb]
  · simp only [step, hb]
    rw [bundles_add_length]
    rfl

theorem message_endBundle (h : b.message = none) : (b.step .endBundle).message = none := by
  rw [step]
  split
  · exact h
  · rw [message_add]
    exact h

theorem step_endMessage {m : CString × List Argument} (h : b.message = some m) :
    (b.step .endMessage).message = none ∧
      (b.step .endMessage).bundles.length = b.bundles.length := by
  simp only [step, h, message_add, bundles_add_length, and_self]

end PacketBuilder

namespace OutboundPacketStream
variable {s s' s'' : OutboundPacketStream} {b b' : PacketBuilder}

/-- Elements have ended: the room for the end was reserved when they began. -/
structure Ends (s s' : OutboundPacketStream) (b : PacketBuilder) : Prop where
  builds : s'.Builds b
  capacity : s'.capacity = s.capacity
  size : s'.size = s.size
  noStray : s.NoStray → s'.NoStray

/-- Two ends, one behind the other. -/
theorem Ends.trans (h : s.Ends s' b) (h' : s'.Ends s'' b') : s.Ends s'' b' :=
  ⟨h'.builds, h'.capacity.trans h.capacity, h'.size.trans h.size,
    fun hs => h'.noStray (h.noStray hs)⟩

theorem endElement_eq (s : OutboundPacketStream) (p : ℕ) : ∃ mem elementSizePtr,
    s.endElement p = { s with mem, elementSizePtr } := by
  rw [endElement]
  split <;> exact ⟨_, _, rfl⟩

/-- The innermost bundle ends. -/
theorem Builds.endBundle_ends (h : s.Builds b) (hsmall : s.capacity ≤ oscMaxCapacity)
    (hm : b.message = none) (hb : b.bundles ≠ []) :
    ∃ s', s.apply .endBundle = .ok s' ∧ s.Ends s' (b.step .endBundle) := by
  have hprogress : s.messageIsInProgress = false := by rw [h.inProgress, hm]; rfl
  have hopen : s.isBundleInProgress = true := by
    have hslot := slot_isSome (b := b)
    rw [← h.slot] at hslot
    simpa [isBundleInProgress, hm, List.isEmpty_iff] using hslot.trans (by simp [hm, hb])
  have hs : s.apply .endBundle = .ok (s.endElement s.messageCursor) := by
    simp [OutboundPacketStream.apply, OutboundPacketStream.endBundle, hopen, isMessageInProgress,
      hprogress]
  have hreaches := h.apply hsmall hs
  rcases s.endElement_eq s.messageCursor with ⟨mem, elementSizePtr, hend⟩
  refine ⟨_, hs, hreaches.builds, hreaches.capacity, ?_, ?_⟩
  · rw [hend]
    rfl
  · rw [hend]
    exact id

/-- The message in progress ends. -/
theorem Builds.endMessage_ends (h : s.Builds b) (hsmall : s.capacity ≤ oscMaxCapacity)
    {m : CString × List Argument} (hm : b.message = some m) :
    ∃ s', s.apply .endMessage = .ok s' ∧ s.Ends s' (b.step .endMessage) := by
  have hprogress : s.isMessageInProgress = true := by
    rw [isMessageInProgress, h.inProgress, hm]
    rfl
  have hs : s.apply .endMessage = .ok { endElement { s.placeTypeTags with
      argumentCurrent := s.placeTypeTags.messageCursor } s.placeTypeTags.messageCursor with
      messageIsInProgress := false } := by
    simp [OutboundPacketStream.apply, OutboundPacketStream.endMessage, hprogress]
  have hreaches := h.apply hsmall hs
  -- the type tags take the room that `Size()` has counted for them
  have hplaced := placeTypeTags_placed (h.message m hm) (h.size_message hprogress)
  have hcursor := hplaced.cursor
  have hend := (h.message m hm).dataEnd
  have hcount : s.capacity - s.typeTagsCurrent = m.2.length := by
    have htagCount := (h.message m hm).tagCount
    omega
  rw [List.length_append, length_typeTagString] at hcursor
  rcases endElement_eq { s.placeTypeTags with
    argumentCurrent := s.placeTypeTags.messageCursor } s.placeTypeTags.messageCursor with
    ⟨mem, elementSizePtr, helement⟩
  refine ⟨_, hs, hreaches.builds, hreaches.capacity, ?_, ?_⟩
  · rw [helement, OutboundPacketStream.size, OutboundPacketStream.size, if_pos hprogress, hcount]
    simp only [isMessageInProgress, Bool.false_eq_true, if_false]
    omega
  · rw [helement]
    exact fun _ _ => rfl

/-- All open bundles end. -/
theorem Builds.endBundles (h : s.Builds b) (hsmall : s.capacity ≤ oscMaxCapacity)
    (hm : b.message = none) :
    ∃ s' b', s.runAll (List.replicate b.bundles.length .endBundle) = .ok s' ∧ s.Ends s' b' ∧
      b'.message = none ∧ b'.bundles = [] ∧ b'.finish = b.finish := by
  generalize hn : b.bundles.length = n
  induction n generalizing s b with
  | zero =>
      exact ⟨s, b, rfl, ⟨h, rfl, rfl, id⟩, hm, List.eq_nil_of_length_eq_zero hn, rfl⟩
  | succ n ih =>
      have hne : b.bundles ≠ [] := List.ne_nil_of_length_eq_add_one hn
      rcases h.endBundle_ends hsmall hm hne with ⟨s₁, hs₁, hends⟩
      have hlength : (b.step .endBundle).bundles.length = n := by
        rw [PacketBuilder.bundles_endBundle_length, hn, Nat.add_sub_cancel]
      rcases ih hends.builds (hends.capacity.trans_le hsmall) (PacketBuilder.message_endBundle hm)
        hlength with ⟨s', b', hrun, hends', hm', hb', hfinish⟩
      refine ⟨s', b', ?_, hends.trans hends', hm', hb',
        hfinish.trans (PacketBuilder.finish_endBundle hm)⟩
      rw [List.replicate_succ, runAll, Throwing.runAll, hs₁]
      exact hrun

theorem Builds.closes (h : s.Builds b) (hsmall : s.capacity ≤ oscMaxCapacity) :
    ∃ s' b', s.runAll b.closing = .ok s' ∧ s.Ends s' b' ∧
      b'.message = none ∧ b'.bundles = [] ∧ b'.finish = b.finish := by
  cases hm : b.message with
  | none =>
      rw [PacketBuilder.closing, hm]
      exact h.endBundles hsmall hm
  | some m =>
      rcases h.endMessage_ends hsmall hm with ⟨s₁, hs₁, hends⟩
      rcases PacketBuilder.step_endMessage hm with ⟨hm₁, hlength⟩
      rcases hends.builds.endBundles (hends.capacity.trans_le hsmall) hm₁ with
        ⟨s', b', hrun, hends', hm', hb', hfinish⟩
      refine ⟨s', b', ?_, hends.trans hends', hm', hb',
        hfinish.trans PacketBuilder.finish_endMessage⟩
      rw [PacketBuilder.closing, hm, ← hlength]
      simp only [Option.isSome_some, if_true, List.singleton_append, runAll, Throwing.runAll]
      rw [hs₁]
      exact hrun

/-- Whatever was streamed and whatever threw, everything that is open can be ended, and the size
of the packet is then the one that `Size()` gave before. -/
theorem run_closes (buffer : Memory) {capacity : ℕ} (hsmall : capacity ≤ oscMaxCapacity)
    (ops : List StreamOp) :
    let s := (new buffer capacity).run ops
    let b := (new buffer capacity).built .empty ops
    ∃ s', s.runAll b.closing = .ok s' ∧ s'.isReady = true ∧ s'.size = s.size ∧
      s'.mem.read 0 s'.messageCursor = b.finish.flatMap OscElement.encode ∧
      (s.NoStray → s'.data = b.finish.flatMap OscElement.encode) := by
  intro s b
  have hrun := (builds_new buffer capacity).run hsmall ops
  rcases hrun.builds.closes (hrun.capacity.trans_le hsmall) with
    ⟨s', b', hclosing, hends, hm, hb, hfinish⟩
  have hready := hends.builds.isReady_iff.mpr ⟨hm, hb⟩
  have hpackets : b'.packets = b.finish := by
    rw [← hfinish, PacketBuilder.finish, hm, hb]
  refine ⟨s', hclosing, hready, hends.size, ?_, ?_⟩
  · rw [hends.builds.read_ready hready, hpackets]
  · intro hstray
    have hexact : s'.BuildsExactly b' := ⟨hends.builds, hends.noStray hstray⟩
    rw [hexact.data_ready hready, hpackets]

/-- The second argument is outside the message. -/
theorem run_closes_status :
    ∃ s', (((new (fun _ => 0) 64).run
        [.beginBundle 1, .beginBundle 2, .beginMessage (.ofString "/s"), .argument (.int32 7),
          .endMessage, .argument (.int32 8)]).runAll
          [.endBundle, .endBundle]) = .ok s' ∧ s'.isReady = true ∧ s'.size = 56 := by
  have h := run_closes (fun _ => 0) (show 64 ≤ oscMaxCapacity by decide)
    [.beginBundle 1, .beginBundle 2, .beginMessage (.ofString "/s"), .argument (.int32 7),
      .endMessage, .argument (.int32 8)]
  rcases h with ⟨s', hs', hready, hsize, -⟩
  exact ⟨s', hs', hready, hsize⟩

end OutboundPacketStream

end Sur40
