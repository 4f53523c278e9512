import Sur40.OscBuilder

/-!
# What a packet stream builds

The pointers and the bytes of a packet stream are those of a packet under construction: the
elements are in memory with the slots of the open ones linked, the arguments of the message in
progress stand behind its address, and its type tags, backwards, at the end of the buffer.

## Main definitions

* `OutboundPacketStream.Builds`: the stream and the packet under construction.
* `OutboundPacketStream.Builds.apply`: what an operation does.
* `OutboundPacketStream.built`, `builds_run`: the packet after any sequence of operations.
-/

namespace Sur40

open Devlib

/-- `osc_bundle_element_size_t` bounds the packets: "assume packets smaller than 2Gb". -/
def oscMaxCapacity : ℕ := 0x7FFFFFFF

namespace OutboundPacketStream
variable {s s' : OutboundPacketStream} {b : PacketBuilder}

/-- The arguments of the message in progress, between its address and the end of the buffer. -/
structure HoldsArguments (s : OutboundPacketStream) (arguments : List Argument) : Prop where
  typeTags : s.mem.Holds s.typeTagsCurrent (arguments.map Argument.typeTag).reverse
  tagCount : s.typeTagsCurrent + arguments.length = s.capacity
  data : s.mem.Holds s.messageCursor (argumentData arguments)
  dataEnd : s.argumentCurrent = s.messageCursor + (argumentData arguments).length

/-- The stream and the tree that it builds: the bytes up to the message cursor, the slot of the
element that is open, and the arguments of the message that is open. An argument without a message
lies behind the message cursor. -/
structure Builds (s : OutboundPacketStream) (b : PacketBuilder) : Prop where
  image : s.mem.Holds 0 b.layout.bytes
  cursor : s.messageCursor = b.layout.bytes.length
  slot : s.elementSizePtr = b.layout.slot
  inProgress : s.messageIsInProgress = b.message.isSome
  message : ∀ m, b.message = some m → s.HoldsArguments m.2
  cursor_le : s.messageCursor ≤ s.argumentCurrent
  tags_le : s.typeTagsCurrent ≤ s.capacity
  size_le : s.size ≤ s.capacity

/-- What an operation leaves: the packet under construction and the memory behind the buffer. -/
structure Reaches (s s' : OutboundPacketStream) (b : PacketBuilder) : Prop where
  builds : s'.Builds b
  capacity : s'.capacity = s.capacity
  outside : Memory.SameOutside s.capacity s.mem s'.mem

theorem builds_clear (s : OutboundPacketStream) : s.clear.Builds .empty where
  image := Memory.holds_nil
  cursor := rfl
  slot := rfl
  inProgress := rfl
  message := by
    intro m hm
    simp [PacketBuilder.empty] at hm
  cursor_le := Nat.le_refl _
  tags_le := Nat.le_refl _
  size_le := Nat.zero_le _

/-- A new stream builds the empty tree. -/
theorem builds_new (buffer : Memory) (capacity : ℕ) : (new buffer capacity).Builds .empty :=
  builds_clear (new buffer capacity)

theorem Builds.message_eq_none (h : s.Builds b) (hp : s.isMessageInProgress = false) :
    b.message = none := by
  rw [isMessageInProgress, h.inProgress] at hp
  simpa using hp

/-- The arguments stay within the buffer. -/
theorem Builds.argumentCurrent_le (h : s.Builds b) : s.argumentCurrent ≤ s.capacity := by
  have hsize := h.size_le
  rw [size] at hsize
  omega

/-- The message in progress and its tags do not meet. -/
theorem Builds.size_message (h : s.Builds b) (hp : s.isMessageInProgress = true) :
    s.argumentCurrent + roundUp4 ((s.capacity - s.typeTagsCurrent) + 2) ≤ s.capacity := by
  have hsize := h.size_le
  rwa [size, if_pos hp] at hsize

/-! ## An element begins -/

@[simp] theorem length_offsetSlot (p : ℕ) : (offsetSlot p).length = 4 := Codec.length_encode _ _

theorem length_slotBytes (s : OutboundPacketStream) :
    (Nesting.slotBytes offsetSlot s.elementSizePtr).length = s.slotSize := by
  cases h : s.elementSizePtr <;> simp [Nesting.slotBytes, slotSize, elementSizeSlotRequired, h]

/-- An element begins with a slot for its size, which holds the place of the slot around it. -/
theorem beginElement_eq (s : OutboundPacketStream) (p : ℕ) :
    s.beginElement p =
      ({ s with mem := s.mem.write p (Nesting.slotBytes offsetSlot s.elementSizePtr),
                elementSizePtr := some (Nesting.slotAt p s.elementSizePtr) }, p + s.slotSize) := by
  cases h : s.elementSizePtr <;>
    simp [beginElement, Nesting.slotBytes, Nesting.slotAt, slotSize, elementSizeSlotRequired, h]

/-- The memory after an element began with the bytes `bs`. -/
def memBegun (s : OutboundPacketStream) (bs : List UInt8) : Memory :=
  (s.mem.write s.messageCursor (Nesting.slotBytes offsetSlot s.elementSizePtr)).write
    (s.messageCursor + s.slotSize) bs

/-- An element begins behind the others. -/
structure Begun (s : OutboundPacketStream) (L : NestingLayout) (bs : List UInt8) : Prop where
  image : (s.memBegun bs).Holds 0 L.bytes
  cursor : s.messageCursor + s.slotSize + bs.length = L.bytes.length
  slot : some (Nesting.slotAt s.messageCursor s.elementSizePtr) = L.slot
  outside : s.messageCursor + s.slotSize + bs.length ≤ s.capacity →
    Memory.SameOutside s.capacity s.mem (s.memBegun bs)

theorem Builds.begun (h : s.Builds b) (bs : List UInt8) :
    s.Begun ((b.nesting.push bs).layout offsetSlot) bs := by
  have hslot : (b.nesting.layout offsetSlot).slot = s.elementSizePtr := h.slot.symm
  have hcursor : (b.nesting.layout offsetSlot).bytes.length = s.messageCursor := h.cursor.symm
  have himage : s.mem.Holds 0 (b.nesting.layout offsetSlot).bytes := h.image
  have hlength := s.length_slotBytes
  constructor
  · rw [Nesting.layout_push, hslot, memBegun]
    apply Memory.Holds.write_append
    · apply himage.write_append
      rw [hcursor, Nat.zero_add]
    · rw [List.length_append, hcursor, hlength, Nat.zero_add]
  · rw [Nesting.layout_push, hslot, List.length_append, List.length_append, hcursor, hlength]
  · rw [Nesting.layout_push, hslot, hcursor]
  · intro hle
    apply ((Memory.SameOutside.refl _ _).write (by omega)).write hle

/-- A bundle that is begun. -/
theorem Builds.beginBundle (h : s.Builds b) {timeTag : UInt64}
    (hs : s.beginBundle timeTag = .ok s') : s.Reaches s' (b.step (.beginBundle timeTag)) := by
  rw [OutboundPacketStream.beginBundle] at hs
  split at hs
  · cases hs
  split at hs
  · cases hs
  rename_i hprogress hspace
  have hnone := h.message_eq_none (Bool.eq_false_of_not_eq_true hprogress)
  have hbegun := h.begun (bundleHeader timeTag)
  rw [← PacketBuilder.nesting_beginBundle hnone] at hbegun
  have hcursor := hbegun.cursor
  rw [length_bundleHeader] at hcursor
  have hspace' : s.argumentCurrent + s.slotSize + 16 ≤ s.capacity := by
    simpa [availableBundleSpace, size, hprogress] using hspace
  have hle := h.cursor_le
  rw [beginElement_eq] at hs
  have hs' := Except.ok.inj hs
  subst hs'
  refine ⟨⟨hbegun.image, hcursor, hbegun.slot, h.inProgress, ?_, Nat.le_refl _, h.tags_le, ?_⟩,
    rfl, ?_⟩
  · intro m hm
    simp [PacketBuilder.step, hnone] at hm
  · have hsize : s.messageCursor + s.slotSize + 16 ≤ s.capacity := by omega
    simpa [size, isMessageInProgress, h.inProgress, hnone] using hsize
  · apply hbegun.outside
    rw [length_bundleHeader]
    omega

/-- A message that is begun. -/
theorem Builds.beginMessage (h : s.Builds b) {addressPattern : CString}
    (hs : s.beginMessage addressPattern = .ok s') :
    s.Reaches s' (b.step (.beginMessage addressPattern)) := by
  rw [OutboundPacketStream.beginMessage] at hs
  split at hs
  · cases hs
  split at hs
  · cases hs
  rename_i hprogress hspace
  have hnone := h.message_eq_none (Bool.eq_false_of_not_eq_true hprogress)
  have hbegun := h.begun addressPattern.padded
  rw [← PacketBuilder.nesting_beginMessage hnone] at hbegun
  have hspace' : s.argumentCurrent + s.slotSize + addressPattern.padded.length + 4 ≤
      s.capacity := by
    simpa [availableMessageSpace, size, hprogress] using hspace
  have hle := h.cursor_le
  rw [beginElement_eq] at hs
  have hs' := Except.ok.inj hs
  subst hs'
  refine ⟨⟨hbegun.image, hbegun.cursor, hbegun.slot, rfl, ?_, Nat.le_refl _, Nat.le_refl _, ?_⟩,
    rfl, ?_⟩
  · intro m hm
    have hm' : (addressPattern, []) = m := Option.some.inj hm
    subst hm'
    exact ⟨Memory.holds_nil, rfl, Memory.holds_nil, rfl⟩
  · have hsize : s.messageCursor + s.slotSize + addressPattern.padded.length + 4 ≤
        s.capacity := by omega
    simpa [size, isMessageInProgress, roundUp4] using hsize
  · apply hbegun.outside
    omega

/-! ## An argument -/

theorem argumentData_append (arguments : List Argument) (a : Argument) :
    argumentData (arguments ++ [a]) = argumentData arguments ++ a.data := by
  simp [argumentData]

/-- An argument; its type tag is stored behind the arguments, in reverse order. -/
theorem Builds.argument (h : s.Builds b) {a : Argument} (hs : s.argument a = .ok s') :
    s.Reaches s' (b.step (.argument a)) := by
  rw [argument_eq, putArgument] at hs
  split at hs
  · cases hs
  rename_i hspace
  have hspace' : s.argumentCurrent + a.data.length +
      roundUp4 ((s.capacity - s.typeTagsCurrent) + 3) ≤ s.capacity := by
    simpa [availableArgumentSpace] using hspace
  have hround := le_roundUp4 ((s.capacity - s.typeTagsCurrent) + 3)
  have htags := h.tags_le
  have hle := h.cursor_le
  have hcursor := h.cursor
  have htagByte : ((s.mem.write (s.typeTagsCurrent - 1) [a.typeTag]).write s.argumentCurrent
      a.data) (s.typeTagsCurrent - 1) = a.typeTag := by
    rw [Memory.write_of_ge (by omega)]
    exact (Memory.holds_cons.mp (Memory.holds_write s.mem _ [a.typeTag])).1
  have hs' := Except.ok.inj hs
  subst hs'
  have hlayout : (b.step (.argument a)).layout = b.layout := by
    rw [PacketBuilder.layout, PacketBuilder.nesting_argument, PacketBuilder.layout]
  refine ⟨⟨?_, ?_, ?_, ?_, ?_, ?_, ?_, ?_⟩, rfl, ?_⟩
  · rw [hlayout]
    apply (h.image.write _).write
    · left
      omega
    · left
      omega
  · rw [hlayout]
    exact h.cursor
  · rw [hlayout]
    exact h.slot
  · simp [PacketBuilder.step, h.inProgress]
  · intro m hm
    cases hb : b.message with
    | none => simp [PacketBuilder.step, hb] at hm
    | some m₀ =>
        have hm₀ := h.message m₀ hb
        have hcount := hm₀.tagCount
        have hend := hm₀.dataEnd
        simp only [PacketBuilder.step, hb, Option.map_some, Option.some.injEq] at hm
        subst hm
        constructor
        · rw [List.map_append, List.map_singleton, List.reverse_append, List.reverse_singleton,
            List.singleton_append, Memory.holds_cons]
          have htag : s.typeTagsCurrent - 1 + 1 = s.typeTagsCurrent := by omega
          refine ⟨htagByte, ?_⟩
          rw [htag]
          apply (hm₀.typeTags.write (.inr _)).write (.inr _)
          · rw [List.length_singleton, htag]
          · omega
        · simp only [List.length_append, List.length_singleton]
          omega
        · rw [argumentData_append]
          apply Memory.Holds.write_append
          · apply hm₀.data.write
            left
            omega
          · exact hend
        · rw [argumentData_append, List.length_append, hend, Nat.add_assoc]
  · exact Nat.le_trans hle (Nat.le_add_right _ _)
  · exact Nat.le_trans (Nat.sub_le _ _) htags
  · have htag : s.capacity - (s.typeTagsCurrent - 1) + 2 =
        s.capacity - s.typeTagsCurrent + 3 := by omega
    rw [size]
    split
    · simp only [htag]
      exact hspace'
    · simp only [Nat.add_zero]
      omega
  · apply ((Memory.SameOutside.refl _ _).write _).write
    · omega
    · rw [List.length_singleton]
      omega

/-! ## An element ends -/

theorem decode_offsetSlot {p : ℕ} (hp : p < 2 ^ 32) : (le32.decode (offsetSlot p)).toNat = p := by
  rw [offsetSlot, Codec.decode_encode, UInt32.toNat_ofNat']
  exact Nat.mod_eq_of_lt hp

/-- The innermost element ended. -/
structure Ended (s s' : OutboundPacketStream) (L : NestingLayout) : Prop where
  image : s'.mem.Holds 0 L.bytes
  cursor : s.messageCursor = L.bytes.length
  slot : s'.elementSizePtr = L.slot
  others : s' = { s with mem := s'.mem, elementSizePtr := s'.elementSizePtr }
  outside : Memory.SameOutside s.messageCursor s.mem s'.mem

theorem endElement_ended {n : Nesting} (himage : s.mem.Holds 0 (n.layout offsetSlot).bytes)
    (hcursor : s.messageCursor = (n.layout offsetSlot).bytes.length)
    (hslot : s.elementSizePtr = (n.layout offsetSlot).slot) (hopen : n.stack ≠ [])
    (hinner : ∀ c ∈ n.stack.tail, c ≠ []) (hsmall : s.messageCursor ≤ oscMaxCapacity) :
    s.Ended (s.endElement s.messageCursor) ((n.pop (bigEndian 4)).layout offsetSlot) := by
  rcases hstack : n.stack with _ | ⟨c, _ | ⟨d, outer⟩⟩
  · exact absurd hstack hopen
  · -- the outermost element has no slot
    have hpop := Nesting.layout_pop_single offsetSlot (bigEndian 4) hstack
    have hzero : s.elementSizePtr = some 0 := by
      rw [hslot, Nesting.layout, hstack]
      rfl
    rw [hpop, endElement, hzero]
    exact ⟨himage, hcursor, rfl, rfl, Memory.SameOutside.refl _ _⟩
  · obtain ⟨before, p, hlayout, hpop, hd, hp⟩ :=
      Nesting.layout_pop_inner offsetSlot (bigEndian 4) hstack
    have hne : d ≠ [] := hinner d (by simp [hstack])
    have hpos : 0 < d.length := List.length_pos_of_ne_nil hne
    rw [hlayout] at himage hcursor hslot
    simp only [List.length_append, length_offsetSlot] at hcursor
    rw [oscMaxCapacity] at hsmall
    -- the slot still holds the offset of the slot around it
    have hread : s.mem.read before.length 4 = offsetSlot p := by
      have hmiddle := (Memory.holds_append.mp (Memory.holds_append.mp himage).1).2
      rw [Memory.Holds, length_offsetSlot, Nat.zero_add] at hmiddle
      exact hmiddle
    have hlength : s.messageCursor - before.length - 4 = c.length := by omega
    have hend : s.endElement s.messageCursor =
        { s with mem := s.mem.write before.length (bigEndian 4 c.length),
                 elementSizePtr := some p } := by
      obtain ⟨k, hk⟩ : ∃ k, before.length = k + 1 := ⟨before.length - 1, by omega⟩
      rw [endElement, hslot, hk]
      simp only
      rw [← hk, hread, decode_offsetSlot (by omega), hlength]
    rw [hend, hpop]
    refine ⟨?_, ?_, rfl, rfl, ?_⟩
    · apply himage.write_middle
      · rw [length_bigEndian, length_offsetSlot]
      · rw [Nat.zero_add]
    · simp only [List.length_append, length_bigEndian]
      omega
    · apply (Memory.SameOutside.refl _ _).write
      rw [length_bigEndian]
      omega

theorem Builds.stack_ne_nil (h : s.Builds b) (hopen : s.elementSizePtr ≠ none) :
    b.nesting.stack ≠ [] := by
  intro hstack
  apply hopen
  rw [h.slot, PacketBuilder.layout, Nesting.layout, hstack]
  rfl

/-- A bundle that is ended. -/
theorem Builds.endBundle (h : s.Builds b) (hsmall : s.capacity ≤ oscMaxCapacity)
    (hs : s.endBundle = .ok s') : s.Reaches s' (b.step .endBundle) := by
  rw [OutboundPacketStream.endBundle] at hs
  split at hs
  · cases hs
  split at hs
  · cases hs
  rename_i hopen hprogress
  have hnone := h.message_eq_none (Bool.eq_false_of_not_eq_true hprogress)
  have hslot : s.elementSizePtr ≠ none := by
    intro hslot
    simp [isBundleInProgress, hslot] at hopen
  have hargument := h.argumentCurrent_le
  have hle := h.cursor_le
  have hended := endElement_ended h.image h.cursor h.slot (h.stack_ne_nil hslot)
    (fun _ hc => PacketBuilder.ne_nil_of_mem_tail hc) (by omega)
  rw [← PacketBuilder.nesting_endBundle hnone] at hended
  have hs' := Except.ok.inj hs
  have hnone' : (b.step .endBundle).message = none := by
    rw [PacketBuilder.step]
    split
    · exact hnone
    · rw [PacketBuilder.message_add, hnone]
  rw [hs'] at hended
  have hothers := hended.others
  refine ⟨⟨hended.image, ?_, hended.slot, ?_, ?_, ?_, ?_, ?_⟩, ?_, ?_⟩
  · rw [hothers]
    exact hended.cursor
  · rw [hothers, hnone']
    simpa [isMessageInProgress] using hprogress
  · intro m hm
    rw [hnone'] at hm
    cases hm
  · rw [hothers]
    exact hle
  · rw [hothers]
    exact h.tags_le
  · rw [hothers]
    exact h.size_le
  · rw [hothers]
  · intro q hq
    exact hended.outside q (by omega)

/-- The type tags stand in front of the arguments. -/
structure Placed (s s' : OutboundPacketStream) (bs : List UInt8) : Prop where
  bytes : s'.mem.Holds s.messageCursor bs
  before : ∀ q < s.messageCursor, s'.mem q = s.mem q
  cursor : s'.messageCursor = s.messageCursor + bs.length
  tags_le : s'.typeTagsCurrent ≤ s.capacity
  others : s' = { s with mem := s'.mem, typeTagsCurrent := s'.typeTagsCurrent,
                         messageCursor := s'.messageCursor }
  outside : Memory.SameOutside s.capacity s.mem s'.mem

theorem placeTypeTags_placed {arguments : List Argument} (h : s.HoldsArguments arguments)
    (hfits : s.argumentCurrent + roundUp4 ((s.capacity - s.typeTagsCurrent) + 2) ≤ s.capacity) :
    s.Placed s.placeTypeTags (typeTagString arguments ++ argumentData arguments) := by
  have hcount : s.capacity - s.typeTagsCurrent = arguments.length := by
    have htagCount := h.tagCount
    omega
  have hend := h.dataEnd
  rw [hcount] at hfits
  rw [placeTypeTags, hcount]
  split
  · have hround := le_roundUp4 (arguments.length + 2)
    have htags : s.mem.read s.typeTagsCurrent arguments.length =
        (arguments.map Argument.typeTag).reverse := by
      have htypeTags := h.typeTags
      rw [Memory.Holds, List.length_reverse, List.length_map] at htypeTags
      exact htypeTags
    have hsize : s.argumentCurrent - s.messageCursor = (argumentData arguments).length := by omega
    have hdata : s.mem.read s.messageCursor (argumentData arguments).length =
        argumentData arguments := h.data
    simp only [htags, List.reverse_reverse, hsize, Memory.move, hdata]
    constructor
    · have hmoved : (s.mem.write (s.messageCursor + roundUp4 (arguments.length + 2))
          (argumentData arguments)).Holds (s.messageCursor + roundUp4 (arguments.length + 2))
          (argumentData arguments) := Memory.holds_write _ _ _
      rw [Memory.holds_append, length_typeTagString]
      constructor
      · change Memory.Holds _ _ ([','.toUInt8] ++ arguments.map Argument.typeTag ++
          List.replicate _ 0)
        apply Memory.Holds.write_append
        · apply Memory.Holds.write_append
          · exact Memory.holds_write _ _ _
          · rfl
        · simp only [List.length_append, List.length_singleton, List.length_map]
          omega
      · apply ((hmoved.write _).write _).write
        · right
          rw [List.length_replicate]
          omega
        · right
          rw [List.length_singleton]
          omega
        · right
          rw [List.length_map]
          omega
    · intro q hq
      simp only
      rw [Memory.write_of_lt (by omega), Memory.write_of_lt (by omega),
        Memory.write_of_lt (by omega), Memory.write_of_lt (by omega)]
    · simp only [List.length_append, length_typeTagString]
    · exact Nat.le_refl _
    · rfl
    · apply ((((Memory.SameOutside.refl _ _).write _).write _).write _).write
      · rw [List.length_replicate]
        omega
      · omega
      · rw [List.length_singleton]
        omega
      · rw [List.length_map]
        omega
  · rename_i hempty
    have hnil : arguments = [] := List.eq_nil_of_length_eq_zero (not_not.mp hempty)
    subst hnil
    have hle : s.messageCursor + 4 ≤ s.capacity := by
      have hfour : roundUp4 (0 + 2) = 4 := rfl
      simp only [List.length_nil] at hfits hfour
      omega
    constructor
    · exact Memory.holds_write _ _ _
    · intro q hq
      exact Memory.write_of_lt hq
    · rfl
    · have htagCount := h.tagCount
      exact Nat.le_of_eq htagCount
    · rfl
    · exact (Memory.SameOutside.refl _ _).write hle

/-- The message with its type tags and arguments ends. -/
theorem Builds.endElement_placed (h : s.Builds b) {m : CString × List Argument}
    (hm : b.message = some m) (hplaced : s.Placed s' b.pending)
    (hsmall : s'.messageCursor ≤ oscMaxCapacity) :
    { s' with argumentCurrent := s'.messageCursor }.Ended
      ({ s' with argumentCurrent := s'.messageCursor }.endElement s'.messageCursor)
      (((b.nesting.append b.pending).pop (bigEndian 4)).layout offsetSlot) := by
  have hcursor : s.messageCursor = (b.nesting.layout offsetSlot).bytes.length := h.cursor
  have hstack : b.nesting.stack = m.1.padded :: b.bundles.map PacketBuilder.bundleBytes := by
    simp [PacketBuilder.nesting, hm]
  have happend : (b.nesting.append b.pending).stack =
      (m.1.padded ++ b.pending) :: b.nesting.stack.tail := by
    rw [Nesting.append, hstack]
    rfl
  apply endElement_ended
  · rw [Nesting.layout_append, Memory.holds_append]
    constructor
    · apply h.image.congr
      intro i hi
      apply hplaced.before
      rw [h.cursor]
      omega
    · have hbytes := hplaced.bytes
      rw [hcursor] at hbytes
      rw [Nat.zero_add]
      exact hbytes
  · rw [Nesting.layout_append, List.length_append, ← hcursor]
    exact hplaced.cursor
  · rw [Nesting.layout_append, hplaced.others]
    exact h.slot
  · rw [happend]
    exact List.cons_ne_nil _ _
  · rw [happend]
    exact fun _ hc => PacketBuilder.ne_nil_of_mem_tail hc
  · exact hsmall

/-- A message that is ended: its type tags are put in front of the arguments. -/
theorem Builds.endMessage (h : s.Builds b) (hsmall : s.capacity ≤ oscMaxCapacity)
    (hs : s.endMessage = .ok s') : s.Reaches s' (b.step .endMessage) := by
  rw [OutboundPacketStream.endMessage] at hs
  split at hs
  · cases hs
  rename_i hprogress
  have hprogress' : s.isMessageInProgress = true := by simpa using hprogress
  cases hm : b.message with
  | none => simp [isMessageInProgress, h.inProgress, hm] at hprogress'
  | some m =>
      have hplaced := placeTypeTags_placed (h.message m hm) (h.size_message hprogress')
      have hpending : b.pending = typeTagString m.2 ++ argumentData m.2 := by
        simp [PacketBuilder.pending, hm]
      rw [← hpending] at hplaced
      have hfits := h.size_message hprogress'
      have hcursor : s.placeTypeTags.messageCursor ≤ s.capacity := by
        have hdataEnd := (h.message m hm).dataEnd
        have htagCount := (h.message m hm).tagCount
        have hcount : s.capacity - s.typeTagsCurrent = m.2.length := by omega
        rw [hcount] at hfits
        rw [hplaced.cursor, hpending, List.length_append, length_typeTagString]
        omega
      have hended := h.endElement_placed hm hplaced (Nat.le_trans hcursor hsmall)
      rw [← PacketBuilder.nesting_endMessage hm] at hended
      have hs' := Except.ok.inj hs
      have hnone : (b.step .endMessage).message = none := by
        simp only [PacketBuilder.step, hm, PacketBuilder.message_add]
      have hothers := hended.others
      have hplacedOthers := hplaced.others
      subst hs'
      refine ⟨⟨hended.image, ?_, hended.slot, ?_, ?_, ?_, ?_, ?_⟩, ?_, ?_⟩
      · rw [hothers]
        exact hended.cursor
      · rw [hnone]
        rfl
      · intro m' hm'
        rw [hnone] at hm'
        cases hm'
      · rw [hothers]
      · rw [hothers, hplacedOthers]
        exact hplaced.tags_le
      · rw [hothers, hplacedOthers]
        exact hcursor
      · rw [hothers, hplacedOthers]
      · apply hplaced.outside.trans
        intro q hq
        exact hended.outside q (Nat.le_trans hcursor hq)

/-! ## Any sequence of operations -/

/-- An operation that does not throw builds its part of the tree. -/
theorem Builds.apply (h : s.Builds b) (hsmall : s.capacity ≤ oscMaxCapacity) {op : StreamOp}
    (hs : s.apply op = .ok s') : s.Reaches s' (b.step op) := by
  cases op with
  | clear =>
      have hs' := Except.ok.inj hs
      subst hs'
      exact ⟨builds_clear s, rfl, Memory.SameOutside.refl _ _⟩
  | beginBundle timeTag => exact h.beginBundle hs
  | endBundle => exact h.endBundle hsmall hs
  | beginMessage addressPattern => exact h.beginMessage hs
  | endMessage => exact h.endMessage hsmall hs
  | argument rhs => exact h.argument hs

/-- The packet under construction after the operations that did not throw. -/
def built (s : OutboundPacketStream) (b : PacketBuilder) : List StreamOp → PacketBuilder
  | [] => b
  | op :: ops =>
      match s.apply op with
      | .ok s' => s'.built (b.step op) ops
      | .error _ => s.built b ops

theorem Builds.run (h : s.Builds b) (hsmall : s.capacity ≤ oscMaxCapacity) (ops : List StreamOp) :
    s.Reaches (s.run ops) (s.built b ops) := by
  induction ops generalizing s b with
  | nil => exact ⟨h, rfl, Memory.SameOutside.refl _ _⟩
  | cons op ops ih =>
      rw [OutboundPacketStream.run, Throwing.run, List.foldl_cons, built, Throwing.step]
      cases hs : s.apply op with
      | error e => exact ih h hsmall
      | ok s' =>
          have hstep := h.apply hsmall hs
          have hrest := ih hstep.builds (hstep.capacity ▸ hsmall)
          refine ⟨hrest.builds, hrest.capacity.trans hstep.capacity, hstep.outside.trans ?_⟩
          rw [← hstep.capacity]
          exact hrest.outside

end OutboundPacketStream

end Sur40
