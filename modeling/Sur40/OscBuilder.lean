import Mathlib.Data.Option.Basic
import Sur40.Lib.NestedElements
import Sur40.OscOutbound

/-!
# Packets under construction

What a packet stream is for: a list of complete elements, the bundles that are open, and the
message in progress. Each use of the stream is an operation on this tree.

## Main definitions

* `PacketBuilder`, `PacketBuilder.step`: the tree and the operations on it.
* `PacketBuilder.nesting`: the bytes of the tree, element by element.
* `PacketBuilder.size`, `PacketBuilder.finish`: the packet when everything that is open ends.
* `PacketBuilder.length_finish`: ending what is open takes no room.
-/

namespace Sur40

open Devlib

structure PacketBuilder where
  packets : List OscElement
  /-- The open bundles, innermost first. -/
  bundles : List (UInt64 × List OscElement)
  message : Option (CString × List Argument)

namespace PacketBuilder

def empty : PacketBuilder := ⟨[], [], none⟩

variable (b : PacketBuilder)

/-- An element is complete. -/
def add (e : OscElement) : PacketBuilder :=
  match b.bundles with
  | [] => { b with packets := b.packets ++ [e] }
  | (timeTag, elements) :: outer => { b with bundles := (timeTag, elements ++ [e]) :: outer }

/-- An operation that does not throw. An argument outside a message is not part of the packet. -/
def step : StreamOp → PacketBuilder
  | .clear => empty
  | .beginBundle timeTag => { b with bundles := (timeTag, []) :: b.bundles }
  | .endBundle =>
      match b.bundles with
      | [] => b
      | (timeTag, elements) :: outer => { b with bundles := outer }.add (.bundle timeTag elements)
  | .beginMessage addressPattern => { b with message := some (addressPattern, []) }
  | .endMessage =>
      match b.message with
      | none => b
      | some (addressPattern, arguments) =>
          { b with message := none }.add (.message addressPattern arguments)
  | .argument rhs =>
      { b with message := b.message.map fun m => (m.1, m.2 ++ [rhs]) }

/-- The bundles end, innermost first. -/
def finishBundles (packets : List OscElement) (e : OscElement) :
    List (UInt64 × List OscElement) → List OscElement
  | [] => packets ++ [e]
  | (timeTag, elements) :: outer => finishBundles packets (.bundle timeTag (elements ++ [e])) outer

/-- Everything that is open ends. -/
def finish : List OscElement :=
  match b.message, b.bundles with
  | none, [] => b.packets
  | none, (timeTag, elements) :: outer => finishBundles b.packets (.bundle timeTag elements) outer
  | some (addressPattern, arguments), outer =>
      finishBundles b.packets (.message addressPattern arguments) outer

/-! ## The bytes -/

/-- An open bundle. -/
def bundleBytes (bundle : UInt64 × List OscElement) : List UInt8 :=
  bundleHeader bundle.1 ++ encodeElements bundle.2

/-- The complete elements and the open ones; the message in progress is its address, without
the arguments. -/
def nesting : Nesting where
  closed := b.packets.flatMap OscElement.encode
  stack := (b.message.map fun m => m.1.padded).toList ++ b.bundles.map bundleBytes

/-- The type tags and arguments that the message in progress still gets. -/
def pending : List UInt8 :=
  match b.message with
  | none => []
  | some (_, arguments) => typeTagString arguments ++ argumentData arguments

/-- What is in memory. -/
def layout : NestingLayout := b.nesting.layout OutboundPacketStream.offsetSlot

/-- The number of bytes of the packet, with the message in progress. -/
def size : ℕ := b.layout.bytes.length + b.pending.length

variable {b}

theorem nesting_push_bundle (h : b.message = none) (bundle : UInt64 × List OscElement) :
    { b with bundles := bundle :: b.bundles }.nesting = b.nesting.push (bundleBytes bundle) := by
  simp [nesting, h, Nesting.push]

theorem nesting_push_message (h : b.message = none) (m : CString × List Argument) :
    { b with message := some m }.nesting = b.nesting.push m.1.padded := by
  simp [nesting, h, Nesting.push]

/-- An element that is complete is one that began and ended. -/
theorem nesting_add (h : b.message = none) (e : OscElement) :
    (b.add e).nesting = (b.nesting.push e.encode).pop (bigEndian 4) := by
  rcases hb : b.bundles with _ | ⟨⟨timeTag, elements⟩, outer⟩
  · simp [add, hb, nesting, h, Nesting.push, Nesting.pop]
  · simp [add, hb, nesting, h, Nesting.push, Nesting.pop, bundleBytes, encodeElements_append,
      encodeElements, List.append_assoc]

theorem nesting_beginBundle (h : b.message = none) (timeTag : UInt64) :
    (b.step (.beginBundle timeTag)).nesting = b.nesting.push (bundleHeader timeTag) := by
  rw [step, nesting_push_bundle h, bundleBytes, encodeElements, List.append_nil]

theorem nesting_beginMessage (h : b.message = none) (addressPattern : CString) :
    (b.step (.beginMessage addressPattern)).nesting = b.nesting.push addressPattern.padded :=
  nesting_push_message h (addressPattern, [])

theorem nesting_argument (rhs : Argument) : (b.step (.argument rhs)).nesting = b.nesting := by
  cases h : b.message <;> simp [step, nesting, h]

theorem nesting_endBundle (h : b.message = none) :
    (b.step .endBundle).nesting = b.nesting.pop (bigEndian 4) := by
  rcases hb : b.bundles with _ | ⟨⟨timeTag, elements⟩, outer⟩
  · simp [step, hb, nesting, h, Nesting.pop]
  · have hpush := nesting_push_bundle (b := { b with bundles := outer }) h (timeTag, elements)
    have hself : { b with bundles := (timeTag, elements) :: outer } = b := by rw [← hb]
    rw [hself] at hpush
    simp only [step, hb]
    rw [nesting_add (b := { b with bundles := outer }) h, hpush, bundleBytes, OscElement.encode]

theorem nesting_endMessage {addressPattern : CString} {arguments : List Argument}
    (h : b.message = some (addressPattern, arguments)) :
    (b.step .endMessage).nesting = (b.nesting.append b.pending).pop (bigEndian 4) := by
  have hpush := nesting_push_message (b := { b with message := none }) rfl
    (addressPattern, arguments)
  have hself : { b with message := some (addressPattern, arguments) } = b := by rw [← h]
  rw [hself] at hpush
  simp only [step, h]
  rw [nesting_add rfl, hpush, OscElement.encode, messageBytes]
  simp [Nesting.push, Nesting.append, pending, h]

/-- A bundle is never empty, so the slot of an inner element is not the start of the buffer. -/
theorem ne_nil_of_mem_tail {c : List UInt8} (hc : c ∈ b.nesting.stack.tail) : c ≠ [] := by
  have hmem : c ∈ b.bundles.map bundleBytes := by
    cases h : b.message with
    | none =>
        rw [nesting, h] at hc
        exact List.mem_of_mem_tail hc
    | some m =>
        rw [nesting, h] at hc
        exact hc
  rcases List.mem_map.mp hmem with ⟨bundle, -, rfl⟩
  apply List.ne_nil_of_length_pos
  rw [bundleBytes, List.length_append, length_bundleHeader]
  omega

theorem message_add (e : OscElement) : (b.add e).message = b.message := by
  rw [add]
  split <;> rfl

/-! ## The end of what is open -/

theorem finish_add (h : b.message = none) (e : OscElement) :
    (b.add e).finish = finishBundles b.packets e b.bundles := by
  rcases hb : b.bundles with _ | ⟨⟨timeTag, elements⟩, outer⟩
  · simp [add, hb, finish, h, finishBundles]
  · simp [add, hb, finish, h, finishBundles]

theorem finish_endBundle (h : b.message = none) : (b.step .endBundle).finish = b.finish := by
  rcases hb : b.bundles with _ | ⟨⟨timeTag, elements⟩, outer⟩
  · simp [step, hb]
  · simp only [step, hb]
    rw [finish_add (b := { b with bundles := outer }) h]
    simp [finish, h, hb]

theorem finish_endMessage : (b.step .endMessage).finish = b.finish := by
  cases h : b.message with
  | none => simp [step, h]
  | some m =>
      simp only [step, h]
      rw [finish_add (b := { b with message := none }) rfl]
      simp [finish, h]

theorem finishBundles_encode (packets : List OscElement) (e : OscElement)
    (outer : List (UInt64 × List OscElement)) :
    (finishBundles packets e outer).flatMap OscElement.encode =
      Nesting.finishOf (bigEndian 4) (packets.flatMap OscElement.encode) e.encode
        (outer.map bundleBytes) := by
  induction outer generalizing e with
  | nil => simp [finishBundles, Nesting.finishOf]
  | cons bundle outer ih =>
      rw [finishBundles, ih, List.map_cons, Nesting.finishOf]
      congr 1
      simp [OscElement.encode, bundleBytes, encodeElements_append, encodeElements,
        List.append_assoc]

theorem finish_encode :
    b.finish.flatMap OscElement.encode = (b.nesting.append b.pending).finish (bigEndian 4) := by
  rcases b with ⟨packets, bundles, _ | ⟨addressPattern, arguments⟩⟩
  · rcases bundles with _ | ⟨⟨timeTag, elements⟩, outer⟩
    · simp [finish, nesting, pending, Nesting.append, Nesting.finish]
    · simp [finish, finishBundles_encode, nesting, pending, Nesting.append, Nesting.finish,
        bundleBytes, OscElement.encode]
  · simp [finish, finishBundles_encode, nesting, pending, Nesting.append, Nesting.finish,
      OscElement.encode, messageBytes]

/-- Ending what is open takes no room. -/
theorem length_finish : (b.finish.flatMap OscElement.encode).length = b.size := by
  have hlength : ∀ p q, (OutboundPacketStream.offsetSlot p).length = (bigEndian 4 q).length := by
    intro p q
    rw [OutboundPacketStream.offsetSlot, Codec.length_encode, length_bigEndian]
    rfl
  rw [finish_encode, Nesting.length_finish hlength, Nesting.layout_append, size,
    List.length_append, layout]

end PacketBuilder

end Sur40
