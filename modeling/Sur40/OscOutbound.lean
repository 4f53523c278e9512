import Sur40.Lib.ByteMemory
import Sur40.Lib.Throwing
import Sur40.OscTypes

/-!
# The OSC packet stream

`OutboundPacketStream` builds a packet in a buffer. The elements grow from the start of the
buffer; the type tags of the message in progress grow down from its end and are moved in front
of the arguments when the message ends. A pointer is its distance from the start of the buffer,
and what lies behind the buffer is part of the memory.

## Main definitions

* `OutboundPacketStream.beginBundle`, `endBundle`, `beginMessage`, `endMessage`, `argument`: the
  stream operators.
* `OutboundPacketStream.apply`, `OutboundPacketStream.run`: any sequence of them.
-/

namespace Sur40

open Devlib

/-- What the operators throw. -/
inductive OscException
  | outOfBufferMemory
  | bundleNotInProgress
  | messageInProgress
  | messageNotInProgress
  deriving DecidableEq

structure OutboundPacketStream where
  /-- The memory from `data_` on. -/
  mem : Memory
  /-- `end_` -/
  capacity : ℕ
  /-- The type tags are stored in reverse order. -/
  typeTagsCurrent : ℕ
  messageCursor : ℕ
  argumentCurrent : ℕ
  /-- The null pointer says that no element is open, `data_` that the outermost one is, which
  has no slot. -/
  elementSizePtr : Option ℕ
  messageIsInProgress : Bool

namespace OutboundPacketStream

/-- The constructor. -/
def new (buffer : Memory) (capacity : ℕ) : OutboundPacketStream :=
  { mem := buffer, capacity, typeTagsCurrent := capacity, messageCursor := 0,
    argumentCurrent := 0, elementSizePtr := none, messageIsInProgress := false }

variable (s : OutboundPacketStream)

def clear : OutboundPacketStream :=
  { s with typeTagsCurrent := s.capacity, messageCursor := 0, argumentCurrent := 0,
           elementSizePtr := none, messageIsInProgress := false }

/-- A slot that holds the offset of another slot, as a `uint32` of the host. -/
def offsetSlot (p : ℕ) : List UInt8 := le32.encode (UInt32.ofNat p)

/-- `BeginElement`, with the pointer that it returns. -/
def beginElement (beginPtr : ℕ) : OutboundPacketStream × ℕ :=
  match s.elementSizePtr with
  | none => ({ s with elementSizePtr := some 0 }, beginPtr)
  | some p =>
      ({ s with mem := s.mem.write beginPtr (offsetSlot p), elementSizePtr := some beginPtr },
        beginPtr + 4)

def endElement (endPtr : ℕ) : OutboundPacketStream :=
  match s.elementSizePtr with
  | none => s -- the assertion: an element is open
  | some 0 => { s with elementSizePtr := none }
  | some p =>
      let previous := (le32.decode (s.mem.read p 4)).toNat
      { s with mem := s.mem.write p (bigEndian 4 (endPtr - p - 4)),
               elementSizePtr := some previous }

def elementSizeSlotRequired : Bool := s.elementSizePtr.isSome

def isMessageInProgress : Bool := s.messageIsInProgress

def isBundleInProgress : Bool := s.elementSizePtr.isSome

def isReady : Bool := !s.isMessageInProgress && !s.isBundleInProgress

def size : ℕ :=
  s.argumentCurrent +
    if s.isMessageInProgress then roundUp4 ((s.capacity - s.typeTagsCurrent) + 2) else 0

/-- The bytes of the packet. -/
def data : List UInt8 := s.mem.read 0 s.size

/-- What a new element needs for its size. -/
def slotSize : ℕ := if s.elementSizeSlotRequired then 4 else 0

/-- `CheckForAvailableBundleSpace` throws unless -/
def availableBundleSpace : Bool := decide (s.size + s.slotSize + 16 ≤ s.capacity)

/-- `CheckForAvailableMessageSpace` throws unless -/
def availableMessageSpace (addressPattern : CString) : Bool :=
  decide (s.size + s.slotSize + roundUp4 (addressPattern.strlen + 1) + 4 ≤ s.capacity)

/-- `CheckForAvailableArgumentSpace` throws unless -/
def availableArgumentSpace (argumentLength : ℕ) : Bool :=
  decide (s.argumentCurrent + argumentLength +
    roundUp4 ((s.capacity - s.typeTagsCurrent) + 3) ≤ s.capacity)

/-! ## Bundles and messages -/

/-- `operator<<( const BundleInitiator& rhs )` -/
def beginBundle (timeTag : UInt64) : Except OscException OutboundPacketStream :=
  if s.isMessageInProgress then .error .messageInProgress
  else if !s.availableBundleSpace then .error .outOfBufferMemory
  else
    let (s, cursor) := s.beginElement s.messageCursor
    .ok { s with mem := s.mem.write cursor (bundleHeader timeTag), messageCursor := cursor + 16,
                 argumentCurrent := cursor + 16 }

/-- `operator<<( const BundleTerminator& rhs )` -/
def endBundle : Except OscException OutboundPacketStream :=
  if !s.isBundleInProgress then .error .bundleNotInProgress
  else if s.isMessageInProgress then .error .messageInProgress
  else .ok (s.endElement s.messageCursor)

/-- `operator<<( const BeginMessage& rhs )` -/
def beginMessage (addressPattern : CString) : Except OscException OutboundPacketStream :=
  if s.isMessageInProgress then .error .messageInProgress
  else if !s.availableMessageSpace addressPattern then .error .outOfBufferMemory
  else
    let (s, cursor) := s.beginElement s.messageCursor
    let cursorEnd := cursor + addressPattern.padded.length
    .ok { s with mem := s.mem.write cursor addressPattern.padded, messageCursor := cursorEnd,
                 argumentCurrent := cursorEnd, typeTagsCurrent := s.capacity,
                 messageIsInProgress := true }

/-- The type tags of the message move in front of its arguments. -/
def placeTypeTags : OutboundPacketStream :=
  let typeTagsCount := s.capacity - s.typeTagsCurrent
  if typeTagsCount ≠ 0 then
    let tempTypeTags := s.mem.read s.typeTagsCurrent typeTagsCount
    let typeTagSlotSize := roundUp4 (typeTagsCount + 2)
    let argumentsSize := s.argumentCurrent - s.messageCursor
    let mem := s.mem.move (s.messageCursor + typeTagSlotSize) s.messageCursor argumentsSize
    let mem := mem.write s.messageCursor [','.toUInt8]
    let mem := mem.write (s.messageCursor + 1) tempTypeTags.reverse
    let mem := mem.write (s.messageCursor + 1 + typeTagsCount)
      (List.replicate (typeTagSlotSize - (typeTagsCount + 1)) 0)
    { s with mem, typeTagsCurrent := s.capacity,
             messageCursor := s.messageCursor + (typeTagSlotSize + argumentsSize) }
  else
    { s with mem := s.mem.write s.messageCursor [','.toUInt8, 0, 0, 0],
             messageCursor := s.messageCursor + 4 }

/-- `operator<<( const MessageTerminator& rhs )` -/
def endMessage : Except OscException OutboundPacketStream :=
  if !s.isMessageInProgress then .error .messageNotInProgress
  else
    let s := s.placeTypeTags
    let s := { s with argumentCurrent := s.messageCursor }
    let s := s.endElement s.messageCursor
    .ok { s with messageIsInProgress := false }

/-! ## Arguments -/

/-- The shape of the operators for arguments: a check, a type tag, the bytes. None of them asks
whether a message is in progress. -/
def putArgument (argumentLength : ℕ) (typeTag : UInt8) (bytes : List UInt8) :
    Except OscException OutboundPacketStream :=
  if !s.availableArgumentSpace argumentLength then .error .outOfBufferMemory
  else
    .ok { s with mem := (s.mem.write (s.typeTagsCurrent - 1) [typeTag]).write s.argumentCurrent
                   bytes,
                 typeTagsCurrent := s.typeTagsCurrent - 1,
                 argumentCurrent := s.argumentCurrent + bytes.length }

def putBool (rhs : Bool) := s.putArgument 0 (if rhs then 'T'.toUInt8 else 'F'.toUInt8) []

def putNil := s.putArgument 0 'N'.toUInt8 []

def putInfinitum := s.putArgument 0 'I'.toUInt8 []

def putInt32 (rhs : UInt32) := s.putArgument 4 'i'.toUInt8 (bigEndian 4 rhs.toNat)

def putFloat (rhs : UInt32) := s.putArgument 4 'f'.toUInt8 (bigEndian 4 rhs.toNat)

def putChar (rhs : UInt8) := s.putArgument 4 'c'.toUInt8 (bigEndian 4 (charToInt32 rhs))

def putRgbaColor (rhs : UInt32) := s.putArgument 4 'r'.toUInt8 (bigEndian 4 rhs.toNat)

def putMidiMessage (rhs : UInt32) := s.putArgument 4 'm'.toUInt8 (bigEndian 4 rhs.toNat)

def putInt64 (rhs : UInt64) := s.putArgument 8 'h'.toUInt8 (bigEndian 8 rhs.toNat)

def putTimeTag (rhs : UInt64) := s.putArgument 8 't'.toUInt8 (bigEndian 8 rhs.toNat)

def putDouble (rhs : UInt64) := s.putArgument 8 'd'.toUInt8 (bigEndian 8 rhs.toNat)

def putString (rhs : CString) := s.putArgument (roundUp4 (rhs.strlen + 1)) 's'.toUInt8 rhs.padded

def putSymbol (rhs : CString) := s.putArgument (roundUp4 (rhs.strlen + 1)) 'S'.toUInt8 rhs.padded

def putBlob (rhs : OscBlob) :=
  s.putArgument (4 + roundUp4 rhs.data.length) 'b'.toUInt8
    (bigEndian 4 rhs.data.length ++ rhs.data ++ zeroPad rhs.data.length)

def putArrayInitiator := s.putArgument 0 '['.toUInt8 []

def putArrayTerminator := s.putArgument 0 ']'.toUInt8 []

/-- `operator<<` for the type of the argument. -/
def argument : Argument → Except OscException OutboundPacketStream
  | .bool rhs => s.putBool rhs
  | .nil => s.putNil
  | .infinitum => s.putInfinitum
  | .int32 rhs => s.putInt32 rhs
  | .float rhs => s.putFloat rhs
  | .char rhs => s.putChar rhs
  | .rgbaColor rhs => s.putRgbaColor rhs
  | .midiMessage rhs => s.putMidiMessage rhs
  | .int64 rhs => s.putInt64 rhs
  | .timeTag rhs => s.putTimeTag rhs
  | .double rhs => s.putDouble rhs
  | .string rhs => s.putString rhs
  | .symbol rhs => s.putSymbol rhs
  | .blob rhs => s.putBlob rhs
  | .arrayInitiator => s.putArrayInitiator
  | .arrayTerminator => s.putArrayTerminator

/-- Every operator reserves what it writes, and writes the type tag and the bytes of its
argument. -/
theorem argument_eq (a : Argument) :
    s.argument a = s.putArgument a.data.length a.typeTag a.data := by
  cases a with
  | bool rhs => cases rhs <;> rfl
  | string rhs | symbol rhs =>
      simp only [argument, putString, putSymbol, Argument.data, Argument.typeTag,
        CString.length_padded]
  | blob rhs =>
      have hle := le_roundUp4 rhs.data.length
      have hlength : (Argument.blob rhs).data.length = 4 + roundUp4 rhs.data.length := by
        simp only [Argument.data, List.length_append, length_bigEndian, length_zeroPad]
        omega
      rw [hlength]
      rfl
  | _ => rfl

end OutboundPacketStream

/-- One use of the stream. -/
inductive StreamOp
  | clear
  | beginBundle (timeTag : UInt64)
  | endBundle
  | beginMessage (addressPattern : CString)
  | endMessage
  | argument (rhs : Argument)

namespace OutboundPacketStream

def apply (s : OutboundPacketStream) : StreamOp → Except OscException OutboundPacketStream
  | .clear => .ok s.clear
  | .beginBundle timeTag => s.beginBundle timeTag
  | .endBundle => s.endBundle
  | .beginMessage addressPattern => s.beginMessage addressPattern
  | .endMessage => s.endMessage
  | .argument rhs => s.argument rhs

/-- A sequence of uses by a caller that catches the exceptions. -/
def run (s : OutboundPacketStream) (ops : List StreamOp) : OutboundPacketStream :=
  Throwing.run apply s ops

/-- A sequence of uses up to the first exception. -/
def runAll (s : OutboundPacketStream) (ops : List StreamOp) :
    Except OscException OutboundPacketStream := Throwing.runAll apply s ops

end OutboundPacketStream

end Sur40
