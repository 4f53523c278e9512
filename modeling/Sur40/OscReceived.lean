import Sur40.Lib.ByteMemory
import Sur40.OscTypes

/-!
# Reading OSC packets

The library's reader walks over a packet in place: a message is checked once, then iterators
step over its type tags and arguments, and a listener descends into the bundles. All pointers
are addresses, and what lies around the packet is memory too.

## Main definitions

* `ReceivedMessage.init`, `ReceivedBundle.init`: the checks of a message and of a bundle.
* `ReceivedMessageArgument.advance`: the iterator over the arguments.
* `OscPacketListener.processPacket`: what a listener is given.
-/

namespace Sur40

open Devlib

inductive OscReadException
  | malformedPacket (w : String)
  | malformedMessage (w : String)
  | malformedBundle (w : String)
  deriving DecidableEq

/-! ## Numbers and sizes -/

/-- `ToUInt32` -/
def oscToUInt32 (mem : Memory) (p : ℕ) : UInt32 := UInt32.ofNat (ofBigEndian (mem.read p 4))

/-- `ToUInt64` -/
def oscToUInt64 (mem : Memory) (p : ℕ) : UInt64 := UInt64.ofNat (ofBigEndian (mem.read p 8))

/-- The `int32` with the bits of a `uint32`. -/
def int32OfUInt32 (x : UInt32) : ℤ := if x.toNat < 2 ^ 31 then x.toNat else x.toNat - 2 ^ 32

/-- `ToInt32` -/
def oscToInt32 (mem : Memory) (p : ℕ) : ℤ := int32OfUInt32 (oscToUInt32 mem p)

def isValidElementSizeValue (x : ℤ) : Bool :=
  decide (0 ≤ x) && decide (x ≤ oscBundleElementSizeMax)

def isMultipleOf4 (x : ℤ) : Bool := x % 4 == 0

/-- The reader's `RoundUp4`, which wraps. -/
def roundUp4UInt32 (x : UInt32) : UInt32 := (x + 3) / 4 * 4

/-! ## Padded strings -/

/-- `while( p < end && *p ) p += 4;` -/
def findStr4Loop (mem : Memory) (stop : ℕ) : ℕ → ℕ → ℕ
  | 0, p => p
  | fuel + 1, p => if p < stop ∧ mem p ≠ 0 then findStr4Loop mem stop fuel (p + 4) else p

/-- `FindStr4End` of a string that may not be terminated before `stop`. -/
def findStr4End (mem : Memory) (p stop : ℕ) : Option ℕ :=
  if stop ≤ p then none
  else if mem p = 0 then some (p + 4) -- an integer address pattern
  else
    let q := findStr4Loop mem (stop - 1) stop (p + 3)
    if mem q ≠ 0 then none else some (q + 1)

/-- `while( *p ) p += 4;`, if it ends within `limit` steps. -/
def findStr4LoopUnchecked (mem : Memory) : ℕ → ℕ → ℕ
  | 0, p => p
  | limit + 1, p => if mem p ≠ 0 then findStr4LoopUnchecked mem limit (p + 4) else p

/-- `FindStr4End` of a string that was found to be terminated. -/
def findStr4EndUnchecked (mem : Memory) (limit p : ℕ) : ℕ :=
  if mem p = 0 then p + 4 else findStr4LoopUnchecked mem limit (p + 3) + 1

/-! ## Type tags -/

/-- What a type tag says of its argument. -/
inductive TagLayout
  | zeroLength
  | arrayBegin
  | arrayEnd
  | fixed (length : ℕ)
  | str4
  | blob
  | unknown
  deriving DecidableEq

/-- The cases of the reader's `switch` statements. -/
def tagLayout (typeTag : UInt8) : TagLayout :=
  if typeTag = 'T'.toUInt8 ∨ typeTag = 'F'.toUInt8 ∨ typeTag = 'N'.toUInt8 ∨
      typeTag = 'I'.toUInt8 then .zeroLength
  else if typeTag = '['.toUInt8 then .arrayBegin
  else if typeTag = ']'.toUInt8 then .arrayEnd
  else if typeTag = 'i'.toUInt8 ∨ typeTag = 'f'.toUInt8 ∨ typeTag = 'c'.toUInt8 ∨
      typeTag = 'r'.toUInt8 ∨ typeTag = 'm'.toUInt8 then .fixed 4
  else if typeTag = 'h'.toUInt8 ∨ typeTag = 't'.toUInt8 ∨ typeTag = 'd'.toUInt8 then .fixed 8
  else if typeTag = 's'.toUInt8 ∨ typeTag = 'S'.toUInt8 then .str4
  else if typeTag = 'b'.toUInt8 then .blob
  else .unknown

/-- Behind the blob at `argument`. -/
def blobEnd (mem : Memory) (argument : ℕ) : ℕ :=
  argument + 4 + (roundUp4UInt32 (oscToUInt32 mem argument)).toNat

/-! ## Messages -/

structure ReceivedMessage where
  addressPattern : ℕ
  typeTagsBegin : Option ℕ
  typeTagsEnd : Option ℕ
  arguments : Option ℕ
  deriving DecidableEq

namespace ReceivedMessage

/-- One pass of the loop over the type tags: the next argument and the array level. -/
def checkArgument (mem : Memory) (stop : ℕ) (typeTag : UInt8) (argument : ℕ)
    (arrayLevel : UInt32) : Except OscReadException (ℕ × UInt32) :=
  match tagLayout typeTag with
  | .zeroLength => .ok (argument, arrayLevel)
  | .arrayBegin => .ok (argument, arrayLevel + 1)
  | .arrayEnd => .ok (argument, arrayLevel - 1)
  | .fixed length =>
      if argument = stop then .error (.malformedMessage "arguments exceed message size")
      else if stop < argument + length then
        .error (.malformedMessage "arguments exceed message size")
      else .ok (argument + length, arrayLevel)
  | .str4 =>
      if argument = stop then .error (.malformedMessage "arguments exceed message size")
      else
        match findStr4End mem argument stop with
        | none => .error (.malformedMessage "unterminated string argument")
        | some argument => .ok (argument, arrayLevel)
  -- both exceptions about the size of a blob are built and not thrown
  | .blob => .ok (blobEnd mem argument, arrayLevel)
  | .unknown => .error (.malformedMessage "unknown type tag")

/-- The loop, which stops at the zero behind the type tags. -/
def checkArguments (mem : Memory) (stop : ℕ) :
    List UInt8 → ℕ → UInt32 → Except OscReadException (ℕ × UInt32)
  | [], argument, arrayLevel => .ok (argument, arrayLevel)
  | typeTag :: typeTags, argument, arrayLevel =>
      (checkArgument mem stop typeTag argument arrayLevel).bind fun next =>
        checkArguments mem stop typeTags next.1 next.2

/-- The type tags from `p` on; they end before `stop`. -/
def typeTagsAt (mem : Memory) (p stop : ℕ) : List UInt8 :=
  (mem.read p (stop - p)).takeWhile fun c => c != 0

def init (mem : Memory) (message : ℕ) (size : ℤ) : Except OscReadException ReceivedMessage :=
  if !isValidElementSizeValue size then .error (.malformedMessage "invalid message size")
  else if size = 0 then .error (.malformedMessage "zero length messages not permitted")
  else if !isMultipleOf4 size then
    .error (.malformedMessage "message size must be multiple of four")
  else
    let stop := message + size.toNat
    match findStr4End mem message stop with
    | none => .error (.malformedMessage "unterminated address pattern")
    | some typeTagsBegin =>
        if typeTagsBegin = stop then .ok ⟨message, none, none, none⟩
        else if mem typeTagsBegin ≠ ','.toUInt8 then
          .error (.malformedMessage "type tags not present")
        else if mem (typeTagsBegin + 1) = 0 then .ok ⟨message, none, none, none⟩
        else
          match findStr4End mem typeTagsBegin stop with
          | none =>
              .error (.malformedMessage "type tags were not terminated before end of message")
          | some arguments =>
              let typeTags := typeTagsAt mem (typeTagsBegin + 1) arguments
              match checkArguments mem stop typeTags arguments 0 with
              | .error e => .error e
              | .ok (_, arrayLevel) =>
                  if arrayLevel ≠ 0 then
                    .error (.malformedMessage ("array was not terminated before end of message" ++
                      " (expected ']' end of array tag)"))
                  else
                    .ok ⟨message, some (typeTagsBegin + 1),
                      some (typeTagsBegin + 1 + typeTags.length), some arguments⟩

def argumentCount (m : ReceivedMessage) : ℕ := m.typeTagsEnd.getD 0 - m.typeTagsBegin.getD 0

end ReceivedMessage

/-! ## Arguments -/

/-- An argument, which is also where an iterator stands. -/
structure ReceivedMessageArgument where
  typeTagPtr : Option ℕ
  argumentPtr : ℕ
  deriving DecidableEq

namespace ReceivedMessageArgument

/-- `ReceivedMessageArgumentIterator::Advance` -/
def advance (mem : Memory) (limit : ℕ) (a : ReceivedMessageArgument) : ReceivedMessageArgument :=
  match a.typeTagPtr with
  | none => a
  | some typeTagPtr =>
      match tagLayout (mem typeTagPtr) with
      | .zeroLength | .arrayBegin | .arrayEnd => ⟨some (typeTagPtr + 1), a.argumentPtr⟩
      | .fixed length => ⟨some (typeTagPtr + 1), a.argumentPtr + length⟩
      | .str4 => ⟨some (typeTagPtr + 1), findStr4EndUnchecked mem limit a.argumentPtr⟩
      | .blob => ⟨some (typeTagPtr + 1), blobEnd mem a.argumentPtr⟩
      | .unknown => a -- the zero behind the type tags, and unknown ones

end ReceivedMessageArgument

/-- The C string at `p`, if it ends within `limit` bytes. -/
def CString.readAt (mem : Memory) (p limit : ℕ) : CString where
  chars := (mem.read p limit).takeWhile fun c => c != 0
  noNul := by
    intro c hc
    simpa using List.mem_takeWhile_imp hc

/-- `AsBlobUnchecked` -/
def asBlobUnchecked (mem : Memory) (p : ℕ) : Except OscReadException OscBlob :=
  let size := int32OfUInt32 (oscToUInt32 mem p)
  if h : isValidElementSizeValue size = true then
    .ok ⟨mem.read (p + 4) size.toNat, by
      rw [Memory.length_read]
      simp only [isValidElementSizeValue, Bool.and_eq_true, decide_eq_true_eq] at h
      rw [oscBundleElementSizeMax] at h
      omega⟩
  else .error (.malformedMessage "invalid blob size")

/-- An argument as it is printed: `none` is an unknown one. -/
def ReceivedMessageArgument.value (mem : Memory) (limit : ℕ) (typeTag : UInt8) (p : ℕ) :
    Except OscReadException (Option Argument) :=
  if typeTag = 'T'.toUInt8 then .ok (some (.bool true))
  else if typeTag = 'F'.toUInt8 then .ok (some (.bool false))
  else if typeTag = 'N'.toUInt8 then .ok (some .nil)
  else if typeTag = 'I'.toUInt8 then .ok (some .infinitum)
  else if typeTag = 'i'.toUInt8 then .ok (some (.int32 (oscToUInt32 mem p)))
  else if typeTag = 'f'.toUInt8 then .ok (some (.float (oscToUInt32 mem p)))
  else if typeTag = 'c'.toUInt8 then .ok (some (.char (oscToUInt32 mem p).toUInt8))
  else if typeTag = 'r'.toUInt8 then .ok (some (.rgbaColor (oscToUInt32 mem p)))
  else if typeTag = 'm'.toUInt8 then .ok (some (.midiMessage (oscToUInt32 mem p)))
  else if typeTag = 'h'.toUInt8 then .ok (some (.int64 (oscToUInt64 mem p)))
  else if typeTag = 't'.toUInt8 then .ok (some (.timeTag (oscToUInt64 mem p)))
  else if typeTag = 'd'.toUInt8 then .ok (some (.double (oscToUInt64 mem p)))
  else if typeTag = 's'.toUInt8 then .ok (some (.string (.readAt mem p limit)))
  else if typeTag = 'S'.toUInt8 then .ok (some (.symbol (.readAt mem p limit)))
  else if typeTag = 'b'.toUInt8 then (asBlobUnchecked mem p).map fun b => some (.blob b)
  else if typeTag = '['.toUInt8 then .ok (some .arrayInitiator)
  else if typeTag = ']'.toUInt8 then .ok (some .arrayTerminator)
  else .ok none

namespace ReceivedMessage

/-- The arguments from an iterator on. -/
def valuesFrom (mem : Memory) (limit : ℕ) :
    ℕ → ReceivedMessageArgument → Except OscReadException (List (Option Argument))
  | 0, _ => .ok []
  | n + 1, a => do
      let value ← ReceivedMessageArgument.value mem limit (mem (a.typeTagPtr.getD 0)) a.argumentPtr
      let values ← valuesFrom mem limit n (a.advance mem limit)
      return value :: values

/-- `ArgumentsBegin` -/
def argumentsBegin (m : ReceivedMessage) : ReceivedMessageArgument :=
  ⟨m.typeTagsBegin, m.arguments.getD 0⟩

/-- The address pattern and the arguments, as they are printed. -/
def read (mem : Memory) (limit : ℕ) (m : ReceivedMessage) :
    Except OscReadException (CString × List (Option Argument)) := do
  let values ← valuesFrom mem limit m.argumentCount m.argumentsBegin
  return (.readAt mem m.addressPattern limit, values)

end ReceivedMessage

/-! ## Bundles -/

structure ReceivedBundle where
  timeTag : ℕ
  stop : ℕ
  elementCount : UInt32
  deriving DecidableEq

namespace ReceivedBundle

/-- The loop over the elements. -/
def countElements (mem : Memory) (stop : ℕ) :
    ℕ → ℕ → UInt32 → Except OscReadException (ℕ × UInt32)
  | 0, p, elementCount => .ok (p, elementCount)
  | fuel + 1, p, elementCount =>
      if p < stop then
        if stop < p + 4 then .error (.malformedBundle "packet too short for elementSize")
        else if oscToUInt32 mem p % 4 ≠ 0 then
          .error (.malformedBundle "bundle element size must be multiple of four")
        else if stop < p + (4 + (oscToUInt32 mem p).toNat) then
          .error (.malformedBundle "packet too short for bundle element")
        else
          countElements mem stop fuel (p + (4 + (oscToUInt32 mem p).toNat)) (elementCount + 1)
      else .ok (p, elementCount)

/-- `"#bundle\0"` -/
def addressPattern : List UInt8 := [0x23, 0x62, 0x75, 0x6E, 0x64, 0x6C, 0x65, 0]

def init (mem : Memory) (bundle : ℕ) (size : ℤ) : Except OscReadException ReceivedBundle :=
  if !isValidElementSizeValue size then .error (.malformedBundle "invalid bundle size")
  else if size < 16 then .error (.malformedBundle "packet too short for bundle")
  else if !isMultipleOf4 size then
    .error (.malformedBundle "bundle size must be multiple of four")
  else if mem.read bundle 8 ≠ addressPattern then
    .error (.malformedBundle "bad bundle address pattern")
  else
    let stop := bundle + size.toNat
    match countElements mem stop size.toNat (bundle + 8 + 8) 0 with
    | .error e => .error e
    | .ok (p, elementCount) =>
        if p ≠ stop then .error (.malformedBundle "bundle contents ")
        else .ok ⟨bundle + 8, stop, elementCount⟩

end ReceivedBundle

/-! ## Packets -/

/-- `IsBundle` of a packet or an element. -/
def isOscBundle (mem : Memory) (contents : ℕ) (size : ℤ) : Bool :=
  decide (0 < size) && decide (mem contents = '#'.toUInt8)

/-- `ReceivedPacket::ValidateSize` -/
def validateSize (size : ℤ) : Except OscReadException ℤ :=
  if !isValidElementSizeValue size then .error (.malformedPacket "invalid packet size")
  else if size = 0 then .error (.malformedPacket "zero length elements not permitted")
  else if !isMultipleOf4 size then
    .error (.malformedPacket "element size must be multiple of four")
  else .ok size

/-- The messages a listener was given, and what was thrown then. -/
structure OscTrace where
  messages : List (CString × List (Option Argument))
  thrown : Option OscReadException
  deriving DecidableEq

namespace OscTrace

def done : OscTrace := ⟨[], none⟩

def throw (e : OscReadException) : OscTrace := ⟨[], some e⟩

/-- One part of the work after another. -/
def andThen (t : OscTrace) (next : OscTrace) : OscTrace :=
  match t.thrown with
  | some _ => t
  | none => ⟨t.messages ++ next.messages, next.thrown⟩

end OscTrace

namespace OscPacketListener

/-- A message that a listener prints. -/
def processMessage (mem : Memory) (limit message : ℕ) (size : ℤ) : OscTrace :=
  match ReceivedMessage.init mem message size with
  | .error e => .throw e
  | .ok m =>
      match m.read mem limit with
      | .error e => .throw e
      | .ok contents => ⟨[contents], none⟩

/-- `ProcessBundle` from the element at `p` on. -/
def processElements (mem : Memory) (limit : ℕ) : ℕ → ℕ → ℕ → OscTrace
  | 0, _, _ => .done
  | fuel + 1, p, stop =>
      if p = stop then .done
      else
        let size := oscToInt32 mem p
        let element :=
          if isOscBundle mem (p + 4) size then
            match ReceivedBundle.init mem (p + 4) size with
            | .error e => .throw e
            | .ok b => processElements mem limit fuel (b.timeTag + 8) b.stop
          else processMessage mem limit (p + 4) size
        element.andThen (processElements mem limit fuel ((p : ℤ) + 4 + size).toNat stop)

def processPacket (mem : Memory) (limit data : ℕ) (size : ℤ) : OscTrace :=
  match validateSize size with
  | .error e => .throw e
  | .ok size =>
      if isOscBundle mem data size then
        match ReceivedBundle.init mem data size with
        | .error e => .throw e
        | .ok b => processElements mem limit size.toNat (b.timeTag + 8) b.stop
      else processMessage mem limit data size

end OscPacketListener

end Sur40
