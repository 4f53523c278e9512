import Mathlib.Data.List.TakeWhile
import Sur40.Handshake
import Sur40.Lib.WebSocketFrame

/-!
# OSC packets

The packets of Open Sound Control: a message has an address, one type tag for each argument
and the arguments, a bundle has a time tag and elements, which are messages and bundles again.
Everything is padded to four bytes, and an element inside a bundle has its size in front.

## Main definitions

* `CString`, `OscBlob`, `Argument`: what can be streamed into a message.
* `Argument.typeTag`, `Argument.data`: how it is written.
* `OscElement`: messages and nested bundles.
* `OscElement.encode`: the bytes of an element.
-/

namespace Sur40

open Devlib

/-- `OSC_BUNDLE_ELEMENT_SIZE_MAX`: the largest multiple of 4 that is an `int32`. -/
def oscBundleElementSizeMax : ℕ := 0x7FFFFFFC

/-! ## Padding -/

/-- `RoundUp4` -/
def roundUp4 (x : ℕ) : ℕ := (x + 3) / 4 * 4

/-- The zeros behind `i` bytes: `while( i & 0x3 ){ *p++ = '\0'; ++i; }`. -/
def zeroPad (i : ℕ) : List UInt8 := List.replicate (roundUp4 i - i) 0

theorem le_roundUp4 (x : ℕ) : x ≤ roundUp4 x := by
  rw [roundUp4]
  omega

theorem roundUp4_mono {x y : ℕ} (h : x ≤ y) : roundUp4 x ≤ roundUp4 y := by
  rw [roundUp4, roundUp4]
  omega

theorem four_dvd_roundUp4 (x : ℕ) : 4 ∣ roundUp4 x := Nat.dvd_mul_left 4 _

theorem roundUp4_lt (x : ℕ) : roundUp4 x < x + 4 := by
  rw [roundUp4]
  omega

@[simp] theorem length_zeroPad (i : ℕ) : (zeroPad i).length = roundUp4 i - i := by
  rw [zeroPad, List.length_replicate]

/-! ## Arguments -/

/-- A C string, without its terminator. -/
structure CString where
  chars : List UInt8
  noNul : ∀ c ∈ chars, c ≠ 0
  deriving DecidableEq

namespace CString

/-- A string literal. -/
def ofString (s : String) : CString where
  chars := (ascii s).takeWhile fun c => c != 0
  noNul := by
    intro c hc
    simpa using List.mem_takeWhile_imp hc

/-- `std::strlen` -/
def strlen (s : CString) : ℕ := s.chars.length

/-- The string as it is written: with its terminator and padded. -/
def padded (s : CString) : List UInt8 := s.chars ++ [0] ++ zeroPad (s.strlen + 1)

@[simp] theorem length_padded (s : CString) : s.padded.length = roundUp4 (s.strlen + 1) := by
  have hle := le_roundUp4 (s.strlen + 1)
  simp only [padded, List.length_append, List.length_cons, List.length_nil, length_zeroPad]
  rw [strlen] at hle ⊢
  omega

end CString

/-- `osc::Blob`: the size is an `int32`. -/
structure OscBlob where
  data : List UInt8
  size_le : data.length ≤ 0x7FFFFFFF
  deriving DecidableEq

/-- What can be streamed into a message, with the bits of the floating point numbers. -/
inductive Argument
  | bool (rhs : Bool)
  | nil
  | infinitum
  | int32 (rhs : UInt32)
  | float (rhs : UInt32)
  | char (rhs : UInt8)
  | rgbaColor (rhs : UInt32)
  | midiMessage (rhs : UInt32)
  | int64 (rhs : UInt64)
  | timeTag (rhs : UInt64)
  | double (rhs : UInt64)
  | string (rhs : CString)
  | symbol (rhs : CString)
  | blob (rhs : OscBlob)
  | arrayInitiator
  | arrayTerminator
  deriving DecidableEq

/-- A `char`, which is signed, as an `int32`. -/
def charToInt32 (c : UInt8) : ℕ := if c.toNat < 128 then c.toNat else 0xFFFFFF00 + c.toNat

namespace Argument

/-- `TypeTagValues` -/
def typeTag : Argument → UInt8
  | bool true => 'T'.toUInt8
  | bool false => 'F'.toUInt8
  | nil => 'N'.toUInt8
  | infinitum => 'I'.toUInt8
  | int32 _ => 'i'.toUInt8
  | float _ => 'f'.toUInt8
  | char _ => 'c'.toUInt8
  | rgbaColor _ => 'r'.toUInt8
  | midiMessage _ => 'm'.toUInt8
  | int64 _ => 'h'.toUInt8
  | timeTag _ => 't'.toUInt8
  | double _ => 'd'.toUInt8
  | string _ => 's'.toUInt8
  | symbol _ => 'S'.toUInt8
  | blob _ => 'b'.toUInt8
  | arrayInitiator => '['.toUInt8
  | arrayTerminator => ']'.toUInt8

/-- The bytes of the argument. -/
def data : Argument → List UInt8
  | bool _ | nil | infinitum | arrayInitiator | arrayTerminator => []
  | int32 rhs | float rhs | rgbaColor rhs | midiMessage rhs => bigEndian 4 rhs.toNat
  | char rhs => bigEndian 4 (charToInt32 rhs)
  | int64 rhs | timeTag rhs | double rhs => bigEndian 8 rhs.toNat
  | string rhs | symbol rhs => rhs.padded
  | blob rhs => bigEndian 4 rhs.data.length ++ rhs.data ++ zeroPad rhs.data.length

theorem typeTag_ne_zero (a : Argument) : a.typeTag ≠ 0 := by
  cases a with
  | bool rhs => cases rhs <;> decide
  | _ => exact ne_of_beq_false rfl

theorem four_dvd_length_data (a : Argument) : 4 ∣ a.data.length := by
  cases a with
  | string rhs | symbol rhs => simp [data, four_dvd_roundUp4]
  | blob rhs =>
      have hle := le_roundUp4 rhs.data.length
      have hdvd := four_dvd_roundUp4 rhs.data.length
      simp only [data, List.length_append, length_bigEndian, length_zeroPad]
      omega
  | _ => simp [data]

end Argument

/-! ## Elements -/

/-- A packet or an element of a bundle. -/
inductive OscElement
  | message (addressPattern : CString) (arguments : List Argument)
  | bundle (timeTag : UInt64) (elements : List OscElement)

/-- The bytes of the arguments. -/
def argumentData (arguments : List Argument) : List UInt8 := arguments.flatMap Argument.data

/-- The comma, the type tags, and at least one zero. -/
def typeTagString (arguments : List Argument) : List UInt8 :=
  ','.toUInt8 :: arguments.map Argument.typeTag ++
    List.replicate (roundUp4 (arguments.length + 2) - (arguments.length + 1)) 0

/-- `"#bundle\0"` and the time tag. -/
def bundleHeader (timeTag : UInt64) : List UInt8 :=
  [0x23, 0x62, 0x75, 0x6E, 0x64, 0x6C, 0x65, 0] ++ bigEndian 8 timeTag.toNat

def messageBytes (addressPattern : CString) (arguments : List Argument) : List UInt8 :=
  addressPattern.padded ++ (typeTagString arguments ++ argumentData arguments)

mutual

/-- The bytes of an element, without its size. -/
def OscElement.encode : OscElement → List UInt8
  | .message addressPattern arguments => messageBytes addressPattern arguments
  | .bundle timeTag elements => bundleHeader timeTag ++ encodeElements elements

/-- The bytes of the elements of a bundle, each behind its size. -/
def encodeElements : List OscElement → List UInt8
  | [] => []
  | e :: es => bigEndian 4 e.encode.length ++ e.encode ++ encodeElements es

end

theorem encodeElements_append (es fs : List OscElement) :
    encodeElements (es ++ fs) = encodeElements es ++ encodeElements fs := by
  induction es with
  | nil => simp [encodeElements]
  | cons e es ih => simp only [List.cons_append, encodeElements, ih, List.append_assoc]

@[simp] theorem length_bundleHeader (timeTag : UInt64) : (bundleHeader timeTag).length = 16 := by
  simp [bundleHeader]

@[simp] theorem length_typeTagString (arguments : List Argument) :
    (typeTagString arguments).length = roundUp4 (arguments.length + 2) := by
  have hle := le_roundUp4 (arguments.length + 2)
  simp only [typeTagString, List.length_append, List.length_cons, List.length_map,
    List.length_replicate]
  omega

theorem four_dvd_length_argumentData (arguments : List Argument) :
    4 ∣ (argumentData arguments).length := by
  induction arguments with
  | nil => simp [argumentData]
  | cons a arguments ih =>
      rw [argumentData, List.flatMap_cons, List.length_append]
      exact Nat.dvd_add a.four_dvd_length_data ih

theorem four_dvd_length_messageBytes (addressPattern : CString) (arguments : List Argument) :
    4 ∣ (messageBytes addressPattern arguments).length := by
  rw [messageBytes, List.length_append, List.length_append, CString.length_padded,
    length_typeTagString]
  exact Nat.dvd_add (four_dvd_roundUp4 _)
    (Nat.dvd_add (four_dvd_roundUp4 _) (four_dvd_length_argumentData arguments))

mutual

/-- Every element is a multiple of four bytes. -/
theorem OscElement.four_dvd_length_encode : ∀ e : OscElement, 4 ∣ e.encode.length
  | .message addressPattern arguments => by
      rw [OscElement.encode]
      exact four_dvd_length_messageBytes addressPattern arguments
  | .bundle timeTag elements => by
      rw [OscElement.encode, List.length_append, length_bundleHeader]
      exact Nat.dvd_add (by decide) (four_dvd_length_encodeElements elements)

theorem four_dvd_length_encodeElements : ∀ es : List OscElement, 4 ∣ (encodeElements es).length
  | [] => by simp [encodeElements]
  | e :: es => by
      rw [encodeElements, List.length_append, List.length_append, length_bigEndian]
      exact Nat.dvd_add (Nat.dvd_add (Nat.dvd_refl 4) e.four_dvd_length_encode)
        (four_dvd_length_encodeElements es)

end

end Sur40
