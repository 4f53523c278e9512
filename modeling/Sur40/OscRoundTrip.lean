import Sur40.OscElements
import Sur40.OscReading

/-!
# What is streamed is received

The reader takes back every packet that the stream writes, wherever it lies in memory: the
listener is given the messages of the packet in their order, with the arguments that were
streamed. The reader refuses one thing that the stream writes, a message whose arrays do not
close.

## Main definitions

* `OscElement.trace`: what a listener is given of a packet.
* `OscElement.Plain`: no address is taken for the start of a bundle.
* `processPacket_encode`: the round trip.
-/

namespace Sur40

open Devlib

variable {mem : Memory} {p q stop limit : ℕ}

/-! ## Arguments -/

/-- The level of the arrays behind an argument. -/
def nextLevel (arrayLevel : UInt32) : Argument → UInt32
  | .arrayInitiator => arrayLevel + 1
  | .arrayTerminator => arrayLevel - 1
  | _ => arrayLevel

/-- The end of a blob is found from its size. -/
theorem blobEnd_eq {b : OscBlob} (h : mem.Holds p (bigEndian 4 b.data.length)) :
    blobEnd mem p = p + (4 + roundUp4 b.data.length) := by
  have hle := b.size_le
  have hsize := oscToUInt32_of_holds h (by omega)
  have hround : (roundUp4UInt32 (oscToUInt32 mem p)).toNat = roundUp4 b.data.length := by
    simp only [roundUp4UInt32, roundUp4, UInt32.toNat_mul, UInt32.toNat_div, UInt32.toNat_add,
      UInt32.reduceToNat, hsize]
    omega
  rw [blobEnd, hround, Nat.add_assoc]

theorem length_data_blob (b : OscBlob) :
    (Argument.blob b).data.length = 4 + roundUp4 b.data.length := by
  have hle := le_roundUp4 b.data.length
  simp only [Argument.data, List.length_append, length_bigEndian, length_zeroPad]
  omega

/-- The check of an argument that is in memory. -/
theorem checkArgument_eq {a : Argument} (h : mem.Holds p a.data) (hstop : p + a.data.length ≤ stop)
    (arrayLevel : UInt32) :
    ReceivedMessage.checkArgument mem stop a.typeTag p arrayLevel =
      .ok (p + a.data.length, nextLevel arrayLevel a) := by
  cases a with
  | bool rhs => cases rhs <;> rfl
  | nil | infinitum | arrayInitiator | arrayTerminator => rfl
  | int32 rhs | float rhs | char rhs | rgbaColor rhs | midiMessage rhs | int64 rhs | timeTag rhs
  | double rhs =>
      simp only [Argument.data, length_bigEndian] at hstop
      simp only [ReceivedMessage.checkArgument, Argument.typeTag, Argument.data,
        length_bigEndian, nextLevel]
      exact (if_neg (by omega)).trans (if_neg (by omega))
  | string rhs | symbol rhs =>
      simp only [Argument.data, CString.length_padded] at hstop
      have hpos := le_roundUp4 (rhs.strlen + 1)
      have hend := (holdsString_of_holds h).findStr4End hstop
      simp only [ReceivedMessage.checkArgument, Argument.typeTag, Argument.data,
        CString.length_padded, nextLevel]
      refine (if_neg (by omega)).trans ?_
      rw [hend]
  | blob rhs =>
      have hsize : mem.Holds p (bigEndian 4 rhs.data.length) := by
        rw [Argument.data, Memory.holds_append, Memory.holds_append] at h
        exact h.1.1
      rw [length_data_blob, ← blobEnd_eq hsize]
      rfl

/-- A blob is read back. -/
theorem asBlobUnchecked_eq {b : OscBlob} (hsize : mem.Holds p (bigEndian 4 b.data.length))
    (hdata : mem.Holds (p + 4) b.data) (hsmall : b.data.length ≤ oscBundleElementSizeMax) :
    asBlobUnchecked mem p = .ok b := by
  have hle := b.size_le
  have hread : mem.read (p + 4) b.data.length = b.data := hdata
  have hlength := oscToUInt32_of_holds hsize (by omega)
  have hint : int32OfUInt32 (oscToUInt32 mem p) = b.data.length := by
    rw [int32OfUInt32_small (by rw [hlength]; exact hsmall), hlength]
  rw [asBlobUnchecked]
  simp only [hint]
  rw [dif_pos (isValidElementSizeValue_natCast hsmall)]
  simp only [Int.toNat_natCast, hread]

/-- An argument that is in memory, read by its type tag. -/
theorem value_eq {a : Argument} (h : mem.Holds p a.data) (hlimit : a.data.length ≤ limit)
    (hsmall : a.data.length ≤ oscBundleElementSizeMax) :
    ReceivedMessageArgument.value mem limit a.typeTag p = .ok (some a) := by
  cases a with
  | bool rhs => cases rhs <;> rfl
  | nil | infinitum | arrayInitiator | arrayTerminator => rfl
  | int32 rhs =>
      change Except.ok (some (Argument.int32 (oscToUInt32 mem p))) = _
      rw [oscToUInt32_eq h]
  | float rhs =>
      change Except.ok (some (Argument.float (oscToUInt32 mem p))) = _
      rw [oscToUInt32_eq h]
  | char rhs =>
      change Except.ok (some (Argument.char (oscToUInt32 mem p).toUInt8)) = _
      rw [toUInt8_charToInt32 (oscToUInt32_of_holds h (charToInt32_lt rhs))]
  | rgbaColor rhs =>
      change Except.ok (some (Argument.rgbaColor (oscToUInt32 mem p))) = _
      rw [oscToUInt32_eq h]
  | midiMessage rhs =>
      change Except.ok (some (Argument.midiMessage (oscToUInt32 mem p))) = _
      rw [oscToUInt32_eq h]
  | int64 rhs =>
      change Except.ok (some (Argument.int64 (oscToUInt64 mem p))) = _
      rw [oscToUInt64_eq h]
  | timeTag rhs =>
      change Except.ok (some (Argument.timeTag (oscToUInt64 mem p))) = _
      rw [oscToUInt64_eq h]
  | double rhs =>
      change Except.ok (some (Argument.double (oscToUInt64 mem p))) = _
      rw [oscToUInt64_eq h]
  | string rhs =>
      have hpad := le_roundUp4 (rhs.strlen + 1)
      simp only [Argument.data, CString.length_padded] at hlimit
      change Except.ok (some (Argument.string (.readAt mem p limit))) = _
      rw [(holdsString_of_holds h).readAt (by omega)]
  | symbol rhs =>
      have hpad := le_roundUp4 (rhs.strlen + 1)
      simp only [Argument.data, CString.length_padded] at hlimit
      change Except.ok (some (Argument.symbol (.readAt mem p limit))) = _
      rw [(holdsString_of_holds h).readAt (by omega)]
  | blob rhs =>
      have hpad := le_roundUp4 rhs.data.length
      rw [length_data_blob] at hsmall
      rw [Argument.data, Memory.holds_append, Memory.holds_append, length_bigEndian] at h
      change (asBlobUnchecked mem p).map (fun b => some (Argument.blob b)) = _
      rw [asBlobUnchecked_eq h.1.1 h.1.2 (by omega)]
      rfl

/-- The iterator steps from an argument to the next. -/
theorem advance_eq {a : Argument} {t : ℕ} (htag : mem t = a.typeTag) (h : mem.Holds p a.data)
    (hlimit : a.data.length ≤ limit) :
    ReceivedMessageArgument.advance mem limit ⟨some t, p⟩ = ⟨some (t + 1), p + a.data.length⟩ := by
  simp only [ReceivedMessageArgument.advance, htag]
  cases a with
  | bool rhs => cases rhs <;> rfl
  | nil | infinitum | arrayInitiator | arrayTerminator => rfl
  | int32 rhs | float rhs | char rhs | rgbaColor rhs | midiMessage rhs | int64 rhs | timeTag rhs
  | double rhs =>
      simp only [Argument.typeTag, Argument.data, length_bigEndian]
      rfl
  | string rhs | symbol rhs =>
      have hpad := le_roundUp4 (rhs.strlen + 1)
      simp only [Argument.data, CString.length_padded] at hlimit
      have hend : findStr4EndUnchecked mem limit p = _ :=
        (holdsString_of_holds h).findStr4EndUnchecked (by omega)
      simp only [Argument.typeTag, Argument.data, CString.length_padded]
      rw [← hend]
      rfl
  | blob rhs =>
      have hsize : mem.Holds p (bigEndian 4 rhs.data.length) := by
        rw [Argument.data, Memory.holds_append, Memory.holds_append] at h
        exact h.1.1
      rw [length_data_blob, ← blobEnd_eq hsize]
      rfl

/-! ## Messages -/

theorem argumentData_cons (a : Argument) (arguments : List Argument) :
    argumentData (a :: arguments) = a.data ++ argumentData arguments := rfl

/-- The check of the arguments gets to their end, and counts the brackets on its way. -/
theorem checkArguments_eq {arguments : List Argument} (h : mem.Holds p (argumentData arguments))
    (hstop : p + (argumentData arguments).length ≤ stop) (arrayLevel : UInt32) :
    ReceivedMessage.checkArguments mem stop (arguments.map Argument.typeTag) p arrayLevel =
      .ok (p + (argumentData arguments).length, arguments.foldl nextLevel arrayLevel) := by
  induction arguments generalizing p arrayLevel with
  | nil => rfl
  | cons a arguments ih =>
      rw [argumentData_cons, Memory.holds_append] at h
      rw [argumentData_cons, List.length_append] at hstop
      rw [List.map_cons, ReceivedMessage.checkArguments, checkArgument_eq h.1 (by omega)]
      simp only [Except.bind]
      rw [ih h.2 (by omega), argumentData_cons, List.length_append, Nat.add_assoc]
      rfl

/-- The arguments are read back one after the other, by induction on them. -/
theorem valuesFrom_eq {arguments : List Argument} {t : ℕ}
    (htags : mem.Holds t (arguments.map Argument.typeTag))
    (h : mem.Holds p (argumentData arguments)) (hlimit : (argumentData arguments).length ≤ limit)
    (hsmall : (argumentData arguments).length ≤ oscBundleElementSizeMax) :
    ReceivedMessage.valuesFrom mem limit arguments.length ⟨some t, p⟩ =
      .ok (arguments.map some) := by
  induction arguments generalizing t p with
  | nil => rfl
  | cons a arguments ih =>
      rw [List.map_cons, Memory.holds_cons] at htags
      rw [argumentData_cons, Memory.holds_append] at h
      rw [argumentData_cons, List.length_append] at hlimit hsmall
      have hvalue : ReceivedMessageArgument.value mem limit a.typeTag p = _ :=
        value_eq h.1 (by omega) (by omega)
      have hadvance : ReceivedMessageArgument.advance mem limit ⟨some t, p⟩ = _ :=
        advance_eq htags.1 h.1 (by omega)
      rw [List.length_cons, ReceivedMessage.valuesFrom]
      simp only [Option.getD_some, htags.1, hvalue, hadvance]
      rw [ih htags.2 h.2 (by omega) (by omega)]
      rfl

/-- The type tags are a padded string, too. -/
def typeTagChars (arguments : List Argument) : CString where
  chars := ','.toUInt8 :: arguments.map Argument.typeTag
  noNul := by
    intro c hc
    rcases List.mem_cons.mp hc with rfl | hc
    · exact ne_of_beq_false rfl
    · rcases List.mem_map.mp hc with ⟨a, -, rfl⟩
      exact a.typeTag_ne_zero

theorem strlen_typeTagChars (arguments : List Argument) :
    (typeTagChars arguments).strlen = arguments.length + 1 := by
  simp [typeTagChars, CString.strlen]

theorem padded_typeTagChars (arguments : List Argument) :
    (typeTagChars arguments).padded = typeTagString arguments := by
  have hle := le_roundUp4 (arguments.length + 2)
  have hcount : roundUp4 (arguments.length + 2) - (arguments.length + 1) =
      roundUp4 (arguments.length + 2) - (arguments.length + 2) + 1 := by omega
  rw [CString.padded, strlen_typeTagChars, typeTagString, hcount, List.replicate_succ, zeroPad,
    List.append_assoc]
  rfl

theorem typeTagsAt_eq {arguments : List Argument} {t : ℕ}
    (h : HoldsString mem t (typeTagChars arguments)) (hlt : t + arguments.length + 1 < stop) :
    ReceivedMessage.typeTagsAt mem (t + 1) stop = arguments.map Argument.typeTag := by
  have hwhole : CString.readAt mem t (stop - t) = typeTagChars arguments :=
    h.readAt (by rw [strlen_typeTagChars]; omega)
  have hread := (CString.mk.injEq _ _ _ _).mp hwhole
  have hfirst : mem t = ','.toUInt8 := (Memory.holds_cons.mp h.read).1
  have hlength : stop - t = 1 + (stop - (t + 1)) := by omega
  rw [hlength, Memory.read_add] at hread
  have hone : mem.read t 1 = [','.toUInt8] := by simp [Memory.read, hfirst]
  rw [hone, List.singleton_append, List.takeWhile_cons_of_pos (by rfl)] at hread
  exact (List.cons.inj hread).2

/-- A message that is in memory. -/
structure HoldsMessage (mem : Memory) (p : ℕ) (addressPattern : CString)
    (arguments : List Argument) : Prop where
  address : HoldsString mem p addressPattern
  typeTags : HoldsString mem (p + roundUp4 (addressPattern.strlen + 1)) (typeTagChars arguments)
  data : mem.Holds (p + roundUp4 (addressPattern.strlen + 1) + roundUp4 (arguments.length + 2))
    (argumentData arguments)

theorem holdsMessage_of_holds {addressPattern : CString} {arguments : List Argument}
    (h : mem.Holds p (messageBytes addressPattern arguments)) :
    HoldsMessage mem p addressPattern arguments := by
  rw [messageBytes, Memory.holds_append, Memory.holds_append, CString.length_padded,
    length_typeTagString, ← padded_typeTagChars] at h
  exact ⟨holdsString_of_holds h.1, holdsString_of_holds h.2.1, h.2.2⟩

theorem length_messageBytes (addressPattern : CString) (arguments : List Argument) :
    (messageBytes addressPattern arguments).length = roundUp4 (addressPattern.strlen + 1) +
      (roundUp4 (arguments.length + 2) + (argumentData arguments).length) := by
  rw [messageBytes, List.length_append, List.length_append, CString.length_padded,
    length_typeTagString]

/-- The exception of a message whose arrays do not close. -/
def unclosedArray : OscReadException :=
  .malformedMessage ("array was not terminated before end of message" ++
    " (expected ']' end of array tag)")

/-- What a listener is given of a message: the arrays have to close. -/
def messageTrace (addressPattern : CString) (arguments : List Argument) : OscTrace :=
  if arguments.foldl nextLevel 0 ≠ 0 then .throw unclosedArray
  else ⟨[(addressPattern, arguments.map some)], none⟩

/-- The message that the checks accept. -/
def receivedMessage (p : ℕ) (addressPattern : CString) (arguments : List Argument) :
    ReceivedMessage :=
  let typeTags := p + roundUp4 (addressPattern.strlen + 1)
  if arguments.isEmpty then ⟨p, none, none, none⟩
  else ⟨p, some (typeTags + 1), some (typeTags + 1 + arguments.length),
    some (typeTags + roundUp4 (arguments.length + 2))⟩

theorem HoldsMessage.init {addressPattern : CString} {arguments : List Argument} {n : ℕ}
    (h : HoldsMessage mem p addressPattern arguments)
    (hn : n = (messageBytes addressPattern arguments).length)
    (hsmall : n ≤ oscBundleElementSizeMax) :
    ReceivedMessage.init mem p n =
      if arguments.foldl nextLevel 0 ≠ 0 then .error unclosedArray
      else .ok (receivedMessage p addressPattern arguments) := by
  have hdvd : 4 ∣ n := hn ▸ four_dvd_length_messageBytes addressPattern arguments
  rw [length_messageBytes] at hn
  have haddress := le_roundUp4 (addressPattern.strlen + 1)
  have htags := le_roundUp4 (arguments.length + 2)
  have hzero : ¬((n : ℤ) = 0) := by omega
  have hend : findStr4End mem p (p + n) = _ := h.address.findStr4End (by omega)
  have hcomma : mem (p + roundUp4 (addressPattern.strlen + 1)) = ','.toUInt8 :=
    (Memory.holds_cons.mp h.typeTags.read).1
  rw [ReceivedMessage.init, isValidElementSizeValue_natCast hsmall, isMultipleOf4_natCast hdvd]
  simp only [Bool.not_true, Bool.false_eq_true, if_false, Int.toNat_natCast, hend]
  rw [if_neg hzero, if_neg (by omega), if_neg (not_not.mpr hcomma)]
  cases arguments with
  | nil =>
      have hnext : mem (p + roundUp4 (addressPattern.strlen + 1) + 1) = 0 :=
        h.typeTags.zeros 1 (Nat.le_refl _) (by decide)
      rw [if_pos hnext]
      rfl
  | cons a rest =>
      have hnext : mem (p + roundUp4 (addressPattern.strlen + 1) + 1) ≠ 0 :=
        h.typeTags.chars 1 (by rw [strlen_typeTagChars]; simp)
      have hfit : p + roundUp4 (addressPattern.strlen + 1) + roundUp4 ((a :: rest).length + 2) ≤
          p + n := by omega
      have htagsEnd : findStr4End mem (p + roundUp4 (addressPattern.strlen + 1)) (p + n) = _ :=
        h.typeTags.findStr4End (by rw [strlen_typeTagChars]; exact hfit)
      rw [strlen_typeTagChars] at htagsEnd
      have htypeTags : ReceivedMessage.typeTagsAt mem (p + roundUp4 (addressPattern.strlen + 1) + 1)
          (p + roundUp4 (addressPattern.strlen + 1) + roundUp4 ((a :: rest).length + 2)) = _ :=
        typeTagsAt_eq h.typeTags (by omega)
      rw [if_neg hnext]
      simp only [htagsEnd, htypeTags]
      rw [checkArguments_eq h.data (by omega)]
      simp only [receivedMessage, List.isEmpty_cons, Bool.false_eq_true, if_false,
        List.length_map]
      rfl

theorem HoldsMessage.read {addressPattern : CString} {arguments : List Argument}
    (h : HoldsMessage mem p addressPattern arguments)
    (hsmall : (messageBytes addressPattern arguments).length ≤ oscBundleElementSizeMax)
    (hlimit : (messageBytes addressPattern arguments).length ≤ limit) :
    (receivedMessage p addressPattern arguments).read mem limit =
      .ok (addressPattern, arguments.map some) := by
  rw [length_messageBytes] at hsmall hlimit
  have haddress := le_roundUp4 (addressPattern.strlen + 1)
  have hread : CString.readAt mem p limit = addressPattern := h.address.readAt (by omega)
  cases arguments with
  | nil =>
      simp only [receivedMessage, List.isEmpty_nil, if_true, ReceivedMessage.read, hread]
      rfl
  | cons a rest =>
      have htags : mem.Holds (p + roundUp4 (addressPattern.strlen + 1) + 1)
          ((a :: rest).map Argument.typeTag) := (Memory.holds_cons.mp h.typeTags.read).2
      have hvalues : ReceivedMessage.valuesFrom mem limit (a :: rest).length _ = _ :=
        valuesFrom_eq htags h.data (by omega) (by omega)
      have hcount : p + roundUp4 (addressPattern.strlen + 1) + 1 + (a :: rest).length -
          (p + roundUp4 (addressPattern.strlen + 1) + 1) = (a :: rest).length := by omega
      simp only [receivedMessage, List.isEmpty_cons, Bool.false_eq_true, if_false,
        ReceivedMessage.read, ReceivedMessage.argumentCount, ReceivedMessage.argumentsBegin,
        Option.getD_some, hcount, hvalues, hread]
      rfl

theorem HoldsMessage.processMessage {addressPattern : CString} {arguments : List Argument}
    {n : ℕ} (h : HoldsMessage mem p addressPattern arguments)
    (hn : n = (messageBytes addressPattern arguments).length)
    (hsmall : n ≤ oscBundleElementSizeMax) (hlimit : n ≤ limit) :
    OscPacketListener.processMessage mem limit p n = messageTrace addressPattern arguments := by
  rw [OscPacketListener.processMessage, h.init hn hsmall, messageTrace]
  by_cases hopen : arguments.foldl nextLevel 0 ≠ 0
  · rw [if_pos hopen, if_pos hopen]
  · subst hn
    rw [if_neg hopen, if_neg hopen]
    simp only [h.read hsmall hlimit]

/-! ## Bundles -/

mutual

/-- No address begins like a bundle. -/
def OscElement.Plain : OscElement → Prop
  | .message addressPattern _ => addressPattern.chars.head? ≠ some '#'.toUInt8
  | .bundle _ elements => ElementsPlain elements

def ElementsPlain : List OscElement → Prop
  | [] => True
  | e :: es => e.Plain ∧ ElementsPlain es

end

mutual

/-- What a listener is given of an element. -/
def OscElement.trace : OscElement → OscTrace
  | .message addressPattern arguments => messageTrace addressPattern arguments
  | .bundle _ elements => elementsTrace elements

def elementsTrace : List OscElement → OscTrace
  | [] => .done
  | e :: es => e.trace.andThen (elementsTrace es)

end

theorem uint32_mod_four {x : UInt32} (h : 4 ∣ x.toNat) : ¬(x % 4 ≠ 0) := by
  rw [not_not, ← UInt32.toNat_inj, UInt32.toNat_mod]
  exact Nat.mod_eq_zero_of_dvd h

theorem length_encodeElements_cons (e : OscElement) (es : List OscElement) :
    (encodeElements (e :: es)).length = 4 + e.encode.length + (encodeElements es).length := by
  simp only [encodeElements, List.length_append, length_bigEndian]

/-- The size of the first element, the element, and the others. -/
theorem holds_encodeElements_cons {e : OscElement} {es : List OscElement}
    (h : mem.Holds p (encodeElements (e :: es))) :
    mem.Holds p (bigEndian 4 e.encode.length) ∧ mem.Holds (p + 4) e.encode ∧
      mem.Holds (p + (4 + e.encode.length)) (encodeElements es) := by
  rw [encodeElements, Memory.holds_append, Memory.holds_append, List.length_append,
    length_bigEndian] at h
  exact ⟨h.1.1, h.1.2, h.2⟩

theorem countElements_eq {es : List OscElement} {fuel : ℕ} (h : mem.Holds p (encodeElements es))
    (hstop : p + (encodeElements es).length = stop) (hfuel : (encodeElements es).length ≤ fuel)
    (hsmall : (encodeElements es).length ≤ oscBundleElementSizeMax) (elementCount : UInt32) :
    ReceivedBundle.countElements mem stop fuel p elementCount =
      .ok (stop, elementCount + UInt32.ofNat es.length) := by
  induction es generalizing p fuel elementCount with
  | nil =>
      have hp : p = stop := hstop
      have hcount : elementCount + UInt32.ofNat 0 = elementCount := UInt32.add_zero elementCount
      subst hp
      rw [List.length_nil, hcount]
      cases fuel with
      | zero => rfl
      | succ fuel =>
          rw [ReceivedBundle.countElements]
          exact if_neg (Nat.lt_irrefl p)
  | cons e es ih =>
      have hparts := holds_encodeElements_cons h
      rw [length_encodeElements_cons] at hstop hfuel hsmall
      have hmax : oscBundleElementSizeMax < 2 ^ 32 := by decide
      have hsize := oscToUInt32_of_holds hparts.1 (by omega)
      cases fuel with
      | zero => omega
      | succ fuel =>
          have hdvd : 4 ∣ (oscToUInt32 mem p).toNat := hsize ▸ e.four_dvd_length_encode
          rw [ReceivedBundle.countElements, if_pos (by omega), if_neg (by omega),
            if_neg (uint32_mod_four hdvd), if_neg (by omega), hsize,
            ih hparts.2.2 (by omega) (by omega) (by omega), List.length_cons, Nat.add_comm,
            UInt32.ofNat_add, UInt32.add_assoc]
          rfl

/-- The reader counts the elements of a bundle. -/
theorem bundle_init_eq {timeTag : UInt64} {es : List OscElement} {n : ℕ}
    (h : mem.Holds p (bundleHeader timeTag ++ encodeElements es))
    (hn : n = 16 + (encodeElements es).length) (hsmall : n ≤ oscBundleElementSizeMax) :
    ReceivedBundle.init mem p n = .ok ⟨p + 8, p + n, UInt32.ofNat es.length⟩ := by
  have hdvd : 4 ∣ n := by
    rw [hn]
    exact Nat.dvd_add (by decide) (four_dvd_length_encodeElements es)
  rw [Memory.holds_append, length_bundleHeader] at h
  have haddress : mem.read p 8 = ReceivedBundle.addressPattern :=
    (Memory.holds_append.mp h.1).1
  have hcount : ReceivedBundle.countElements mem (p + n) n (p + 16) 0 = _ :=
    countElements_eq h.2 (by omega) (by omega) (by omega) 0
  rw [UInt32.zero_add] at hcount
  rw [ReceivedBundle.init, isValidElementSizeValue_natCast hsmall, isMultipleOf4_natCast hdvd]
  simp only [Bool.not_true, Bool.false_eq_true, if_false, Int.toNat_natCast]
  rw [if_neg (by omega), if_neg (not_not.mpr haddress), Nat.add_assoc p 8 8, hcount]
  exact if_neg (not_not.mpr rfl)

theorem isOscBundle_message {addressPattern : CString} {arguments : List Argument} {n : ℕ}
    (h : HoldsMessage mem p addressPattern arguments)
    (hplain : addressPattern.chars.head? ≠ some '#'.toUInt8) :
    isOscBundle mem p n = false := by
  rw [isOscBundle, Bool.and_eq_false_iff]
  right
  rw [decide_eq_false_iff_not]
  intro hhash
  rcases hchars : addressPattern.chars with _ | ⟨c, chars⟩
  · have hzero := h.address.first.mpr (by rw [CString.strlen, hchars]; rfl)
    rw [hzero] at hhash
    exact absurd hhash (by decide)
  · have hread := h.address.read
    rw [hchars, Memory.holds_cons] at hread
    rw [hchars, ← hread.1, hhash] at hplain
    exact hplain rfl

theorem isOscBundle_bundle {timeTag : UInt64} {bs : List UInt8} {n : ℕ} (hn : 0 < n)
    (h : mem.Holds p (bundleHeader timeTag ++ bs)) : isOscBundle mem p n = true := by
  have hhash : mem p = '#'.toUInt8 := (Memory.holds_cons.mp (Memory.holds_append.mp h).1).1
  rw [isOscBundle, Bool.and_eq_true, decide_eq_true_eq, decide_eq_true_eq]
  exact ⟨by omega, hhash⟩

/-! ## Packets -/

theorem oscToInt32_of_holds {n : ℕ} (h : mem.Holds p (bigEndian 4 n))
    (hsmall : n ≤ oscBundleElementSizeMax) : oscToInt32 mem p = n := by
  have hmax : oscBundleElementSizeMax < 2 ^ 32 := by decide
  have hsize := oscToUInt32_of_holds h (by omega)
  rw [oscToInt32, int32OfUInt32_small (by rw [hsize]; exact hsmall), hsize]

theorem four_le_length_messageBytes (addressPattern : CString) (arguments : List Argument) :
    4 ≤ (messageBytes addressPattern arguments).length := by
  have haddress : roundUp4 1 ≤ roundUp4 (addressPattern.strlen + 1) := roundUp4_mono (by omega)
  have hone : roundUp4 1 = 4 := rfl
  rw [length_messageBytes]
  omega

/-- A listener that comes to an element. -/
def processElement (mem : Memory) (limit fuel contents : ℕ) (size : ℤ) : OscTrace :=
  if isOscBundle mem contents size then
    match ReceivedBundle.init mem contents size with
    | .error e => .throw e
    | .ok b => OscPacketListener.processElements mem limit fuel (b.timeTag + 8) b.stop
  else OscPacketListener.processMessage mem limit contents size

mutual

theorem OscElement.processElement_eq : ∀ (e : OscElement) {p fuel : ℕ}, mem.Holds p e.encode →
    e.Plain → e.encode.length ≤ fuel → e.encode.length ≤ oscBundleElementSizeMax →
    e.encode.length ≤ limit → processElement mem limit fuel p e.encode.length = e.trace
  | .message addressPattern arguments, p, fuel, h, hplain, _, hsmall, hlimit => by
      have hmessage := holdsMessage_of_holds h
      rw [processElement, isOscBundle_message hmessage hplain]
      exact hmessage.processMessage rfl hsmall hlimit
  | .bundle timeTag elements, p, fuel, h, hplain, hfuel, hsmall, hlimit => by
      have hlength : (OscElement.bundle timeTag elements).encode.length =
          16 + (encodeElements elements).length := by
        rw [OscElement.encode, List.length_append, length_bundleHeader]
      rw [OscElement.encode] at h
      have hinit := bundle_init_eq h hlength hsmall
      have hbundle := isOscBundle_bundle (hlength ▸ (by omega) :
        0 < (OscElement.bundle timeTag elements).encode.length) h
      have hcontents := (Memory.holds_append.mp h).2
      rw [length_bundleHeader] at hcontents
      have helements : OscPacketListener.processElements mem limit fuel (p + 8 + 8)
          (p + (OscElement.bundle timeTag elements).encode.length) = elementsTrace elements :=
        processElements_eq elements hcontents hplain (by omega) (by omega) (by omega) (by omega)
      rw [processElement, hbundle, hinit]
      exact helements

theorem processElements_eq : ∀ (es : List OscElement) {p fuel stop : ℕ},
    mem.Holds p (encodeElements es) → ElementsPlain es → p + (encodeElements es).length = stop →
    (encodeElements es).length ≤ fuel →
    (encodeElements es).length ≤ oscBundleElementSizeMax → (encodeElements es).length ≤ limit →
    OscPacketListener.processElements mem limit fuel p stop = elementsTrace es
  | [], p, fuel, stop, _, _, hstop, _, _, _ => by
      have hp : p = stop := hstop
      cases fuel with
      | zero => rfl
      | succ fuel =>
          rw [OscPacketListener.processElements]
          exact if_pos hp
  | e :: es, p, fuel, stop, h, hplain, hstop, hfuel, hsmall, hlimit => by
      have hparts := holds_encodeElements_cons h
      rw [length_encodeElements_cons] at hstop hfuel hsmall hlimit
      have hsize := oscToInt32_of_holds hparts.1 (by omega)
      have hnext : ((p : ℤ) + 4 + (e.encode.length : ℤ)).toNat = p + (4 + e.encode.length) := by
        omega
      cases fuel with
      | zero => omega
      | succ fuel =>
          have helement : processElement mem limit fuel (p + 4) _ = _ :=
            e.processElement_eq hparts.2.1 hplain.1 (by omega) (by omega) (by omega)
          have hrest : OscPacketListener.processElements mem limit fuel _ stop = _ :=
            processElements_eq es hparts.2.2 hplain.2 (by omega) (by omega) (by omega) (by omega)
          rw [OscPacketListener.processElements, if_neg (by omega), elementsTrace]
          simp only [hsize, hnext]
          rw [hrest, ← helement]
          rfl

end

/-- The listener takes a packet back, wherever it lies and whatever lies around it. -/
theorem processPacket_encode {e : OscElement} (h : mem.Holds p e.encode) (hplain : e.Plain)
    (hsmall : e.encode.length ≤ oscBundleElementSizeMax) (hlimit : e.encode.length ≤ limit) :
    OscPacketListener.processPacket mem limit p e.encode.length = e.trace := by
  have hpos : 0 < e.encode.length := by
    cases e with
    | message addressPattern arguments =>
        have hfour := four_le_length_messageBytes addressPattern arguments
        rw [OscElement.encode]
        omega
    | bundle timeTag elements =>
        rw [OscElement.encode, List.length_append, length_bundleHeader]
        omega
  have hzero : ¬((e.encode.length : ℤ) = 0) := by omega
  have hvalid : validateSize e.encode.length = .ok (e.encode.length : ℤ) := by
    rw [validateSize, isValidElementSizeValue_natCast hsmall,
      isMultipleOf4_natCast e.four_dvd_length_encode, if_neg hzero]
    rfl
  rw [OscPacketListener.processPacket, hvalid,
    ← e.processElement_eq h hplain (Nat.le_refl _) hsmall hlimit]
  rfl

/-- A tree of messages and bundles that fits into the buffer of a stream goes through it and
through the reader: the listener is given its messages, in their order and with their
arguments. -/
theorem stream_roundTrip (buffer : Memory) {capacity : ℕ} (hsmall : capacity ≤ oscMaxCapacity)
    {e : OscElement} (hplain : e.Plain) (hfits : e.encode.length ≤ capacity) :
    ∃ s, (OutboundPacketStream.new buffer capacity).runAll e.ops = .ok s ∧
      OscPacketListener.processPacket s.mem s.size 0 s.size = e.trace := by
  obtain ⟨s, hs, -, hdata⟩ : ∃ s, (OutboundPacketStream.new buffer capacity).runAll e.ops =
      .ok s ∧ s.isReady = true ∧ s.data = e.encode := by
    rcases OutboundPacketStream.runAll_ops buffer hsmall e with ⟨-, hs⟩ | ⟨hlt, -⟩
    · exact hs
    · exact absurd hfits (Nat.not_le.mpr hlt)
  have hlength : s.size = e.encode.length := by
    rw [← hdata, OutboundPacketStream.data, Memory.length_read]
  have hmem : s.mem.Holds 0 e.encode := by
    rw [Memory.Holds, ← hlength]
    exact hdata
  have hmax : e.encode.length ≤ oscBundleElementSizeMax := by
    have hdvd := e.four_dvd_length_encode
    rw [oscMaxCapacity] at hsmall
    rw [oscBundleElementSizeMax]
    omega
  refine ⟨s, hs, ?_⟩
  rw [hlength]
  exact processPacket_encode hmem hplain hmax (Nat.le_refl _)

theorem stream_roundTrip_status :
    ∃ s, (OutboundPacketStream.new (fun _ => 0) 36).runAll
        (OscElement.bundle 1 [.message (.ofString "/s") [.int32 7, .string (.ofString "up")]]).ops =
          .ok s ∧
      OscPacketListener.processPacket s.mem s.size 0 s.size =
        ⟨[(.ofString "/s", [some (.int32 7), some (.string (.ofString "up"))])], none⟩ :=
  stream_roundTrip (fun _ => 0) (show 36 ≤ oscMaxCapacity by decide)
    (e := .bundle 1 [.message (.ofString "/s") [.int32 7, .string (.ofString "up")]])
    ⟨fun h => absurd h (by decide), trivial⟩ (by decide)

end Sur40
