import Sur40.Lib.Replica
import Sur40.OscRoundTrip
import Sur40.TuioFrames

/-!
# What a listener sees

A listener that the packets of the server reach reads their messages: which contacts are alive,
where a contact is, which frame this is. What it has seen of a profile is a table of contacts.
The bundles of a frame that reports on all contacts leave it with the contacts of the server.

## Main definitions

* `TuioMessage`, `TuioMessage.parse`: the messages of a profile.
* `TuioView`, `TuioView.receive`: what a listener knows.
* `readPacket`: the reader of packets, on the bytes that were sent.
* `TuioBundle.said_elements`: what the packets of the server say.
* `TuioBundle.receiveAll_packets`: a listener behind the packets of a frame.
-/

namespace Sur40

open Devlib

/-! ## Messages -/

inductive TuioMessage where
  | alive (ids : List UInt32)
  | set (id : UInt32) (arguments : List (Option Argument))
  | fseq (frame : UInt32)

namespace TuioMessage

def int? : Option Argument → Option UInt32
  | some (.int32 rhs) => some rhs
  | _ => none

/-- The arguments of a message. -/
def parse : List (Option Argument) → Option TuioMessage
  | some (.string command) :: arguments =>
      if command = .ofString "alive" then some (.alive (arguments.filterMap int?))
      else if command = .ofString "set" then
        match arguments with
        | some (.int32 id) :: arguments => some (.set id arguments)
        | _ => none
      else if command = .ofString "fseq" then
        match arguments with
        | [some (.int32 frame)] => some (.fseq frame)
        | _ => none
      else none
  | _ => none

end TuioMessage

/-- What is known of the contacts of a profile. -/
structure TuioView where
  alive : List UInt32
  contacts : UInt32 → Option (List (Option Argument))
  frame : Option UInt32

namespace TuioView

def empty : TuioView := ⟨[], fun _ => none, none⟩

def receive (v : TuioView) : TuioMessage → TuioView
  | .alive ids => { v with alive := ids, contacts := Replica.keep ids v.contacts }
  | .set id arguments =>
      { v with contacts := fun k => if k = id then some arguments else v.contacts k }
  | .fseq frame => { v with frame := some frame }

def receiveAll (v : TuioView) (ms : List TuioMessage) : TuioView := ms.foldl receive v

@[simp] theorem receiveAll_nil (v : TuioView) : v.receiveAll [] = v := rfl

theorem receiveAll_append (v : TuioView) (ms ns : List TuioMessage) :
    v.receiveAll (ms ++ ns) = (v.receiveAll ms).receiveAll ns := List.foldl_append

end TuioView

/-- What the reader gives to its listener. -/
def readPacket (packet : List UInt8) : OscTrace :=
  OscPacketListener.processPacket (Memory.write (fun _ => 0) 0 packet) packet.length 0
    packet.length

/-- The messages of a profile in packets. -/
def said (address : CString) (packets : List (List UInt8)) : List TuioMessage :=
  (packets.flatMap fun packet => (readPacket packet).messages).filterMap fun m =>
    if m.1 = address then TuioMessage.parse m.2 else none

theorem said_append (address : CString) (ps qs : List (List UInt8)) :
    said address (ps ++ qs) = said address ps ++ said address qs := by
  simp [said]

theorem readPacket_encode {e : OscElement} (hplain : e.Plain)
    (hsmall : e.encode.length ≤ oscBundleElementSizeMax) : readPacket e.encode = e.trace :=
  processPacket_encode (Memory.holds_write _ 0 _) hplain hsmall (Nat.le_refl _)

/-! ## The messages of the server -/

/-- Messages without arrays reach the listener. -/
theorem elementsTrace_messages (address : CString) {arguments : List (List Argument)}
    (h : ∀ as ∈ arguments, as.foldl nextLevel 0 = 0) :
    elementsTrace (arguments.map (.message address)) =
      ⟨arguments.map fun as => (address, as.map some), none⟩ := by
  induction arguments with
  | nil => rfl
  | cons as arguments ih =>
      have has := h as List.mem_cons_self
      rw [List.map_cons, elementsTrace, ih fun bs hbs => h bs (List.mem_cons_of_mem as hbs),
        OscElement.trace, messageTrace, if_neg (not_not.mpr has)]
      rfl

/-- An argument is no bracket of an array. -/
def Argument.Flat (a : Argument) : Prop := ∀ arrayLevel, nextLevel arrayLevel a = arrayLevel

theorem foldl_nextLevel {arguments : List Argument} (h : ∀ a ∈ arguments, a.Flat)
    (arrayLevel : UInt32) : arguments.foldl nextLevel arrayLevel = arrayLevel := by
  induction arguments with
  | nil => rfl
  | cons a as ih =>
      rw [List.foldl_cons, h a List.mem_cons_self arrayLevel]
      exact ih fun a' ha' => h a' (List.mem_cons_of_mem a ha')

theorem flat_text (s : String) : (textArgument s).Flat := fun _ => rfl

theorem flat_int (x : ℤ) : (intArgument x).Flat := fun _ => rfl

namespace TuioBundle
variable {α : Type*} {b : TuioBundle α} {id : α → ℤ}

/-- The messages of contacts begin with their ids, and are taken for messages. -/
structure Keyed (b : TuioBundle α) (id : α → ℤ) : Prop where
  plain : b.address.chars.head? ≠ some '#'.toUInt8
  arguments_eq : ∀ c, b.arguments c = intArgument (id c) :: (b.arguments c).tail
  flat : ∀ c, ∀ a ∈ (b.arguments c).tail, a.Flat

/-- What a listener knows a contact by. -/
def key (id : α → ℤ) (c : α) : UInt32 := UInt32.ofInt (id c)

/-- What a listener knows of a contact. -/
def value (b : TuioBundle α) (c : α) : List (Option Argument) := (b.arguments c).tail.map some

/-- The messages of a bundle. -/
def messages (b : TuioBundle α) (id : α → ℤ) (cs : List α) : List TuioMessage :=
  .alive (b.ids.map UInt32.ofInt) :: (cs.map fun c => .set (key id c) (b.value c)) ++
    [.fseq (UInt32.ofInt b.fseq)]

/-- The arguments of all messages of a bundle. -/
def allArguments (b : TuioBundle α) (cs : List α) : List (List Argument) :=
  b.headArguments ++ cs.map b.setArguments ++ [b.fseqArguments]

theorem element_eq (cs : List α) :
    b.element cs = .bundle 1 ((b.allArguments cs).map (.message b.address)) := by
  simp [element, openElements, headElements, fseqElement, allArguments, Function.comp_def,
    setElement]

theorem allArguments_flat (h : b.Keyed id) (cs : List α) :
    ∀ as ∈ b.allArguments cs, as.foldl nextLevel 0 = 0 := by
  intro as has
  apply foldl_nextLevel
  rw [allArguments, List.mem_append, List.mem_append] at has
  rcases has with (has | has) | has
  · rw [headArguments, List.mem_append] at has
    rcases has with has | has
    · split at has
      · cases has
      · rw [List.mem_singleton.mp has]
        intro a ha
        rcases List.mem_cons.mp ha with rfl | ha
        · exact flat_text _
        · rw [List.mem_singleton.mp ha]
          exact fun _ => rfl
    · rw [List.mem_singleton.mp has]
      intro a ha
      rcases List.mem_cons.mp ha with rfl | ha
      · exact flat_text _
      · rcases List.mem_map.mp ha with ⟨x, -, rfl⟩
        exact flat_int x
  · rcases List.mem_map.mp has with ⟨c, -, rfl⟩
    intro a ha
    rw [setArguments, h.arguments_eq] at ha
    rcases List.mem_cons.mp ha with rfl | ha
    · exact flat_text _
    · rcases List.mem_cons.mp ha with rfl | ha
      · exact flat_int _
      · exact h.flat c a ha
  · rw [List.mem_singleton.mp has]
    intro a ha
    rcases List.mem_cons.mp ha with rfl | ha
    · exact flat_text _
    · rw [List.mem_singleton.mp ha]
      exact flat_int _

/-- The packets have the addresses of the profile. -/
theorem element_plain (haddress : b.address.chars.head? ≠ some '#'.toUInt8) (cs : List α) :
    (b.element cs).Plain := by
  rw [element_eq, OscElement.Plain]
  induction b.allArguments cs with
  | nil => trivial
  | cons as arguments ih =>
      rw [List.map_cons, ElementsPlain, OscElement.Plain]
      exact ⟨haddress, ih⟩

/-- The reader gives the messages of a bundle to its listener. -/
theorem readPacket_element (hkeyed : b.Keyed id) {cs : List α}
    (hsmall : (b.element cs).encode.length ≤ oscBundleElementSizeMax) :
    readPacket (b.element cs).encode =
      ⟨(b.allArguments cs).map fun as => (b.address, as.map some), none⟩ := by
  rw [readPacket_encode (element_plain hkeyed.plain cs) hsmall, element_eq, OscElement.trace,
    elementsTrace_messages _ (allArguments_flat hkeyed cs)]

theorem filterMap_int (ids : List ℤ) :
    ((ids.map intArgument).map some).filterMap TuioMessage.int? = ids.map UInt32.ofInt := by
  induction ids with
  | nil => rfl
  | cons x xs ih =>
      rw [List.map_cons, List.map_cons, List.map_cons, ← ih]
      rfl

theorem parse_alive (ids : List ℤ) :
    TuioMessage.parse ((textArgument "alive" :: ids.map intArgument).map some) =
      some (.alive (ids.map UInt32.ofInt)) := by
  simp only [List.map_cons, textArgument, TuioMessage.parse, if_true]
  rw [filterMap_int]

theorem parse_source (name : CString) :
    TuioMessage.parse ([textArgument "source", .string name].map some) = none := by
  have halive : CString.ofString "source" ≠ .ofString "alive" := by decide
  have hset : CString.ofString "source" ≠ .ofString "set" := by decide
  have hfseq : CString.ofString "source" ≠ .ofString "fseq" := by decide
  simp only [List.map_cons, textArgument, TuioMessage.parse, if_neg halive, if_neg hset,
    if_neg hfseq]

theorem parse_set (hkeyed : b.Keyed id) (c : α) :
    TuioMessage.parse ((b.setArguments c).map some) = some (.set (key id c) (b.value c)) := by
  have halive : CString.ofString "set" ≠ .ofString "alive" := by decide
  rw [setArguments, hkeyed.arguments_eq]
  simp only [List.map_cons, textArgument, TuioMessage.parse, if_neg halive, if_true]
  rfl

theorem parse_fseq (b : TuioBundle α) :
    TuioMessage.parse (b.fseqArguments.map some) = some (.fseq (UInt32.ofInt b.fseq)) := by
  have halive : CString.ofString "fseq" ≠ .ofString "alive" := by decide
  have hset : CString.ofString "fseq" ≠ .ofString "set" := by decide
  simp only [fseqArguments, List.map_cons, List.map_nil, textArgument, TuioMessage.parse,
    if_neg halive, if_neg hset, if_true]
  rfl

/-- What all messages of a bundle say. -/
theorem filterMap_parse (hkeyed : b.Keyed id) (cs : List α) :
    (b.allArguments cs).filterMap (fun as => TuioMessage.parse (as.map some)) =
      b.messages id cs := by
  have hhead : b.headArguments.filterMap (fun as => TuioMessage.parse (as.map some)) =
      [.alive (b.ids.map UInt32.ofInt)] := by
    rw [headArguments, List.filterMap_append]
    have halive : [textArgument "alive" :: b.ids.map intArgument].filterMap
        (fun as => TuioMessage.parse (as.map some)) = [.alive (b.ids.map UInt32.ofInt)] := by
      rw [List.filterMap_cons, parse_alive]
      rfl
    rw [halive]
    split
    · rfl
    · rw [List.filterMap_cons, parse_source]
      rfl
  have hsets : (cs.map b.setArguments).filterMap (fun as => TuioMessage.parse (as.map some)) =
      cs.map fun c => .set (key id c) (b.value c) := by
    induction cs with
    | nil => rfl
    | cons c cs ih =>
        rw [List.map_cons, List.filterMap_cons, parse_set hkeyed, ih]
        rfl
  rw [allArguments, List.filterMap_append, List.filterMap_append, hhead, hsets,
    List.filterMap_cons, parse_fseq]
  rfl

/-- What a packet says of the profile that it has the address of. -/
theorem said_element (hkeyed : b.Keyed id) {cs : List α}
    (hsmall : (b.element cs).encode.length ≤ oscBundleElementSizeMax) :
    said b.address [(b.element cs).encode] = b.messages id cs := by
  rw [said, List.flatMap_cons, List.flatMap_nil, List.append_nil,
    readPacket_element hkeyed hsmall, ← filterMap_parse hkeyed, List.filterMap_map]
  congr 1
  ext1 as
  exact if_pos rfl

/-- A packet says nothing of other profiles. -/
theorem said_element_other (hkeyed : b.Keyed id) {cs : List α}
    (hsmall : (b.element cs).encode.length ≤ oscBundleElementSizeMax) {address : CString}
    (hother : b.address ≠ address) : said address [(b.element cs).encode] = [] := by
  rw [said, List.flatMap_cons, List.flatMap_nil, List.append_nil,
    readPacket_element hkeyed hsmall, List.filterMap_map, List.filterMap_eq_nil_iff]
  intro as _
  exact if_neg hother

/-! ## The packets of a frame -/

/-- A bundle behind the first messages of the profile. -/
theorem receiveAll_messages (v : TuioView) (cs : List α) :
    v.receiveAll (b.messages id cs) =
      ⟨b.ids.map UInt32.ofInt,
        Replica.round (key id) b.value (b.ids.map UInt32.ofInt) v.contacts cs,
        some (UInt32.ofInt b.fseq)⟩ := by
  have hsets : ∀ v : TuioView,
      v.receiveAll (cs.map fun c => .set (key id c) (b.value c)) =
        { v with contacts := Replica.assign (key id) b.value v.contacts cs } := by
    induction cs with
    | nil => exact fun v => rfl
    | cons c cs ih => exact fun v => ih _
  rw [messages, TuioView.receiveAll_append, ← List.singleton_append, TuioView.receiveAll_append,
    hsets]
  rfl

/-- What packets say of the profile. -/
theorem said_elements (hkeyed : b.Keyed id) {css : List (List α)}
    (hsmall : ∀ cs ∈ css, (b.element cs).encode.length ≤ oscBundleElementSizeMax) :
    said b.address (css.map fun cs => (b.element cs).encode) = css.flatMap (b.messages id) := by
  induction css with
  | nil => rfl
  | cons cs css ih =>
      rw [List.map_cons, ← List.singleton_append, said_append,
        said_element hkeyed (hsmall cs List.mem_cons_self),
        ih fun cs' hcs' => hsmall cs' (List.mem_cons_of_mem cs hcs'), List.flatMap_cons]

theorem said_elements_other (hkeyed : b.Keyed id) {css : List (List α)}
    (hsmall : ∀ cs ∈ css, (b.element cs).encode.length ≤ oscBundleElementSizeMax)
    {address : CString} (hother : b.address ≠ address) :
    said address (css.map fun cs => (b.element cs).encode) = [] := by
  induction css with
  | nil => rfl
  | cons cs css ih =>
      rw [List.map_cons, ← List.singleton_append, said_append,
        said_element_other hkeyed (hsmall cs List.mem_cons_self) hother,
        ih fun cs' hcs' => hsmall cs' (List.mem_cons_of_mem cs hcs')]
      rfl

theorem receiveAll_flatMap (v : TuioView) {css : List (List α)} (hne : css ≠ []) :
    v.receiveAll (css.flatMap (b.messages id)) =
      ⟨b.ids.map UInt32.ofInt,
        css.foldl (Replica.round (key id) b.value (b.ids.map UInt32.ofInt)) v.contacts,
        some (UInt32.ofInt b.fseq)⟩ := by
  induction css generalizing v with
  | nil => exact absurd rfl hne
  | cons cs css ih =>
      rw [List.flatMap_cons, TuioView.receiveAll_append, receiveAll_messages]
      cases css with
      | nil => rfl
      | cons ds css => exact ih _ (List.cons_ne_nil _ _)

/-- The capacity of a packet is an `int32`. -/
theorem length_encode_le {e : OscElement} {capacity : ℕ} (hsmall : capacity ≤ oscMaxCapacity)
    (h : e.encode.length ≤ capacity) : e.encode.length ≤ oscBundleElementSizeMax := by
  have hdvd := e.four_dvd_length_encode
  rw [oscMaxCapacity] at hsmall
  rw [oscBundleElementSizeMax]
  omega

variable {capacity : ℕ} {chosen : α → Bool} {contacts : List α}

/-- A listener behind the packets of a profile knows of the contacts that were chosen what the
server does, and has forgotten those that are not alive. -/
theorem receiveAll_packets (hsmall : capacity ≤ oscMaxCapacity) (hsized : b.Sized)
    (hkeyed : b.Keyed id)
    (hfits : b.Fits capacity chosen contacts)
    (hids : ∀ c ∈ contacts, key id c ∈ b.ids.map UInt32.ofInt) (v : TuioView) :
    v.receiveAll (said b.address (b.packets capacity chosen contacts)) =
      ⟨b.ids.map UInt32.ofInt,
        Replica.round (key id) b.value (b.ids.map UInt32.ofInt) v.contacts
          (contacts.filter chosen),
        some (UInt32.ofInt b.fseq)⟩ := by
  have hlength : ∀ cs ∈ Packing.pack (b.full capacity) chosen [] contacts,
      (b.element cs).encode.length ≤ oscBundleElementSizeMax := by
    intro cs hcs
    exact length_encode_le hsmall (hfits.length_le hsized cs hcs)
  have hflatten : (Packing.pack (b.full capacity) chosen [] contacts).flatten =
      [] ++ contacts.filter chosen := Packing.flatten_pack [] contacts
  have halive : ∀ cs ∈ Packing.pack (b.full capacity) chosen [] contacts,
      ∀ c ∈ cs, key id c ∈ b.ids.map UInt32.ofInt := by
    intro cs hcs c hc
    apply hids
    have hmem : c ∈ (Packing.pack (b.full capacity) chosen [] contacts).flatten :=
      List.mem_flatten.mpr ⟨cs, hcs, hc⟩
    rw [hflatten] at hmem
    exact List.mem_of_mem_filter hmem
  rw [packets, said_elements hkeyed hlength,
    receiveAll_flatMap v (Packing.pack_ne_nil _ _),
    Replica.rounds_eq (Packing.pack_ne_nil _ _) halive, hflatten, List.nil_append]

end TuioBundle

end Sur40
