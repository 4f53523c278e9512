import Sur40.Lib.Codec
import Mathlib.Algebra.Order.Group.Nat
import Mathlib.Tactic.Ring
import Mathlib.Tactic.SplitIfs

/-!
# WebSocket frames

The base framing of the WebSocket protocol: a byte with the end mark and the opcode, the
length in 7, 16 or 64 bits, a masking key if the frame is masked, and the payload. A decoder
accepts no reserved bits and opcodes, the shortest encoding of a length only, and control
frames only if they are short and whole.

## Main definitions

* `bigEndian`, `ofBigEndian`: numbers, most significant byte first.
* `Opcode`, `WebSocketFrame`, `WebSocketFrame.encode`: a frame and its bytes.
* `decodeFrame`, `decodeFrames`: the first frame of a stream, and all of them.
* `decodeFrames_encode`: what a sequence of frames decodes to.
-/

namespace Devlib

/-! ## Numbers -/

/-- The last `k` digits of a number to the base 256, most significant first. -/
def bigEndian : ℕ → ℕ → List UInt8
  | 0, _ => []
  | k + 1, n => UInt8.ofNat (n / 256 ^ k) :: bigEndian k n

def ofBigEndian (bs : List UInt8) : ℕ := bs.foldl (fun n b => 256 * n + b.toNat) 0

@[simp] theorem length_bigEndian (k n : ℕ) : (bigEndian k n).length = k := by
  induction k with
  | zero => rfl
  | succ k ih => rw [bigEndian, List.length_cons, ih]

theorem foldl_bigEndian (k n acc : ℕ) :
    (bigEndian k n).foldl (fun n b => 256 * n + b.toNat) acc = acc * 256 ^ k + n % 256 ^ k := by
  induction k generalizing acc with
  | zero => simp [bigEndian, Nat.mod_one]
  | succ k ih =>
      have hdigit : n % 256 ^ (k + 1) = n % 256 ^ k + 256 ^ k * (n / 256 ^ k % 256) :=
        Nat.mod_pow_succ
      have hbyte : (UInt8.ofNat (n / 256 ^ k)).toNat = n / 256 ^ k % 256 := UInt8.toNat_ofNat'
      rw [bigEndian, List.foldl_cons, ih, hbyte, hdigit]
      ring

theorem ofBigEndian_bigEndian {k n : ℕ} (h : n < 256 ^ k) : ofBigEndian (bigEndian k n) = n := by
  rw [ofBigEndian, foldl_bigEndian, Nat.zero_mul, Nat.zero_add, Nat.mod_eq_of_lt h]

/-! ## Frames -/

/-- What a frame is for; the other opcodes are reserved. -/
inductive Opcode
  | continuation
  | text
  | binary
  | close
  | ping
  | pong
  deriving DecidableEq

namespace Opcode

def toNat : Opcode → ℕ
  | continuation => 0
  | text => 1
  | binary => 2
  | close => 8
  | ping => 9
  | pong => 10

def ofNat? : ℕ → Option Opcode
  | 0 => some continuation
  | 1 => some text
  | 2 => some binary
  | 8 => some close
  | 9 => some ping
  | 10 => some pong
  | _ => none

theorem toNat_lt (opcode : Opcode) : opcode.toNat < 16 := by
  cases opcode <;> decide

@[simp] theorem ofNat?_toNat (opcode : Opcode) : ofNat? opcode.toNat = some opcode := by
  cases opcode <;> rfl

end Opcode

/-- A frame of a connection without extensions, whose three reserved bits are zero. -/
structure WebSocketFrame where
  fin : Bool
  opcode : Opcode
  maskKey : Option (Vector UInt8 4)
  payload : List UInt8
  deriving DecidableEq

/-- The payload as it is sent. -/
def applyMask : Option (Vector UInt8 4) → List UInt8 → List UInt8
  | none, bs => bs
  | some key, bs => bs.mapIdx fun i b => b ^^^ key.toList.getD (i % 4) 0

@[simp] theorem length_applyMask (key : Option (Vector UInt8 4)) (bs : List UInt8) :
    (applyMask key bs).length = bs.length := by
  cases key with
  | none => rfl
  | some key => simp [applyMask]

/-- Masking twice with one key changes nothing. -/
@[simp] theorem applyMask_applyMask (key : Option (Vector UInt8 4)) (bs : List UInt8) :
    applyMask key (applyMask key bs) = bs := by
  cases key with
  | none => rfl
  | some key =>
      apply List.ext_getElem (by simp)
      intro i h₁ h₂
      simp only [applyMask, List.getElem_mapIdx]
      rw [UInt8.xor_assoc, UInt8.xor_self, UInt8.xor_zero]

namespace WebSocketFrame

/-- The length fits into its field, and a control frame is short and whole. -/
def WellFormed (f : WebSocketFrame) : Prop :=
  f.payload.length < 2 ^ 63 ∧ (8 ≤ f.opcode.toNat → f.fin = true ∧ f.payload.length ≤ 125)

instance (f : WebSocketFrame) : Decidable f.WellFormed := inferInstanceAs (Decidable (_ ∧ _))

/-- The 7-bit field of a length, and the bytes behind it. -/
def lengthField (n : ℕ) : ℕ × List UInt8 :=
  if n < 126 then (n, [])
  else if n < 65536 then (126, bigEndian 2 n)
  else (127, bigEndian 8 n)

def encode (f : WebSocketFrame) : List UInt8 :=
  UInt8.ofNat (f.fin.toNat * 128 + f.opcode.toNat) ::
    UInt8.ofNat (f.maskKey.isSome.toNat * 128 + (lengthField f.payload.length).1) ::
    ((lengthField f.payload.length).2 ++ (f.maskKey.elim [] Vector.toList ++
      applyMask f.maskKey f.payload))

theorem lengthField_lt (n : ℕ) : (lengthField n).1 < 128 := by
  rw [lengthField]
  split_ifs <;> omega

end WebSocketFrame

/-! ## Decoding -/

/-- The first `k` bytes and the rest. -/
def splitBytes (k : ℕ) (bs : List UInt8) : Option (List UInt8 × List UInt8) :=
  if k ≤ bs.length then some (bs.take k, bs.drop k) else none

theorem splitBytes_append {k : ℕ} {bs : List UInt8} (h : bs.length = k) (rest : List UInt8) :
    splitBytes k (bs ++ rest) = some (bs, rest) := by
  subst h
  simp [splitBytes]

/-- The length behind its 7-bit field; only the shortest encoding is accepted. -/
def readLength (field : ℕ) (bs : List UInt8) : Option (ℕ × List UInt8) :=
  if field < 126 then some (field, bs)
  else if field = 126 then
    (splitBytes 2 bs).bind fun p =>
      if ofBigEndian p.1 < 126 then none else some (ofBigEndian p.1, p.2)
  else
    (splitBytes 8 bs).bind fun p =>
      if ofBigEndian p.1 < 65536 ∨ 2 ^ 63 ≤ ofBigEndian p.1 then none
      else some (ofBigEndian p.1, p.2)

theorem readLength_lengthField {n : ℕ} (h : n < 2 ^ 63) (rest : List UInt8) :
    readLength (WebSocketFrame.lengthField n).1 ((WebSocketFrame.lengthField n).2 ++ rest) =
      some (n, rest) := by
  rw [WebSocketFrame.lengthField]
  split_ifs with hshort hmedium
  · rw [readLength, if_pos hshort, List.nil_append]
  · have hvalue : ofBigEndian (bigEndian 2 n) = n := ofBigEndian_bigEndian (by omega)
    rw [readLength, if_neg (show ¬126 < 126 by decide), if_pos rfl,
      splitBytes_append (length_bigEndian 2 n), Option.bind_some]
    dsimp only
    rw [hvalue, if_neg hshort]
  · have hvalue : ofBigEndian (bigEndian 8 n) = n := ofBigEndian_bigEndian (by omega)
    rw [readLength, if_neg (show ¬127 < 126 by decide), if_neg (show 127 ≠ 126 by decide),
      splitBytes_append (length_bigEndian 8 n), Option.bind_some]
    dsimp only
    rw [hvalue, if_neg (by omega)]

/-- The masking key, if there is one. -/
def readMaskKey (masked : Bool) (bs : List UInt8) :
    Option (Option (Vector UInt8 4) × List UInt8) :=
  if masked then (splitBytes 4 bs).map fun p => (some ((raw 4).decode p.1), p.2)
  else some (none, bs)

theorem readMaskKey_toList (key : Option (Vector UInt8 4)) (rest : List UInt8) :
    readMaskKey key.isSome (key.elim [] Vector.toList ++ rest) = some (key, rest) := by
  cases key with
  | none => rfl
  | some key =>
      have hkey : (raw 4).decode key.toList = key := (raw 4).decode_encode key
      simp only [readMaskKey, Option.isSome_some, if_true, Option.elim_some]
      rw [splitBytes_append (by simp), Option.map_some, hkey]

/-- The first frame of a stream, and what follows it. -/
def decodeFrame : List UInt8 → Option (WebSocketFrame × List UInt8)
  | b₀ :: b₁ :: bs =>
      if b₀.toNat / 16 % 8 ≠ 0 then none
      else (Opcode.ofNat? (b₀.toNat % 16)).bind fun opcode =>
        (readLength (b₁.toNat % 128) bs).bind fun len =>
          (readMaskKey (128 ≤ b₁.toNat) len.2).bind fun key =>
            (splitBytes len.1 key.2).bind fun payload =>
              let f : WebSocketFrame :=
                { fin := 128 ≤ b₀.toNat
                  opcode := opcode
                  maskKey := key.1
                  payload := applyMask key.1 payload.1 }
              if f.WellFormed then some (f, payload.2) else none
  | _ => none

/-- A frame is decoded to itself, whatever follows it. -/
theorem decodeFrame_encode {f : WebSocketFrame} (h : f.WellFormed) (rest : List UInt8) :
    decodeFrame (f.encode ++ rest) = some (f, rest) := by
  obtain ⟨fin, opcode, maskKey, payload⟩ := f
  have hlength := WebSocketFrame.lengthField_lt payload.length
  have hopcode := opcode.toNat_lt
  have hfin : fin.toNat < 2 := Bool.toNat_lt fin
  have hmask : maskKey.isSome.toNat < 2 := Bool.toNat_lt _
  have hfirst : (UInt8.ofNat (fin.toNat * 128 + opcode.toNat)).toNat =
      fin.toNat * 128 + opcode.toNat := by
    rw [UInt8.toNat_ofNat', Nat.mod_eq_of_lt (by omega)]
  have hsecond : (UInt8.ofNat (maskKey.isSome.toNat * 128 +
      (WebSocketFrame.lengthField payload.length).1)).toNat =
      maskKey.isSome.toNat * 128 + (WebSocketFrame.lengthField payload.length).1 := by
    rw [UInt8.toNat_ofNat', Nat.mod_eq_of_lt (by omega)]
  have hfield : (maskKey.isSome.toNat * 128 +
      (WebSocketFrame.lengthField payload.length).1) % 128 =
      (WebSocketFrame.lengthField payload.length).1 := by
    omega
  have hmasked : decide (128 ≤ maskKey.isSome.toNat * 128 +
      (WebSocketFrame.lengthField payload.length).1) = maskKey.isSome := by
    cases maskKey.isSome with
    | false => exact decide_eq_false (by rw [Bool.toNat_false]; omega)
    | true => exact decide_eq_true (by rw [Bool.toNat_true]; omega)
  have hfin' : decide (128 ≤ fin.toNat * 128 + opcode.toNat) = fin := by
    cases fin with
    | false => exact decide_eq_false (by rw [Bool.toNat_false]; omega)
    | true => exact decide_eq_true (by rw [Bool.toNat_true]; omega)
  have hrsv : (fin.toNat * 128 + opcode.toNat) / 16 % 8 = 0 := by omega
  have hopcode' : (fin.toNat * 128 + opcode.toNat) % 16 = opcode.toNat := by omega
  simp only [WebSocketFrame.encode, List.cons_append, List.append_assoc, decodeFrame, hfirst,
    hsecond, hfield, hmasked, hfin', hrsv, hopcode']
  rw [if_neg (not_not.mpr rfl), Opcode.ofNat?_toNat, Option.bind_some, readLength_lengthField h.1,
    Option.bind_some]
  dsimp only
  rw [readMaskKey_toList, Option.bind_some]
  dsimp only
  rw [splitBytes_append (length_applyMask _ _), Option.bind_some]
  dsimp only
  rw [applyMask_applyMask, if_pos h]

/-- All frames of a stream, each of which takes at least a byte. -/
def decodeFramesIn : ℕ → List UInt8 → Option (List WebSocketFrame)
  | _, [] => some []
  | 0, _ :: _ => none
  | fuel + 1, b :: bs =>
      (decodeFrame (b :: bs)).bind fun p =>
        (decodeFramesIn fuel p.2).map fun fs => p.1 :: fs

def decodeFrames (bs : List UInt8) : Option (List WebSocketFrame) := decodeFramesIn bs.length bs

theorem decodeFramesIn_encode {fs : List WebSocketFrame} (h : ∀ f ∈ fs, f.WellFormed) {fuel : ℕ}
    (hfuel : fs.length ≤ fuel) :
    decodeFramesIn fuel (fs.flatMap WebSocketFrame.encode) = some fs := by
  induction fs generalizing fuel with
  | nil => cases fuel <;> rfl
  | cons f fs ih =>
      cases fuel with
      | zero => cases hfuel
      | succ fuel =>
          have hrest := ih (fun f hf => h f (List.mem_cons_of_mem _ hf))
            (Nat.le_of_succ_le_succ hfuel)
          have hfirst := decodeFrame_encode (h f List.mem_cons_self)
            (fs.flatMap WebSocketFrame.encode)
          rw [List.flatMap_cons]
          generalize hbytes : f.encode ++ fs.flatMap WebSocketFrame.encode = bytes at hfirst ⊢
          cases bytes with
          | nil => cases hbytes
          | cons b bs =>
              rw [decodeFramesIn, hfirst, Option.bind_some]
              dsimp only
              rw [hrest, Option.map_some]

/-- **A stream of frames decodes to these frames**, one after the other. -/
theorem decodeFrames_encode {fs : List WebSocketFrame} (h : ∀ f ∈ fs, f.WellFormed) :
    decodeFrames (fs.flatMap WebSocketFrame.encode) = some fs := by
  have hlength : fs.length ≤ (fs.flatMap WebSocketFrame.encode).length := by
    induction fs with
    | nil => exact Nat.le_refl 0
    | cons f fs ih =>
        have hrest := ih fun f hf => h f (List.mem_cons_of_mem _ hf)
        rw [List.flatMap_cons, List.length_append, List.length_cons, WebSocketFrame.encode,
          List.length_cons]
        omega
  exact decodeFramesIn_encode h hlength

end Devlib
