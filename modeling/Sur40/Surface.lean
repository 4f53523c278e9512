import Sur40.Wire
import Mathlib.Algebra.Order.Ring.Int
import Mathlib.Tactic.SplitIfs

/-!
# The userspace decoder

`surface_get_blobs` of the userspace library: it reads touch packets until the
announced number of blobs has been copied out. The library keeps the largest blob
id it has seen in a global, so that it can tell the two uses of action 2 apart.

## Main definitions

* `BulkTransfer`: the outcome of one `libusb_bulk_transfer`.
* `GetBlobs`: the local variables of the function, its output array, and the
  global.
* `surfaceGetBlobsTurn`: one turn of its loop.
* `surfaceGetBlobs`: one call.
* `surfaceCalls`: call after call on one packet sequence.
-/

namespace Sur40

open Devlib

/-- `libusb_bulk_transfer`: its return code, what it stores in `*transferred`
(nothing if the submission itself fails), and the bytes it writes to the buffer. -/
structure BulkTransfer where
  ret : ℤ
  transferred : Option ℕ
  data : List UInt8

/-- Overwrite the bytes of a buffer from an offset on. -/
def storeBytes (offset : ℕ) (bytes buffer : List UInt8) : List UInt8 :=
  buffer.take offset ++ bytes ++ buffer.drop (offset + bytes.length)

/-- The variables of `surface_get_blobs`. The output array is unbounded, `current`
is the number of entries written so far. -/
structure GetBlobs where
  buffer : List UInt8
  result : ℤ
  needBlobs : ℤ
  outblob : List SurfaceBlob
  /-- The library's global. -/
  maxBlobId : UInt16

def GetBlobs.current (g : GetBlobs) : ℕ := g.outblob.length

/-- `header->count`. -/
def surfaceCount (buffer : List UInt8) : UInt16 := (SurfaceHeader.layout.decode buffer).count

/-- `inblob[i]`. -/
def surfaceInblob (buffer : List UInt8) (i : ℕ) : SurfaceBlob :=
  SurfaceBlob.layout.block (buffer.drop SurfaceHeader.layout.size) i

/-- Does action 2 stand for a new contact? -/
def surfaceEnters (inblob : SurfaceBlob) (maxBlobId : UInt16) : Bool :=
  inblob.action = 2 &&
    (inblob.blobId > maxBlobId || (inblob.blobId.toNat : ℤ) - maxBlobId.toNat < 0)

/-- One turn of the copy loop. -/
def surfaceCopyBlob (g : GetBlobs) (i : ℕ) : GetBlobs :=
  let inblob := surfaceInblob g.buffer i
  if surfaceEnters inblob g.maxBlobId then
    let inblob := { inblob with action := 1 }
    { g with
      buffer := storeBytes (SurfaceHeader.layout.size + SurfaceBlob.layout.size * i)
        (SurfaceBlob.layout.encode inblob) g.buffer
      maxBlobId := inblob.blobId
      outblob := g.outblob ++ [inblob] }
  else { g with outblob := g.outblob ++ [inblob] }

/-- An `int` variable after an assignment. -/
def toInt32 (x : ℤ) : ℤ := x.bmod (2 ^ 32)

/-- One turn of the read loop. The second component is the value returned, `none`
if the loop goes on. -/
def surfaceGetBlobsTurn (t : BulkTransfer) (g : GetBlobs) : GetBlobs × Option ℤ :=
  let g := { g with
    buffer := storeBytes 0 t.data g.buffer
    result := match t.transferred with
      | some n => n
      | none => g.result }
  let g := { g with result := toInt32 (g.result - SurfaceHeader.layout.size) }
  if g.result < 0 then (g, some g.result)
  else if g.result % SurfaceBlob.layout.size ≠ 0 then (g, some (-1))
  else
    -- first packet
    let g := { g with
      needBlobs := if g.needBlobs = -1 then (surfaceCount g.buffer).toNat else g.needBlobs }
    let packetBlobs := (g.result / (SurfaceBlob.layout.size : ℤ)).toNat
    let g := (List.range packetBlobs).foldl surfaceCopyBlob g
    if g.current < g.needBlobs then (g, none) else (g, some g.needBlobs)

/-- A call that has returned. -/
structure GetBlobsResult where
  value : ℤ
  outblob : List SurfaceBlob
  maxBlobId : UInt16
  /-- The transfers that are left for the next call. -/
  rest : List BulkTransfer

/-- The loop on a sequence of transfers; `none` if it still waits when they are
used up. -/
def surfaceGetBlobsLoop : List BulkTransfer → GetBlobs → Option GetBlobsResult
  | [], _ => none
  | t :: ts, g =>
      match surfaceGetBlobsTurn t g with
      | (g, some value) =>
          some { value, outblob := g.outblob, maxBlobId := g.maxBlobId, rest := ts }
      | (g, none) => surfaceGetBlobsLoop ts g

/-- What the uninitialised locals of a call happen to hold. -/
structure GetBlobsLocals where
  buffer : List UInt8
  result : ℤ

/-- The variables at the start of a call. -/
def GetBlobsLocals.enter (l : GetBlobsLocals) (maxBlobId : UInt16) : GetBlobs :=
  { buffer := l.buffer, result := l.result, needBlobs := -1, outblob := [], maxBlobId }

/-- One call. -/
def surfaceGetBlobs (l : GetBlobsLocals) (ts : List BulkTransfer) (maxBlobId : UInt16) :
    Option GetBlobsResult :=
  surfaceGetBlobsLoop ts (l.enter maxBlobId)

/-- Every call reads at least one packet. -/
theorem rest_length_lt {ts : List BulkTransfer} {g : GetBlobs} {r : GetBlobsResult}
    (h : surfaceGetBlobsLoop ts g = some r) : r.rest.length < ts.length := by
  induction ts generalizing g with
  | nil => cases h
  | cons t ts ih =>
      rw [surfaceGetBlobsLoop] at h
      rcases hturn : surfaceGetBlobsTurn t g with ⟨g', _ | value⟩
      · rw [hturn] at h
        exact Nat.lt_succ_of_lt (ih h)
      · rw [hturn] at h
        cases h
        exact Nat.lt_succ_self _

/-- Call after call until the transfers are used up; call `k` finds `locals k` in
its uninitialised variables. -/
def surfaceCalls (locals : ℕ → GetBlobsLocals) (ts : List BulkTransfer) (maxBlobId : UInt16) :
    List GetBlobsResult :=
  match h : surfaceGetBlobs (locals 0) ts maxBlobId with
  | none => []
  | some r => r :: surfaceCalls (fun k => locals (k + 1)) r.rest r.maxBlobId
termination_by ts.length
decreasing_by exact rest_length_lt h

theorem surfaceCalls_of_none {locals : ℕ → GetBlobsLocals} {ts : List BulkTransfer}
    {maxBlobId : UInt16} (h : surfaceGetBlobs (locals 0) ts maxBlobId = none) :
    surfaceCalls locals ts maxBlobId = [] := by
  rw [surfaceCalls]
  split
  · rfl
  · next heq => rw [h] at heq; cases heq

theorem surfaceCalls_of_some {locals : ℕ → GetBlobsLocals} {ts : List BulkTransfer}
    {maxBlobId : UInt16} {r : GetBlobsResult}
    (h : surfaceGetBlobs (locals 0) ts maxBlobId = some r) :
    surfaceCalls locals ts maxBlobId =
      r :: surfaceCalls (fun k => locals (k + 1)) r.rest r.maxBlobId := by
  rw [surfaceCalls]
  split
  · next heq => rw [h] at heq; cases heq
  · next heq => rw [h] at heq; cases heq; rfl

end Sur40
