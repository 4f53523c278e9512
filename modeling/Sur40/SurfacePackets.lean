import Sur40.Decoders
import Sur40.SurfaceTransfers

/-!
# A touch packet in the userspace library

What `surface_get_blobs` makes of a packet as the device builds it: the copy loop
appends the blobs of the packet, and relabels an action 2 that it takes for a new
contact. The library remembers one blob id for that, over all packets and calls.

## Main definitions

* `TouchPacket.transfer`: the packet, received.
* `enterBlobs`: the copy loop on a list of blobs.
* `surfaceGetBlobsTurn_packet`: one turn of the read loop.
-/

namespace Sur40

open Devlib

/-- The contact, in the library's declaration. -/
def Sur40Blob.surface (b : Sur40Blob) : SurfaceBlob :=
  { blobId := b.blobId, action := b.action, type := b.type, bbPosX := b.bbPosX,
    bbPosY := b.bbPosY, bbSizeX := b.bbSizeX, bbSizeY := b.bbSizeY, posX := b.posX,
    posY := b.posY, ctrX := b.ctrX, ctrY := b.ctrY, axisX := b.axisX, axisY := b.axisY,
    angle := b.angle, area := b.area, padding := b.padding, tagId := b.tagId,
    unknown := b.unknown }

@[simp] theorem Sur40Blob.surface_blobId (b : Sur40Blob) : b.surface.blobId = b.blobId := rfl
@[simp] theorem Sur40Blob.surface_action (b : Sur40Blob) : b.surface.action = b.action := rfl

/-- The packet's transfer, received without an error. -/
def TouchPacket.transfer (p : TouchPacket) : BulkTransfer := .received p.bytes

/-- A packet has at most 512 bytes. -/
def TouchPacket.Fits (p : TouchPacket) : Prop := p.bytes.length ≤ 512

theorem TouchPacket.fits_iff (p : TouchPacket) : p.Fits ↔ p.blobs.length ≤ 7 := by
  simp [Fits]
  omega

/-! ## The copy loop -/

/-- The comparison promotes to `int`, so that every other id is greater or smaller. -/
theorem surfaceEnters_iff (b : SurfaceBlob) (maxBlobId : UInt16) :
    surfaceEnters b maxBlobId = true ↔ b.action = 2 ∧ b.blobId ≠ maxBlobId := by
  have hne : b.blobId ≠ maxBlobId ↔ b.blobId.toNat ≠ maxBlobId.toNat :=
    not_congr UInt16.toNat_inj.symm
  simp [surfaceEnters, hne, GT.gt, UInt16.lt_iff_toNat_lt]
  omega

/-- A blob on its way to the output array. -/
def enterBlob (maxBlobId : UInt16) (b : SurfaceBlob) : SurfaceBlob :=
  if surfaceEnters b maxBlobId then { b with action := 1 } else b

/-- The global behind it. -/
def nextMaxBlobId (maxBlobId : UInt16) (b : SurfaceBlob) : UInt16 :=
  if surfaceEnters b maxBlobId then b.blobId else maxBlobId

/-- Blobs on their way to the output array, and the global behind them. -/
def enterBlobs : UInt16 → List SurfaceBlob → List SurfaceBlob × UInt16
  | maxBlobId, [] => ([], maxBlobId)
  | maxBlobId, b :: bs =>
      (enterBlob maxBlobId b :: (enterBlobs (nextMaxBlobId maxBlobId b) bs).1,
        (enterBlobs (nextMaxBlobId maxBlobId b) bs).2)

theorem enterBlobs_append (maxBlobId : UInt16) (bs cs : List SurfaceBlob) :
    enterBlobs maxBlobId (bs ++ cs) =
      ((enterBlobs maxBlobId bs).1 ++ (enterBlobs (enterBlobs maxBlobId bs).2 cs).1,
        (enterBlobs (enterBlobs maxBlobId bs).2 cs).2) := by
  induction bs generalizing maxBlobId with
  | nil => simp [enterBlobs]
  | cons b bs ih => simp [enterBlobs, ih]

@[simp] theorem length_enterBlobs (maxBlobId : UInt16) (bs : List SurfaceBlob) :
    (enterBlobs maxBlobId bs).1.length = bs.length := by
  induction bs generalizing maxBlobId with
  | nil => simp [enterBlobs]
  | cons b bs ih => simp [enterBlobs, ih]

/-- The copy loop, blob after blob; what it rewrites in the buffer lies behind it. -/
theorem foldl_surfaceCopyBlob_eq (k : ℕ) (g : GetBlobs) (hk : 16 + 64 * k ≤ g.buffer.length) :
    let g' := (List.range k).foldl surfaceCopyBlob g
    let blobs := enterBlobs g.maxBlobId ((List.range k).map (surfaceInblob g.buffer))
    g'.outblob = g.outblob ++ blobs.1 ∧ g'.maxBlobId = blobs.2 := by
  induction k with
  | zero => simp [enterBlobs]
  | succ k ih =>
      obtain ⟨hout, hmax⟩ := ih (by omega)
      obtain ⟨-, -, -, -, -, hdrop⟩ := foldl_surfaceCopyBlob k g (by omega)
      simp only [List.range_succ, List.foldl_append, List.foldl_cons, List.foldl_nil,
        List.map_append, List.map_cons, List.map_nil, enterBlobs_append]
      generalize (List.range k).foldl surfaceCopyBlob g = g' at hout hmax hdrop ⊢
      have hread : surfaceInblob g'.buffer k = surfaceInblob g.buffer k := by
        simp only [surfaceInblob, Codec.block, List.drop_drop]
        exact congrArg SurfaceBlob.layout.decode hdrop
      simp only [surfaceCopyBlob, hread, enterBlobs, enterBlob, nextMaxBlobId, ← hmax]
      split
      · simp [hout]
      · simp [hout]

/-- Blob `i` of a received packet. -/
theorem TouchPacket.surfaceInblob_bytes (p : TouchPacket) (rest : List UInt8) :
    (List.range p.blobs.length).map (surfaceInblob (p.bytes ++ rest)) =
      p.blobs.map Sur40Blob.surface := by
  apply List.ext_getElem
  · simp
  · intro i _ hi
    have hi' : i < p.blobs.length := by simpa using hi
    have hdrop : (p.bytes ++ rest).drop 16 = p.blobs.flatMap Sur40Blob.layout.encode ++ rest := by
      have hsize := Codec.length_encode Sur40Header.layout p.header
      rw [Sur40Header.layout_size] at hsize
      rw [TouchPacket.bytes, List.append_assoc, ← hsize, List.drop_left]
    have hblock := Codec.decode_block Sur40Blob.layout p.blobs rest i hi'
    simp only [List.getElem_map, List.getElem_range, surfaceInblob, SurfaceHeader.layout_size,
      hdrop, ← hblock]
    rfl

theorem TouchPacket.surfaceCount_bytes (p : TouchPacket) (rest : List UInt8) :
    surfaceCount (p.bytes ++ rest) = p.header.count := by
  rw [surfaceCount, SurfaceHeader.decode_count, TouchPacket.bytes, List.append_assoc,
    Codec.decode_encode_append]

/-! ## The read loop -/

/-- What the function waits for once it has a packet: the count of the first one. -/
def announcedBlobs (p : TouchPacket) (needBlobs : ℤ) : ℤ :=
  if needBlobs = -1 then p.header.count.toNat else needBlobs

/-- A packet of the device: its blobs are copied, and the call returns if the announced
number has been reached. -/
theorem surfaceGetBlobsTurn_packet {p : TouchPacket} (hp : p.Fits) (g : GetBlobs) :
    ∃ g', surfaceGetBlobsTurn p.transfer g =
        (g', if (g'.outblob.length : ℤ) < announcedBlobs p g.needBlobs then none
          else some (announcedBlobs p g.needBlobs)) ∧
      g'.needBlobs = announcedBlobs p g.needBlobs ∧
      g'.outblob = g.outblob ++ (enterBlobs g.maxBlobId (p.blobs.map Sur40Blob.surface)).1 ∧
      g'.maxBlobId = (enterBlobs g.maxBlobId (p.blobs.map Sur40Blob.surface)).2 := by
  have hblobs := p.fits_iff.mp hp
  have hlength := p.length_bytes
  have hres : toInt32 ((p.bytes.length : ℤ) - SurfaceHeader.layout.size) =
      64 * (p.blobs.length : ℤ) := by
    rw [toInt32_of_small]
    all_goals simp [hlength] <;> omega
  have hcount : (64 * (p.blobs.length : ℤ) / ((64 : ℕ) : ℤ)).toNat = p.blobs.length := by omega
  simp only [surfaceGetBlobsTurn, TouchPacket.transfer, BulkTransfer.received, storeBytes_zero,
    hres, SurfaceBlob.layout_size, hcount, p.surfaceCount_bytes]
  rw [if_neg (by omega), if_neg (by omega)]
  let g₁ : GetBlobs := { g with
    buffer := p.bytes ++ g.buffer.drop p.bytes.length
    result := 64 * (p.blobs.length : ℤ)
    needBlobs := announcedBlobs p g.needBlobs }
  have hfit : 16 + 64 * p.blobs.length ≤ g₁.buffer.length := by simp [g₁]
  obtain ⟨hout, hmax⟩ := foldl_surfaceCopyBlob_eq p.blobs.length g₁ hfit
  obtain ⟨-, -, -, hkept, -, -⟩ := foldl_surfaceCopyBlob p.blobs.length g₁ hfit
  have hneed : ((List.range p.blobs.length).foldl surfaceCopyBlob g₁).needBlobs =
      announcedBlobs p g.needBlobs := hkept
  rw [p.surfaceInblob_bytes] at hout hmax
  refine ⟨(List.range p.blobs.length).foldl surfaceCopyBlob g₁, ?_, hneed, hout, hmax⟩
  rw [← hneed]
  exact (apply_ite (Prod.mk _) _ _ _).symm

end Sur40
