import Sur40.Lib.Codec

/-!
# What the SUR40 sends

The packed records of the touch endpoint (0x86) and of the video endpoint
(0x82), as the kernel driver declares them and as the userspace library declares
them. Each layout lists the fields in declaration order.

## Main definitions

* `Sur40Header`, `Sur40Blob`, `Sur40ImageHeader`: the kernel driver's records.
* `SurfaceHeader`, `SurfaceBlob`: the userspace library's records.
-/

namespace Sur40

open Devlib

/-! ## Records of the kernel driver -/

/-- `struct sur40_header`: the start of every touch packet. -/
structure Sur40Header where
  type : UInt16
  /-- Count of blobs; 0 continues the previous packet. -/
  count : UInt16
  packetId : UInt32
  timestamp : UInt32
  unknown : UInt32
  deriving DecidableEq

def Sur40Header.layout : Codec Sur40Header :=
  (le16.seq (le16.seq (le32.seq (le32.seq le32)))).iso
    (fun (type, count, packetId, timestamp, unknown) =>
      { type, count, packetId, timestamp, unknown })
    (fun h => (h.type, h.count, h.packetId, h.timestamp, h.unknown))
    (fun _ => rfl)

/-- `struct sur40_blob`: one contact. -/
structure Sur40Blob where
  blobId : UInt16
  /-- 0x02 = enter/exit, 0x03 = update (?) -/
  action : UInt8
  /-- Bitmask: 0x01 blob, 0x02 touch, 0x04 tag. -/
  type : UInt8
  bbPosX : UInt16
  bbPosY : UInt16
  bbSizeX : UInt16
  bbSizeY : UInt16
  posX : UInt16
  posY : UInt16
  ctrX : UInt16
  ctrY : UInt16
  axisX : UInt16
  axisY : UInt16
  /-- The bits of a float. -/
  angle : UInt32
  area : UInt32
  padding : Vector UInt8 24
  tagId : UInt32
  unknown : UInt32
  deriving DecidableEq

def Sur40Blob.layout : Codec Sur40Blob :=
  (le16.seq (u8.seq (u8.seq (le16.seq (le16.seq (le16.seq (le16.seq (le16.seq (le16.seq
    (le16.seq (le16.seq (le16.seq (le16.seq (le32.seq (le32.seq ((raw 24).seq
    (le32.seq le32))))))))))))))))).iso
    (fun (blobId, action, type, bbPosX, bbPosY, bbSizeX, bbSizeY, posX, posY, ctrX, ctrY,
        axisX, axisY, angle, area, padding, tagId, unknown) =>
      { blobId, action, type, bbPosX, bbPosY, bbSizeX, bbSizeY, posX, posY, ctrX, ctrY,
        axisX, axisY, angle, area, padding, tagId, unknown })
    (fun b => (b.blobId, b.action, b.type, b.bbPosX, b.bbPosY, b.bbSizeX, b.bbSizeY,
      b.posX, b.posY, b.ctrX, b.ctrY, b.axisX, b.axisY, b.angle, b.area, b.padding,
      b.tagId, b.unknown))
    (fun _ => rfl)

/-- `struct sur40_image_header`: the 20 bytes in front of every video frame. -/
structure Sur40ImageHeader where
  magic : UInt32
  packetId : UInt32
  size : UInt32
  timestamp : UInt32
  unknown : UInt32
  deriving DecidableEq

def Sur40ImageHeader.layout : Codec Sur40ImageHeader :=
  (le32.seq (le32.seq (le32.seq (le32.seq le32)))).iso
    (fun (magic, packetId, size, timestamp, unknown) =>
      { magic, packetId, size, timestamp, unknown })
    (fun h => (h.magic, h.packetId, h.size, h.timestamp, h.unknown))
    (fun _ => rfl)

@[simp] theorem Sur40Header.layout_size : Sur40Header.layout.size = 16 := rfl
@[simp] theorem Sur40Blob.layout_size : Sur40Blob.layout.size = 64 := rfl
@[simp] theorem Sur40ImageHeader.layout_size : Sur40ImageHeader.layout.size = 20 := rfl

/-! ## Records of the userspace library -/

/-- `struct surface_header`. -/
structure SurfaceHeader where
  type : UInt16
  count : UInt16
  packetId : UInt32
  timestamp : UInt32
  unknown : UInt32
  deriving DecidableEq

def SurfaceHeader.layout : Codec SurfaceHeader :=
  (le16.seq (le16.seq (le32.seq (le32.seq le32)))).iso
    (fun (type, count, packetId, timestamp, unknown) =>
      { type, count, packetId, timestamp, unknown })
    (fun h => (h.type, h.count, h.packetId, h.timestamp, h.unknown))
    (fun _ => rfl)

/-- `struct surface_blob`. Userspace documents three actions: 0x01 = enter,
0x02 = exit, 0x03 = update. -/
structure SurfaceBlob where
  blobId : UInt16
  action : UInt8
  /-- Bitmask: 0x01 blob, 0x02 finger, 0x04 tag. -/
  type : UInt8
  bbPosX : UInt16
  bbPosY : UInt16
  bbSizeX : UInt16
  bbSizeY : UInt16
  posX : UInt16
  posY : UInt16
  ctrX : UInt16
  ctrY : UInt16
  axisX : UInt16
  axisY : UInt16
  /-- A float, carried as its bits. -/
  angle : UInt32
  area : UInt32
  padding : Vector UInt8 24
  tagId : UInt32
  unknown : UInt32
  deriving DecidableEq

def SurfaceBlob.layout : Codec SurfaceBlob :=
  (le16.seq (u8.seq (u8.seq (le16.seq (le16.seq (le16.seq (le16.seq (le16.seq (le16.seq
    (le16.seq (le16.seq (le16.seq (le16.seq (le32.seq (le32.seq ((raw 24).seq
    (le32.seq le32))))))))))))))))).iso
    (fun (blobId, action, type, bbPosX, bbPosY, bbSizeX, bbSizeY, posX, posY, ctrX, ctrY,
        axisX, axisY, angle, area, padding, tagId, unknown) =>
      { blobId, action, type, bbPosX, bbPosY, bbSizeX, bbSizeY, posX, posY, ctrX, ctrY,
        axisX, axisY, angle, area, padding, tagId, unknown })
    (fun b => (b.blobId, b.action, b.type, b.bbPosX, b.bbPosY, b.bbSizeX, b.bbSizeY,
      b.posX, b.posY, b.ctrX, b.ctrY, b.axisX, b.axisY, b.angle, b.area, b.padding,
      b.tagId, b.unknown))
    (fun _ => rfl)

@[simp] theorem SurfaceHeader.layout_size : SurfaceHeader.layout.size = 16 := rfl
@[simp] theorem SurfaceBlob.layout_size : SurfaceBlob.layout.size = 64 := rfl

/-- The kernel's blob and the library's blob agree in every field except
`action`, which the library rewrites. -/
def SurfaceBlob.SameExceptAction (a : SurfaceBlob) (b : Sur40Blob) : Prop :=
  a = { blobId := b.blobId, action := a.action, type := b.type, bbPosX := b.bbPosX,
        bbPosY := b.bbPosY, bbSizeX := b.bbSizeX, bbSizeY := b.bbSizeY, posX := b.posX,
        posY := b.posY, ctrX := b.ctrX, ctrY := b.ctrY, axisX := b.axisX, axisY := b.axisY,
        angle := b.angle, area := b.area, padding := b.padding, tagId := b.tagId,
        unknown := b.unknown }

/-- The two declarations lay a contact out the same way. -/
theorem SurfaceBlob.decode_sameExceptAction (bs : List UInt8) :
    (SurfaceBlob.layout.decode bs).SameExceptAction (Sur40Blob.layout.decode bs) := rfl

/-- The two header declarations agree on the announced blob count. -/
theorem SurfaceHeader.decode_count (bs : List UInt8) :
    (SurfaceHeader.layout.decode bs).count = (Sur40Header.layout.decode bs).count := rfl

end Sur40
