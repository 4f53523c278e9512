import Sur40.Surface
import Sur40.Lib.TransferLoop

/-!
# The transfer loops of the userspace library

`surface_get_image`, `surface_get_blobs`, `surface_read_ddr` and
`surface_write_ddr` each make one `libusb_bulk_transfer` after the other. Between
two transfers a call is in a state made of its local variables; the counters have
the C widths. A call either fails with a code of its own or returns its success
value.

## Main definitions

* `BulkTransfer.moved`, `BulkTransfer.FitsIn`, `BulkTransfer.FitsOut`: what a transfer moves.
* `surfaceReadDdr`, `surfaceWriteDdr`: the FPGA memory.
* `surfaceGetImage`: one video frame.
* `surfaceGetBlobsCall`: one touch frame, the loop of `surfaceGetBlobs`.
-/

namespace Sur40

open Devlib

/-! ## Outcomes of a transfer -/

/-- How many bytes the transfer moved. -/
def BulkTransfer.moved (t : BulkTransfer) : ℕ := t.transferred.getD 0

/-- `*transferred` after the transfer; a failed submission leaves it alone. -/
def BulkTransfer.stored (t : BulkTransfer) (result : ℤ) : ℤ :=
  match t.transferred with
  | some n => n
  | none => result

/-- A submission that succeeds reports a count, and nobody moves more than asked. -/
structure BulkTransfer.FitsOut (t : BulkTransfer) (length : ℕ) : Prop where
  counted : t.ret = 0 → t.transferred.isSome = true
  moved_le : t.moved ≤ length

/-- A transfer from the device has written the bytes it reports. -/
structure BulkTransfer.FitsIn (t : BulkTransfer) (length : ℕ) : Prop
    extends t.FitsOut length where
  length_data : t.data.length = t.moved

theorem BulkTransfer.FitsOut.stored_eq {t : BulkTransfer} {length : ℕ} (h : t.FitsOut length)
    (hret : t.ret = 0) (result : ℤ) : t.stored result = t.moved := by
  obtain ⟨n, hn⟩ := Option.isSome_iff_exists.mp (h.counted hret)
  simp [stored, moved, hn]

/-- A count is never negative, whatever the return code was. -/
theorem BulkTransfer.stored_nonneg (t : BulkTransfer) {result : ℤ} (h : 0 ≤ result) :
    0 ≤ t.stored result := by
  rw [stored]
  split
  · exact Int.natCast_nonneg _
  · exact h

/-- A transfer that succeeds and brings the bytes `data`. -/
def BulkTransfer.received (data : List UInt8) : BulkTransfer :=
  { ret := 0, transferred := some data.length, data }

@[simp] theorem BulkTransfer.stored_received (data : List UInt8) (result : ℤ) :
    (received data).stored result = data.length := rfl

@[simp] theorem BulkTransfer.moved_received (data : List UInt8) :
    (received data).moved = data.length := rfl

@[simp] theorem BulkTransfer.data_received (data : List UInt8) : (received data).data = data := rfl

theorem BulkTransfer.stored_zero (t : BulkTransfer) : t.stored 0 = t.moved := by
  rw [stored, moved]
  split <;> simp [*]

/-- An `int` as a `size_t`, in comparisons with a `sizeof`. -/
def asSize (x : ℤ) : ℕ := (x % 2 ^ 64).toNat

theorem asSize_natCast {n : ℕ} (h : n < 2 ^ 64) : asSize n = n := by
  rw [asSize]
  omega

/-- The length of a transfer is an `int`, and a negative one moves nothing. -/
def requestLength (rest : ℤ) : ℕ := rest.toNat

theorem toNat_ofInt {n : ℕ} (h : n < 2 ^ 32) : (UInt32.ofInt n).toNat = n := by
  simp [UInt32.ofInt]
  omega

theorem ofInt_natCast (n : ℕ) : UInt32.ofInt n = UInt32.ofNat n := by
  apply UInt32.toNat_inj.mp
  simp [UInt32.ofInt]
  omega

/-- A position advances by what was moved. -/
theorem toNat_add_ofInt {x : UInt32} {n : ℕ} (h : x.toNat + n < 2 ^ 32) :
    (x + UInt32.ofInt n).toNat = x.toNat + n := by
  simp [UInt32.ofInt]
  omega

/-! ## Reading the FPGA memory -/

/-- What a block announces itself with, and what a memory read asks for: address and
length. -/
def ddrRequest : Codec (UInt32 × UInt32) := le32.seq le32

/-- `libusb_control_transfer` to the device: the setup packet, and the data behind it. -/
structure ControlRequest where
  requestType : UInt8
  request : UInt8
  value : UInt16
  index : UInt16
  data : List UInt8
  deriving DecidableEq

/-- `SURFACE_DDR_READ_ENABLE` -/
def surfaceDdrReadEnable (enable : Bool) : ControlRequest :=
  { requestType := 0x40, request := 0xb1, value := 0, index := if enable then 1 else 0, data := [] }

/-- `SURFACE_DDR_READ_REQUEST` -/
def surfaceDdrReadRequest (request : UInt32 × UInt32) : ControlRequest :=
  { requestType := 0x40, request := 0xc4, value := 0, index := 0
    data := ddrRequest.encode request }

/-- The variables of `surface_read_ddr`. -/
structure ReadDdr where
  buffer : List UInt8
  bufpos : UInt32
  result : ℤ
  /-- History: the control transfers, whose results nobody looks at. -/
  controls : List ControlRequest

/-- The length of the next block: `rest` is compared with `blocksize` as an unsigned
number. -/
def ddrRest (bufsize blocksize bufpos : UInt32) : UInt32 :=
  if bufsize - bufpos > blocksize then blocksize else bufsize - bufpos

theorem toInt32_of_range {x : ℤ} (h : -2 ^ 31 ≤ x) (h' : x < 2 ^ 31) : toInt32 x = x := by
  rw [toInt32, Int.bmod_def]
  split_ifs <;> omega

theorem requestLength_toInt32_le (x : UInt32) : requestLength (toInt32 x.toNat) ≤ x.toNat := by
  have := x.toNat_lt
  simp only [requestLength, toInt32, Int.bmod_def]
  split_ifs <;> omega

/-- A request never reaches beyond the end. -/
theorem requestLength_ddrRest_le {bufsize bufpos : UInt32} (h : bufpos ≤ bufsize)
    (blocksize : UInt32) :
    bufpos.toNat + requestLength (toInt32 (ddrRest bufsize blocksize bufpos).toNat) ≤
      bufsize.toNat := by
  have hle := requestLength_toInt32_le (ddrRest bufsize blocksize bufpos)
  have hrest : (ddrRest bufsize blocksize bufpos).toNat ≤ bufsize.toNat - bufpos.toNat := by
    rw [← UInt32.toNat_sub_of_le _ _ h, ddrRest]
    split_ifs with hgt
    · exact (UInt32.lt_iff_toNat_lt.mp hgt).le
    · exact le_rfl
  have := UInt32.le_iff_toNat_le.mp h
  omega

/-- The loop condition, and the return behind the loop. -/
def surfaceReadDdrNext (bufsize : UInt32) (d : ReadDdr) : ReadDdr × Option (Except ℤ ℤ) :=
  (d, if d.bufpos < bufsize then none else some (.ok (toInt32 d.bufpos.toNat)))

def surfaceReadDdr (bufsize blocksize : UInt32) :
    TransferLoop BulkTransfer ReadDdr (Except ℤ ℤ) where
  request d := requestLength (toInt32 (ddrRest bufsize blocksize d.bufpos).toNat)
  turn t d :=
    let d := { d with
      buffer := storeBytes d.bufpos.toNat t.data d.buffer
      result := t.stored d.result }
    if d.result < 0 then (d, some (.error d.result))
    else surfaceReadDdrNext bufsize { d with bufpos := d.bufpos + UInt32.ofInt d.result }

/-- The statements in front of the loop. -/
def surfaceReadDdrStart (buffer : List UInt8) (bufsize targetOffset : UInt32) :
    ReadDdr × Option (Except ℤ ℤ) :=
  let request := (targetOffset, bufsize)
  surfaceReadDdrNext bufsize
    { buffer, bufpos := 0, result := 0
      controls := [surfaceDdrReadEnable true, surfaceDdrReadRequest request] }

/-! ## Writing the FPGA memory -/

/-- The variables of `surface_write_ddr`. -/
structure WriteDdr where
  bufpos : UInt32
  /-- `request[0]`; `request[1]` stays at `blocksize`. -/
  request : UInt32
  result : ℤ
  /-- The bytes of the header that went out last, while its payload is next. -/
  header : Option (List UInt8)
  /-- History: the headers and payloads that went out. -/
  blocks : List (List UInt8 × List UInt8)

def surfaceWriteDdrNext (bufsize : UInt32) (d : WriteDdr) : WriteDdr × Option (Except ℤ ℤ) :=
  (d, if d.bufpos < bufsize then none else some (.ok (toInt32 d.bufpos.toNat)))

def surfaceWriteDdr (buffer : List UInt8) (bufsize blocksize : UInt32) :
    TransferLoop BulkTransfer WriteDdr (Except ℤ ℤ) where
  request d :=
    match d.header with
    | none => ddrRequest.size
    | some _ => requestLength (toInt32 (ddrRest bufsize blocksize d.bufpos).toNat)
  turn t d :=
    match d.header with
    | none =>
        let d := { d with
          result := t.stored d.result
          header := some ((ddrRequest.encode (d.request, blocksize)).take t.moved) }
        if d.result < 0 then (d, some (.error d.result)) else (d, none)
    | some header =>
        let d := { d with
          result := t.stored d.result
          header := none
          blocks := d.blocks ++ [(header, (buffer.drop d.bufpos.toNat).take t.moved)] }
        if d.result < 0 then (d, some (.error d.result))
        else
          surfaceWriteDdrNext bufsize { d with
            bufpos := d.bufpos + UInt32.ofInt d.result
            request := d.request + UInt32.ofInt d.result }

def surfaceWriteDdrStart (bufsize target : UInt32) : WriteDdr × Option (Except ℤ ℤ) :=
  surfaceWriteDdrNext bufsize
    { bufpos := 0, request := target, result := 0, header := none, blocks := [] }

section

variable {buffer : List UInt8} {bufsize blocksize : UInt32} {d : WriteDdr} {t : BulkTransfer}

/-- A header that goes out. -/
theorem surfaceWriteDdr_turn_header (hheader : d.header = none)
    (hfits : t.FitsOut ddrRequest.size) (hret : t.ret = 0) :
    (surfaceWriteDdr buffer bufsize blocksize).turn t d =
      ({ d with
        result := t.moved
        header := some ((ddrRequest.encode (d.request, blocksize)).take t.moved) }, none) := by
  have hstored := hfits.stored_eq hret d.result
  have hnonneg : ¬ (t.moved : ℤ) < 0 := not_lt.mpr (Int.natCast_nonneg _)
  simp [surfaceWriteDdr, hheader, hstored, hnonneg]

/-- A payload that goes out: the position advances by what has been moved. -/
theorem surfaceWriteDdr_turn_payload {header : List UInt8} {n : ℕ}
    (hheader : d.header = some header) (hfits : t.FitsOut n) (hret : t.ret = 0) :
    (surfaceWriteDdr buffer bufsize blocksize).turn t d =
      surfaceWriteDdrNext bufsize { d with
        result := t.moved
        header := none
        blocks := d.blocks ++ [(header, (buffer.drop d.bufpos.toNat).take t.moved)]
        bufpos := d.bufpos + UInt32.ofInt t.moved
        request := d.request + UInt32.ofInt t.moved } := by
  have hstored := hfits.stored_eq hret d.result
  have hnonneg : ¬ (t.moved : ℤ) < 0 := not_lt.mpr (Int.natCast_nonneg _)
  simp [surfaceWriteDdr, hheader, hstored, hnonneg]

end

/-! ## Reading a video frame -/

/-- `struct surface_image`: the header of a video frame. -/
structure SurfaceImage where
  magic : UInt32
  packetId : UInt32
  size : UInt32
  timestamp : UInt32
  unknown : UInt32
  deriving DecidableEq

def SurfaceImage.layout : Codec SurfaceImage :=
  (le32.seq (le32.seq (le32.seq (le32.seq le32)))).iso
    (fun (magic, packetId, size, timestamp, unknown) =>
      { magic, packetId, size, timestamp, unknown })
    (fun h => (h.magic, h.packetId, h.size, h.timestamp, h.unknown))
    (fun _ => rfl)

@[simp] theorem SurfaceImage.layout_size : SurfaceImage.layout.size = 20 := rfl

/-- `VIDEO_HEADER_MAGIC` and `VIDEO_PACKET_SIZE` of the library. -/
def surfaceHeaderMagic : UInt32 := 0x46425553
def videoPacketSize : ℤ := 16384

/-- The variables of `surface_get_image`. -/
structure GetImage where
  /-- The local buffer of 512 bytes. -/
  buffer : List UInt8
  bufpos : UInt32
  result : ℤ
  /-- The caller's array. -/
  image : List UInt8
  /-- The header has been read, the image is next. -/
  headerRead : Bool
  /-- History: the writes to the caller's array. -/
  writes : List (ℕ × List UInt8)

/-- `header`, which points into the local buffer. -/
def GetImage.header (g : GetImage) : SurfaceImage := SurfaceImage.layout.decode g.buffer

def surfaceGetImageNext (bufsize : UInt32) (g : GetImage) : GetImage × Option (Except ℤ ℤ) :=
  (g, if g.bufpos < bufsize then none else some (.ok (toInt32 g.header.timestamp.toNat)))

/-- The first transfer: check the header, and keep what has come behind it. -/
def surfaceGetImageHeader (bufsize : UInt32) (t : BulkTransfer) (g : GetImage) :
    GetImage × Option (Except ℤ ℤ) :=
  let g := { g with
    buffer := storeBytes 0 t.data g.buffer
    result := t.stored g.result
    headerRead := true }
  if asSize g.result < SurfaceImage.layout.size then (g, some (.error (-1)))
  else if g.header.magic ≠ surfaceHeaderMagic then (g, some (.error (-1)))
  else if g.header.size ≠ bufsize then (g, some (.error (-1)))
  else if asSize g.result > SurfaceImage.layout.size then
    let bufpos := UInt32.ofInt (g.result - SurfaceImage.layout.size)
    surfaceGetImageNext bufsize { g with
      bufpos
      -- `memmove` within the local buffer
      buffer := storeBytes 0 ((g.buffer.drop SurfaceImage.layout.size).take bufpos.toNat)
        g.buffer }
  else surfaceGetImageNext bufsize g

/-- One turn of the loop behind it. -/
def surfaceGetImageChunk (bufsize : UInt32) (t : BulkTransfer) (g : GetImage) :
    GetImage × Option (Except ℤ ℤ) :=
  let g := { g with
    image := storeBytes g.bufpos.toNat t.data g.image
    writes := g.writes ++ [(g.bufpos.toNat, t.data)]
    result := t.stored g.result }
  if g.result < 0 then (g, some (.error g.result))
  else surfaceGetImageNext bufsize { g with bufpos := g.bufpos + UInt32.ofInt g.result }

def surfaceGetImage (bufsize : UInt32) : TransferLoop BulkTransfer GetImage (Except ℤ ℤ) where
  request g :=
    if g.headerRead then
      requestLength (min (toInt32 (bufsize - g.bufpos).toNat) videoPacketSize)
    else 512
  turn t g :=
    if g.headerRead then surfaceGetImageChunk bufsize t g else surfaceGetImageHeader bufsize t g

/-- The variables at the first request; `buffer` is not initialised. -/
def surfaceGetImageStart (buffer image : List UInt8) : GetImage × Option (Except ℤ ℤ) :=
  ({ buffer, bufpos := 0, result := 0, image, headerRead := false, writes := [] }, none)

/-- The variables behind the first transfer. -/
def afterHeader (buffer image : List UInt8) (t : BulkTransfer) : GetImage :=
  { buffer := storeBytes 0 t.data buffer, bufpos := 0, result := t.moved, image,
    headerRead := true, writes := [] }

/-- A header that has been received completely does not depend on what the local buffer
held before. -/
theorem header_afterHeader (buffer image : List UInt8) {t : BulkTransfer} (hfits : t.FitsIn 512)
    (h : SurfaceImage.layout.size ≤ t.moved) :
    (afterHeader buffer image t).header = SurfaceImage.layout.decode t.data := by
  have hdata : SurfaceImage.layout.size ≤ t.data.length := hfits.length_data ▸ h
  simp only [GetImage.header, afterHeader, storeBytes, List.take_zero, List.nil_append]
  exact SurfaceImage.layout.decode_append _ _ hdata

theorem surfaceGetImage_turn_start {buffer image : List UInt8} {bufsize : UInt32}
    (t : BulkTransfer) :
    (surfaceGetImage bufsize).turn t (surfaceGetImageStart buffer image).1 =
      surfaceGetImageHeader bufsize t (surfaceGetImageStart buffer image).1 := rfl

/-- A header that passes the checks stays in the local buffer unless image bytes have
come behind it: these are moved over it. -/
theorem surfaceGetImage_turn_passes (buffer image : List UInt8) {bufsize : UInt32}
    {t : BulkTransfer} (hfits : t.FitsIn 512) (hlong : SurfaceImage.layout.size ≤ t.moved)
    (hmagic : (SurfaceImage.layout.decode t.data).magic = surfaceHeaderMagic)
    (hsize : (SurfaceImage.layout.decode t.data).size = bufsize) :
    (surfaceGetImage bufsize).turn t (surfaceGetImageStart buffer image).1 =
      if SurfaceImage.layout.size < t.moved then
        surfaceGetImageNext bufsize { afterHeader buffer image t with
          bufpos := UInt32.ofInt (t.moved - SurfaceImage.layout.size)
          buffer := storeBytes 0 (((afterHeader buffer image t).buffer.drop
            SurfaceImage.layout.size).take
              (UInt32.ofInt (t.moved - SurfaceImage.layout.size)).toNat)
            (afterHeader buffer image t).buffer }
      else surfaceGetImageNext bufsize (afterHeader buffer image t) := by
  have hmoved := hfits.moved_le
  have hasSize : asSize t.moved = t.moved := asSize_natCast (by omega)
  have hheader := header_afterHeader buffer image hfits hlong
  simp only [afterHeader] at hheader
  rw [surfaceGetImage_turn_start, surfaceGetImageHeader]
  simp only [surfaceGetImageStart, t.stored_zero, hasSize, hheader]
  rw [if_neg (not_lt.mpr hlong), if_neg (not_not_intro hmagic), if_neg (not_not_intro hsize)]
  rfl

/-! ## Reading a touch frame -/

/-- The exits of `surface_get_blobs`: a count is never negative. -/
def surfaceGetBlobsExit (value : ℤ) : Except ℤ ℤ := if value < 0 then .error value else .ok value

def surfaceGetBlobsCall : TransferLoop BulkTransfer GetBlobs (Except ℤ ℤ) where
  request _ := 512
  turn t g := ((surfaceGetBlobsTurn t g).1, (surfaceGetBlobsTurn t g).2.map surfaceGetBlobsExit)

/-- It is the loop of `surfaceGetBlobs`. -/
theorem surfaceGetBlobsCall_run (ts : List BulkTransfer) (g : GetBlobs) :
    (surfaceGetBlobsCall.run ts (g, none)).2 =
      (surfaceGetBlobsLoop ts g).map fun r => surfaceGetBlobsExit r.value := by
  induction ts generalizing g with
  | nil => simp [surfaceGetBlobsLoop]
  | cons t ts ih =>
      rw [TransferLoop.run_cons_none, surfaceGetBlobsLoop]
      rcases hturn : surfaceGetBlobsTurn t g with ⟨g', _ | value⟩
      · simp [surfaceGetBlobsCall, hturn, ← ih]
      · simp [surfaceGetBlobsCall, hturn]

end Sur40
