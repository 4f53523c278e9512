import Sur40.Decoders
import Sur40.SurfaceTransfers

/-!
# Image bytes behind the header

The first transfer of a frame brings the header and may bring the beginning of the
image. `surface_get_image` moves that beginning to the front of its local buffer,
not to the caller's array, and goes on with the byte behind it.

## Main definitions

* `SentImage`: a frame of the device, split into transfers.
* `SentImage.Arrives`: what a call should do with it.
* `image_arrives_iff`: when it does.
-/

namespace Sur40

open Devlib

/-! ## The caller's array -/

theorem length_storeBytes {offset : ℕ} {bytes buffer : List UInt8}
    (h : offset + bytes.length ≤ buffer.length) :
    (storeBytes offset bytes buffer).length = buffer.length := by
  simp [storeBytes]
  omega

theorem storeBytes_nil {offset : ℕ} (buffer : List UInt8) :
    storeBytes offset [] buffer = buffer := by
  simp [storeBytes]

/-- Two adjacent writes are one. -/
theorem storeBytes_append {offset : ℕ} (bytes more : List UInt8) {buffer : List UInt8}
    (h : offset ≤ buffer.length) :
    storeBytes (offset + bytes.length) more (storeBytes offset bytes buffer) =
      storeBytes offset (bytes ++ more) buffer := by
  have hlength : (buffer.take offset ++ bytes).length = offset + bytes.length := by
    simp [h]
  have htake : (storeBytes offset bytes buffer).take (offset + bytes.length) =
      buffer.take offset ++ bytes := by
    rw [storeBytes, ← hlength, List.take_left]
  have hdrop : (storeBytes offset bytes buffer).drop (offset + bytes.length + more.length) =
      buffer.drop (offset + bytes.length + more.length) := drop_storeBytes h (by omega)
  rw [storeBytes, htake, hdrop]
  simp [storeBytes, Nat.add_assoc]

/-- How often byte `i` has been written. -/
def timesWritten (writes : List (ℕ × List UInt8)) (i : ℕ) : ℕ :=
  writes.countP fun w => w.1 ≤ i ∧ i < w.1 + w.2.length

theorem timesWritten_append_singleton (writes : List (ℕ × List UInt8)) (w : ℕ × List UInt8)
    (i : ℕ) :
    timesWritten (writes ++ [w]) i =
      timesWritten writes i + if w.1 ≤ i ∧ i < w.1 + w.2.length then 1 else 0 := by
  simp [timesWritten, List.countP_append, List.countP_singleton]

/-! ## The loop behind the header -/

/-- The call behind some of the transfers that follow the header. -/
structure Receiving (bufsize : UInt32) (g : GetImage) (rest : List UInt8) : Prop where
  headerRead : g.headerRead = true
  position : g.bufpos.toNat + rest.length = bufsize.toNat
  room : bufsize.toNat ≤ g.image.length

theorem Receiving.turn {bufsize : UInt32} {g : GetImage} {chunk rest : List UInt8}
    (h : Receiving bufsize g (chunk ++ rest)) :
    ∃ g', (surfaceGetImage bufsize).turn (.received chunk) g = surfaceGetImageNext bufsize g' ∧
      Receiving bufsize g' rest ∧ g'.bufpos.toNat = g.bufpos.toNat + chunk.length ∧
      g'.image = storeBytes g.bufpos.toNat chunk g.image ∧ g'.header = g.header ∧
      g'.writes = g.writes ++ [(g.bufpos.toNat, chunk)] := by
  have hposition := h.position
  have hlt := bufsize.toNat_lt
  rw [List.length_append] at hposition
  have hbufpos : (g.bufpos + UInt32.ofInt chunk.length).toNat = g.bufpos.toNat + chunk.length :=
    toNat_add_ofInt (by omega)
  have hroom := h.room
  refine ⟨{ g with
    image := storeBytes g.bufpos.toNat chunk g.image
    writes := g.writes ++ [(g.bufpos.toNat, chunk)]
    result := chunk.length
    bufpos := g.bufpos + UInt32.ofInt chunk.length }, ?_, ⟨?_, ?_, ?_⟩, hbufpos, rfl, rfl, rfl⟩
  · simp [surfaceGetImage, h.headerRead, surfaceGetImageChunk]
  · exact h.headerRead
  · exact hbufpos ▸ (by omega)
  · rw [length_storeBytes (by omega)]
    exact h.room

theorem Receiving.next {bufsize : UInt32} {g : GetImage} {rest : List UInt8}
    (h : Receiving bufsize g rest) :
    surfaceGetImageNext bufsize g =
      (g, if rest = [] then some (.ok (toInt32 g.header.timestamp.toNat)) else none) := by
  have hposition := h.position
  have hrest : rest = [] ↔ rest.length = 0 := List.length_eq_zero_iff.symm
  have hlt : g.bufpos < bufsize ↔ ¬ rest = [] := by
    rw [UInt32.lt_iff_toNat_lt, hrest]
    omega
  by_cases hnil : rest = []
  · simp [surfaceGetImageNext, hlt, hnil]
  · simp [surfaceGetImageNext, hlt, hnil]

/-- The chunks end up one behind the other, from the current position on. -/
theorem Receiving.run {bufsize : UInt32} (chunks : List (List UInt8)) {g : GetImage}
    (h : Receiving bufsize g chunks.flatten) :
    let r := (surfaceGetImage bufsize).run (chunks.map .received) (surfaceGetImageNext bufsize g)
    r.2 = some (.ok (toInt32 g.header.timestamp.toNat)) ∧
      r.1.image = storeBytes g.bufpos.toNat chunks.flatten g.image ∧
      ∀ i, timesWritten r.1.writes i =
        timesWritten g.writes i + if g.bufpos.toNat ≤ i ∧ i < bufsize.toNat then 1 else 0 := by
  have hposition := h.position
  induction chunks generalizing g with
  | nil =>
      have hnone (i : ℕ) : ¬ (g.bufpos.toNat ≤ i ∧ i < bufsize.toNat) := by
        simp at hposition
        omega
      simp [h.next, storeBytes_nil, hnone]
  | cons chunk chunks ih =>
      by_cases hnil : (chunk :: chunks).flatten = []
      · -- nothing is left, so nothing but empty chunks is
        have hnone (i : ℕ) : ¬ (g.bufpos.toNat ≤ i ∧ i < bufsize.toNat) := by
          rw [hnil] at hposition
          simp at hposition
          omega
        rw [h.next, if_pos hnil, hnil, TransferLoop.run_some]
        simp [storeBytes_nil, hnone]
      · rw [List.flatten_cons] at h
        obtain ⟨g', hturn, hrest, hbufpos, himage, hheader, hwrites⟩ := h.turn
        have hroom := h.room
        obtain ⟨hret, himage', hwrites'⟩ := ih hrest hrest.position
        rw [List.flatten_cons] at hnil
        rw [h.next, if_neg hnil, List.map_cons, TransferLoop.run_cons_none, hturn]
        rw [List.flatten_cons, List.length_append] at hposition
        refine ⟨by rw [hret, hheader], ?_, fun i => ?_⟩
        · rw [himage', hbufpos, himage, storeBytes_append _ _ (by omega), List.flatten_cons]
        · rw [hwrites' i, hwrites, timesWritten_append_singleton, hbufpos]
          dsimp only
          split_ifs <;> omega

/-! ## The whole frame -/

/-- A frame as the device sends it: header, image, and how the transfers split it. -/
structure SentImage where
  header : SurfaceImage
  image : List UInt8
  /-- The image bytes in the first transfer. -/
  leading : ℕ
  chunks : List (List UInt8)
  magic : header.magic = surfaceHeaderMagic
  size : header.size.toNat = image.length
  le_length : 492 ≤ image.length
  length_lt : image.length < 2 ^ 31
  leading_le : leading ≤ 492
  contents : chunks.flatten = image.drop leading
  nonempty : ∀ c ∈ chunks, c ≠ []
  /-- No more than is asked for: what is missing, in pieces of `videoPacketSize`. -/
  chunk_le : ∀ c ∈ chunks, (c.length : ℤ) ≤ videoPacketSize

namespace SentImage

variable (s : SentImage)

/-- The bytes of the first transfer. -/
def firstBytes : List UInt8 := SurfaceImage.layout.encode s.header ++ s.image.take s.leading

def transfers : List BulkTransfer := (s.firstBytes :: s.chunks).map .received

/-- The call, with what its local buffer and the caller's array hold at the start. -/
def call (buffer image : List UInt8) : GetImage × Option (Except ℤ ℤ) :=
  (surfaceGetImage s.header.size).run s.transfers (surfaceGetImageStart buffer image)

/-- The call returns the timestamp, and has written every byte of the image once. -/
structure Arrives (buffer image : List UInt8) : Prop where
  returned : (s.call buffer image).2 = some (.ok (toInt32 s.header.timestamp.toNat))
  image_eq : (s.call buffer image).1.image.take s.image.length = s.image
  once : ∀ i < s.image.length, timesWritten (s.call buffer image).1.writes i = 1

theorem length_firstBytes : s.firstBytes.length = 20 + s.leading := by
  have h₁ := s.leading_le
  have h₂ := s.le_length
  have hmin : min s.leading s.image.length = s.leading := by omega
  simp [firstBytes, hmin]

/-- The header is read from the front of the local buffer. -/
theorem decode_firstBytes (buffer : List UInt8) :
    SurfaceImage.layout.decode (storeBytes 0 s.firstBytes buffer) = s.header := by
  rw [storeBytes_zero, firstBytes, List.append_assoc, Codec.decode_encode_append]

/-- The first transfer passes the checks; the loop starts behind what it has brought. -/
theorem turn_first (buffer image : List UInt8) (himage : s.image.length ≤ image.length) :
    ∃ g, (surfaceGetImage s.header.size).turn (.received s.firstBytes)
        (surfaceGetImageStart buffer image).1 = surfaceGetImageNext s.header.size g ∧
      Receiving s.header.size g s.chunks.flatten ∧ g.bufpos.toNat = s.leading ∧
      g.image = image ∧ g.writes = [] ∧ (s.leading = 0 → g.header = s.header) := by
  have hsize := s.size
  have hlength := s.length_firstBytes
  have hleading := s.leading_le
  have hle := s.le_length
  have hchunks : s.chunks.flatten.length = s.image.length - s.leading := by
    rw [s.contents, List.length_drop]
  have hfits : (BulkTransfer.received s.firstBytes).FitsIn 512 :=
    ⟨⟨fun _ => rfl, by simp [hlength]; omega⟩, rfl⟩
  have hlong : SurfaceImage.layout.size ≤ (BulkTransfer.received s.firstBytes).moved := by
    simp [hlength]
  have hheader : (afterHeader buffer image (.received s.firstBytes)).header = s.header :=
    s.decode_firstBytes buffer
  have hdecode : SurfaceImage.layout.decode (BulkTransfer.received s.firstBytes).data = s.header :=
    (header_afterHeader buffer image hfits hlong).symm.trans hheader
  rw [surfaceGetImage_turn_passes buffer image hfits hlong (by rw [hdecode, s.magic])
    (by rw [hdecode])]
  by_cases hzero : s.leading = 0
  · refine ⟨_, if_neg ?_, ⟨rfl, ?_, hsize ▸ himage⟩, ?_, rfl, rfl, fun _ => hheader⟩
    · simp [hlength, hzero]
    · simp [afterHeader, hchunks, hsize, hzero]
    · simp [afterHeader, hzero]
  · have hbufpos : (UInt32.ofInt ((BulkTransfer.received s.firstBytes).moved -
        SurfaceImage.layout.size)).toNat = s.leading := by
      have hrest : ((BulkTransfer.received s.firstBytes).moved : ℤ) -
          SurfaceImage.layout.size = (s.leading : ℤ) := by
        simp [hlength]
      rw [hrest, toNat_ofInt (by omega)]
    refine ⟨_, if_pos ?_, ⟨rfl, ?_, hsize ▸ himage⟩, hbufpos, rfl, rfl,
      fun h => absurd h hzero⟩
    · simp [hlength]
      omega
    · rw [hbufpos, hchunks, hsize]
      omega

/-- The call fills the array from the first byte that its first transfer did not bring. -/
theorem call_eq (buffer image : List UInt8) (himage : s.image.length ≤ image.length) :
    (s.call buffer image).1.image = storeBytes s.leading (s.image.drop s.leading) image ∧
      (∀ i, timesWritten (s.call buffer image).1.writes i =
        if s.leading ≤ i ∧ i < s.image.length then 1 else 0) ∧
      (s.leading = 0 →
        (s.call buffer image).2 = some (.ok (toInt32 s.header.timestamp.toNat))) := by
  obtain ⟨g, hturn, hreceiving, hbufpos, hg, hwrites, hheader⟩ := s.turn_first buffer image himage
  have hcall : s.call buffer image = (surfaceGetImage s.header.size).run (s.chunks.map .received)
      (surfaceGetImageNext s.header.size g) := by
    rw [call, transfers, List.map_cons, ← hturn]
    rfl
  obtain ⟨hret, himage', honce⟩ := hreceiving.run
  rw [← hcall] at hret himage' honce
  refine ⟨?_, fun i => ?_, fun hzero => ?_⟩
  · rw [himage', hbufpos, hg, s.contents]
  · rw [honce i, hwrites, hbufpos, s.size]
    simp [timesWritten]
  · rw [hret, hheader hzero]

/-- An image byte that comes with the header is never written. -/
theorem not_arrives_of_leading {buffer image : List UInt8}
    (himage : s.image.length ≤ image.length) (hleading : 0 < s.leading) :
    ¬ s.Arrives buffer image := by
  intro h
  have hle := s.le_length
  have honce := h.once 0 (by omega)
  rw [(s.call_eq buffer image himage).2.1 0, if_neg (by omega)] at honce
  cases honce

/-- **The image arrives** exactly if the first transfer ends with the header. -/
theorem image_arrives_iff (buffer image : List UInt8) (himage : s.image.length ≤ image.length) :
    s.Arrives buffer image ↔ s.leading = 0 := by
  obtain ⟨himage', honce, hret⟩ := s.call_eq buffer image himage
  constructor
  · intro h
    by_contra hleading
    exact s.not_arrives_of_leading himage (Nat.pos_of_ne_zero hleading) h
  · intro hzero
    refine ⟨hret hzero, ?_, fun i hi => ?_⟩
    · rw [himage', hzero, List.drop_zero, storeBytes_zero, List.take_left]
    · rw [honce i, hzero, if_pos ⟨Nat.zero_le i, hi⟩]

end SentImage

/-- Bytes of one colour. -/
def pixels (n : ℕ) (colour : UInt8) : List UInt8 := List.replicate n colour

@[simp] theorem length_pixels (n : ℕ) (colour : UInt8) : (pixels n colour).length = n := by
  simp [pixels]

@[simp] theorem drop_pixels (n k : ℕ) (colour : UInt8) :
    (pixels n colour).drop k = pixels (n - k) colour := by
  simp [pixels]

theorem flatten_pixels (k n : ℕ) (colour : UInt8) :
    (List.replicate k (pixels n colour)).flatten = pixels (k * n) colour := by
  simp [pixels]

theorem pixels_append (m n : ℕ) (colour : UInt8) :
    pixels m colour ++ pixels n colour = pixels (m + n) colour := by
  simp [pixels]

/-- A black image of the panel, in as few transfers as possible. -/
def blackImage (leading : ℕ) (hleading : leading ≤ 492) : SentImage where
  header :=
    { magic := surfaceHeaderMagic, packetId := 1, size := 518400, timestamp := 1000, unknown := 2 }
  image := pixels 518400 0
  leading
  chunks := List.replicate 31 (pixels 16384 0) ++ [pixels (10496 - leading) 0]
  magic := rfl
  size := by simp
  le_length := by simp
  length_lt := by simp
  leading_le := hleading
  contents := by
    rw [List.flatten_append, flatten_pixels, List.flatten_singleton, pixels_append, drop_pixels]
    congr 1
    omega
  nonempty := by
    intro c hc
    apply List.ne_nil_of_length_pos
    rcases List.mem_append.mp hc with hc | hc
    · simp [List.eq_of_mem_replicate hc]
    · simp [List.mem_singleton.mp hc]
      omega
  chunk_le := by
    intro c hc
    rcases List.mem_append.mp hc with hc | hc
    · simp [List.eq_of_mem_replicate hc, videoPacketSize]
    · simp [List.mem_singleton.mp hc, videoPacketSize]
      omega

theorem image_arrives_headerAlone :
    (blackImage 0 (by decide)).Arrives (pixels 512 0) (pixels 518400 255) ↔
      (blackImage 0 (by decide)).leading = 0 :=
  (blackImage 0 (by decide)).image_arrives_iff (pixels 512 0) (pixels 518400 255)
    (by simp [blackImage])

/-- The first 492 bytes of the caller's array stay white. -/
theorem not_arrives_fullTransfer :
    ¬ (blackImage 492 (by decide)).Arrives (pixels 512 0) (pixels 518400 255) := by
  apply SentImage.not_arrives_of_leading
  · simp [blackImage]
  · simp [blackImage]

end Sur40
