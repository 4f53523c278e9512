import Sur40.VideoStream

/-!
# Positions in the stream

Where a transfer that starts at some position ends, and what it brings.

## Main definitions

* `Approaches`: the rest of a frame up to the next header that is seen.
* `exists_approaches`: streaming can be started anywhere.
* `bulkIn_approaches`, `bulkIn_whole`, `bulkIn_part`, `bulkIn_cut`: the transfers.
-/

namespace Sur40

open Devlib

variable {frames : ℕ → VideoFrame} {start : ℕ}

/-! ## Positions -/

/-- At position `pos` the rest of a frame is ahead, `m` packets, and then header `n`,
which is seen. -/
structure Approaches (frames : ℕ → VideoFrame) (start pos n m : ℕ) : Prop where
  pos_eq : pos + m = headerPos frames n
  tail : TailPackets 512 20 (videoPackets frames) pos m
  seen : headerSeen frames start n = true
  after : ∀ i < n, headerPos frames i < pos

/-- Right in front of a header. -/
theorem Approaches.at_header {n : ℕ} (hseen : headerSeen frames start n = true) :
    Approaches frames start (headerPos frames n) n 0 where
  pos_eq := rfl
  tail := { full := nofun, le := nofun, ne := nofun }
  seen := hseen
  after _ hi := headerPos_lt_iff.mpr hi

/-- Inside frame `k`. -/
theorem Approaches.in_frame {k j : ℕ} (hj : j ≤ (frames k).sent)
    (hseen : headerSeen frames start (k + 1) = true) :
    Approaches frames start (headerPos frames k + 1 + j) (k + 1) ((frames k).sent - j) where
  pos_eq := by
    rw [headerPos_succ]
    omega
  tail := videoPackets_tail hj
  seen := hseen
  after _ hi := (headerPos_lt_add_iff hj).mpr hi

theorem Approaches.drop {pos n m : ℕ} (h : Approaches frames start pos n m) {d : ℕ}
    (hd : d ≤ m) : Approaches frames start (pos + d) n (m - d) where
  pos_eq := by
    rw [← h.pos_eq]
    omega
  tail := h.tail.drop d
  seen := h.seen
  after i hi := (h.after i hi).trans_le (Nat.le_add_right pos d)

/-- Wherever streaming is started, the next header will be seen. -/
theorem exists_approaches (frames : ℕ → VideoFrame) (start : ℕ) :
    ∃ n m, Approaches frames start start n m := by
  obtain ⟨n, hle, hbefore⟩ :
      ∃ n, start ≤ headerPos frames n ∧ ∀ i < n, headerPos frames i < start :=
    exists_nextBlock packets_pos start
  cases n with
  | zero =>
      obtain rfl : start = 0 := Nat.le_zero.mp hle
      have h : Approaches frames 0 (headerPos frames 0) 0 0 := .at_header rfl
      exact ⟨0, 0, h⟩
  | succ k =>
      have hk : headerPos frames k < start := hbefore k (Nat.lt_succ_self k)
      have hnext : start ≤ headerPos frames (k + 1) := hle
      have hseen : headerSeen frames start (k + 1) = true :=
        (headerSeen_succ hnext).mpr fun h => absurd (start_le_of_headerSeen h) (not_le.mpr hk)
      rw [headerPos_succ] at hnext
      obtain ⟨j, rfl⟩ : ∃ j, start = headerPos frames k + 1 + j := Nat.exists_eq_add_of_le hk
      exact ⟨k + 1, _, .in_frame (by omega) hseen⟩

theorem start_le_succ {k : ℕ} (h : start ≤ headerPos frames k) :
    start ≤ headerPos frames (k + 1) :=
  h.trans (headerPos_strictMono.monotone (Nat.le_succ k))

/-- After a frame that is whole the next header is seen. -/
theorem headerSeen_succ_of_complete {k : ℕ} (hseen : headerSeen frames start k = true)
    (hwhole : (frames k).Complete) : headerSeen frames start (k + 1) = true := by
  have hstart := start_le_succ (start_le_of_headerSeen hseen)
  exact (headerSeen_succ hstart).mpr fun _ => .inl hwhole

/-- After a frame of which no size is believed the next header is seen. -/
theorem headerSeen_succ_of_size {k : ℕ} (hseen : headerSeen frames start k = true)
    (hsize : sur40MaxFrameSize < (frames k).size.toNat) :
    headerSeen frames start (k + 1) = true := by
  have hstart := start_le_succ (start_le_of_headerSeen hseen)
  exact (headerSeen_succ hstart).mpr fun _ => .inr hsize

/-- A frame that is cut short swallows the next header. -/
theorem headerSeen_succ_of_cut {k : ℕ} (hseen : headerSeen frames start k = true)
    (hcut : ¬(frames k).Complete) (hsize : (frames k).size.toNat ≤ sur40MaxFrameSize) :
    headerSeen frames start (k + 1) = false := by
  have hstart := start_le_succ (start_le_of_headerSeen hseen)
  rw [← Bool.not_eq_true, headerSeen_succ hstart]
  intro h
  rcases h hseen with hwhole | hlarge
  · exact hcut hwhole
  · omega

/-- A swallowed header swallows nothing itself. -/
theorem headerSeen_succ_of_unseen {k : ℕ} (hstart : start ≤ headerPos frames k)
    (hseen : headerSeen frames start k = false) : headerSeen frames start (k + 1) = true := by
  refine (headerSeen_succ (start_le_succ hstart)).mpr fun h => ?_
  rw [hseen] at h
  cases h

/-! ## Transfers -/

/-- While the driver hunts for a header: the transfer ends before one, or with it. -/
theorem bulkIn_approaches {pos n m c : ℕ} (h : Approaches frames start pos n m) (hc : 0 < c) :
    (∃ d data, bulkIn 512 (videoPackets frames) pos (512 * c) =
        { data, overflow := false, pos := pos + d } ∧
      0 < d ∧ d ≤ m ∧ data.length % 512 ≠ 20) ∨
    ∃ data, bulkIn 512 (videoPackets frames) pos (512 * c) =
        { data := data ++ Sur40ImageHeader.layout.encode (frames n).header, overflow := false
          pos := headerPos frames n + 1 } ∧
      data.length = 512 * m ∧ m < c := by
  have hunt := bulkIn_hunt (P := 512) (h := 20) (by decide) (by decide) hc h.tail
    (by rw [h.pos_eq, length_videoPackets_header])
  rw [h.pos_eq, videoPackets_header] at hunt
  exact hunt

/-- A frame that is received as a whole. -/
theorem bulkIn_whole {k j : ℕ} (hwhole : (frames k).Complete) (hj : j ≤ (frames k).sent)
    {count : ℕ} (hcount : count + 512 * j = (frames k).size.toNat) :
    bulkIn 512 (videoPackets frames) (headerPos frames k + 1 + j) count =
      { data := (frames k).image.drop (512 * j), overflow := false
        pos := headerPos frames (k + 1) } := by
  have hsent := (frames k).sent_le
  rw [VideoFrame.complete_iff] at hwhole
  have hlen : ((frames k).image.drop (512 * j)).length = count := by
    rw [List.length_drop, (frames k).length_image]
    omega
  have hcarries : Carries 512 (videoPackets frames) _ _ _ := (videoPackets_image k).drop j
  have hmessage := bulkIn_message (by decide) hcarries (by omega) (by omega)
  have hpos : headerPos frames k + 1 + j + ((frames k).sent - j) = headerPos frames (k + 1) := by
    rw [headerPos_succ]
    omega
  rw [hlen, hpos] at hmessage
  exact hmessage

/-- A part of a frame is received that is a number of full packets. -/
theorem bulkIn_part {k j d : ℕ} (hd : j + d ≤ (frames k).sent)
    (hfull : 512 * (j + d) ≤ (frames k).size.toNat) :
    ∃ data, bulkIn 512 (videoPackets frames) (headerPos frames k + 1 + j) (512 * d) =
      { data, overflow := false, pos := headerPos frames k + 1 + (j + d) } ∧
      data.length = 512 * d := by
  have hcarries : Carries 512 (videoPackets frames) _ _ _ := (videoPackets_image k).drop j
  have hle : d ≤ (frames k).sent - j := by omega
  have hpkts := hcarries.fullPackets hle
    (by rw [List.length_drop, (frames k).length_image]; omega)
  refine ⟨_, ?_, hpkts.length_received⟩
  rw [bulkIn_fullPackets (by decide) hpkts le_rfl, Nat.sub_self, bulkIn_zero]
  simp [BulkIn.prepend, Nat.add_assoc]

/-- A frame is cut short: the transfer ends with the next header, and has brought less
than it asked for. -/
theorem bulkIn_cut {k j room : ℕ} (hcut : ¬(frames k).Complete) (hj : j ≤ (frames k).sent)
    (hroom : 512 * ((frames k).sent - j) < room)
    (hne : room % 512 = (frames k).size.toNat % 512 ∨ room % 512 = 0) :
    ∃ data overflow, bulkIn 512 (videoPackets frames) (headerPos frames k + 1 + j) room =
      { data, overflow, pos := headerPos frames (k + 1) + 1 } ∧
      (overflow = false → data.length < room ∧ data.length % 512 = 20) := by
  have hheader := (frames k).no_header
  rw [VideoFrame.complete_iff] at hcut
  have hcarries : Carries 512 (videoPackets frames) _ _ _ := (videoPackets_image k).drop j
  have hpkts := hcarries.fullPackets le_rfl
    (by rw [List.length_drop, (frames k).length_image]; omega)
  have hpos : headerPos frames k + 1 + j + ((frames k).sent - j) = headerPos frames (k + 1) := by
    rw [headerPos_succ]
    omega
  have hhdr : (videoPackets frames (headerPos frames (k + 1))).length = 20 := by simp
  rw [bulkIn_fullPackets (by decide) hpkts hroom.le, hpos]
  by_cases hfit : 20 ≤ room - 512 * ((frames k).sent - j)
  · rw [bulkIn_of_short (by omega) (by omega) (by omega)]
    refine ⟨_, _, rfl, fun _ => ?_⟩
    rw [List.length_append, hpkts.length_received, hhdr]
    omega
  · rw [bulkIn_of_overflow (by decide) (by omega) (by omega)]
    exact ⟨_, _, rfl, nofun⟩

end Sur40
