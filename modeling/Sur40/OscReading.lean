import Sur40.OscReceived

/-!
# What is read back

Numbers and padded strings in memory, as the reader of OSC packets sees them: it looks for the
end of a string in the last byte of each word only.

## Main definitions

* `oscToUInt32_of_holds`, `oscToUInt64_eq`: numbers.
* `HoldsString`: a padded string in memory.
* `HoldsString.findStr4End`, `HoldsString.findStr4EndUnchecked`, `HoldsString.readAt`: its end and
  its content.
-/

namespace Sur40

open Devlib

variable {mem : Memory} {p q stop limit : ℕ}

/-! ## Numbers -/

/-- A number below 2^32 is read back. -/
theorem oscToUInt32_of_holds {n : ℕ} (h : mem.Holds p (bigEndian 4 n)) (hn : n < 2 ^ 32) :
    (oscToUInt32 mem p).toNat = n := by
  have hread : mem.read p 4 = bigEndian 4 n := by
    rw [Memory.Holds, length_bigEndian] at h
    exact h
  rw [oscToUInt32, hread, ofBigEndian_bigEndian (by norm_num; omega), UInt32.toNat_ofNat']
  exact Nat.mod_eq_of_lt hn

/-- The four bytes of a value are read back as the value. -/
theorem oscToUInt32_eq {x : UInt32} (h : mem.Holds p (bigEndian 4 x.toNat)) :
    oscToUInt32 mem p = x :=
  UInt32.toNat_inj.mp (oscToUInt32_of_holds h x.toNat_lt)

/-- The eight bytes of a value are read back as the value. -/
theorem oscToUInt64_eq {x : UInt64} (h : mem.Holds p (bigEndian 8 x.toNat)) :
    oscToUInt64 mem p = x := by
  have hx := x.toNat_lt
  have hread : mem.read p 8 = bigEndian 8 x.toNat := by
    rw [Memory.Holds, length_bigEndian] at h
    exact h
  rw [oscToUInt64, hread, ofBigEndian_bigEndian (by norm_num; omega), UInt64.ofNat_toNat]

theorem charToInt32_lt (c : UInt8) : charToInt32 c < 2 ^ 32 := by
  have hc := c.toNat_lt
  rw [charToInt32]
  split <;> omega

/-- A `char` goes through the sign extension unchanged. -/
theorem toUInt8_charToInt32 {x : UInt32} {c : UInt8} (h : x.toNat = charToInt32 c) :
    x.toUInt8 = c := by
  have hc := c.toNat_lt
  rw [← UInt8.toNat_inj, UInt32.toNat_toUInt8, h, charToInt32]
  split <;> omega

/-- A size that a packet can have is not taken for a negative one. -/
theorem int32OfUInt32_small {x : UInt32} (h : x.toNat ≤ oscBundleElementSizeMax) :
    int32OfUInt32 x = x.toNat := by
  rw [oscBundleElementSizeMax] at h
  exact if_pos (by omega)

theorem isValidElementSizeValue_natCast {n : ℕ} (h : n ≤ oscBundleElementSizeMax) :
    isValidElementSizeValue n = true := by
  rw [isValidElementSizeValue]
  simp only [Bool.and_eq_true, decide_eq_true_eq]
  omega

theorem isMultipleOf4_natCast {n : ℕ} (h : 4 ∣ n) : isMultipleOf4 n = true := by
  rw [isMultipleOf4, beq_iff_eq]
  omega

/-! ## Padded strings -/

/-- The loop goes on for `k` steps and stops. -/
theorem findStr4Loop_eq {fuel k : ℕ} (hfuel : k ≤ fuel)
    (hgo : ∀ i < k, q + 4 * i < stop ∧ mem (q + 4 * i) ≠ 0)
    (hstop : ¬(q + 4 * k < stop ∧ mem (q + 4 * k) ≠ 0)) :
    findStr4Loop mem stop fuel q = q + 4 * k := by
  induction k generalizing fuel q with
  | zero =>
      cases fuel with
      | zero => rfl
      | succ fuel =>
          rw [findStr4Loop]
          exact if_neg hstop
  | succ k ih =>
      cases fuel with
      | zero => omega
      | succ fuel =>
          have hfirst : q < stop ∧ mem q ≠ 0 := hgo 0 (Nat.succ_pos k)
          have hshift : ∀ i, q + 4 + 4 * i = q + 4 * (i + 1) := by
            intro i
            omega
          rw [findStr4Loop, if_pos hfirst, ih (Nat.le_of_succ_le_succ hfuel), hshift]
          · intro i hi
            rw [hshift]
            exact hgo (i + 1) (Nat.succ_lt_succ hi)
          · rw [hshift]
            exact hstop

/-- The loop stops at the first group of four that begins with a zero. -/
theorem findStr4LoopUnchecked_eq {limit k : ℕ} (hlimit : k ≤ limit)
    (hgo : ∀ i < k, mem (q + 4 * i) ≠ 0) (hstop : mem (q + 4 * k) = 0) :
    findStr4LoopUnchecked mem limit q = q + 4 * k := by
  induction k generalizing limit q with
  | zero =>
      cases limit with
      | zero => rfl
      | succ limit =>
          rw [findStr4LoopUnchecked]
          exact if_neg (not_not.mpr hstop)
  | succ k ih =>
      cases limit with
      | zero => omega
      | succ limit =>
          have hfirst : mem q ≠ 0 := hgo 0 (Nat.succ_pos k)
          have hshift : ∀ i, q + 4 + 4 * i = q + 4 * (i + 1) := by
            intro i
            omega
          rw [findStr4LoopUnchecked, if_pos hfirst,
            ih (Nat.le_of_succ_le_succ hlimit), hshift]
          · intro i hi
            rw [hshift]
            exact hgo (i + 1) (Nat.succ_lt_succ hi)
          · rw [hshift]
            exact hstop

/-- A padded string in memory. -/
structure HoldsString (mem : Memory) (p : ℕ) (s : CString) : Prop where
  chars : ∀ i < s.strlen, mem (p + i) ≠ 0
  zeros : ∀ i, s.strlen ≤ i → i < roundUp4 (s.strlen + 1) → mem (p + i) = 0
  read : mem.Holds p s.chars

/-- A padded string in the memory is read as a string. -/
theorem holdsString_of_holds {s : CString} (h : mem.Holds p s.padded) : HoldsString mem p s := by
  rw [CString.padded, Memory.holds_append, Memory.holds_append, Memory.holds_iff, Memory.holds_iff,
    Memory.holds_iff] at h
  constructor
  · intro i hi
    rw [h.1.1 i hi]
    exact s.noNul _ (List.getElem_mem hi)
  · intro i hle hlt
    rcases Nat.eq_or_lt_of_le hle with rfl | hlt'
    · exact h.1.2 0 (by simp)
    · have hlength : (zeroPad (s.strlen + 1)).length = roundUp4 (s.strlen + 1) - (s.strlen + 1) :=
        length_zeroPad _
      have hzero := h.2 (i - (s.strlen + 1)) (by omega)
      have haddress : p + (s.chars ++ [0]).length + (i - (s.strlen + 1)) = p + i := by
        rw [List.length_append, List.length_singleton, CString.strlen] at *
        omega
      rw [haddress] at hzero
      rw [hzero]
      simp [zeroPad]
  · rw [Memory.holds_iff]
    exact h.1.1

/-- The fourth bytes of a string up to its last word. -/
theorem HoldsString.words {s : CString} (h : HoldsString mem p s) :
    (∀ i < s.strlen / 4, mem (p + 3 + 4 * i) ≠ 0) ∧ mem (p + 3 + 4 * (s.strlen / 4)) = 0 := by
  constructor
  · intro i hi
    have haddress : p + 3 + 4 * i = p + (4 * i + 3) := by omega
    rw [haddress]
    exact h.chars _ (by omega)
  · have haddress : p + 3 + 4 * (s.strlen / 4) = p + (4 * (s.strlen / 4) + 3) := by omega
    rw [haddress]
    apply h.zeros
    · omega
    · rw [roundUp4]
      omega

/-- Only the empty string begins with a zero. -/
theorem HoldsString.first {s : CString} (h : HoldsString mem p s) : mem p = 0 ↔ s.strlen = 0 := by
  constructor
  · intro hzero
    by_contra hne
    exact h.chars 0 (by omega) hzero
  · intro hlength
    exact h.zeros 0 (by omega) (by rw [roundUp4]; omega)

/-- The checked search finds the end of a string that lies in front of `stop`. -/
theorem HoldsString.findStr4End {s : CString} (h : HoldsString mem p s)
    (hstop : p + roundUp4 (s.strlen + 1) ≤ stop) :
    findStr4End mem p stop = some (p + roundUp4 (s.strlen + 1)) := by
  have hwords := h.words
  have hround : roundUp4 (s.strlen + 1) = 4 * (s.strlen / 4) + 4 := by
    rw [roundUp4]
    omega
  rw [Sur40.findStr4End, if_neg (by omega)]
  split
  · rename_i hzero
    have hlength := h.first.mp hzero
    rw [hround, hlength]
  · have hloop : findStr4Loop mem (stop - 1) stop (p + 3) = p + 3 + 4 * (s.strlen / 4) := by
      apply findStr4Loop_eq
      · omega
      · intro i hi
        exact ⟨by omega, hwords.1 i hi⟩
      · intro hgo
        exact hgo.2 hwords.2
    simp only [hloop]
    rw [if_neg (not_not.mpr hwords.2), hround]
    congr 1
    omega

theorem HoldsString.findStr4EndUnchecked {s : CString} (h : HoldsString mem p s)
    (hlimit : s.strlen ≤ limit) :
    findStr4EndUnchecked mem limit p = p + roundUp4 (s.strlen + 1) := by
  have hwords := h.words
  have hround : roundUp4 (s.strlen + 1) = 4 * (s.strlen / 4) + 4 := by
    rw [roundUp4]
    omega
  rw [Sur40.findStr4EndUnchecked]
  split
  · rename_i hzero
    have hlength := h.first.mp hzero
    rw [hround, hlength]
  · rw [findStr4LoopUnchecked_eq (by omega) hwords.1 hwords.2, hround]
    omega

/-- The characters in front of the first zero are those of the string. -/
theorem HoldsString.readAt {s : CString} (h : HoldsString mem p s) (hlimit : s.strlen < limit) :
    CString.readAt mem p limit = s := by
  have hsplit : limit = s.strlen + (1 + (limit - s.strlen - 1)) := by omega
  have hzero : mem (p + s.strlen) = 0 :=
    h.zeros _ (Nat.le_refl _) (Nat.lt_of_lt_of_le (Nat.lt_succ_self _) (le_roundUp4 _))
  have hchars : mem.read p s.strlen = s.chars := h.read
  have hread : mem.read p limit =
      s.chars ++ 0 :: mem.read (p + s.strlen + 1) (limit - s.strlen - 1) := by
    rw [hsplit, Memory.read_add, Memory.read_add, hchars]
    congr 1
    have hone : mem.read (p + s.strlen) 1 = [0] := by simp [Memory.read, hzero]
    rw [hone, List.singleton_append]
    congr 2
    omega
  have htake : (mem.read p limit).takeWhile (fun c => c != 0) = s.chars := by
    rw [hread, List.takeWhile_append_of_pos (by simpa using s.noNul)]
    simp
  rcases s with ⟨chars, noNul⟩
  simp only [CString.readAt, CString.mk.injEq]
  exact htake

end Sur40
