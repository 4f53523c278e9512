import Sur40.Lib.WebSocketFrame

/-!
# Length prefixes

A stream of records, each behind its length. A reader splits the stream at the lengths; of a
stream that breaks off it gets the records that are whole.

## Main definitions

* `record`, `splitRecords`: the bytes of a record, and the records of a stream.
* `splitRecords_records`: a stream splits into its records.
* `splitRecords_prefix`: a stream that breaks off.
-/

namespace Devlib

/-- A record behind its length in `k` bytes. -/
def record (k : ℕ) (bs : List UInt8) : List UInt8 := bigEndian k bs.length ++ bs

/-- The records that are whole; `fuel` bounds their number. -/
def splitRecordsIn (k : ℕ) : ℕ → List UInt8 → List (List UInt8)
  | 0, _ => []
  | fuel + 1, stream =>
      if stream.length < k then []
      else
        let length := ofBigEndian (stream.take k)
        let rest := stream.drop k
        if rest.length < length then []
        else rest.take length :: splitRecordsIn k fuel (rest.drop length)

def splitRecords (k : ℕ) (stream : List UInt8) : List (List UInt8) :=
  splitRecordsIn k (stream.length + 1) stream

variable {k : ℕ}

@[simp] theorem length_record (bs : List UInt8) : (record k bs).length = k + bs.length := by
  simp [record]

/-- A whole record at the front. -/
theorem splitRecordsIn_record (fuel : ℕ) {bs : List UInt8} (h : bs.length < 256 ^ k)
    (rest : List UInt8) :
    splitRecordsIn k (fuel + 1) (record k bs ++ rest) = bs :: splitRecordsIn k fuel rest := by
  have htake : (record k bs ++ rest).take k = bigEndian k bs.length := by
    rw [record, List.append_assoc, List.take_left' (length_bigEndian k _)]
  have hdrop : (record k bs ++ rest).drop k = bs ++ rest := by
    rw [record, List.append_assoc, List.drop_left' (length_bigEndian k _)]
  have hlong : ¬(record k bs ++ rest).length < k := by
    rw [List.length_append, length_record]
    omega
  have hbody : ¬(bs ++ rest).length < bs.length := by
    rw [List.length_append]
    omega
  simp only [splitRecordsIn, if_neg hlong, htake, hdrop, ofBigEndian_bigEndian h, if_neg hbody,
    List.take_left, List.drop_left]

/-- A record that is not whole. -/
theorem splitRecordsIn_part (fuel : ℕ) {bs part : List UInt8} (h : bs.length < 256 ^ k)
    (hpart : part <+: record k bs) (hne : part ≠ record k bs) :
    splitRecordsIn k fuel part = [] := by
  cases fuel with
  | zero => rfl
  | succ fuel =>
      have hlt : part.length < k + bs.length := by
        have hle := hpart.length_le
        have hlength : part.length ≠ (record k bs).length := fun heq => hne (hpart.eq_of_length heq)
        rw [length_record] at hle hlength
        omega
      rw [splitRecordsIn]
      by_cases hshort : part.length < k
      · rw [if_pos hshort]
      · have htake : part.take k = bigEndian k bs.length := by
          rcases hpart with ⟨tail, htail⟩
          rw [← List.take_append_of_le_length (not_lt.mp hshort), htail, record,
            List.take_left' (length_bigEndian k _)]
        have hbody : (part.drop k).length < ofBigEndian (part.take k) := by
          rw [htake, ofBigEndian_bigEndian h, List.length_drop]
          omega
        rw [if_neg hshort]
        exact if_pos hbody

/-- A stream that breaks off. -/
theorem splitRecordsIn_prefix (fuel : ℕ) {bss : List (List UInt8)}
    (h : ∀ bs ∈ bss, bs.length < 256 ^ k) (hk : 0 < k) {stream : List UInt8}
    (hstream : stream <+: bss.flatMap (record k)) : splitRecordsIn k fuel stream <+: bss := by
  induction bss generalizing fuel stream with
  | nil =>
      rw [List.flatMap_nil, List.prefix_nil] at hstream
      cases fuel with
      | zero => exact List.nil_prefix
      | succ fuel =>
          have hnone : splitRecordsIn k (fuel + 1) stream = [] := by
            rw [splitRecordsIn, hstream]
            exact if_pos (by simpa using hk)
          exact hnone ▸ List.nil_prefix
  | cons bs bss ih =>
      have hbs := h bs List.mem_cons_self
      have hrest := fun b hb => h b (List.mem_cons_of_mem bs hb)
      rw [List.flatMap_cons] at hstream
      by_cases hwhole : record k bs <+: stream
      · rcases hwhole with ⟨rest, rfl⟩
        rw [List.prefix_append_right_inj] at hstream
        cases fuel with
        | zero => exact List.nil_prefix
        | succ fuel =>
            rw [splitRecordsIn_record fuel hbs]
            exact List.cons_prefix_cons.mpr ⟨rfl, ih fuel hrest hstream⟩
      · have hpart : stream <+: record k bs :=
          (List.prefix_or_prefix_of_prefix hstream (List.prefix_append _ _)).resolve_right hwhole
        have hne : stream ≠ record k bs := fun heq => hwhole (heq ▸ List.prefix_refl _)
        rw [splitRecordsIn_part fuel hbs hpart hne]
        exact List.nil_prefix

/-- A stream that is whole. -/
theorem splitRecordsIn_records {fuel : ℕ} {bss : List (List UInt8)}
    (h : ∀ bs ∈ bss, bs.length < 256 ^ k) (hk : 0 < k) (hfuel : bss.length ≤ fuel) :
    splitRecordsIn k fuel (bss.flatMap (record k)) = bss := by
  induction bss generalizing fuel with
  | nil =>
      cases fuel with
      | zero => rfl
      | succ fuel => rw [splitRecordsIn, List.flatMap_nil, if_pos (by simpa using hk)]
  | cons bs bss ih =>
      cases fuel with
      | zero => cases hfuel
      | succ fuel =>
          rw [List.flatMap_cons, splitRecordsIn_record fuel (h bs List.mem_cons_self),
            ih (fun b hb => h b (List.mem_cons_of_mem bs hb)) (Nat.le_of_succ_le_succ hfuel)]

theorem splitRecords_prefix {bss : List (List UInt8)} (h : ∀ bs ∈ bss, bs.length < 256 ^ k)
    (hk : 0 < k) {stream : List UInt8} (hstream : stream <+: bss.flatMap (record k)) :
    splitRecords k stream <+: bss := splitRecordsIn_prefix _ h hk hstream

theorem splitRecords_records {bss : List (List UInt8)} (h : ∀ bs ∈ bss, bs.length < 256 ^ k)
    (hk : 0 < k) : splitRecords k (bss.flatMap (record k)) = bss := by
  apply splitRecordsIn_records h hk
  have hle : bss.length ≤ (bss.flatMap (record k)).length := by
    induction bss with
    | nil => exact Nat.le_refl 0
    | cons bs bss ih =>
        have hrest := ih fun b hb => h b (List.mem_cons_of_mem bs hb)
        rw [List.flatMap_cons, List.length_append, List.length_cons, length_record]
        omega
  omega

end Devlib
