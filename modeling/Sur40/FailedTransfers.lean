import Sur40.SurfaceTransfers
import Mathlib.Tactic.IntervalCases

/-!
# Failed transfers

The transfer loops of the library look at the transferred count where they mean the
return code. A count is never negative, and a failed submission leaves the old one in
place, so a failure is counted as progress or makes the loop go round.

## Main definitions

* `Reliable`: a call ends, and reports success only after complete success.
* `AllSucceed`: no transfer has failed so far.
* `transfers_reliable_iff`: for which outcomes each of the four functions is reliable.
-/

namespace Sur40

open Devlib

/-- The first `n` transfers succeed. -/
def AllSucceed (ts : ℕ → BulkTransfer) (n : ℕ) : Prop := ∀ i < n, (ts i).ret = 0

theorem AllSucceed.mono {ts : ℕ → BulkTransfer} {m n : ℕ} (h : AllSucceed ts n) (hmn : m ≤ n) :
    AllSucceed ts m := fun i hi => h i (lt_of_lt_of_le hi hmn)

/-- The call ends; it returns a negative value if one of its transfers has failed, and its
success value only if all have succeeded and moved what was announced. -/
def Reliable {σ : Type} (L : TransferLoop BulkTransfer σ (Except ℤ ℤ))
    (p : σ × Option (Except ℤ ℤ)) (ts : ℕ → BulkTransfer) (Announced : ℕ → Prop) : Prop :=
  ∃ n r, L.Returns p ts n r ∧
    ((∃ i < n, (ts i).ret ≠ 0) → ∃ code, r = .error code ∧ code < 0) ∧
    ∀ value, r = .ok value → AllSucceed ts n ∧ Announced n

/-- The success values. -/
def IsSuccess (r : Except ℤ ℤ) : Prop := ∃ value, r = .ok value

section

variable {σ : Type} {L : TransferLoop BulkTransfer σ (Except ℤ ℤ)}
  {p : σ × Option (Except ℤ ℤ)} {ts : ℕ → BulkTransfer}

theorem Reliable.of_success {Announced : ℕ → Prop} {n : ℕ} {r : Except ℤ ℤ}
    (h : L.Returns p ts n r) (hts : AllSucceed ts n) (hannounced : Announced n) :
    Reliable L p ts Announced := by
  refine ⟨n, r, h, ?_, fun value _ => ⟨hts, hannounced⟩⟩
  rintro ⟨i, hi, hret⟩
  exact absurd (hts i hi) hret

/-- A call that never fails has to succeed. -/
theorem Reliable.success {Announced : ℕ → Prop} (h : Reliable L p ts Announced)
    (hnever : ∀ n code, (L.run (firsts ts n) p).2 ≠ some (.error code)) :
    ∃ n, AllSucceed ts n ∧ Announced n := by
  obtain ⟨n, r, hret, -, hok⟩ := h
  cases r with
  | error code => exact absurd hret.returned (hnever n code)
  | ok value => exact ⟨n, hok value rfl⟩

/-- A counting call is reliable if its transfers succeed and move enough. -/
theorem Reliable.of_counts {fits : BulkTransfer → ℕ → Prop} {pos : σ → ℕ} {amount : ℕ → ℕ}
    {total N : ℕ} (hts : L.Admissible fits p ts)
    (hstart : TransferLoop.CountsAt IsSuccess pos total 0 p)
    (hturn : ∀ n s, L.run (firsts ts n) p = (s, none) → pos s < total →
      fits (ts n) (L.request s) → (ts n).ret = 0 →
      TransferLoop.CountsAt IsSuccess pos total (pos s + amount n) (L.turn (ts n) s))
    (hok : AllSucceed ts N) (htotal : total ≤ ∑ i ∈ Finset.range N, amount i) :
    Reliable L p ts fun n => total ≤ ∑ i ∈ Finset.range n, amount i := by
  have hsteps : ∀ n < N, ∀ s, L.run (firsts ts n) p = (s, none) → pos s < total →
      TransferLoop.CountsAt IsSuccess pos total (pos s + amount n) (L.turn (ts n) s) := by
    intro n hn s hwaiting hlt
    have hfits := hts n (congrArg Prod.snd hwaiting)
    rw [hwaiting] at hfits
    exact hturn n s hwaiting hlt hfits (hok n hn)
  obtain ⟨n, r, hn, hret, -, hmoved⟩ := TransferLoop.exists_returns_of_total hstart hsteps htotal
  exact .of_success hret (hok.mono hn) hmoved

/-- The loop condition: below the end the call goes on, and behind it it succeeds. -/
theorem countsAt_loop {pos : σ → ℕ} {total k : ℕ} {s : σ} {below : Prop} [Decidable below]
    {value : ℤ} (hpos : pos s = k) (hbelow : below ↔ k < total) :
    TransferLoop.CountsAt IsSuccess pos total k (s, if below then none else some (.ok value)) := by
  refine ⟨hpos, ?_⟩
  by_cases h : below
  · exact .inl ⟨if_pos h, hbelow.mp h⟩
  · exact .inr ⟨.ok value, if_neg h, ⟨value, rfl⟩, not_lt.mp (hbelow.not.mp h)⟩

theorem loop_ne_error {below : Prop} [Decidable below] {value : ℤ} (code : ℤ) :
    (if below then none else some (Except.ok value)) ≠ some (.error code) := by
  split_ifs <;> simp

/-- A call none of whose turns fails never fails. -/
theorem run_ne_error {I : σ → Prop} (hstart : I p.1 ∧ ∀ code, p.2 ≠ some (.error code))
    (hturn : ∀ t s, I s → I (L.turn t s).1 ∧ ∀ code, (L.turn t s).2 ≠ some (.error code))
    (n : ℕ) (code : ℤ) : (L.run (firsts ts n) p).2 ≠ some (.error code) := by
  have hinv := L.run_firsts_invariant
    (I := fun _ q => I q.1 ∧ ∀ code, q.2 ≠ some (.error code)) hstart
    (fun n s _ h => hturn (ts n) s h.1) (fun _ _ _ _ h => h) n
  exact hinv.2 code

end

/-! ## Reading the FPGA memory -/

/-- What counts for `surface_read_ddr`. -/
def ReadComplete (ts : ℕ → BulkTransfer) (bufsize : UInt32) (n : ℕ) : Prop :=
  bufsize.toNat ≤ ∑ i ∈ Finset.range n, (ts i).moved

section

variable {buffer : List UInt8} {bufsize target blocksize : UInt32} {ts : ℕ → BulkTransfer}

/-- `surface_read_ddr` never notices a failure. -/
theorem surfaceReadDdr_ne_error (n : ℕ) (code : ℤ) :
    ((surfaceReadDdr bufsize blocksize).run (firsts ts n)
      (surfaceReadDdrStart buffer bufsize target)).2 ≠ some (.error code) := by
  refine run_ne_error (I := fun d => 0 ≤ d.result) ⟨le_rfl, loop_ne_error⟩ ?_ n code
  intro t d hd
  have hstored : ¬ t.stored d.result < 0 := not_lt.mpr (t.stored_nonneg hd)
  simp only [surfaceReadDdr, hstored, if_false]
  exact ⟨t.stored_nonneg hd, loop_ne_error⟩

/-- A transfer that succeeds advances the position by what it has moved. -/
theorem surfaceReadDdr_turn {d : ReadDdr} {t : BulkTransfer} (hlt : d.bufpos.toNat < bufsize.toNat)
    (hfits : t.FitsIn ((surfaceReadDdr bufsize blocksize).request d)) (hret : t.ret = 0) :
    TransferLoop.CountsAt IsSuccess (fun d : ReadDdr => d.bufpos.toNat) bufsize.toNat
      (d.bufpos.toNat + t.moved) ((surfaceReadDdr bufsize blocksize).turn t d) := by
  have hle : d.bufpos ≤ bufsize := UInt32.le_iff_toNat_le.mpr hlt.le
  have hrest := requestLength_ddrRest_le hle blocksize
  have hmoved := hfits.moved_le
  have hbound := bufsize.toNat_lt
  have hbufpos : (d.bufpos + UInt32.ofInt t.moved).toNat = d.bufpos.toNat + t.moved := by
    apply toNat_add_ofInt
    simp only [surfaceReadDdr] at hmoved
    omega
  have hnonneg : ¬ (t.moved : ℤ) < 0 := not_lt.mpr (Int.natCast_nonneg _)
  simp only [surfaceReadDdr, hfits.stored_eq hret, hnonneg, if_false]
  rw [← hbufpos]
  exact countsAt_loop rfl UInt32.lt_iff_toNat_lt

theorem surfaceReadDdr_reliable_iff
    (hts : (surfaceReadDdr bufsize blocksize).Admissible (fun t n => t.FitsIn n)
      (surfaceReadDdrStart buffer bufsize target) ts) :
    Reliable (surfaceReadDdr bufsize blocksize) (surfaceReadDdrStart buffer bufsize target) ts
        (ReadComplete ts bufsize) ↔
      ∃ n, AllSucceed ts n ∧ ReadComplete ts bufsize n := by
  constructor
  · intro h
    exact h.success surfaceReadDdr_ne_error
  · rintro ⟨N, hok, hcomplete⟩
    have hstart : TransferLoop.CountsAt IsSuccess (fun d : ReadDdr => d.bufpos.toNat)
        bufsize.toNat 0 (surfaceReadDdrStart buffer bufsize target) :=
      countsAt_loop rfl UInt32.lt_iff_toNat_lt
    refine .of_counts hts hstart ?_ hok hcomplete
    intro n d _ hlt hfits hret
    exact surfaceReadDdr_turn hlt hfits hret

end

/-! ## Writing the FPGA memory -/

/-- Headers and payloads alternate; the payloads count. -/
def payload (ts : ℕ → BulkTransfer) (i : ℕ) : ℕ := if i % 2 = 1 then (ts i).moved else 0

/-- What counts for `surface_write_ddr`. -/
def WriteComplete (ts : ℕ → BulkTransfer) (bufsize : UInt32) (n : ℕ) : Prop :=
  bufsize.toNat ≤ ∑ i ∈ Finset.range n, payload ts i

section

variable {buffer : List UInt8} {bufsize target blocksize : UInt32} {ts : ℕ → BulkTransfer}

/-- `surface_write_ddr` never notices a failure either. -/
theorem surfaceWriteDdr_ne_error (n : ℕ) (code : ℤ) :
    ((surfaceWriteDdr buffer bufsize blocksize).run (firsts ts n)
      (surfaceWriteDdrStart bufsize target)).2 ≠ some (.error code) := by
  refine run_ne_error (I := fun d => 0 ≤ d.result) ⟨le_rfl, loop_ne_error⟩ ?_ n code
  intro t d hd
  have hstored : ¬ t.stored d.result < 0 := not_lt.mpr (t.stored_nonneg hd)
  cases hheader : d.header with
  | none =>
      simp only [surfaceWriteDdr, hheader, hstored, if_false]
      exact ⟨t.stored_nonneg hd, by simp⟩
  | some header =>
      simp only [surfaceWriteDdr, hheader, hstored, if_false]
      exact ⟨t.stored_nonneg hd, loop_ne_error⟩

/-- A header goes out before every payload. -/
theorem surfaceWriteDdr_alternates {n : ℕ} {d : WriteDdr}
    (h : (surfaceWriteDdr buffer bufsize blocksize).run (firsts ts n)
      (surfaceWriteDdrStart bufsize target) = (d, none)) : d.header.isSome ↔ n % 2 = 1 := by
  have hinv : ∀ q, (surfaceWriteDdr buffer bufsize blocksize).run (firsts ts n)
      (surfaceWriteDdrStart bufsize target) = q → q.2 = none → (q.1.header.isSome ↔ n % 2 = 1) := by
    rintro q rfl
    refine (surfaceWriteDdr buffer bufsize blocksize).run_firsts_invariant
      (I := fun n q => q.2 = none → (q.1.header.isSome ↔ n % 2 = 1))
      (p := surfaceWriteDdrStart bufsize target)
      (by simp [surfaceWriteDdrStart, surfaceWriteDdrNext]) ?_ (by simp) n
    intro n d _ hd hnone
    have hparity := hd rfl
    cases hheader : d.header with
    | none =>
        have heven : n % 2 ≠ 1 := fun hodd => by simp [hheader] at hparity; omega
        simp only [surfaceWriteDdr, hheader]
        split_ifs
        · simp
          omega
        · simp
          omega
    | some header =>
        have hodd : n % 2 = 1 := hparity.mp (by simp [hheader])
        simp only [surfaceWriteDdr, hheader]
        split_ifs
        · simp
          omega
        · simp [surfaceWriteDdrNext]
          omega
  exact hinv _ h rfl

/-- A transfer that succeeds advances the position if it is a payload. -/
theorem surfaceWriteDdr_turn {n : ℕ} {d : WriteDdr} (hheader : d.header.isSome ↔ n % 2 = 1)
    (hlt : d.bufpos.toNat < bufsize.toNat)
    (hfits : (ts n).FitsOut ((surfaceWriteDdr buffer bufsize blocksize).request d))
    (hret : (ts n).ret = 0) :
    TransferLoop.CountsAt IsSuccess (fun d : WriteDdr => d.bufpos.toNat) bufsize.toNat
      (d.bufpos.toNat + payload ts n)
      ((surfaceWriteDdr buffer bufsize blocksize).turn (ts n) d) := by
  cases hd : d.header with
  | none =>
      have heven : n % 2 ≠ 1 := fun hodd => by simp [hd] at hheader; omega
      simp only [surfaceWriteDdr, hd] at hfits
      rw [surfaceWriteDdr_turn_header hd hfits hret, payload, if_neg heven]
      exact ⟨rfl, .inl ⟨rfl, hlt⟩⟩
  | some header =>
      have hodd : n % 2 = 1 := hheader.mp (by simp [hd])
      have hle : d.bufpos ≤ bufsize := UInt32.le_iff_toNat_le.mpr hlt.le
      have hrest := requestLength_ddrRest_le hle blocksize
      have hmoved := hfits.moved_le
      simp only [surfaceWriteDdr, hd] at hmoved
      have hbound := bufsize.toNat_lt
      have hbufpos : (d.bufpos + UInt32.ofInt (ts n).moved).toNat =
          d.bufpos.toNat + payload ts n := by
        rw [payload, if_pos hodd]
        exact toNat_add_ofInt (by omega)
      rw [surfaceWriteDdr_turn_payload hd hfits hret, ← hbufpos]
      exact countsAt_loop rfl UInt32.lt_iff_toNat_lt

theorem surfaceWriteDdr_reliable_iff
    (hts : (surfaceWriteDdr buffer bufsize blocksize).Admissible (fun t n => t.FitsOut n)
      (surfaceWriteDdrStart bufsize target) ts) :
    Reliable (surfaceWriteDdr buffer bufsize blocksize) (surfaceWriteDdrStart bufsize target) ts
        (WriteComplete ts bufsize) ↔
      ∃ n, AllSucceed ts n ∧ WriteComplete ts bufsize n := by
  constructor
  · intro h
    exact h.success surfaceWriteDdr_ne_error
  · rintro ⟨N, hok, hcomplete⟩
    have hstart : TransferLoop.CountsAt IsSuccess (fun d : WriteDdr => d.bufpos.toNat)
        bufsize.toNat 0 (surfaceWriteDdrStart bufsize target) :=
      countsAt_loop rfl UInt32.lt_iff_toNat_lt
    refine .of_counts hts hstart ?_ hok hcomplete
    intro n d hwaiting hlt hfits hret
    exact surfaceWriteDdr_turn (surfaceWriteDdr_alternates hwaiting) hlt hfits hret

end

/-! ## Reading a video frame -/

/-- The first transfer holds a header that announces an image of the right size. -/
def HeaderAccepted (t : BulkTransfer) (bufsize : UInt32) : Prop :=
  SurfaceImage.layout.size ≤ t.moved ∧
    (SurfaceImage.layout.decode t.data).magic = surfaceHeaderMagic ∧
    (SurfaceImage.layout.decode t.data).size = bufsize

/-- What counts for `surface_get_image`: the image and its header. -/
def ImageComplete (ts : ℕ → BulkTransfer) (bufsize : UInt32) (n : ℕ) : Prop :=
  bufsize.toNat + SurfaceImage.layout.size ≤ ∑ i ∈ Finset.range n, (ts i).moved

/-- The bytes that have been received. -/
def GetImage.received (g : GetImage) : ℕ :=
  if g.headerRead then g.bufpos.toNat + SurfaceImage.layout.size else 0

theorem GetImage.received_eq {g : GetImage} (hg : g.headerRead = true) :
    g.received = g.bufpos.toNat + SurfaceImage.layout.size := by
  rw [received, if_pos hg]

theorem surfaceGetImageNext_countsAt (bufsize : UInt32) {g : GetImage}
    (hg : g.headerRead = true) :
    TransferLoop.CountsAt IsSuccess GetImage.received (bufsize.toNat + SurfaceImage.layout.size)
      g.received (surfaceGetImageNext bufsize g) := by
  apply countsAt_loop rfl
  rw [UInt32.lt_iff_toNat_lt, GetImage.received_eq hg, Nat.add_lt_add_iff_right]

section

variable {buffer image : List UInt8} {bufsize : UInt32} {ts : ℕ → BulkTransfer}

/-- A first transfer without a proper header ends the call with an error. -/
theorem surfaceGetImage_turn_rejected {t : BulkTransfer} (hfits : t.FitsIn 512)
    (h : ¬ HeaderAccepted t bufsize) :
    ((surfaceGetImage bufsize).turn t (surfaceGetImageStart buffer image).1).2 =
      some (.error (-1)) := by
  have hmoved := hfits.moved_le
  have hsize : asSize t.moved = t.moved := asSize_natCast (by omega)
  rw [surfaceGetImage_turn_start, surfaceGetImageHeader]
  simp only [surfaceGetImageStart, t.stored_zero, hsize]
  by_cases hshort : t.moved < SurfaceImage.layout.size
  · rw [if_pos hshort]
  · have hheader := header_afterHeader buffer image hfits
      (not_lt.mp hshort)
    simp only [afterHeader] at hheader
    rw [if_neg hshort, hheader]
    by_cases hmagic : (SurfaceImage.layout.decode t.data).magic = surfaceHeaderMagic
    · rw [if_neg (not_not_intro hmagic), if_pos]
      intro hbufsize
      exact h ⟨not_lt.mp hshort, hmagic, hbufsize⟩
    · rw [if_pos hmagic]

/-- With a proper header the loop starts, whatever the return code was. -/
theorem surfaceGetImage_turn_accepted (buffer image : List UInt8) {t : BulkTransfer}
    (hfits : t.FitsIn 512) (h : HeaderAccepted t bufsize) :
    ∃ g, (surfaceGetImage bufsize).turn t (surfaceGetImageStart buffer image).1 =
        surfaceGetImageNext bufsize g ∧
      g.headerRead = true ∧ 0 ≤ g.result ∧ g.received = t.moved := by
  obtain ⟨hlong, hmagic, hbufsize⟩ := h
  have hmoved := hfits.moved_le
  rw [surfaceGetImage_turn_passes buffer image hfits hlong hmagic hbufsize]
  split_ifs with hmore
  · refine ⟨_, rfl, rfl, Int.natCast_nonneg _, ?_⟩
    have hrest : (t.moved : ℤ) - SurfaceImage.layout.size =
        ((t.moved - SurfaceImage.layout.size : ℕ) : ℤ) := by omega
    rw [GetImage.received_eq rfl, hrest, toNat_ofInt (by omega)]
    omega
  · refine ⟨_, rfl, rfl, Int.natCast_nonneg _, ?_⟩
    rw [GetImage.received_eq rfl, afterHeader, UInt32.toNat_zero]
    omega

theorem surfaceGetImage_turn_chunk {g : GetImage} (hg : g.headerRead = true)
    (t : BulkTransfer) :
    (surfaceGetImage bufsize).turn t g = surfaceGetImageChunk bufsize t g := by
  simp [surfaceGetImage, hg]

/-- Behind a proper header `surface_get_image` goes on until it has the image. -/
theorem surfaceGetImage_run
    (hts : (surfaceGetImage bufsize).Admissible (fun t n => t.FitsIn n)
      (surfaceGetImageStart buffer image) ts) (h : HeaderAccepted (ts 0) bufsize) (n : ℕ) :
    let q := (surfaceGetImage bufsize).run (firsts ts n) (surfaceGetImageStart buffer image)
    (n = 0 ∧ q = surfaceGetImageStart buffer image) ∨
      (q.1.headerRead = true ∧ 0 ≤ q.1.result ∧ ∀ code, q.2 ≠ some (.error code)) := by
  refine (surfaceGetImage bufsize).run_firsts_invariant
    (I := fun n q => (n = 0 ∧ q = surfaceGetImageStart buffer image) ∨
      (q.1.headerRead = true ∧ 0 ≤ q.1.result ∧ ∀ code, q.2 ≠ some (.error code)))
    (.inl ⟨rfl, rfl⟩) ?_ ?_ n
  · intro n g _ hg
    right
    rcases hg with ⟨rfl, hstart⟩ | ⟨hg, hresult, -⟩
    · obtain rfl : g = (surfaceGetImageStart buffer image).1 := congrArg Prod.fst hstart
      obtain ⟨g', hturn, hg', hresult, -⟩ :=
        surfaceGetImage_turn_accepted buffer image (hts 0 rfl) h
      rw [hturn]
      exact ⟨hg', hresult, loop_ne_error⟩
    · have hstored : ¬ (ts n).stored g.result < 0 := not_lt.mpr ((ts n).stored_nonneg hresult)
      rw [surfaceGetImage_turn_chunk hg, surfaceGetImageChunk]
      simp only [hstored, if_false]
      exact ⟨hg, (ts n).stored_nonneg hresult, loop_ne_error⟩
  · rintro n g r _ (⟨-, hstart⟩ | hg)
    · cases hstart
    · exact .inr hg

/-- A transfer that succeeds advances the position by what it has moved. -/
theorem surfaceGetImageChunk_countsAt {g : GetImage} {t : BulkTransfer}
    (hg : g.headerRead = true) (hlt : g.bufpos.toNat < bufsize.toNat)
    (hfits : t.FitsIn ((surfaceGetImage bufsize).request g)) (hret : t.ret = 0) :
    TransferLoop.CountsAt IsSuccess GetImage.received (bufsize.toNat + SurfaceImage.layout.size)
      (g.received + t.moved) ((surfaceGetImage bufsize).turn t g) := by
  have hstored := hfits.stored_eq hret g.result
  have hnonneg : ¬ (t.moved : ℤ) < 0 := by omega
  have hle : g.bufpos ≤ bufsize := UInt32.le_iff_toNat_le.mpr hlt.le
  have hmoved : t.moved ≤ bufsize.toNat - g.bufpos.toNat := by
    have hrequest := hfits.moved_le
    simp only [surfaceGetImage, hg, if_true] at hrequest
    rw [← UInt32.toNat_sub_of_le _ _ hle]
    calc
      t.moved ≤ requestLength (min (toInt32 (bufsize - g.bufpos).toNat) videoPacketSize) :=
        hrequest
      _ ≤ requestLength (toInt32 (bufsize - g.bufpos).toNat) :=
        Int.toNat_le_toNat (min_le_left _ _)
      _ ≤ (bufsize - g.bufpos).toNat := requestLength_toInt32_le _
  have hbound := bufsize.toNat_lt
  have hbufpos : (g.bufpos + UInt32.ofInt t.moved).toNat = g.bufpos.toNat + t.moved :=
    toNat_add_ofInt (by omega)
  let g' : GetImage := { g with
    image := storeBytes g.bufpos.toNat t.data g.image
    writes := g.writes ++ [(g.bufpos.toNat, t.data)]
    result := t.moved
    bufpos := g.bufpos + UInt32.ofInt t.moved }
  have hturn : (surfaceGetImage bufsize).turn t g = surfaceGetImageNext bufsize g' := by
    rw [surfaceGetImage_turn_chunk hg, surfaceGetImageChunk]
    simp [hstored, hnonneg, g']
  have hreceived : g'.received = g.received + t.moved := by
    rw [GetImage.received_eq (g := g') hg, GetImage.received_eq hg, hbufpos]
    omega
  rw [hturn, ← hreceived]
  exact surfaceGetImageNext_countsAt bufsize hg

theorem surfaceGetImage_reliable_iff
    (hts : (surfaceGetImage bufsize).Admissible (fun t n => t.FitsIn n)
      (surfaceGetImageStart buffer image) ts) :
    Reliable (surfaceGetImage bufsize) (surfaceGetImageStart buffer image) ts
        (ImageComplete ts bufsize) ↔
      ¬ HeaderAccepted (ts 0) bufsize ∨ ∃ n, AllSucceed ts n ∧ ImageComplete ts bufsize n := by
  have hfits : (ts 0).FitsIn 512 := hts 0 rfl
  constructor
  · intro h
    by_cases haccepted : HeaderAccepted (ts 0) bufsize
    · refine .inr (h.success fun n code => ?_)
      rcases surfaceGetImage_run hts haccepted n with ⟨-, hstart⟩ | ⟨-, -, hnever⟩
      · rw [hstart]
        simp [surfaceGetImageStart]
      · exact hnever code
    · exact .inl haccepted
  · intro h
    by_cases haccepted : HeaderAccepted (ts 0) bufsize
    · obtain ⟨N, hok, hcomplete⟩ := h.resolve_left (not_not_intro haccepted)
      have hstart : TransferLoop.CountsAt IsSuccess GetImage.received
          (bufsize.toNat + SurfaceImage.layout.size) 0 (surfaceGetImageStart buffer image) :=
        ⟨rfl, .inl ⟨rfl, by simp⟩⟩
      refine .of_counts hts hstart ?_ hok hcomplete
      intro n g hwaiting hlt hfitsn hret
      rcases hwaiting ▸ surfaceGetImage_run hts haccepted n with ⟨rfl, hg⟩ | ⟨hg, -, -⟩
      · obtain rfl : g = (surfaceGetImageStart buffer image).1 := congrArg Prod.fst hg
        obtain ⟨g', hturn, hg', -, hreceived⟩ :=
          surfaceGetImage_turn_accepted buffer image hfits haccepted
        have hcounts := surfaceGetImageNext_countsAt bufsize hg'
        rw [hreceived] at hcounts
        rw [hturn]
        simpa [GetImage.received, surfaceGetImageStart] using hcounts
      · rw [GetImage.received_eq hg] at hlt
        exact surfaceGetImageChunk_countsAt hg (Nat.lt_of_add_lt_add_right hlt) hfitsn hret
    · have hret : (surfaceGetImage bufsize).Returns (surfaceGetImageStart buffer image) ts 1
          (.error (-1)) := .of_turn rfl (surfaceGetImage_turn_rejected hfits haccepted)
      refine ⟨1, _, hret, fun _ => ⟨-1, rfl, by decide⟩, ?_⟩
      intro value hvalue
      cases hvalue

end

/-! ## Reading a touch frame -/

/-- The length that the function sees for packet `n`; that of the first packet is not
initialised, and if the submission of a later one fails the check fails as well. -/
def reportedLength (l : GetBlobsLocals) (ts : ℕ → BulkTransfer) : ℕ → ℤ
  | 0 => (ts 0).stored l.result
  | n + 1 => (ts (n + 1)).moved

/-- What is behind the header. -/
def packetBytes (l : GetBlobsLocals) (ts : ℕ → BulkTransfer) (n : ℕ) : ℤ :=
  toInt32 (reportedLength l ts n - SurfaceHeader.layout.size)

/-- A packet whose length passes the checks. -/
def PacketPasses (l : GetBlobsLocals) (ts : ℕ → BulkTransfer) (n : ℕ) : Prop :=
  0 ≤ packetBytes l ts n ∧ packetBytes l ts n % SurfaceBlob.layout.size = 0

/-- The number of blobs in the first `n` packets. -/
def blobsReported (l : GetBlobsLocals) (ts : ℕ → BulkTransfer) (n : ℕ) : ℕ :=
  ∑ i ∈ Finset.range n, (packetBytes l ts i / (SurfaceBlob.layout.size : ℤ)).toNat

/-- The number that the first packet announces. -/
def blobsAnnounced (l : GetBlobsLocals) (ts : ℕ → BulkTransfer) : ℕ :=
  (surfaceCount (storeBytes 0 (ts 0).data l.buffer)).toNat

/-- What counts for `surface_get_blobs`. -/
def BlobsComplete (l : GetBlobsLocals) (ts : ℕ → BulkTransfer) (n : ℕ) : Prop :=
  blobsAnnounced l ts ≤
    ∑ i ∈ Finset.range n, ((ts i).moved - SurfaceHeader.layout.size) / SurfaceBlob.layout.size

/-- The first `n` packets pass the checks, and the announced number is still ahead. -/
def BlobsGoOn (l : GetBlobsLocals) (ts : ℕ → BulkTransfer) (n : ℕ) : Prop :=
  ∀ m < n, PacketPasses l ts m ∧ blobsReported l ts (m + 1) < blobsAnnounced l ts

theorem foldl_surfaceCopyBlob_length (is : List ℕ) (g : GetBlobs) :
    (is.foldl surfaceCopyBlob g).outblob.length = g.outblob.length + is.length ∧
      (is.foldl surfaceCopyBlob g).needBlobs = g.needBlobs ∧
      (is.foldl surfaceCopyBlob g).result = g.result := by
  induction is generalizing g with
  | nil => simp
  | cons i is ih =>
      obtain ⟨hlength, hneed, hresult⟩ := ih (surfaceCopyBlob g i)
      have hcopy : (surfaceCopyBlob g i).outblob.length = g.outblob.length + 1 ∧
          (surfaceCopyBlob g i).needBlobs = g.needBlobs ∧
          (surfaceCopyBlob g i).result = g.result := by
        simp only [surfaceCopyBlob]
        split_ifs <;> simp
      rw [List.foldl_cons, hlength, hneed, hresult, hcopy.1, hcopy.2.1, hcopy.2.2,
        List.length_cons]
      exact ⟨by omega, rfl, rfl⟩

section

variable {t : BulkTransfer} {g : GetBlobs} {bytes : ℤ}

theorem surfaceGetBlobsTurn_eq (t : BulkTransfer) (g : GetBlobs) :
    surfaceGetBlobsTurn t g =
      let g₁ : GetBlobs := { g with
        buffer := storeBytes 0 t.data g.buffer
        result := toInt32 (t.stored g.result - SurfaceHeader.layout.size) }
      if g₁.result < 0 then (g₁, some g₁.result)
      else if g₁.result % SurfaceBlob.layout.size ≠ 0 then (g₁, some (-1))
      else
        let g₂ := (List.range (g₁.result / (SurfaceBlob.layout.size : ℤ)).toNat).foldl
          surfaceCopyBlob { g₁ with
            needBlobs := if g₁.needBlobs = -1 then ((surfaceCount g₁.buffer).toNat : ℤ)
              else g₁.needBlobs }
        if g₂.current < g₂.needBlobs then (g₂, none) else (g₂, some g₂.needBlobs) := rfl

/-- A length that fails the checks ends the call. -/
theorem surfaceGetBlobsTurn_fails
    (hbytes : toInt32 (t.stored g.result - SurfaceHeader.layout.size) = bytes)
    (h : ¬ (0 ≤ bytes ∧ bytes % SurfaceBlob.layout.size = 0)) :
    ∃ code < 0, (surfaceGetBlobsTurn t g).2 = some code := by
  rw [surfaceGetBlobsTurn_eq]
  simp only [hbytes]
  by_cases hneg : bytes < 0
  · exact ⟨bytes, hneg, by rw [if_pos hneg]⟩
  · refine ⟨-1, by decide, ?_⟩
    rw [if_neg hneg, if_pos fun hmod => h ⟨not_lt.mp hneg, hmod⟩]

/-- With one that passes them the blobs are copied. -/
theorem surfaceGetBlobsTurn_passes
    (hbytes : toInt32 (t.stored g.result - SurfaceHeader.layout.size) = bytes)
    (h : 0 ≤ bytes ∧ bytes % SurfaceBlob.layout.size = 0) :
    ∃ g', surfaceGetBlobsTurn t g =
        (g', if (g'.outblob.length : ℤ) < g'.needBlobs then none else some g'.needBlobs) ∧
      g'.needBlobs = (if g.needBlobs = -1 then
        ((surfaceCount (storeBytes 0 t.data g.buffer)).toNat : ℤ) else g.needBlobs) ∧
      g'.outblob.length =
        g.outblob.length + (bytes / (SurfaceBlob.layout.size : ℤ)).toNat ∧
      g'.result = bytes := by
  rw [surfaceGetBlobsTurn_eq]
  simp only [hbytes]
  rw [if_neg (not_lt.mpr h.1), if_neg (not_not_intro h.2)]
  obtain ⟨hlength, hneed, hresult⟩ := foldl_surfaceCopyBlob_length
    (List.range (bytes / (SurfaceBlob.layout.size : ℤ)).toNat)
    { g with
      buffer := storeBytes 0 t.data g.buffer
      result := bytes
      needBlobs := if g.needBlobs = -1 then
        ((surfaceCount (storeBytes 0 t.data g.buffer)).toNat : ℤ) else g.needBlobs }
  rw [List.length_range] at hlength
  exact ⟨_, (apply_ite (Prod.mk _) _ _ _).symm, hneed, hlength, hresult⟩

end

section

variable {l : GetBlobsLocals} {ts : ℕ → BulkTransfer} {maxBlobId : UInt16}

/-- The call before packet `n` comes in. -/
structure BlobsAt (l : GetBlobsLocals) (ts : ℕ → BulkTransfer) (n : ℕ) (g : GetBlobs) : Prop where
  copied : g.outblob.length = blobsReported l ts n
  need : (if g.needBlobs = -1 then
    ((surfaceCount (storeBytes 0 (ts n).data g.buffer)).toNat : ℤ) else g.needBlobs) =
      blobsAnnounced l ts
  /-- What the function takes for the length, if the submission fails, is as bad. -/
  length : ∃ bytes, toInt32 ((ts n).stored g.result - SurfaceHeader.layout.size) = bytes ∧
    (0 ≤ bytes ∧ bytes % SurfaceBlob.layout.size = 0 ↔ PacketPasses l ts n) ∧
    (PacketPasses l ts n → bytes = packetBytes l ts n)

theorem blobsAt_enter : BlobsAt l ts 0 (l.enter maxBlobId) := by
  refine ⟨?_, ?_, packetBytes l ts 0, rfl, Iff.rfl, fun _ => rfl⟩
  · simp [GetBlobsLocals.enter, blobsReported]
  · simp [GetBlobsLocals.enter, blobsAnnounced]

theorem toInt32_lt (x : ℤ) : toInt32 x < 2 ^ 31 := by
  rw [toInt32, Int.bmod_def]
  split_ifs <;> omega

/-- If the next submission fails, the length of this packet is taken again, less the
header, and that cannot pass. -/
theorem staleLength_fails {n : ℕ} (hpasses : PacketPasses l ts n) :
    ∃ bytes, toInt32 ((ts (n + 1)).stored (packetBytes l ts n) - SurfaceHeader.layout.size) =
        bytes ∧
      (0 ≤ bytes ∧ bytes % SurfaceBlob.layout.size = 0 ↔ PacketPasses l ts (n + 1)) ∧
      (PacketPasses l ts (n + 1) → bytes = packetBytes l ts (n + 1)) := by
  cases htransferred : (ts (n + 1)).transferred with
  | some m =>
      have hsame : packetBytes l ts (n + 1) =
          toInt32 ((ts (n + 1)).stored (packetBytes l ts n) - SurfaceHeader.layout.size) := by
        simp [packetBytes, reportedLength, BulkTransfer.stored, BulkTransfer.moved, htransferred]
      exact ⟨_, hsame.symm, Iff.rfl, fun _ => rfl⟩
  | none =>
      have hlt : packetBytes l ts n < 2 ^ 31 := toInt32_lt _
      have hpos := hpasses.1
      have hmod := hpasses.2
      have hstale : toInt32 ((ts (n + 1)).stored (packetBytes l ts n) -
          SurfaceHeader.layout.size) = packetBytes l ts n - 16 := by
        simp only [BulkTransfer.stored, htransferred, SurfaceHeader.layout_size]
        exact toInt32_of_range (by omega) (by omega)
      have hnext : packetBytes l ts (n + 1) = -16 := by
        simp [packetBytes, reportedLength, BulkTransfer.moved, htransferred]
        decide
      rw [SurfaceBlob.layout_size] at hmod
      refine ⟨_, hstale, ?_, ?_⟩
      · simp [PacketPasses, hnext]
        omega
      · simp [PacketPasses, hnext]

theorem BlobsAt.fails {n : ℕ} {g : GetBlobs} (h : BlobsAt l ts n g)
    (hfails : ¬ PacketPasses l ts n) :
    ∃ code < 0, (surfaceGetBlobsCall.turn (ts n) g).2 = some (.error code) := by
  obtain ⟨bytes, hbytes, hiff, -⟩ := h.length
  obtain ⟨code, hneg, hturn⟩ := surfaceGetBlobsTurn_fails hbytes (hiff.not.mpr hfails)
  exact ⟨code, hneg, by simp [surfaceGetBlobsCall, hturn, surfaceGetBlobsExit, hneg]⟩

theorem BlobsAt.passes {n : ℕ} {g : GetBlobs} (h : BlobsAt l ts n g)
    (hpasses : PacketPasses l ts n) :
    ∃ g', surfaceGetBlobsCall.turn (ts n) g =
        (g', if blobsReported l ts (n + 1) < blobsAnnounced l ts then none
          else some (.ok (blobsAnnounced l ts))) ∧
      BlobsAt l ts (n + 1) g' := by
  obtain ⟨bytes, hbytes, hiff, heq⟩ := h.length
  obtain ⟨g', hturn, hneed, hlength, hresult⟩ :=
    surfaceGetBlobsTurn_passes hbytes (hiff.mpr hpasses)
  rw [h.need] at hneed
  rw [heq hpasses] at hlength hresult
  have hcopied : g'.outblob.length = blobsReported l ts (n + 1) := by
    rw [hlength, h.copied, blobsReported, blobsReported, Finset.sum_range_succ]
  refine ⟨g', ?_, hcopied, ?_, ?_⟩
  · simp only [surfaceGetBlobsCall, hturn, hneed, hcopied, Nat.cast_lt]
    split_ifs
    · rfl
    · simp [surfaceGetBlobsExit]
  · rw [hneed, if_neg (by omega)]
  · rw [hresult]
    exact staleLength_fails hpasses

/-- While the packets pass and the announced number is ahead, the call goes on. -/
theorem surfaceGetBlobsCall_goesOn (maxBlobId : UInt16) {n : ℕ} (h : BlobsGoOn l ts n) :
    ∃ g, surfaceGetBlobsCall.run (firsts ts n) (l.enter maxBlobId, none) = (g, none) ∧
      BlobsAt l ts n g := by
  induction n with
  | zero => exact ⟨_, rfl, blobsAt_enter⟩
  | succ n ih =>
      obtain ⟨g, hrun, hg⟩ := ih fun m hm => h m (Nat.lt_succ_of_lt hm)
      obtain ⟨hpasses, hlt⟩ := h n (Nat.lt_succ_self n)
      obtain ⟨g', hturn, hg'⟩ := hg.passes hpasses
      refine ⟨g', ?_, hg'⟩
      rw [TransferLoop.run_firsts_succ, hrun, TransferLoop.run_cons_none, hturn, if_pos hlt,
        TransferLoop.run_nil]

/-- It goes on in no other case. -/
theorem blobsGoOn_of_waiting {n : ℕ}
    (h : (surfaceGetBlobsCall.run (firsts ts n) (l.enter maxBlobId, none)).2 = none) :
    BlobsGoOn l ts n := by
  induction n with
  | zero => exact fun m hm => absurd hm (Nat.not_lt_zero m)
  | succ n ih =>
      have hbefore := ih (surfaceGetBlobsCall.run_firsts_none (Nat.le_succ n) h)
      obtain ⟨g, hrun, hg⟩ := surfaceGetBlobsCall_goesOn maxBlobId hbefore
      rw [TransferLoop.run_firsts_succ, hrun, TransferLoop.run_cons_none,
        TransferLoop.run_nil] at h
      by_cases hpasses : PacketPasses l ts n
      · obtain ⟨g', hturn, -⟩ := hg.passes hpasses
        rw [hturn] at h
        by_cases hlt : blobsReported l ts (n + 1) < blobsAnnounced l ts
        · intro m hm
          rcases Nat.lt_succ_iff_lt_or_eq.mp hm with hm | rfl
          · exact hbefore m hm
          · exact ⟨hpasses, hlt⟩
        · simp [hlt] at h
      · obtain ⟨code, -, hturn⟩ := hg.fails hpasses
        rw [hturn] at h
        cases h

/-- Where the transfers succeed, the reported blobs have been received. -/
theorem blobsReported_eq
    (hts : surfaceGetBlobsCall.Admissible (fun t n => t.FitsIn n) (l.enter maxBlobId, none) ts)
    {n : ℕ} (hwaiting : BlobsGoOn l ts n) (hpasses : PacketPasses l ts n)
    (hok : AllSucceed ts (n + 1)) :
    blobsReported l ts (n + 1) =
      ∑ i ∈ Finset.range (n + 1),
        ((ts i).moved - SurfaceHeader.layout.size) / SurfaceBlob.layout.size := by
  refine Finset.sum_congr rfl fun i hi => ?_
  have hi' := Finset.mem_range.mp hi
  have hgoesOn : BlobsGoOn l ts i := fun m hm => hwaiting m (by omega)
  obtain ⟨g, hrun, -⟩ := surfaceGetBlobsCall_goesOn maxBlobId hgoesOn
  have hfits : (ts i).FitsIn 512 := hts i (congrArg Prod.snd hrun)
  have hmoved := hfits.moved_le
  have hreported : reportedLength l ts i = (ts i).moved := by
    cases i with
    | zero => exact hfits.stored_eq (hok 0 hi') _
    | succ i => rfl
  have hpass : PacketPasses l ts i := by
    rcases Nat.lt_succ_iff_lt_or_eq.mp hi' with hlt | rfl
    · exact (hwaiting i hlt).1
    · exact hpasses
  have hbytes : packetBytes l ts i = (ts i).moved - 16 := by
    rw [packetBytes, hreported, SurfaceHeader.layout_size]
    exact toInt32_of_range (by omega) (by omega)
  have hpos := hpass.1
  rw [hbytes] at hpos ⊢
  simp only [SurfaceBlob.layout_size, SurfaceHeader.layout_size]
  omega

theorem surfaceGetBlobs_reliable_iff
    (hts : surfaceGetBlobsCall.Admissible (fun t n => t.FitsIn n) (l.enter maxBlobId, none) ts) :
    Reliable surfaceGetBlobsCall (l.enter maxBlobId, none) ts (BlobsComplete l ts) ↔
      ∃ n, BlobsGoOn l ts n ∧ (¬ PacketPasses l ts n ∨
        (blobsAnnounced l ts ≤ blobsReported l ts (n + 1) ∧ AllSucceed ts (n + 1))) := by
  constructor
  · rintro ⟨n, r, hret, -, hsuccess⟩
    cases n with
    | zero => cases hret.returned
    | succ n =>
        have hgoesOn : BlobsGoOn l ts n :=
          blobsGoOn_of_waiting (hret.waiting n (Nat.lt_succ_self n))
        refine ⟨n, hgoesOn, ?_⟩
        by_cases hpasses : PacketPasses l ts n
        · obtain ⟨g, hrun, hg⟩ := surfaceGetBlobsCall_goesOn maxBlobId hgoesOn
          obtain ⟨g', hturn, -⟩ := hg.passes hpasses
          have hreturned := hret.returned
          rw [TransferLoop.run_firsts_succ, hrun, TransferLoop.run_cons_none, hturn,
            TransferLoop.run_nil] at hreturned
          by_cases hlt : blobsReported l ts (n + 1) < blobsAnnounced l ts
          · simp [hlt] at hreturned
          · rw [if_neg hlt] at hreturned
            exact .inr ⟨not_lt.mp hlt, (hsuccess _ (Option.some.inj hreturned).symm).1⟩
        · exact .inl hpasses
  · rintro ⟨n, hgoesOn, h⟩
    obtain ⟨g, hrun, hg⟩ := surfaceGetBlobsCall_goesOn maxBlobId hgoesOn
    by_cases hpasses : PacketPasses l ts n
    · obtain ⟨hle, hok⟩ := h.resolve_left (not_not_intro hpasses)
      obtain ⟨g', hturn, -⟩ := hg.passes hpasses
      have hret : surfaceGetBlobsCall.Returns (l.enter maxBlobId, none) ts (n + 1)
          (.ok (blobsAnnounced l ts)) := .of_turn hrun (by rw [hturn, if_neg (not_lt.mpr hle)])
      refine .of_success hret hok ?_
      rw [BlobsComplete, ← blobsReported_eq hts hgoesOn hpasses hok]
      exact hle
    · obtain ⟨code, hneg, hturn⟩ := hg.fails hpasses
      exact ⟨n + 1, _, .of_turn hrun hturn, fun _ => ⟨code, rfl, hneg⟩, nofun⟩

end

/-! ## The four functions -/

/-- **Reliable transfers.** A memory access is reliable exactly if no transfer fails
before all bytes have been moved; so is `surface_get_image`, unless the first transfer
lacks a proper header; and `surface_get_blobs`, unless a packet of impossible length
comes before the announced number of blobs. -/
theorem transfers_reliable_iff (buffer image : List UInt8) (bufsize target blocksize : UInt32)
    (l : GetBlobsLocals) (maxBlobId : UInt16) (ts : ℕ → BulkTransfer) :
    ((surfaceReadDdr bufsize blocksize).Admissible (fun t n => t.FitsIn n)
        (surfaceReadDdrStart buffer bufsize target) ts →
      (Reliable (surfaceReadDdr bufsize blocksize) (surfaceReadDdrStart buffer bufsize target) ts
          (ReadComplete ts bufsize) ↔
        ∃ n, AllSucceed ts n ∧ ReadComplete ts bufsize n)) ∧
    ((surfaceWriteDdr buffer bufsize blocksize).Admissible (fun t n => t.FitsOut n)
        (surfaceWriteDdrStart bufsize target) ts →
      (Reliable (surfaceWriteDdr buffer bufsize blocksize) (surfaceWriteDdrStart bufsize target) ts
          (WriteComplete ts bufsize) ↔
        ∃ n, AllSucceed ts n ∧ WriteComplete ts bufsize n)) ∧
    ((surfaceGetImage bufsize).Admissible (fun t n => t.FitsIn n)
        (surfaceGetImageStart buffer image) ts →
      (Reliable (surfaceGetImage bufsize) (surfaceGetImageStart buffer image) ts
          (ImageComplete ts bufsize) ↔
        ¬ HeaderAccepted (ts 0) bufsize ∨ ∃ n, AllSucceed ts n ∧ ImageComplete ts bufsize n)) ∧
    (surfaceGetBlobsCall.Admissible (fun t n => t.FitsIn n) (l.enter maxBlobId, none) ts →
      (Reliable surfaceGetBlobsCall (l.enter maxBlobId, none) ts (BlobsComplete l ts) ↔
        ∃ n, BlobsGoOn l ts n ∧ (¬ PacketPasses l ts n ∨
          (blobsAnnounced l ts ≤ blobsReported l ts (n + 1) ∧ AllSucceed ts (n + 1))))) := by
  refine ⟨?_, ?_, ?_, ?_⟩
  · intro hts
    exact surfaceReadDdr_reliable_iff hts
  · intro hts
    exact surfaceWriteDdr_reliable_iff hts
  · intro hts
    exact surfaceGetImage_reliable_iff hts
  · intro hts
    exact surfaceGetBlobs_reliable_iff hts

/-- One block, and then nothing but failed submissions. -/
def staleRead : ℕ → BulkTransfer
  | 0 => .received [1, 2]
  | _ + 1 => { ret := -1, transferred := none, data := [] }

theorem staleRead_admissible (bufsize target blocksize : UInt32)
    (h : 2 ≤ requestLength (toInt32 (ddrRest bufsize blocksize 0).toNat)) :
    (surfaceReadDdr bufsize blocksize).Admissible (fun t n => t.FitsIn n)
      (surfaceReadDdrStart [] bufsize target) staleRead := by
  intro n _
  cases n with
  | zero =>
      refine ⟨⟨fun _ => rfl, ?_⟩, rfl⟩
      simpa [surfaceReadDdr, surfaceReadDdrStart, surfaceReadDdrNext, staleRead] using h
  | succ n => exact ⟨⟨by simp [staleRead], Nat.zero_le _⟩, rfl⟩

/-- A packet that announces two blobs and holds none, and then nothing but failed submissions. -/
def stalePacket : ℕ → BulkTransfer
  | 0 => .received (1 :: 0 :: 2 :: List.replicate 13 0)
  | _ + 1 => { ret := -1, transferred := none, data := [] }

theorem stalePacket_admissible :
    surfaceGetBlobsCall.Admissible (fun t n => t.FitsIn n)
      (GetBlobsLocals.enter ⟨[], 0⟩ 0, none) stalePacket := by
  intro n _
  cases n with
  | zero => exact ⟨⟨fun _ => rfl, by decide⟩, rfl⟩
  | succ n => exact ⟨⟨by simp [stalePacket], Nat.zero_le _⟩, rfl⟩

theorem transfers_reliable_staleRead :
    (Reliable (surfaceReadDdr 2 2) (surfaceReadDdrStart [] 2 0) staleRead
        (ReadComplete staleRead 2) ↔
      ∃ n, AllSucceed staleRead n ∧ ReadComplete staleRead 2 n) ∧
    (Reliable surfaceGetBlobsCall (GetBlobsLocals.enter ⟨[], 0⟩ 0, none) stalePacket
        (BlobsComplete ⟨[], 0⟩ stalePacket) ↔
      ∃ n, BlobsGoOn ⟨[], 0⟩ stalePacket n ∧ (¬ PacketPasses ⟨[], 0⟩ stalePacket n ∨
        (blobsAnnounced ⟨[], 0⟩ stalePacket ≤ blobsReported ⟨[], 0⟩ stalePacket (n + 1) ∧
          AllSucceed stalePacket (n + 1)))) :=
  ⟨(transfers_reliable_iff [] [] 2 0 2 ⟨[], 0⟩ 0 staleRead).1
      (staleRead_admissible 2 0 2 (by decide)),
    (transfers_reliable_iff [] [] 2 0 2 ⟨[], 0⟩ 0 stalePacket).2.2.2 stalePacket_admissible⟩

/-- The second block is never read, and all four bytes are reported. -/
theorem not_reliable_staleRead :
    (surfaceReadDdr 4 2).Admissible (fun t n => t.FitsIn n) (surfaceReadDdrStart [] 4 0)
        staleRead ∧
      ¬ Reliable (surfaceReadDdr 4 2) (surfaceReadDdrStart [] 4 0) staleRead
        (ReadComplete staleRead 4) := by
  have hts := staleRead_admissible 4 0 2 (by decide)
  refine ⟨hts, fun h => ?_⟩
  obtain ⟨n, hok, hcomplete⟩ := (surfaceReadDdr_reliable_iff hts).mp h
  have hn : n ≤ 1 := by
    by_contra hlt
    exact absurd (hok 1 (by omega)) (by decide)
  interval_cases n <;> simp [ReadComplete, staleRead] at hcomplete

end Sur40
