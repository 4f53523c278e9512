import Mathlib.Data.Fin.Tuple.Basic
import Mathlib.Data.Finset.Card
import Mathlib.Data.Fintype.Basic
import Mathlib.Data.Fintype.Card
import Mathlib.Logic.Function.Basic

/-!
# Keyed slot tables

A fixed number of slots, each of which may carry a key and a value. Values are
reported in rounds: within a round a key asks for the slot that already carries
it, or for the first slot that is free and was not handed out in this round; at
the end of the round every slot that was not reported is released.

A slot released only at the end of the round is not available to the keys that
replace it, so the room a round needs is the number of distinct keys of the
previous round and of this one together.

## Main definitions

* `SlotTable.slotFor`, `SlotTable.report`, `SlotTable.sync`: the operations.
* `SlotTable.Tracks t ks`: between rounds, the active slots carry the keys `ks`
  one to one.
* `SlotTable.tracks_round`: a round with room for it reports every key.
* `SlotTable.room_of_tracks`: a round that reports every key had room for it.
-/

namespace Devlib

universe u v

/-- One slot. `used` marks a slot reported in the current round. -/
structure Slot (κ : Type u) (ν : Type v) where
  active : Bool
  key : κ
  used : Bool
  val : ν

/-- A table of `n` slots. -/
abbrev SlotTable (n : ℕ) (κ : Type u) (ν : Type v) := Fin n → Slot κ ν

namespace SlotTable
variable {n : ℕ} {κ : Type u} {ν : Type v} [DecidableEq κ]

/-- The slot of `k`: the active slot carrying it, otherwise the first slot that
is neither active nor used in this round. -/
def slotFor (k : κ) (t : SlotTable n κ ν) : Option (Fin n) :=
  (Fin.find? fun i => (t i).active && decide ((t i).key = k)).or
    (Fin.find? fun i => !(t i).active && !(t i).used)

/-- Report value `v` under key `k`; without a slot nothing happens. -/
def report (t : SlotTable n κ ν) (c : κ × ν) : SlotTable n κ ν :=
  match slotFor c.1 t with
  | none => t
  | some i => Function.update t i ⟨true, c.1, true, c.2⟩

omit [DecidableEq κ] in
/-- End of a round: release the slots that were not reported. -/
def sync (t : SlotTable n κ ν) : SlotTable n κ ν :=
  fun i => { t i with active := (t i).active && (t i).used, used := false }

/-- The keys of the active slots. -/
def activeKeys (t : SlotTable n κ ν) : Finset κ :=
  (Finset.univ.filter fun i => (t i).active).image fun i => (t i).key

/-- No two active slots carry the same key. -/
def Distinct (t : SlotTable n κ ν) : Prop :=
  ∀ i j, (t i).active → (t j).active → (t i).key = (t j).key → i = j

/-- Between rounds: no slot is marked, and the active slots carry the keys in
`ks` one to one. -/
structure Tracks (t : SlotTable n κ ν) (ks : Finset κ) : Prop where
  distinct : Distinct t
  unused : ∀ i, (t i).used = false
  keys : activeKeys t = ks

theorem mem_activeKeys {t : SlotTable n κ ν} {k : κ} :
    k ∈ activeKeys t ↔ ∃ i, (t i).active ∧ (t i).key = k := by
  simp [activeKeys]

/-- Under `Distinct` a table holds as many keys as it has active slots. -/
theorem card_activeKeys {t : SlotTable n κ ν} (h : Distinct t) :
    (activeKeys t).card = (Finset.univ.filter fun i => (t i).active = true).card := by
  apply Finset.card_image_of_injOn
  intro i hi j hj hij
  exact h i j (by simpa using hi) (by simpa using hj) hij

/-! ## Looking up a slot -/

/-- A key that is present is found in the slot that carries it. -/
theorem slotFor_of_mem {t : SlotTable n κ ν} (h : Distinct t) {i : Fin n}
    (hi : (t i).active) : slotFor (t i).key t = some i := by
  have hfind : Fin.find? (fun j => (t j).active && decide ((t j).key = (t i).key)) = some i := by
    rw [Fin.find?_eq_some_iff]
    refine ⟨by simp [hi], ?_⟩
    intro j hj
    by_contra hne
    simp only [Bool.not_eq_false, Bool.and_eq_true, decide_eq_true_eq] at hne
    exact absurd (h j i hne.1 hi hne.2) (Fin.ne_of_lt hj)
  simp [slotFor, hfind]

/-- A new key gets a slot that is neither active nor used, if there is one. -/
theorem slotFor_of_notMem {t : SlotTable n κ ν} {k : κ} (hk : k ∉ activeKeys t)
    (hfree : ∃ i, (t i).active = false ∧ (t i).used = false) :
    ∃ i, slotFor k t = some i ∧ (t i).active = false ∧ (t i).used = false := by
  have hnone : Fin.find? (fun j => (t j).active && decide ((t j).key = k)) = none := by
    rw [Fin.find?_eq_none_iff]
    intro j
    rw [mem_activeKeys, not_exists] at hk
    simpa using hk j
  obtain ⟨j, hj, hju⟩ := hfree
  have hsome : (Fin.find? fun i => !(t i).active && !(t i).used).isSome :=
    Fin.isSome_find?_of_eq_true (i := j) (by simp [hj, hju])
  obtain ⟨i, hi⟩ := Option.isSome_iff_exists.mp hsome
  have hp := Fin.eq_true_of_find?_eq_some hi
  simp only [Bool.and_eq_true, Bool.not_eq_true'] at hp
  exact ⟨i, by simp [slotFor, hnone, hi], hp⟩

/-! ## One round -/

/-- In the middle of a round that began at `t₀`, the reports in `cs` made. -/
structure Mid (t₀ t : SlotTable n κ ν) (cs : List (κ × ν)) : Prop where
  distinct : Distinct t
  kept : ∀ i, (t₀ i).active → (t i).active ∧ (t i).key = (t₀ i).key
  unused : ∀ i, (t i).used = false → t i = t₀ i
  used : ∀ i, (t i).used → ∃ c ∈ cs, t i = ⟨true, c.1, true, c.2⟩
  reported : ∀ c ∈ cs, ∃ i, t i = ⟨true, c.1, true, c.2⟩

theorem mid_start {t₀ : SlotTable n κ ν} {ks : Finset κ} (h : Tracks t₀ ks) :
    Mid t₀ t₀ [] where
  distinct := h.distinct
  kept := fun _ hi => ⟨hi, rfl⟩
  unused := fun _ _ => rfl
  used := fun i hi => by rw [h.unused i] at hi; cases hi
  reported := by simp

/-- A slot that was active before or reported since carries its key. -/
theorem Mid.activeKeys_subset {t₀ t : SlotTable n κ ν} {cs : List (κ × ν)}
    (h : Mid t₀ t cs) : activeKeys t ⊆ activeKeys t₀ ∪ (cs.map Prod.fst).toFinset := by
  intro k hk
  obtain ⟨i, hi, rfl⟩ := mem_activeKeys.mp hk
  rw [Finset.mem_union]
  cases hu : (t i).used with
  | false =>
      left
      rw [h.unused i hu] at hi ⊢
      exact mem_activeKeys.mpr ⟨i, hi, rfl⟩
  | true =>
      right
      obtain ⟨c, hc, heq⟩ := h.used i hu
      rw [heq, List.mem_toFinset]
      exact List.mem_map.mpr ⟨c, hc, rfl⟩

/-- Room for one more key leaves a slot that is neither active nor used. -/
theorem Mid.exists_free {t₀ t : SlotTable n κ ν} {cs : List (κ × ν)} {k : κ}
    (h : Mid t₀ t cs) (hk : k ∉ activeKeys t)
    (hroom : (activeKeys t₀ ∪ (insert k (cs.map Prod.fst).toFinset)).card ≤ n) :
    ∃ i, (t i).active = false ∧ (t i).used = false := by
  have hsub : insert k (activeKeys t) ⊆ activeKeys t₀ ∪ insert k (cs.map Prod.fst).toFinset := by
    intro x hx
    rcases Finset.mem_insert.mp hx with rfl | hx
    · simp
    · have := h.activeKeys_subset hx
      simp only [Finset.mem_union, Finset.mem_insert] at this ⊢
      tauto
  have hlt : (Finset.univ.filter fun i => (t i).active = true).card < n := by
    have hcard := Finset.card_le_card hsub
    rw [Finset.card_insert_of_notMem hk, card_activeKeys h.distinct] at hcard
    omega
  obtain ⟨i, hi⟩ : ∃ i, (t i).active = false := by
    by_contra hall
    have huniv : (Finset.univ.filter fun i => (t i).active = true) = Finset.univ :=
      Finset.filter_true_of_mem fun i _ => by
        have := not_exists.mp hall i
        simpa using this
    rw [huniv, Finset.card_univ, Fintype.card_fin] at hlt
    exact lt_irrefl n hlt
  refine ⟨i, hi, ?_⟩
  cases hu : (t i).used with
  | false => rfl
  | true =>
      obtain ⟨c, _, heq⟩ := h.used i hu
      rw [heq] at hi
      cases hi

omit [DecidableEq κ] in
/-- A report into a slot that the round has not used yet: the slot of the key
itself, or a free one. -/
theorem Mid.update {t₀ t : SlotTable n κ ν} {cs : List (κ × ν)} {k : κ} {v : ν}
    (h : Mid t₀ t cs) (hk : k ∉ cs.map Prod.fst) {i : Fin n}
    (hi : (t i).active → (t i).key = k)
    (hother : ∀ j, (t j).active → (t j).key = k → j = i) :
    Mid t₀ (Function.update t i ⟨true, k, true, v⟩) (cs ++ [(k, v)]) := by
  have hi_unused : (t i).used = false := by
    by_contra hu
    obtain ⟨c, hc, heq⟩ := h.used i (by simpa using hu)
    have hkey : c.1 = k := by have := hi (by rw [heq]); rwa [heq] at this
    exact hk (List.mem_map.mpr ⟨c, hc, hkey⟩)
  refine ⟨?_, ?_, ?_, ?_, ?_⟩
  · intro a b ha hb hab
    by_cases hai : a = i <;> by_cases hbi : b = i
    · rw [hai, hbi]
    · subst hai
      simp only [Function.update_self, Function.update_of_ne hbi] at hab hb
      exact (hother b hb hab.symm).symm
    · subst hbi
      simp only [Function.update_self, Function.update_of_ne hai] at hab ha
      exact hother a ha hab
    · simp only [Function.update_of_ne hai, Function.update_of_ne hbi] at ha hb hab
      exact h.distinct a b ha hb hab
  · intro j hj
    have hkept := h.kept j hj
    by_cases hji : j = i
    · subst hji
      simp only [Function.update_self, true_and]
      rw [← hkept.2, hi hkept.1]
    · simpa only [Function.update_of_ne hji] using hkept
  · intro j hj
    by_cases hji : j = i
    · subst hji; simp at hj
    · simp only [Function.update_of_ne hji] at hj ⊢
      exact h.unused j hj
  · intro j hj
    by_cases hji : j = i
    · subst hji; exact ⟨(k, v), by simp, by simp⟩
    · simp only [Function.update_of_ne hji] at hj ⊢
      obtain ⟨c, hc, heq⟩ := h.used j hj
      exact ⟨c, List.mem_append_left _ hc, heq⟩
  · intro c hc
    rcases List.mem_append.mp hc with hc | hc
    · obtain ⟨j, hj⟩ := h.reported c hc
      have hji : j ≠ i := by rintro rfl; rw [hj] at hi_unused; cases hi_unused
      exact ⟨j, by rw [Function.update_of_ne hji, hj]⟩
    · rw [List.mem_singleton] at hc
      exact ⟨i, by rw [hc, Function.update_self]⟩

/-- One more report, with room for its key. -/
theorem Mid.report {t₀ t : SlotTable n κ ν} {cs : List (κ × ν)} {k : κ} {v : ν}
    (h : Mid t₀ t cs) (hk : k ∉ cs.map Prod.fst)
    (hroom : (activeKeys t₀ ∪ (insert k (cs.map Prod.fst).toFinset)).card ≤ n) :
    Mid t₀ (t.report (k, v)) (cs ++ [(k, v)]) := by
  by_cases hmem : k ∈ activeKeys t
  · obtain ⟨i, hi, rfl⟩ := mem_activeKeys.mp hmem
    simp only [SlotTable.report, slotFor_of_mem h.distinct hi]
    exact h.update hk (fun _ => rfl) (fun j hj hkey => h.distinct j i hj hi hkey)
  · obtain ⟨i, hslot, hact, _⟩ := slotFor_of_notMem hmem (h.exists_free hmem hroom)
    simp only [SlotTable.report, hslot]
    refine h.update hk (fun ha => by rw [hact] at ha; cases ha) ?_
    intro j hj hkey
    exact absurd (mem_activeKeys.mpr ⟨j, hj, hkey⟩) hmem

/-- All the reports of a round, with room for the keys of both rounds. -/
theorem mid_foldl {t₀ : SlotTable n κ ν} {ks : Finset κ} (h : Tracks t₀ ks)
    {cs : List (κ × ν)} (hnd : (cs.map Prod.fst).Nodup)
    (hroom : (ks ∪ (cs.map Prod.fst).toFinset).card ≤ n) :
    Mid t₀ (cs.foldl report t₀) cs := by
  -- Induction on the reports made so far: the last one comes with room for it.
  induction cs using List.reverseRecOn with
  | nil => exact mid_start h
  | append_singleton cs c ih =>
      rw [List.map_append, List.nodup_append] at hnd
      have hsub : (cs.map Prod.fst).toFinset ⊆ ((cs ++ [c]).map Prod.fst).toFinset := by
        intro x hx
        simp only [List.map_append, List.toFinset_append, Finset.mem_union]
        exact Or.inl hx
      have hmid := ih hnd.1
        (le_trans (Finset.card_le_card (Finset.union_subset_union_right hsub)) hroom)
      rw [List.foldl_append]
      refine hmid.report ?_ ?_
      · intro hc
        exact hnd.2.2 c.1 hc c.1 (by simp) rfl
      · rw [h.keys]
        convert hroom using 3
        ext x
        simp

/-- **A round with room reports every key.** After it the active slots carry the
reported keys one to one, each with its reported value. -/
theorem tracks_round {t₀ : SlotTable n κ ν} {ks : Finset κ} (h : Tracks t₀ ks)
    {cs : List (κ × ν)} (hnd : (cs.map Prod.fst).Nodup)
    (hroom : (ks ∪ (cs.map Prod.fst).toFinset).card ≤ n) :
    Tracks (cs.foldl report t₀).sync (cs.map Prod.fst).toFinset ∧
      ∀ c ∈ cs, ∃ i, (cs.foldl report t₀).sync i = ⟨true, c.1, false, c.2⟩ := by
  have hmid := mid_foldl h hnd hroom
  have hrep : ∀ c ∈ cs, ∃ i, (cs.foldl report t₀).sync i = ⟨true, c.1, false, c.2⟩ := by
    intro c hc
    obtain ⟨i, hi⟩ := hmid.reported c hc
    exact ⟨i, by simp [sync, hi]⟩
  refine ⟨⟨?_, fun _ => rfl, ?_⟩, hrep⟩
  · intro i j hi hj hij
    simp only [sync, Bool.and_eq_true] at hi hj hij
    exact hmid.distinct i j hi.1 hj.1 hij
  · ext k
    rw [mem_activeKeys, List.mem_toFinset, List.mem_map]
    constructor
    · rintro ⟨i, hi, rfl⟩
      simp only [sync, Bool.and_eq_true] at hi
      obtain ⟨c, hc, heq⟩ := hmid.used i hi.2
      exact ⟨c, hc, by simp [sync, heq]⟩
    · rintro ⟨c, hc, rfl⟩
      obtain ⟨i, hi⟩ := hrep c hc
      exact ⟨i, by rw [hi], by rw [hi]⟩

/-- A key reported in two consecutive rounds keeps its slot. -/
theorem round_keeps_slot {t₀ : SlotTable n κ ν} {ks : Finset κ} (h : Tracks t₀ ks)
    {cs : List (κ × ν)} (hnd : (cs.map Prod.fst).Nodup)
    (hroom : (ks ∪ (cs.map Prod.fst).toFinset).card ≤ n) {i : Fin n}
    (hi : (t₀ i).active) (hkey : (t₀ i).key ∈ cs.map Prod.fst) :
    ((cs.foldl report t₀).sync i).active ∧
      ((cs.foldl report t₀).sync i).key = (t₀ i).key := by
  have hmid := mid_foldl h hnd hroom
  obtain ⟨hact, hsame⟩ := hmid.kept i hi
  obtain ⟨c, hc, hck⟩ := List.mem_map.mp hkey
  obtain ⟨j, hj⟩ := hmid.reported c hc
  have hji : j = i := hmid.distinct j i (by rw [hj]) hact (by rw [hj, hsame, hck])
  subst hji
  exact ⟨by simp [sync, hj], by simp [sync, hsame]⟩

/-! ## The room is needed -/

/-- A slot found for a key is the key's own, or not active. -/
theorem slotFor_eq_some {t : SlotTable n κ ν} {k : κ} {i : Fin n}
    (h : slotFor k t = some i) : (t i).active = false ∨ (t i).key = k := by
  rw [slotFor] at h
  rw [Option.or_eq_some_iff] at h
  rcases h with h | ⟨_, h⟩
  · have hp := Fin.eq_true_of_find?_eq_some h
    simp only [Bool.and_eq_true, decide_eq_true_eq] at hp
    exact Or.inr hp.2
  · have hp := Fin.eq_true_of_find?_eq_some h
    simp only [Bool.and_eq_true, Bool.not_eq_true'] at hp
    exact Or.inl hp.1

/-- Within a round no key loses its slot. -/
theorem activeKeys_subset_report (t : SlotTable n κ ν) (c : κ × ν) :
    activeKeys t ⊆ activeKeys (t.report c) := by
  intro k hk
  obtain ⟨j, hj, rfl⟩ := mem_activeKeys.mp hk
  rw [report]
  cases hslot : slotFor c.1 t with
  | none => exact hk
  | some i =>
      by_cases hji : j = i
      · subst hji
        rcases slotFor_eq_some hslot with hfree | hkey
        · rw [hfree] at hj; cases hj
        · exact mem_activeKeys.mpr ⟨j, by simp, by simp [hkey]⟩
      · exact mem_activeKeys.mpr ⟨j, by simpa [hji] using hj, by simp [hji]⟩

theorem activeKeys_subset_foldl (t : SlotTable n κ ν) (cs : List (κ × ν)) :
    activeKeys t ⊆ activeKeys (cs.foldl report t) := by
  induction cs generalizing t with
  | nil => exact Finset.Subset.refl _
  | cons c cs ih => exact (activeKeys_subset_report t c).trans (ih (t.report c))

theorem activeKeys_sync_subset (t : SlotTable n κ ν) : activeKeys t.sync ⊆ activeKeys t := by
  intro k hk
  obtain ⟨i, hi, rfl⟩ := mem_activeKeys.mp hk
  simp only [sync, Bool.and_eq_true] at hi
  exact mem_activeKeys.mpr ⟨i, hi.1, rfl⟩

/-- **A round that reports every key had room.** The slots of the previous round
stay taken until its end, so both sets of keys hold slots at the same time. -/
theorem room_of_tracks {t₀ : SlotTable n κ ν} {ks : Finset κ} (h : Tracks t₀ ks)
    {cs : List (κ × ν)}
    (hround : Tracks (cs.foldl report t₀).sync (cs.map Prod.fst).toFinset) :
    (ks ∪ (cs.map Prod.fst).toFinset).card ≤ n := by
  have hsub : ks ∪ (cs.map Prod.fst).toFinset ⊆ activeKeys (cs.foldl report t₀) := by
    apply Finset.union_subset
    · rw [← h.keys]
      exact activeKeys_subset_foldl t₀ cs
    · rw [← hround.keys]
      exact activeKeys_sync_subset _
  calc (ks ∪ (cs.map Prod.fst).toFinset).card
      ≤ (activeKeys (cs.foldl report t₀)).card := Finset.card_le_card hsub
    _ ≤ (Finset.univ.filter fun i => (cs.foldl report t₀ i).active = true).card :=
        Finset.card_image_le
    _ ≤ (Finset.univ : Finset (Fin n)).card := Finset.card_filter_le _ _
    _ = n := by simp

end SlotTable
end Devlib
