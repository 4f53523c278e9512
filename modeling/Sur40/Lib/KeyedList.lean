import Mathlib.Data.List.Basic
import Mathlib.Data.List.Nodup

/-!
# Lists of keyed entries

A list in which every entry carries a key and is looked up by it. Entries are
touched in rounds: a key that has an entry updates it, a key without one gets a
new entry at the end. Whoever uses the list marks the entries that a round has
touched, and sweeps the others out by erasing the first of them again and again.

## Main definitions

* `KeyedList.touch`: update the entry of a key, or append one.
* `KeyedList.TouchedBy`: the list after a round, against the keys of the round.
* `KeyedList.TouchedBy.touch`: one more key.
* `KeyedList.sweep`: erase the first match until there is none.
* `KeyedList.sweep_spec`: what a sweep leaves.
-/

namespace Devlib

universe u v w

variable {α : Type u} {κ : Type v}

/-! ## The first match -/

/-- The list around its first match. -/
theorem KeyedList.exists_append_of_findIdx? {p : α → Bool} {l : List α} {i : ℕ}
    (h : l.findIdx? p = some i) :
    ∃ l₁ x l₂, l = l₁ ++ x :: l₂ ∧ l₁.length = i ∧ p x = true ∧ ∀ y ∈ l₁, p y = false := by
  obtain ⟨hi, hpi, hlt⟩ := List.findIdx?_eq_some_iff_getElem.mp h
  refine ⟨l.take i, l[i], l.drop (i + 1), by simp, by simp [Nat.le_of_lt hi], hpi, ?_⟩
  intro y hy
  obtain ⟨j, hj, rfl⟩ := List.mem_take_iff_getElem.mp hy
  simpa using hlt j (by omega)

theorem KeyedList.modify_append {l₁ l₂ : List α} {x : α} (f : α → α) :
    (l₁ ++ x :: l₂).modify l₁.length f = l₁ ++ f x :: l₂ := by
  induction l₁ with
  | nil => simp
  | cons y l₁ ih => simp [ih]

/-- An update of an entry that is there. -/
theorem KeyedList.modify_eq_set {l : List α} {i : ℕ} {a : α} (h : l[i]? = some a) (f : α → α) :
    l.modify i f = l.set i (f a) := by
  obtain ⟨hi, rfl⟩ := List.getElem?_eq_some_iff.mp h
  rw [List.modify_eq_take_cons_drop hi, List.set_eq_take_append_cons_drop, if_pos hi]

theorem KeyedList.eraseIdx_append {l₁ l₂ : List α} {x : α} :
    (l₁ ++ x :: l₂).eraseIdx l₁.length = l₁ ++ l₂ := by
  rw [List.eraseIdx_append_of_length_le (Nat.le_refl _)]
  simp

namespace KeyedList

/-- Erasing the first match leaves every other match, in order. -/
theorem filter_eraseIdx_findIdx? {p : α → Bool} {l : List α} {i : ℕ}
    (h : l.findIdx? p = some i) : ∃ x, l[i]? = some x ∧ p x = true ∧
      l.filter p = x :: (l.eraseIdx i).filter p ∧
      (l.eraseIdx i).filter (fun y => !p y) = l.filter (fun y => !p y) ∧
      (l.eraseIdx i).length < l.length := by
  obtain ⟨l₁, x, l₂, rfl, rfl, hpx, hl₁⟩ := exists_append_of_findIdx? h
  refine ⟨x, by simp, hpx, ?_, ?_, ?_⟩
  · rw [eraseIdx_append]
    have hnone : l₁.filter p = [] := by simpa using hl₁
    simp [hnone, hpx]
  · rw [eraseIdx_append]
    simp [hpx]
  · rw [eraseIdx_append]
    simp

/-! ## A sweep -/

section

variable {σ : Type w} {ρ ε : Type*}

/-- The first match is removed at most `n` times. -/
def sweep (list : σ → List α) (left : σ → α → Bool) (remove : ℕ → σ → σ) : ℕ → σ → σ
  | 0, s => s
  | n + 1, s =>
      match (list s).findIdx? (left s) with
      | none => s
      | some i => sweep list left remove n (remove i s)

/-- A removal erases the entry from the list and reports it, and changes nothing
else that the sweep reads or `rest` shows. -/
def Removes (list : σ → List α) (left : σ → α → Bool) (rest : σ → ρ) (out : σ → List ε)
    (label : α → ε) (remove : ℕ → σ → σ) : Prop :=
  ∀ s i a, (list s)[i]? = some a → list (remove i s) = (list s).eraseIdx i ∧
    left (remove i s) = left s ∧ rest (remove i s) = rest s ∧
    out (remove i s) = out s ++ [label a]

/-- A sweep reports the matches in the order of the list and keeps the others. -/
theorem sweep_spec {list : σ → List α} {left : σ → α → Bool} {rest : σ → ρ} {out : σ → List ε}
    {label : α → ε} {remove : ℕ → σ → σ} (hremove : Removes list left rest out label remove)
    (n : ℕ) {s : σ} (hn : (list s).length ≤ n) :
    list (sweep list left remove n s) = (list s).filter (fun a => !left s a) ∧
      rest (sweep list left remove n s) = rest s ∧
      out (sweep list left remove n s) = out s ++ ((list s).filter (left s)).map label := by
  induction n generalizing s with
  | zero =>
      have hnil := List.length_eq_zero_iff.mp (Nat.le_zero.mp hn)
      simp [sweep, hnil]
  | succ n ih =>
      cases hfirst : (list s).findIdx? (left s) with
      | none =>
          have hnone := List.findIdx?_eq_none_iff.mp hfirst
          have hkept : (list s).filter (fun a => !left s a) = list s :=
            List.filter_eq_self.mpr fun a ha => by simp [hnone a ha]
          have hgone : (list s).filter (left s) = [] :=
            List.filter_eq_nil_iff.mpr fun a ha => by simp [hnone a ha]
          simp [sweep, hfirst, hkept, hgone]
      | some i =>
          obtain ⟨a, ha, -, hgone, hkept, hlt⟩ := filter_eraseIdx_findIdx? hfirst
          obtain ⟨hlist, hleft, hrest, hout⟩ := hremove s i a ha
          have ih := ih (s := remove i s) (by rw [hlist]; omega)
          rw [hlist, hleft, hrest, hout, hkept] at ih
          simpa [sweep, hfirst, hgone] using ih

end

/-! ## Lookup -/

variable [DecidableEq κ] (key : α → κ)

/-- The position of the first entry under a key. -/
def position (k : κ) (l : List α) : Option ℕ := l.findIdx? (fun x => decide (key x = k))

/-- The entry of `k` is updated, or `a` is appended if there is none. -/
def touch (k : κ) (f : α → α) (a : α) (l : List α) : List α :=
  match position key k l with
  | some i => l.modify i f
  | none => l ++ [a]

variable {key}

theorem position_eq_none {k : κ} {l : List α} :
    position key k l = none ↔ k ∉ l.map key := by
  simp [position, List.findIdx?_eq_none_iff]

theorem position_eq_some {k : κ} {l : List α} {i : ℕ} (h : position key k l = some i) :
    ∃ l₁ x l₂, l = l₁ ++ x :: l₂ ∧ l₁.length = i ∧ key x = k := by
  obtain ⟨l₁, x, l₂, hl, hlength, hx, -⟩ := exists_append_of_findIdx? h
  exact ⟨l₁, x, l₂, hl, hlength, by simpa using hx⟩

theorem touch_of_position_eq_some {k : κ} {l : List α} {i : ℕ} (f : α → α) (a : α)
    (h : position key k l = some i) : touch key k f a l = l.modify i f := by
  simp [touch, h]

theorem touch_of_position_eq_none {k : κ} {l : List α} (f : α → α) (a : α)
    (h : position key k l = none) : touch key k f a l = l ++ [a] := by
  simp [touch, h]

/-- What a touch may put into the list. -/
theorem mem_of_mem_touch {k : κ} {f : α → α} {a x : α} {l : List α} (h : x ∈ touch key k f a l) :
    x ∈ l ∨ x = a ∨ ∃ y ∈ l, key y = k ∧ x = f y := by
  cases hpos : position key k l with
  | none =>
      rw [touch_of_position_eq_none f a hpos] at h
      rcases List.mem_append.mp h with h | h
      · exact .inl h
      · exact .inr (.inl (List.mem_singleton.mp h))
  | some i =>
      obtain ⟨l₁, y, l₂, rfl, rfl, hy⟩ := position_eq_some hpos
      rw [touch_of_position_eq_some f a hpos, modify_append] at h
      simp only [List.mem_append, List.mem_cons] at h
      rcases h with h | rfl | h
      · exact .inl (by simp [h])
      · exact .inr (.inr ⟨y, by simp, hy, rfl⟩)
      · exact .inl (by simp [h])

/-- What a touch makes of the entry of its key. -/
theorem mem_touch_self {k : κ} {f : α → α} {a x : α} {l : List α} (hnodup : (l.map key).Nodup)
    (h : x ∈ touch key k f a l) (hx : key x = k) :
    (x = a ∧ k ∉ l.map key) ∨ ∃ y ∈ l, key y = k ∧ x = f y := by
  cases hpos : position key k l with
  | none =>
      have hnew := position_eq_none.mp hpos
      rw [touch_of_position_eq_none f a hpos] at h
      rcases List.mem_append.mp h with h | h
      · exact absurd (hx ▸ List.mem_map_of_mem h) hnew
      · exact .inl ⟨List.mem_singleton.mp h, hnew⟩
  | some i =>
      obtain ⟨l₁, y, l₂, rfl, rfl, rfl⟩ := position_eq_some hpos
      rw [touch_of_position_eq_some f a hpos, modify_append] at h
      simp only [List.map_append, List.map_cons, List.nodup_append, List.nodup_cons] at hnodup
      simp only [List.mem_append, List.mem_cons] at h
      rcases h with h | rfl | h
      · exact absurd hx (hnodup.2.2 _ (List.mem_map_of_mem h) _ List.mem_cons_self)
      · exact .inr ⟨y, by simp, rfl, rfl⟩
      · exact absurd (hx ▸ List.mem_map_of_mem h) hnodup.2.1.1

/-! ## A round -/

/-- The list `l'` that a round of the keys `ks` has made of `l`; `marked` holds of
the entries the round has touched. -/
structure TouchedBy (key : α → κ) (marked : α → Prop) (ks : List κ) (l l' : List α) : Prop where
  nodup : (l'.map key).Nodup
  entered : ∀ k ∈ ks, k ∈ l'.map key
  marked_iff : ∀ x ∈ l', marked x ↔ key x ∈ ks
  others : ∀ x, key x ∉ ks → (x ∈ l' ↔ x ∈ l)

section

variable {marked : α → Prop} {ks : List κ} {l l' : List α}

omit [DecidableEq κ] in
/-- A round starts on a list without marks. -/
theorem TouchedBy.nil (hnodup : (l.map key).Nodup) (hmarked : ∀ x ∈ l, ¬ marked x) :
    TouchedBy key marked [] l l where
  nodup := hnodup
  entered := by simp
  marked_iff := by simpa using hmarked
  others := by simp

omit [DecidableEq κ] in
/-- A key that is new gets an entry at the end. -/
theorem TouchedBy.append (h : TouchedBy key marked ks l l') {a : α} (hnew : key a ∉ l'.map key)
    (ha : marked a) : TouchedBy key marked (ks ++ [key a]) l (l' ++ [a]) where
  nodup := by
    rw [List.map_append, List.nodup_append]
    refine ⟨h.nodup, List.nodup_singleton _, ?_⟩
    intro m hm n hn
    rw [List.map_singleton, List.mem_singleton] at hn
    rintro rfl
    exact hnew (hn ▸ hm)
  entered := by
    intro m hm
    rw [List.map_append, List.mem_append]
    rcases List.mem_append.mp hm with hm | hm
    · exact .inl (h.entered m hm)
    · exact .inr hm
  marked_iff := by
    intro x hx
    rcases List.mem_append.mp hx with hx | hx
    · have hne : key x ≠ key a := fun he => hnew (he ▸ List.mem_map_of_mem hx)
      simp [h.marked_iff x hx, hne]
    · rw [List.mem_singleton] at hx
      simp [hx, ha]
  others := by
    intro x hx
    simp only [List.mem_append, List.mem_singleton, not_or] at hx ⊢
    rw [h.others x hx.1, or_iff_left]
    rintro rfl
    exact hx.2 rfl

omit [DecidableEq κ] in
/-- The entry of a key is updated in its place. -/
theorem TouchedBy.modify {l₁ l₂ : List α} {y y' : α}
    (h : TouchedBy key marked ks l (l₁ ++ y :: l₂)) (hkey : key y' = key y) (hmark : marked y') :
    TouchedBy key marked (ks ++ [key y]) l (l₁ ++ y' :: l₂) := by
  have hmap : (l₁ ++ y' :: l₂).map key = (l₁ ++ y :: l₂).map key := by simp [hkey]
  -- no other entry carries the key
  have hne : ∀ x, x ∈ l₁ ∨ x ∈ l₂ → key x ≠ key y := by
    have hnodup := h.nodup
    simp only [List.map_append, List.map_cons, List.nodup_append, List.nodup_cons] at hnodup
    intro x hx he
    rcases hx with hx | hx
    · exact hnodup.2.2 _ (List.mem_map_of_mem hx) _ List.mem_cons_self he
    · exact hnodup.2.1.1 (he ▸ List.mem_map_of_mem hx)
  constructor
  · rw [hmap]
    exact h.nodup
  · intro m hm
    rw [hmap]
    rcases List.mem_append.mp hm with hm | hm
    · exact h.entered m hm
    · rw [List.mem_singleton] at hm
      simp [hm]
  · intro x hx
    simp only [List.mem_append, List.mem_cons] at hx
    rcases hx with hx | rfl | hx
    · rw [h.marked_iff x (by simp [hx])]
      simp [hne x (.inl hx)]
    · simp [hmark, hkey]
    · rw [h.marked_iff x (by simp [hx])]
      simp [hne x (.inr hx)]
  · intro x hx
    simp only [List.mem_append, List.mem_singleton, not_or] at hx
    rw [← h.others x hx.1]
    have hxy' : x ≠ y' := fun he => hx.2 (he ▸ hkey)
    have hxy : x ≠ y := fun he => hx.2 (he ▸ rfl)
    simp [hxy', hxy]

/-- One more key: the update keeps the key of the entry and marks it. -/
theorem TouchedBy.touch (h : TouchedBy key marked ks l l') {k : κ} {f : α → α} {a : α}
    (hf : ∀ x, key x = k → key (f x) = k ∧ marked (f x)) (ha : key a = k ∧ marked a) :
    TouchedBy key marked (ks ++ [k]) l (touch key k f a l') := by
  cases hpos : position key k l' with
  | none =>
      obtain ⟨rfl, hmark⟩ := ha
      rw [touch_of_position_eq_none f a hpos]
      exact h.append (position_eq_none.mp hpos) hmark
  | some i =>
      obtain ⟨l₁, y, l₂, rfl, rfl, rfl⟩ := position_eq_some hpos
      obtain ⟨hkey, hmark⟩ := hf y rfl
      rw [touch_of_position_eq_some f a hpos, modify_append]
      exact h.modify hkey hmark

end

end KeyedList

end Devlib
