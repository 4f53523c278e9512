import Mathlib.Data.List.Basic
import Mathlib.Data.Nat.Notation

/-!
# Records in packets of bounded size

A loop that fills packets. Before every record it asks whether the packet is full, and closes it
if so; records that are not chosen are passed over. Closing a packet and adding a record can
fail.

## Main definitions

* `Packing.pack`: how the records are spread over the packets.
* `Packing.loop`: the loop, on any state.
* `Packing.loop_spec`: the loop spreads the records like this while every packet has room for
  one record.
* `Packing.loop_fails`: it fails if a packet with one record cannot be closed.
-/

namespace Devlib

universe u v w
variable {α : Type u} {σ : Type v} {ε : Type w}

namespace Packing

/-- The packets, when `current` is in the open one. -/
def pack (full : ℕ → Bool) (chosen : α → Bool) : List α → List α → List (List α)
  | current, [] => [current]
  | current, a :: as =>
      if full current.length then current :: pack full chosen (if chosen a then [a] else []) as
      else pack full chosen (if chosen a then current ++ [a] else current) as

variable {full : ℕ → Bool} {chosen : α → Bool}

theorem pack_ne_nil (current as : List α) : pack full chosen current as ≠ [] := by
  induction as generalizing current with
  | nil => exact List.cons_ne_nil _ _
  | cons a as ih =>
      rw [pack]
      split
      · exact List.cons_ne_nil _ _
      · exact ih _

/-- Every chosen record is in one packet, and the order is kept. -/
theorem flatten_pack (current as : List α) :
    (pack full chosen current as).flatten = current ++ as.filter chosen := by
  induction as generalizing current with
  | nil => simp [pack]
  | cons a as ih =>
      rw [pack]
      by_cases hchosen : chosen a = true
      · rw [List.filter_cons_of_pos hchosen, if_pos hchosen, if_pos hchosen]
        split
        · rw [List.flatten_cons, ih, List.singleton_append]
        · rw [ih, List.append_assoc, List.singleton_append]
      · rw [List.filter_cons_of_neg hchosen, if_neg hchosen, if_neg hchosen]
        split
        · rw [List.flatten_cons, ih, List.nil_append]
        · exact ih current

/-- No packet has more records than a packet that was not full can have got. -/
theorem length_le_of_mem_pack {bound : ℕ} (hbound : ∀ n, full n = false → n < bound)
    {current as : List α} (hpos : as.any chosen = true → 0 < bound)
    (hcurrent : current.length ≤ bound) :
    ∀ p ∈ pack full chosen current as, p.length ≤ bound := by
  induction as generalizing current with
  | nil =>
      intro p hp
      rw [List.mem_singleton.mp hp]
      exact hcurrent
  | cons a as ih =>
      have hrest : as.any chosen = true → 0 < bound := fun h => hpos (by simp [h])
      rw [pack]
      split
      · have hone : (if chosen a then [a] else []).length ≤ bound := by
          split
          · rename_i hchosen
            exact hpos (by simp [hchosen])
          · exact Nat.zero_le _
        intro p hp
        rcases List.mem_cons.mp hp with rfl | hp
        · exact hcurrent
        · exact ih hrest hone p hp
      · rename_i hfull
        have hlt := hbound _ (Bool.eq_false_iff.mpr hfull)
        apply ih hrest
        split
        · rw [List.length_append]
          exact hlt
        · exact hcurrent

/-! ## The loop -/

/-- The loop over the records. -/
def loop (isFull : σ → Bool) (close : σ → Except ε σ) (add : σ → α → Except ε σ)
    (chosen : α → Bool) : σ → List α → Except ε σ
  | s, [] => .ok s
  | s, a :: as =>
      (if isFull s then close s else .ok s).bind fun s =>
        (if chosen a then add s a else .ok s).bind fun s => loop isFull close add chosen s as

variable {isFull : σ → Bool} {close : σ → Except ε σ} {add : σ → α → Except ε σ}

/-- What the operations do to a state that has closed the packets `out` and has `current` in the
open one, where packets have room for `bound` records. -/
structure Packs (full : ℕ → Bool) (bound : ℕ) (isFull : σ → Bool) (close : σ → Except ε σ)
    (add : σ → α → Except ε σ) (Open : List (List α) → List α → σ → Prop) : Prop where
  isFull_eq : ∀ {out current s}, Open out current s → isFull s = full current.length
  close_ok : ∀ {out current s}, Open out current s → current.length ≤ bound →
    ∃ s', close s = .ok s' ∧ Open (out ++ [current]) [] s'
  add_ok : ∀ {out current s} (a : α), Open out current s → current.length < bound →
    ∃ s', add s a = .ok s' ∧ Open out (current ++ [a]) s'

/-- The loop spreads the records over the packets. -/
theorem loop_spec {bound : ℕ} {Open : List (List α) → List α → σ → Prop}
    (hpacks : Packs full bound isFull close add Open)
    (hbound : ∀ n, full n = false → n < bound) {out : List (List α)} {current as : List α} {s : σ}
    (hpos : as.any chosen = true → 0 < bound) (hopen : Open out current s)
    (hcurrent : current.length ≤ bound) :
    ∃ s' out' last, loop isFull close add chosen s as = .ok s' ∧ Open out' last s' ∧
      last.length ≤ bound ∧ out' ++ [last] = out ++ pack full chosen current as := by
  induction as generalizing out current s with
  | nil => exact ⟨s, out, current, rfl, hopen, hcurrent, rfl⟩
  | cons a as ih =>
      -- the packet in front of the record
      have hfront : ∃ s₁ out₁ current₁,
          (if isFull s then close s else .ok s) = .ok s₁ ∧ Open out₁ current₁ s₁ ∧
          current₁.length ≤ bound ∧ (chosen a = true → current₁.length < bound) ∧
          out ++ pack full chosen current (a :: as) =
            out₁ ++ pack full chosen (if chosen a then current₁ ++ [a] else current₁) as := by
        rw [hpacks.isFull_eq hopen, pack]
        cases hfull : full current.length with
        | true =>
            rcases hpacks.close_ok hopen hcurrent with ⟨s₁, hs₁, hopen₁⟩
            exact ⟨s₁, _, [], hs₁, hopen₁, Nat.zero_le _, fun h => hpos (by simp [h]), by simp⟩
        | false =>
            exact ⟨s, out, current, rfl, hopen, hcurrent, fun _ => hbound _ hfull, by simp⟩
      rcases hfront with ⟨s₁, out₁, current₁, hs₁, hopen₁, hle, hlt, heq⟩
      have hrest : as.any chosen = true → 0 < bound := fun h => hpos (by simp [h])
      rw [loop, hs₁, heq]
      by_cases hchosen : chosen a = true
      · rcases hpacks.add_ok a hopen₁ (hlt hchosen) with ⟨s₂, hs₂, hopen₂⟩
        have hlength : (current₁ ++ [a]).length ≤ bound := by
          rw [List.length_append]
          exact hlt hchosen
        simp only [Except.bind, if_pos hchosen, hs₂]
        exact ih hrest hopen₂ hlength
      · simp only [Except.bind, if_neg hchosen]
        exact ih hrest hopen₁ hle

/-- Where every packet is full from the start, and cannot be closed once it has a record, the
records do not go out. -/
theorem loop_fails {e : ε} {finish : σ → Except ε σ} (Empty One : σ → Prop)
    (hfull : ∀ s, Empty s ∨ One s → isFull s = true)
    (hclose : ∀ s, Empty s → close s = .error e ∨ ∃ s', close s = .ok s' ∧ Empty s')
    (hadd : ∀ s a, Empty s → add s a = .error e ∨ ∃ s', add s a = .ok s' ∧ One s')
    (hone : ∀ s, One s → close s = .error e ∧ finish s = .error e)
    {as : List α} (has : as.any chosen = true) {s : σ} (hs : Empty s) :
    (loop isFull close add chosen s as).bind finish = .error e := by
  induction as generalizing s with
  | nil => simp at has
  | cons a as ih =>
      rw [loop, hfull s (.inl hs), if_pos rfl]
      rcases hclose s hs with herror | ⟨s₁, hs₁, hempty⟩
      · rw [herror]
        rfl
      · rw [hs₁]
        simp only [Except.bind]
        by_cases hchosen : chosen a = true
        · rw [if_pos hchosen]
          rcases hadd s₁ a hempty with herror | ⟨s₂, hs₂, hone₂⟩
          · rw [herror]
          · rw [hs₂]
            cases as with
            | nil => exact (hone s₂ hone₂).2
            | cons b bs =>
                simp only [loop, hfull s₂ (.inr hone₂), if_true, (hone s₂ hone₂).1]
                rfl
        · rw [if_neg hchosen]
          have hrest : as.any chosen = true := by simpa [hchosen] using has
          exact ih hrest hempty

end Packing

end Devlib
