import Mathlib.Algebra.BigOperators.Intervals
import Mathlib.Data.List.Range
import Mathlib.Data.Nat.Notation

/-!
# Calls that make one transfer after the other

A `TransferLoop` asks for a transfer, looks at its outcome, and either returns or
asks for the next one. Its surroundings are an infinite sequence of outcomes, of
which a call uses up an initial piece, or all of them if it never returns.

## Main definitions

* `TransferLoop τ σ ρ`: outcomes of type `τ`, variables of type `σ`, results of type `ρ`.
* `TransferLoop.run`: the call on a list of outcomes.
* `firsts`: an initial piece of a sequence.
* `TransferLoop.Returns`: the call returns after a number of transfers.
* `TransferLoop.Admissible`: the outcomes answer what the call asks for.
* `TransferLoop.run_firsts_invariant`: the induction over the transfers.
* `TransferLoop.CountsAt`: a call that waits until it has counted up to a total.
-/

namespace Devlib

universe u v w
variable {τ : Type u} {σ : Type v} {ρ : Type w}

/-- The next transfer that a call asks for has `request s` bytes; `turn` is what it
does with the outcome, with the value returned if it does return. -/
structure TransferLoop (τ : Type u) (σ : Type v) (ρ : Type w) where
  request : σ → ℕ
  turn : τ → σ → σ × Option ρ

/-- The first `n` outcomes of a sequence. -/
def firsts (ts : ℕ → τ) (n : ℕ) : List τ := (List.range n).map ts

@[simp] theorem firsts_zero (ts : ℕ → τ) : firsts ts 0 = [] := rfl

theorem firsts_succ (ts : ℕ → τ) (n : ℕ) : firsts ts (n + 1) = firsts ts n ++ [ts n] := by
  simp [firsts, List.range_succ]

theorem firsts_add (ts : ℕ → τ) (m n : ℕ) :
    firsts ts (m + n) = firsts ts m ++ firsts (fun i => ts (m + i)) n := by
  induction n with
  | zero => simp
  | succ n ih => rw [← Nat.add_assoc, firsts_succ, ih, firsts_succ, List.append_assoc]

theorem take_firsts (ts : ℕ → τ) {m n : ℕ} (h : m ≤ n) : (firsts ts n).take m = firsts ts m := by
  obtain ⟨d, rfl⟩ := Nat.exists_eq_add_of_le h
  have hlength : (firsts ts m).length = m := by simp [firsts]
  rw [firsts_add, List.take_left' hlength]

@[simp] theorem length_firsts (ts : ℕ → τ) (n : ℕ) : (firsts ts n).length = n := by
  simp [firsts]

theorem mem_firsts {ts : ℕ → τ} {n : ℕ} {t : τ} : t ∈ firsts ts n ↔ ∃ i < n, ts i = t := by
  simp [firsts]

namespace TransferLoop

variable (L : TransferLoop τ σ ρ)

/-- The call on a list of outcomes; those after its return are left alone. -/
def run : List τ → σ × Option ρ → σ × Option ρ
  | [], p => p
  | _ :: _, (s, some r) => (s, some r)
  | t :: ts, (s, none) => run ts (L.turn t s)

@[simp] theorem run_nil (p : σ × Option ρ) : L.run [] p = p := by
  rw [run]

@[simp] theorem run_some (ts : List τ) (s : σ) (r : ρ) : L.run ts (s, some r) = (s, some r) := by
  cases ts <;> rw [run]

@[simp] theorem run_cons_none (t : τ) (ts : List τ) (s : σ) :
    L.run (t :: ts) (s, none) = L.run ts (L.turn t s) := by
  rw [run]

theorem run_append (ts us : List τ) (p : σ × Option ρ) :
    L.run (ts ++ us) p = L.run us (L.run ts p) := by
  induction ts generalizing p with
  | nil => simp
  | cons t ts ih =>
      obtain ⟨s, _ | r⟩ := p
      · simp [ih]
      · simp

/-- One more outcome. -/
theorem run_firsts_succ (ts : ℕ → τ) (n : ℕ) (p : σ × Option ρ) :
    L.run (firsts ts (n + 1)) p = L.run [ts n] (L.run (firsts ts n) p) := by
  rw [firsts_succ, run_append]

/-- What has returned stays returned. -/
theorem run_firsts_of_some {ts : ℕ → τ} {m n : ℕ} {p : σ × Option ρ} {s : σ} {r : ρ}
    (h : L.run (firsts ts m) p = (s, some r)) (hmn : m ≤ n) :
    L.run (firsts ts n) p = (s, some r) := by
  obtain ⟨d, rfl⟩ := Nat.exists_eq_add_of_le hmn
  rw [firsts_add, run_append, h, run_some]

/-- What has not returned had not returned before. -/
theorem run_firsts_none {ts : ℕ → τ} {m n : ℕ} {p : σ × Option ρ} (hmn : m ≤ n)
    (h : (L.run (firsts ts n) p).2 = none) : (L.run (firsts ts m) p).2 = none := by
  rcases hrun : L.run (firsts ts m) p with ⟨s, _ | r⟩
  · rfl
  · rw [L.run_firsts_of_some hrun hmn] at h
    cases h

/-- The call returns `r` after exactly `n` transfers. -/
structure Returns (p : σ × Option ρ) (ts : ℕ → τ) (n : ℕ) (r : ρ) : Prop where
  returned : (L.run (firsts ts n) p).2 = some r
  waiting : ∀ m < n, (L.run (firsts ts m) p).2 = none

/-- Each outcome answers the request that the call makes there. -/
def Admissible (fits : τ → ℕ → Prop) (p : σ × Option ρ) (ts : ℕ → τ) : Prop :=
  ∀ n, (L.run (firsts ts n) p).2 = none → fits (ts n) (L.request (L.run (firsts ts n) p).1)

/-- Outcomes behind the return do not matter. -/
theorem admissible_of_returned {fits : τ → ℕ → Prop} {p : σ × Option ρ} {ts : ℕ → τ} {N : ℕ}
    {r : ρ} (hN : (L.run (firsts ts N) p).2 = some r)
    (h : ∀ n < N, fits (ts n) (L.request (L.run (firsts ts n) p).1)) :
    L.Admissible fits p ts := by
  intro n hwaiting
  apply h
  by_contra hle
  rw [L.run_firsts_none (not_lt.mp hle) hwaiting] at hN
  cases hN

variable {L}

/-- The induction over the transfers: `I n p` speaks about the call after `n` of them. -/
theorem run_firsts_invariant {I : ℕ → σ × Option ρ → Prop} {p : σ × Option ρ} {ts : ℕ → τ}
    (hstart : I 0 p)
    (hturn : ∀ n s, L.run (firsts ts n) p = (s, none) → I n (s, none) →
      I (n + 1) (L.turn (ts n) s))
    (hdone : ∀ n s r, L.run (firsts ts n) p = (s, some r) → I n (s, some r) →
      I (n + 1) (s, some r)) (n : ℕ) : I n (L.run (firsts ts n) p) := by
  induction n with
  | zero => simpa using hstart
  | succ n ih =>
      rw [run_firsts_succ]
      rcases hrun : L.run (firsts ts n) p with ⟨s, _ | r⟩
      · rw [hrun] at ih
        rw [run_cons_none, run_nil]
        exact hturn n s hrun ih
      · rw [hrun] at ih
        rw [run_some]
        exact hdone n s r hrun ih

/-- A call that counts, at `k`: below `total` it waits, from there on it has returned
with a result as wanted. -/
structure CountsAt (Wanted : ρ → Prop) (pos : σ → ℕ) (total k : ℕ) (p : σ × Option ρ) : Prop where
  position : pos p.1 = k
  state : (p.2 = none ∧ k < total) ∨ ∃ r, p.2 = some r ∧ Wanted r ∧ total ≤ k

/-- A call returns with the first transfer whose turn says so. -/
theorem Returns.of_turn {p : σ × Option ρ} {ts : ℕ → τ} {n : ℕ} {s : σ} {r : ρ}
    (hwaiting : L.run (firsts ts n) p = (s, none)) (hturn : (L.turn (ts n) s).2 = some r) :
    L.Returns p ts (n + 1) r := by
  constructor
  · rw [run_firsts_succ, hwaiting, run_cons_none, run_nil, hturn]
  · intro m hm
    exact L.run_firsts_none (Nat.le_of_lt_succ hm) (congrArg Prod.snd hwaiting)

/-- A counting call returns once the amounts reach the total. -/
theorem exists_returns_of_total {Wanted : ρ → Prop} {pos : σ → ℕ} {amount : ℕ → ℕ}
    {total N : ℕ} {p : σ × Option ρ} {ts : ℕ → τ} (hstart : CountsAt Wanted pos total 0 p)
    (hturn : ∀ n < N, ∀ s, L.run (firsts ts n) p = (s, none) → pos s < total →
      CountsAt Wanted pos total (pos s + amount n) (L.turn (ts n) s))
    (htotal : total ≤ ∑ i ∈ Finset.range N, amount i) :
    ∃ n r, n ≤ N ∧ L.Returns p ts n r ∧ Wanted r ∧ total ≤ ∑ i ∈ Finset.range n, amount i := by
  have hrun : ∀ n ≤ N,
      (∃ m r, m ≤ n ∧ L.Returns p ts m r ∧ Wanted r ∧ total ≤ ∑ i ∈ Finset.range m, amount i) ∨
      ∃ s, L.run (firsts ts n) p = (s, none) ∧ pos s = ∑ i ∈ Finset.range n, amount i ∧
        pos s < total := by
    intro n
    induction n with
    | zero =>
        intro _
        rcases hstart.state with ⟨hnone, hlt⟩ | ⟨r, hr, hwanted, hle⟩
        · exact .inr ⟨p.1, by rw [← hnone]; rfl, by simpa using hstart.position,
            hstart.position ▸ hlt⟩
        · exact .inl ⟨0, r, le_rfl, ⟨hr, nofun⟩, hwanted, by simpa using hle⟩
    | succ n ih =>
        intro hn
        rcases ih (Nat.le_of_succ_le hn) with ⟨m, r, hm, hret⟩ | ⟨s, hwaiting, hposition, hlt⟩
        · exact .inl ⟨m, r, Nat.le_succ_of_le hm, hret⟩
        · have hcounts := hturn n hn s hwaiting hlt
          rw [hposition, ← Finset.sum_range_succ] at hcounts
          rcases hcounts.state with ⟨hnone, hlt'⟩ | ⟨r, hr, hwanted, hle⟩
          · refine .inr ⟨(L.turn (ts n) s).1, ?_, hcounts.position, hcounts.position ▸ hlt'⟩
            rw [run_firsts_succ, hwaiting, run_cons_none, run_nil, ← hnone]
          · exact .inl ⟨n + 1, r, le_rfl, .of_turn hwaiting hr, hwanted, hle⟩
  rcases hrun N le_rfl with h | ⟨s, -, hposition, hlt⟩
  · exact h
  · omega

end TransferLoop
end Devlib
