import Mathlib.Data.Nat.Notation

/-!
# Operations that throw

A machine whose operations succeed or throw, under a caller that catches what they throw and
goes on, and under one that does not. Two machines that agree on every operation agree on
every sequence.

## Main definitions

* `Throwing.run`, `Throwing.outcomes`: the state and what was thrown, when everything is caught.
* `Throwing.runAll`: up to the first exception.
* `Throwing.run_agrees`, `Throwing.runAll_agrees`: the simulation rules.
-/

namespace Devlib

universe u v w x
variable {σ : Type u} {τ : Type v} {ι : Type w} {ε : Type x}

namespace Throwing

/-- What is thrown leaves the state. -/
def step (f : σ → ι → Except ε σ) (s : σ) (i : ι) : σ :=
  match f s i with
  | .ok s' => s'
  | .error _ => s

def run (f : σ → ι → Except ε σ) (s : σ) (is : List ι) : σ := is.foldl (step f) s

def outcomes (f : σ → ι → Except ε σ) (s : σ) : List ι → List (Option ε)
  | [] => []
  | i :: is =>
      (match f s i with
        | .ok _ => none
        | .error e => some e) :: outcomes f (step f s i) is

def runAll (f : σ → ι → Except ε σ) (s : σ) : List ι → Except ε σ
  | [] => .ok s
  | i :: is => (f s i).bind fun s' => runAll f s' is

/-- Every operation of the sequence is allowed where it happens. -/
def AllowsAll (g : τ → ι → Except ε τ) (allows : τ → ι → Prop) (t : τ) : List ι → Prop
  | [] => True
  | i :: is => allows t i ∧ AllowsAll g allows (step g t i) is

/-- Every operation up to the first exception is allowed. -/
def AllowsUntil (g : τ → ι → Except ε τ) (allows : τ → ι → Prop) (t : τ) : List ι → Prop
  | [] => True
  | i :: is => allows t i ∧ ∀ t', g t i = .ok t' → AllowsUntil g allows t' is

/-- Both succeed in related states, or both throw the same. -/
def Agree (R : σ → τ → Prop) : Except ε σ → Except ε τ → Prop
  | .ok s, .ok t => R s t
  | .error e, .error e' => e = e'
  | _, _ => False

variable {f : σ → ι → Except ε σ} {g : τ → ι → Except ε τ} {R : σ → τ → Prop}
  {allows : τ → ι → Prop}

theorem Agree.of_ok {x : Except ε σ} {t : τ} (h : Agree R x (.ok t)) :
    ∃ s, x = .ok s ∧ R s t := by
  cases x with
  | error e => exact h.elim
  | ok s => exact ⟨s, rfl, h⟩

theorem Agree.of_error {x : Except ε σ} {e : ε} (h : Agree R x (.error e)) : x = .error e := by
  cases x with
  | error e' => exact congrArg Except.error h
  | ok s => exact h.elim

theorem Agree.step {s : σ} {t : τ} {i : ι} (h : Agree R (f s i) (g t i)) (hst : R s t) :
    R (step f s i) (step g t i) := by
  rw [Throwing.step, Throwing.step]
  revert h
  cases f s i <;> cases g t i <;> simp [Agree, hst]

/-- The caller catches. -/
theorem run_agrees (hstep : ∀ s t i, R s t → allows t i → Agree R (f s i) (g t i)) {s : σ} {t : τ}
    (hst : R s t) {is : List ι} (hall : AllowsAll g allows t is) :
    R (run f s is) (run g t is) ∧ outcomes f s is = outcomes g t is := by
  induction is generalizing s t with
  | nil => exact ⟨hst, rfl⟩
  | cons i is ih =>
      have hi := hstep s t i hst hall.1
      have hrest := ih (hi.step hst) hall.2
      refine ⟨hrest.1, ?_⟩
      rw [outcomes, outcomes, hrest.2]
      congr 1
      revert hi
      cases f s i <;> cases g t i <;> simp [Agree]

/-- The caller does not catch. -/
theorem runAll_agrees (hstep : ∀ s t i, R s t → allows t i → Agree R (f s i) (g t i)) {s : σ}
    {t : τ} (hst : R s t) {is : List ι} (hall : AllowsUntil g allows t is) :
    Agree R (runAll f s is) (runAll g t is) := by
  induction is generalizing s t with
  | nil => exact hst
  | cons i is ih =>
      have hi := hstep s t i hst hall.1
      have hrest := hall.2
      rw [runAll, runAll]
      revert hi
      cases f s i <;> cases hg : g t i
      · exact id
      · exact False.elim
      · exact False.elim
      · intro hi
        exact ih hi (hrest _ hg)

theorem runAll_append (s : σ) (is js : List ι) :
    runAll f s (is ++ js) = (runAll f s is).bind fun s' => runAll f s' js := by
  induction is generalizing s with
  | nil => rfl
  | cons i is ih =>
      rw [List.cons_append, runAll, runAll]
      cases f s i with
      | error e => rfl
      | ok s' => exact ih s'

end Throwing

end Devlib
