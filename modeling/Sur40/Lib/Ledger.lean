import Mathlib.Data.List.Basic
import Mathlib.Logic.Function.Basic

/-!
# Ledgers

What a program does to the resources it shares with its environment, as a list of operations:
it gets one, uses it, or gives it back. A resource is got when it is not held, and is used and
given back only while it is held; everything else is an error from which there is no return.
Whoever writes the operations down names the resources that a part of the program needs and
what it leaves of them, and the parts are put together by rules.

## Main definitions

* `Ledger.Op`, `Ledger.run`: operations on the resources that are held.
* `Ledger.Uses`: a part that only uses resources.
* `Ledger.Frees`: a part that uses resources, and gives some of them back.
* `Ledger.Frees.append`, `Ledger.Frees.flatMap`: parts one after the other.
-/

namespace Devlib

universe u
variable {ρ : Type u} [DecidableEq ρ]

namespace Ledger

inductive Op (ρ : Type u) where
  | acquire (r : ρ)
  | release (r : ρ)
  | access (r : ρ)
  deriving DecidableEq

/-- `none` is a resource that is got twice, or given back or used without being held. -/
def step (held : ρ → Bool) : Op ρ → Option (ρ → Bool)
  | .acquire r => if held r then none else some (Function.update held r true)
  | .release r => if held r then some (Function.update held r false) else none
  | .access r => if held r then some held else none

/-- All operations, up to the first error. -/
def run : List (Op ρ) → (ρ → Bool) → Option (ρ → Bool)
  | [], held => some held
  | op :: ops, held => (step held op).bind (run ops)

theorem run_append (ops ops' : List (Op ρ)) (held : ρ → Bool) :
    run (ops ++ ops') held = (run ops held).bind (run ops') := by
  induction ops generalizing held with
  | nil => rfl
  | cons op ops ih =>
      rw [List.cons_append, run, run, Option.bind_assoc]
      congr 1
      ext held' : 1
      exact ih held'

/-! ## Accesses -/

/-- Operations that only use what is held. -/
def Uses (held : ρ → Bool) (ops : List (Op ρ)) : Prop :=
  ∀ op ∈ ops, ∃ r, op = .access r ∧ held r = true

omit [DecidableEq ρ] in
theorem uses_access {held : ρ → Bool} {r : ρ} (hr : held r = true) : Uses held [.access r] := by
  intro op hop
  rw [List.mem_singleton.mp hop]
  exact ⟨r, rfl, hr⟩

omit [DecidableEq ρ] in
theorem Uses.append {held : ρ → Bool} {ops ops' : List (Op ρ)} (h : Uses held ops)
    (h' : Uses held ops') : Uses held (ops ++ ops') := by
  intro op hop
  rcases List.mem_append.mp hop with hop | hop
  · exact h op hop
  · exact h' op hop

/-- They have no effect. -/
theorem Uses.run {held : ρ → Bool} {ops : List (Op ρ)} (h : Uses held ops) :
    run ops held = some held := by
  induction ops with
  | nil => rfl
  | cons op ops ih =>
      rcases h op List.mem_cons_self with ⟨r, rfl, hr⟩
      rw [Ledger.run, step, if_pos hr, Option.bind_some]
      exact ih fun op hop => h op (List.mem_cons_of_mem _ hop)

/-! ## Parts of a program -/

/-- A part that uses the resources of `uses` and gives those of `rs` back, all of which are held. -/
def Frees (uses : ρ → Bool) (ops : List (Op ρ)) (rs : ρ → Bool) : Prop :=
  ∀ held : ρ → Bool, (∀ r, uses r = true → held r = true) → (∀ r, rs r = true → held r = true) →
    run ops held = some fun r => held r && !rs r

variable {uses : ρ → Bool} {ops ops' : List (Op ρ)} {rs rs' : ρ → Bool}

theorem frees_nil (uses : ρ → Bool) : Frees uses [] fun _ => false := by
  intro held _ _
  simp [run]

theorem frees_access {r : ρ} (hr : uses r = true) : Frees uses [.access r] fun _ => false := by
  intro held huses _
  simp [run, step, huses r hr]

theorem frees_release (uses : ρ → Bool) (r : ρ) :
    Frees uses [.release r] fun r' => decide (r' = r) := by
  intro held _ hheld
  have hr := hheld r (by simp)
  simp only [run, step, hr, if_true, Option.bind_some]
  congr 1
  ext r' : 1
  by_cases hr' : r' = r
  · simp [hr']
  · simp [hr']

/-- Two parts, of which the first one leaves what the second one needs. -/
theorem Frees.append (h : Frees uses ops rs) (h' : Frees uses ops' rs')
    (huses : ∀ r, uses r = true → rs r = false) (hdisjoint : ∀ r, rs' r = true → rs r = false) :
    Frees uses (ops ++ ops') fun r => rs r || rs' r := by
  intro held hheld hrs
  rw [run_append, h held hheld fun r hr => hrs r (by simp [hr]), Option.bind_some, h']
  · congr 1
    ext r : 1
    rw [Bool.not_or, Bool.and_assoc]
  · intro r hr
    simp [hheld r hr, huses r hr]
  · intro r hr
    simp [hrs r (by simp [hr]), hdisjoint r hr]

/-- One part for each entry of a list. -/
theorem Frees.flatMap {α : Type*} {l : List α} {f : α → List (Op ρ)} {rs : α → ρ → Bool}
    (h : ∀ a ∈ l, Frees uses (f a) (rs a)) (huses : ∀ a ∈ l, ∀ r, uses r = true → rs a r = false)
    (hdisjoint : l.Pairwise fun a b => ∀ r, rs b r = true → rs a r = false) :
    Frees uses (l.flatMap f) fun r => l.any fun a => rs a r := by
  induction l with
  | nil => exact frees_nil uses
  | cons a l ih =>
      rw [List.pairwise_cons] at hdisjoint
      simp only [List.flatMap_cons, List.any_cons]
      apply (h a List.mem_cons_self).append
      · exact ih (fun b hb => h b (List.mem_cons_of_mem a hb))
          (fun b hb => huses b (List.mem_cons_of_mem a hb)) hdisjoint.2
      · exact huses a List.mem_cons_self
      · intro r hr
        rcases List.any_eq_true.mp hr with ⟨b, hb, hr⟩
        exact hdisjoint.1 b hb r hr

/-- What is freed, in other words. -/
theorem Frees.congr (h : Frees uses ops rs) (heq : ∀ r, rs r = rs' r) : Frees uses ops rs' := by
  rw [← funext heq]
  exact h

end Ledger

end Devlib
