import Mathlib.Data.Option.Basic
import Mathlib.Data.Nat.Notation

/-!
# Guarded transition systems

A `Machine` takes an action in a state, or refuses it. A run is a list of
actions all of which were accepted. The module packages the induction over
runs once: an invariant of one step is an invariant of every run.

## Main definitions

* `Machine σ α`: a transition system with guarded actions.
* `Machine.run`: execute a list of actions.
* `Machine.run_invariant`, `Machine.run_invariant_of`: the invariant rules.
* `Machine.forall_run_prefix_cons`: what holds throughout a run, step by step.
* `Machine.run_measure`: the rule for progress.
-/

namespace Devlib

universe u v
variable {σ : Type u} {α : Type v}

/-- `step a s` is `none` where the action `a` is not enabled in `s`. -/
structure Machine (σ : Type u) (α : Type v) where
  step : α → σ → Option σ

namespace Machine

/-- Take the actions one after the other; `none` if one of them is refused. -/
def run (M : Machine σ α) : List α → σ → Option σ
  | [], s => some s
  | a :: as, s => (M.step a s).bind (run M as)

variable {M : Machine σ α}

@[simp] theorem run_nil (s : σ) : M.run [] s = some s := rfl

@[simp] theorem run_cons (a : α) (as : List α) (s : σ) :
    M.run (a :: as) s = (M.step a s).bind (M.run as) := rfl

theorem run_append (as bs : List α) (s : σ) :
    M.run (as ++ bs) s = (M.run as s).bind (M.run bs) := by
  induction as generalizing s with
  | nil => simp
  | cons a as ih =>
      simp only [List.cons_append, run_cons, Option.bind_assoc]
      congr 1
      funext s'
      exact ih s'

/-- The last step of a nonempty run. -/
theorem run_concat_eq_some {as : List α} {a : α} {s s' : σ} :
    M.run (as ++ [a]) s = some s' ↔ ∃ t, M.run as s = some t ∧ M.step a t = some s' := by
  rw [run_append]
  simp [Option.bind_eq_some_iff]

/-- What every step preserves among the actions satisfying `A`, every run of
such actions preserves. -/
theorem run_invariant_of {I : σ → Prop} {A : α → Prop}
    (hstep : ∀ a s s', A a → I s → M.step a s = some s' → I s') :
    ∀ {as : List α} {s s' : σ}, (∀ a ∈ as, A a) → I s → M.run as s = some s' → I s' := by
  intro as
  induction as with
  | nil =>
      intro s s' _ hs hrun
      rw [run_nil, Option.some.injEq] at hrun
      exact hrun ▸ hs
  | cons a as ih =>
      intro s s' hA hs hrun
      rw [run_cons, Option.bind_eq_some_iff] at hrun
      obtain ⟨t, hstep', hrun⟩ := hrun
      have ht : I t := hstep a s t (hA a List.mem_cons_self) hs hstep'
      exact ih (fun b hb => hA b (List.mem_cons_of_mem a hb)) ht hrun

/-- What every step preserves, every run preserves. -/
theorem run_invariant {I : σ → Prop} (hstep : ∀ a s s', I s → M.step a s = some s' → I s')
    {as : List α} {s s' : σ} (hs : I s) (hrun : M.run as s = some s') : I s' :=
  run_invariant_of (A := fun _ => True) (fun a s s' _ => hstep a s s') (fun _ _ => trivial)
    hs hrun

/-- What holds in every state of the empty run holds in the first one. -/
theorem forall_run_prefix_nil {P : σ → Prop} {s : σ} :
    (∀ pre s', pre <+: [] → M.run pre s = some s' → P s') ↔ P s := by
  constructor
  · intro h
    exact h [] s List.nil_prefix rfl
  · intro h pre s' hpre hrun
    rw [List.prefix_nil.mp hpre, run_nil, Option.some.injEq] at hrun
    exact hrun ▸ h

/-- The states of a run are the first one and those of what follows its first step. -/
theorem forall_run_prefix_cons {P : σ → Prop} {a : α} {as : List α} {s t : σ}
    (hstep : M.step a s = some t) :
    (∀ pre s', pre <+: a :: as → M.run pre s = some s' → P s') ↔
      P s ∧ ∀ pre s', pre <+: as → M.run pre t = some s' → P s' := by
  constructor
  · intro h
    refine ⟨h [] s List.nil_prefix rfl, fun pre s' hpre hrun => ?_⟩
    refine h (a :: pre) s' (List.cons_prefix_cons.mpr ⟨rfl, hpre⟩) ?_
    rw [run_cons, hstep]
    exact hrun
  · rintro ⟨hfirst, hrest⟩ pre s' hpre hrun
    cases pre with
    | nil =>
        rw [run_nil, Option.some.injEq] at hrun
        exact hrun ▸ hfirst
    | cons b pre =>
        obtain ⟨rfl, hpre'⟩ := List.cons_prefix_cons.mp hpre
        rw [run_cons, hstep] at hrun
        exact hrest pre s' hpre' hrun

/-- A measure that grows with every action satisfying `p` counts these actions. -/
theorem run_measure {I : σ → Prop} {f : σ → ℕ} {p : α → Bool}
    (hstep : ∀ a s s', I s → M.step a s = some s' → I s' ∧ f s + (p a).toNat ≤ f s')
    {as : List α} {s s' : σ} (hs : I s) (hrun : M.run as s = some s') :
    f s + as.countP p ≤ f s' := by
  induction as generalizing s with
  | nil =>
      rw [run_nil, Option.some.injEq] at hrun
      exact Nat.le_of_eq (congrArg f hrun)
  | cons a as ih =>
      rw [run_cons, Option.bind_eq_some_iff] at hrun
      obtain ⟨t, hstep', hrun⟩ := hrun
      obtain ⟨ht, hle⟩ := hstep a s t hs hstep'
      have hrest := ih ht hrun
      rw [List.countP_cons]
      cases hp : p a with
      | true =>
          rw [hp] at hle
          simp only [Bool.toNat_true, if_true] at hle ⊢
          omega
      | false =>
          rw [hp] at hle
          simp only [Bool.toNat_false, Bool.false_eq_true, if_false] at hle ⊢
          omega

end Machine
end Devlib
