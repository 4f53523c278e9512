import Mathlib.Data.List.Nodup

/-!
# Tables that follow messages

A table from keys to values, kept by messages of two kinds: one says which keys there are, the
other gives the value of a key. A report is spread over several rounds of messages, each of which
says again which keys there are.

## Main definitions

* `Replica.keep`, `Replica.assign`: the messages.
* `Replica.rounds_eq`: the rounds are like one.
* `Replica.shows_round`: the table behind a report on all keys.
-/

namespace Devlib

universe u v w
variable {κ : Type u} {ν : Type v} {α : Type w} [DecidableEq κ]

namespace Replica

/-- Only these keys are left. -/
def keep (alive : List κ) (t : κ → Option ν) (k : κ) : Option ν := if k ∈ alive then t k else none

/-- Records give the values of their keys. -/
def assign (key : α → κ) (value : α → ν) (t : κ → Option ν) : List α → κ → Option ν
  | [] => t
  | a :: as => assign key value (fun k => if k = key a then some (value a) else t k) as

variable {key : α → κ} {value : α → ν} {alive : List κ} {t : κ → Option ν} {as : List α}

theorem assign_append (t : κ → Option ν) (as bs : List α) :
    assign key value t (as ++ bs) = assign key value (assign key value t as) bs := by
  induction as generalizing t with
  | nil => rfl
  | cons a as ih => exact ih _

@[simp] theorem keep_keep (alive : List κ) (t : κ → Option ν) :
    keep alive (keep alive t) = keep alive t := by
  ext1 k
  rw [keep]
  split
  · rfl
  · rename_i hk
    rw [keep, if_neg hk]

/-- Records of keys that are left commute with the other message. -/
theorem keep_assign (has : ∀ a ∈ as, key a ∈ alive) :
    keep alive (assign key value t as) = assign key value (keep alive t) as := by
  induction as generalizing t with
  | nil => rfl
  | cons a as ih =>
      have ha := has a List.mem_cons_self
      have hkeep : (fun k => if k = key a then some (value a) else keep alive t k) =
          keep alive fun k => if k = key a then some (value a) else t k := by
        ext1 k
        by_cases hk : k = key a
        · rw [if_pos hk, keep, if_pos (hk ▸ ha), if_pos hk]
        · rw [if_neg hk, keep, keep, if_neg hk]
      rw [assign, assign, hkeep]
      exact ih fun a' ha' => has a' (List.mem_cons_of_mem a ha')

/-- A round says which keys there are, and gives values. -/
def round (key : α → κ) (value : α → ν) (alive : List κ) (t : κ → Option ν) (as : List α) :
    κ → Option ν := assign key value (keep alive t) as

/-- Several rounds are like one. -/
theorem rounds_eq {rounds : List (List α)} (hne : rounds ≠ [])
    (halive : ∀ as ∈ rounds, ∀ a ∈ as, key a ∈ alive) :
    rounds.foldl (round key value alive) t = round key value alive t rounds.flatten := by
  induction rounds generalizing t with
  | nil => exact absurd rfl hne
  | cons as rounds ih =>
      have has := halive as List.mem_cons_self
      cases rounds with
      | nil => rw [List.foldl_cons, List.foldl_nil, List.flatten_singleton]
      | cons bs rounds =>
          rw [List.foldl_cons, ih (List.cons_ne_nil _ _)
            fun as' has' => halive as' (List.mem_cons_of_mem as has')]
          rw [round, round, keep_assign has, keep_keep, ← assign_append, ← List.flatten_cons,
            round]

theorem assign_of_notMem {k : κ} (hk : k ∉ as.map key) : assign key value t as k = t k := by
  induction as generalizing t with
  | nil => rfl
  | cons a as ih =>
      rw [List.map_cons, List.mem_cons, not_or] at hk
      rw [assign, ih hk.2, if_neg hk.1]

theorem assign_of_mem (hnodup : (as.map key).Nodup) {a : α} (ha : a ∈ as) :
    assign key value t as (key a) = some (value a) := by
  induction as generalizing t with
  | nil => cases ha
  | cons b as ih =>
      rw [List.map_cons, List.nodup_cons] at hnodup
      rw [assign]
      rcases List.mem_cons.mp ha with rfl | ha
      · rw [assign_of_notMem hnodup.1, if_pos rfl]
      · exact ih hnodup.2 ha

/-- The table has the values of the records, and no other keys. -/
def Shows (key : α → κ) (value : α → ν) (t : κ → Option ν) (as : List α) : Prop :=
  (∀ a ∈ as, t (key a) = some (value a)) ∧ ∀ k, k ∉ as.map key → t k = none

theorem Shows.isSome_iff (h : Shows key value t as) (k : κ) :
    (t k).isSome ↔ k ∈ as.map key := by
  by_cases hk : k ∈ as.map key
  · rcases List.mem_map.mp hk with ⟨a, ha, rfl⟩
    simp [h.1 a ha, hk]
  · simp [h.2 k hk, hk]

/-- A report on all keys. -/
theorem shows_round (hnodup : (as.map key).Nodup) (t : κ → Option ν) :
    Shows key value (round key value (as.map key) t as) as := by
  constructor
  · intro a ha
    exact assign_of_mem hnodup ha
  · intro k hk
    rw [round, assign_of_notMem hk, keep, if_neg hk]

end Replica

end Devlib
