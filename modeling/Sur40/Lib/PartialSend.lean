import Mathlib.Algebra.BigOperators.Group.List.Basic
import Mathlib.Algebra.Order.Ring.Nat
import Mathlib.Data.List.Basic
import Mathlib.Data.Int.Notation
import Mathlib.Logic.Basic

/-!
# Sending in pieces

A sender hands its bytes to a socket piece by piece. Each call takes some of them or
fails, and after a failure every further call fails. What the socket has got is then
determined by the bytes and the results of the calls.

## Main definitions

* `Sends`: what a sequence of calls does to the bytes that are left to send.
* `Sends.nil`, `Sends.append`, `Sends.failed`: the rules for a run of the sender.
* `Sends.eq_of_prefix`: two runs with the same answers send the same.
-/

namespace Devlib

universe u
variable {α : Type u}

/-- Of the bytes `before` and those `queued` in the meantime the calls have sent some, and
left `after`, unless one of them failed. -/
structure Sends (before queued after sent : List α) (results : List ℤ) : Prop where
  length_sent : sent.length = (results.map Int.toNat).sum
  sent_prefix : sent <+: before ++ queued
  whole : (∀ r ∈ results, 0 < r) → sent ++ after = before ++ queued
  sticky : results.Pairwise fun a b => a ≤ 0 → b ≤ 0

/-- Calls that fail take nothing. -/
theorem sum_toNat_eq_zero {results : List ℤ} (h : ∀ r ∈ results, r ≤ 0) :
    (results.map Int.toNat).sum = 0 := by
  apply List.sum_eq_zero
  intro n hn
  obtain ⟨r, hr, rfl⟩ := List.mem_map.mp hn
  exact Int.toNat_of_nonpos (h r hr)

namespace Sends

variable {before mid after new queued sent piece sent' : List α} {first results results' : List ℤ}

/-- Nothing has happened yet. -/
theorem nil (before : List α) : Sends before [] before [] [] where
  length_sent := rfl
  sent_prefix := List.nil_prefix
  whole _ := (List.append_nil before).symm
  sticky := .nil

/-- Calls that succeed, followed by others. -/
theorem append (hsent : piece ++ mid = before ++ new)
    (hlength : piece.length = (first.map Int.toNat).sum) (hfirst : ∀ r ∈ first, 0 < r)
    (h : Sends mid queued after sent results) :
    Sends before (new ++ queued) after (piece ++ sent) (first ++ results) where
  length_sent := by
    rw [List.length_append, List.map_append, List.sum_append, hlength, h.length_sent]
  sent_prefix := by
    rw [← List.append_assoc, ← hsent, List.append_assoc]
    exact (List.prefix_append_right_inj piece).mpr h.sent_prefix
  whole hall := by
    have hrest := h.whole fun r hr => hall r (List.mem_append_right _ hr)
    rw [List.append_assoc, hrest, ← List.append_assoc, hsent, List.append_assoc]
  sticky := by
    refine List.pairwise_append.mpr ⟨?_, h.sticky, fun a ha b _ hle => ?_⟩
    · refine List.pairwise_of_forall_mem_list fun a ha b _ hle => ?_
      exact absurd hle (Int.not_le.mpr (hfirst a ha))
    · exact absurd hle (Int.not_le.mpr (hfirst a ha))

/-- Calls that all fail. -/
theorem failed (before queued after : List α) (hne : results ≠ [])
    (hall : ∀ r ∈ results, r ≤ 0) : Sends before queued after [] results where
  length_sent := (sum_toNat_eq_zero hall).symm
  sent_prefix := List.nil_prefix
  whole hpos := by
    obtain ⟨r, hr⟩ := List.exists_mem_of_ne_nil results hne
    exact absurd (hall r hr) (Int.not_le.mpr (hpos r hr))
  sticky := List.pairwise_of_forall_mem_list fun _ _ b hb _ => hall b hb

/-- **The answers of the socket decide.** Two senders that are through with the same bytes
have sent the same, if the socket of the one has answered as that of the other. -/
theorem eq_of_prefix (h : Sends [] queued [] sent results) (h' : Sends [] queued [] sent' results')
    (hpre : results <+: results') : sent' = sent := by
  obtain ⟨tail, rfl⟩ := hpre
  have hsum : sent'.length = sent.length + (tail.map Int.toNat).sum := by
    rw [h'.length_sent, List.map_append, List.sum_append, h.length_sent]
  have hlength : sent'.length = sent.length := by
    by_cases hall : ∀ r ∈ results, 0 < r
    · have hwhole : sent = queued := by simpa using h.whole hall
      have hle := h'.sent_prefix.length_le
      rw [List.nil_append, ← hwhole] at hle
      omega
    · obtain ⟨r, hr, hfailed⟩ : ∃ r ∈ results, ¬0 < r := by simpa using hall
      have htail : ∀ b ∈ tail, b ≤ 0 := fun b hb =>
        (List.pairwise_append.mp h'.sticky).2.2 r hr b hb (Int.not_lt.mp hfailed)
      rw [hsum, sum_toNat_eq_zero htail, Nat.add_zero]
  have hprefix :=
    List.prefix_of_prefix_length_le h'.sent_prefix h.sent_prefix (Nat.le_of_eq hlength)
  exact hprefix.eq_of_length hlength

end Sends
end Devlib
