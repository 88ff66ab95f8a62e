import Mathlib.Data.List.Induction
import TypedClient.Mapping

namespace TypedClient

theorem eraseDups_concat (names : List String) (name : String) :
    (names ++ [name]).eraseDups =
      if name ∈ names then names.eraseDups else names.eraseDups ++ [name] := by
  rw [List.eraseDups_append]
  by_cases h : name ∈ names
  · simp [List.removeAll, h]
  · simp [List.removeAll, h, List.eraseDups_cons]

theorem nodup_eraseDups (names : List String) : names.eraseDups.Nodup := by
  induction names using List.reverseRecOn with
  | nil => simp
  | append_singleton names name ih =>
    rw [eraseDups_concat]
    split
    next => exact ih
    next h =>
      apply List.nodup_append.mpr
      refine ⟨ih, by simp, ?_⟩
      intro x hx y hy he
      rw [List.mem_singleton] at hy
      subst hy he
      exact h (List.mem_eraseDups.mp hx)

theorem distinct_eq_eraseDups (names : List String) : distinct names = names.eraseDups := by
  induction names using List.reverseRecOn with
  | nil => rfl
  | append_singleton names name ih =>
    have hstep : distinct (names ++ [name]) =
        if name ∈ distinct names then distinct names else distinct names ++ [name] := by
      rw [distinct, List.foldl_append]
      rfl
    rw [hstep, ih, eraseDups_concat]
    simp only [List.mem_eraseDups]

theorem mem_distinct {names : List String} {name : String} :
    name ∈ distinct names ↔ name ∈ names := by
  rw [distinct_eq_eraseDups, List.mem_eraseDups]

end TypedClient
