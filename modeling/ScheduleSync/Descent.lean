import Mathlib.Logic.Relation
import Mathlib.Data.List.Nodup
import Mathlib.Data.List.Perm.Subperm

/-! Lines. A relation that branches nowhere and whose steps raise a rank by one
leaves below any element a line: all its members are comparable, one to a rank. -/
namespace ScheduleSync

section Lines
open Relation
variable {α : Type*} {r : α → α → Prop} {rank : α → Nat} {a b o : α}

theorem rank_le_of_descends (hrank : ∀ a b, r a b → rank b = rank a + 1)
    (h : ReflTransGen r a b) : rank a ≤ rank b := by
  induction h with
  | refl => exact Nat.le_refl _
  | tail _ hstep ih =>
    have := hrank _ _ hstep
    omega

theorem eq_of_descends_of_rank (hrank : ∀ a b, r a b → rank b = rank a + 1)
    (h : ReflTransGen r a b) (heq : rank a = rank b) : a = b := by
  cases ReflTransGen.cases_head h with
  | inl hab => exact hab
  | inr hlater =>
    obtain ⟨c, hstep, hrest⟩ := hlater
    have hc := hrank _ _ hstep
    have hle := rank_le_of_descends hrank hrest
    omega

theorem eq_of_line (hunique : Relator.RightUnique r) (hrank : ∀ a b, r a b → rank b = rank a + 1)
    (ha : ReflTransGen r o a) (hb : ReflTransGen r o b) (heq : rank a = rank b) : a = b := by
  cases ReflTransGen.total_of_right_unique hunique ha hb with
  | inl hab => exact eq_of_descends_of_rank hrank hab heq
  | inr hba => exact (eq_of_descends_of_rank hrank hba heq.symm).symm

theorem length_le_of_line (rank : α → Nat) (hunique : Relator.RightUnique r)
    (hrank : ∀ a b, r a b → rank b = rank a + 1) {n : Nat}
    (hbound : ∀ d, ReflTransGen r o d → rank d ≤ n) {ds : List α} (hnodup : ds.Nodup)
    (hds : ∀ d ∈ ds, ReflTransGen r o d) : ds.length ≤ n + 1 := by
  have hranks : (ds.map rank).Nodup := by
    refine List.Nodup.map_on ?_ hnodup
    exact fun a ha b hb heq => eq_of_line hunique hrank (hds a ha) (hds b hb) heq
  have hsub : ds.map rank ⊆ List.range (n + 1) := by
    intro k hk
    obtain ⟨d, hd, rfl⟩ := List.mem_map.mp hk
    have := hbound d (hds d hd)
    rw [List.mem_range]
    omega
  have hlen := (List.subperm_of_subset hranks hsub).length_le
  simpa using hlen

end Lines
end ScheduleSync
