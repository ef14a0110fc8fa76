import Mathlib.Data.List.Infix
import Mathlib.Data.List.Nodup

/-! Lists that keep the first entry of every key, as an insert that ignores conflicts does
it to a table. Entries are taken in one by one; taking them in again changes nothing, so it
does not matter where an interrupted pass is taken up. -/
namespace ScheduleSync

section KeepFirst
variable {α κ : Type*} [DecidableEq κ] {key : α → κ} {xs as bs : List α} {a : α} {k : κ}

def absorb (key : α → κ) (xs : List α) (a : α) : List α :=
  if key a ∈ xs.map key then xs else xs ++ [a]

def absorbAll (key : α → κ) (xs as : List α) : List α := as.foldl (absorb key) xs

@[simp] theorem absorbAll_nil : absorbAll key xs [] = xs := rfl
@[simp] theorem absorbAll_cons : absorbAll key xs (a :: as) = absorbAll key (absorb key xs a) as := rfl

theorem absorbAll_append : absorbAll key xs (as ++ bs) = absorbAll key (absorbAll key xs as) bs :=
  List.foldl_append

theorem absorb_known (h : key a ∈ xs.map key) : absorb key xs a = xs := if_pos h

theorem absorb_new (h : key a ∉ xs.map key) : absorb key xs a = xs ++ [a] := if_neg h

theorem mem_keys_absorb : k ∈ (absorb key xs a).map key ↔ k ∈ xs.map key ∨ k = key a := by
  by_cases h : key a ∈ xs.map key
  · rw [absorb_known h]
    constructor
    · exact Or.inl
    · rintro (hk | rfl)
      · exact hk
      · exact h
  · rw [absorb_new h]
    simp

theorem mem_keys_absorbAll : k ∈ (absorbAll key xs as).map key ↔ k ∈ xs.map key ∨ k ∈ as.map key := by
  induction as generalizing xs with
  | nil => simp
  | cons a as ih =>
    rw [absorbAll_cons, ih, mem_keys_absorb, List.map_cons, List.mem_cons]
    exact or_assoc

theorem mem_absorbAll (h : a ∈ absorbAll key xs as) : a ∈ xs ∨ a ∈ as := by
  induction as generalizing xs with
  | nil => exact .inl h
  | cons b as ih =>
    cases ih h with
    | inl hmem =>
      unfold absorb at hmem
      split_ifs at hmem
      · exact .inl hmem
      · cases List.mem_append.mp hmem with
        | inl hold => exact .inl hold
        | inr hnew =>
          rw [List.mem_singleton.mp hnew]
          exact .inr List.mem_cons_self
    | inr hmem => exact .inr (List.mem_cons_of_mem _ hmem)

theorem absorbAll_known (h : ∀ a ∈ as, key a ∈ xs.map key) : absorbAll key xs as = xs := by
  induction as with
  | nil => rfl
  | cons a as ih =>
    obtain ⟨ha, has⟩ := List.forall_mem_cons.mp h
    rw [absorbAll_cons, absorb_known ha, ih has]

theorem nodup_keys_absorb (h : (xs.map key).Nodup) : ((absorb key xs a).map key).Nodup := by
  by_cases ha : key a ∈ xs.map key
  · rwa [absorb_known ha]
  · rw [absorb_new ha, List.map_append]
    exact h.append (List.nodup_singleton _) (List.disjoint_singleton.mpr ha)

theorem nodup_keys_absorbAll (h : (xs.map key).Nodup) : ((absorbAll key xs as).map key).Nodup := by
  induction as generalizing xs with
  | nil => exact h
  | cons a as ih => exact ih (nodup_keys_absorb h)

theorem filter_absorbAll_known (hk : k ∈ xs.map key) :
    (absorbAll key xs as).filter (fun a => key a = k) = xs.filter fun a => key a = k := by
  induction as generalizing xs with
  | nil => rfl
  | cons a as ih =>
    rw [absorbAll_cons, ih (mem_keys_absorb.mpr (.inl hk))]
    by_cases ha : key a ∈ xs.map key
    · rw [absorb_known ha]
    · have hne : key a ≠ k := fun heq => ha (heq ▸ hk)
      rw [absorb_new ha, List.filter_append]
      simp [hne]

theorem filter_absorbAll (hk : k ∉ xs.map key) :
    (absorbAll key xs as).filter (fun a => key a = k) = (as.find? fun a => key a = k).toList := by
  induction as generalizing xs with
  | nil =>
    rw [absorbAll_nil, List.find?_nil, Option.toList_none, List.filter_eq_nil_iff]
    intro a ha heq
    exact hk (List.mem_map.mpr ⟨a, ha, of_decide_eq_true heq⟩)
  | cons a as ih =>
    rw [absorbAll_cons]
    by_cases ha : key a = k
    · subst ha
      have hempty : xs.filter (fun b => key b = key a) = [] := by
        rw [List.filter_eq_nil_iff]
        exact fun b hb heq => hk (List.mem_map.mpr ⟨b, hb, of_decide_eq_true heq⟩)
      rw [filter_absorbAll_known (mem_keys_absorb.mpr (.inr rfl)), absorb_new hk, List.filter_append,
        hempty]
      simp
    · rw [List.find?_cons_of_neg (by simpa using ha)]
      refine ih fun hmem => ?_
      rcases mem_keys_absorb.mp hmem with hold | heq
      · exact hk hold
      · exact ha heq.symm

theorem mem_absorbAll_iff (hkey : ∀ a ∈ as, ∀ b ∈ as, key a = key b → a = b) :
    a ∈ absorbAll key [] as ↔ a ∈ as := by
  have hfrom : ∀ {b}, b ∈ absorbAll key [] as → b ∈ as := fun hb =>
    (mem_absorbAll hb).resolve_left List.not_mem_nil
  refine ⟨hfrom, fun ha => ?_⟩
  have hk : key a ∈ (absorbAll key [] as).map key :=
    mem_keys_absorbAll.mpr (.inr (List.mem_map_of_mem ha))
  obtain ⟨b, hb, heq⟩ := List.mem_map.mp hk
  rwa [hkey a ha b (hfrom hb) heq.symm]

theorem absorbAll_perm (h : as.Perm bs) (hkey : ∀ a ∈ as, ∀ b ∈ as, key a = key b → a = b) :
    (absorbAll key [] as).Perm (absorbAll key [] bs) := by
  have hkey' : ∀ a ∈ bs, ∀ b ∈ bs, key a = key b → a = b := fun a ha b hb =>
    hkey a (h.mem_iff.mpr ha) b (h.mem_iff.mpr hb)
  have hnodup : ∀ cs, (absorbAll key [] cs).Nodup := by
    intro cs
    have hkeys : ((absorbAll key [] cs).map key).Nodup := nodup_keys_absorbAll (by simp)
    exact hkeys.of_map
  rw [List.perm_ext_iff_of_nodup (hnodup as) (hnodup bs)]
  intro a
  rw [mem_absorbAll_iff hkey, mem_absorbAll_iff hkey', h.mem_iff]

theorem absorbAll_twice : absorbAll key (absorbAll key xs as) as = absorbAll key xs as := by
  refine absorbAll_known fun a ha => ?_
  exact mem_keys_absorbAll.mpr (.inr (List.mem_map_of_mem ha))

/-- A pass that starts over after it was interrupted ends like one that was not. -/
theorem absorbAll_resume (h : as <+: bs) :
    absorbAll key (absorbAll key xs as) bs = absorbAll key xs bs := by
  obtain ⟨cs, rfl⟩ := h
  rw [absorbAll_append, absorbAll_twice, absorbAll_append]

end KeepFirst
end ScheduleSync
