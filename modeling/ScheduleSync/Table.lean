import Mathlib.Data.List.Pairwise

/-! Relational tables with UNIQUE constraints. A table is a list of rows no two
of which clash, so a state that breaks a constraint cannot be written down;
the statements of SQL are the only ways to change one. -/
namespace ScheduleSync

/-- `Clash a b`: rows `a` and `b` agree on a PRIMARY KEY or UNIQUE column. -/
class Keyed (ρ : Type*) where
  Clash : ρ → ρ → Prop
  clash_symm : ∀ {a b}, Clash a b → Clash b a
  decClash : DecidableRel Clash

instance {ρ : Type*} [Keyed ρ] : DecidableRel (Keyed.Clash (ρ := ρ)) := Keyed.decClash

structure Table (ρ : Type*) [Keyed ρ] where
  rows : List ρ
  unique : rows.Pairwise fun a b => ¬ Keyed.Clash a b

namespace Table
open Keyed
variable {ρ : Type*} [Keyed ρ]

def empty : Table ρ := ⟨[], .nil⟩

instance : Membership ρ (Table ρ) := ⟨fun t r => r ∈ t.rows⟩

theorem mem_def {t : Table ρ} {r : ρ} : r ∈ t ↔ r ∈ t.rows := Iff.rfl

def insert (t : Table ρ) (r : ρ) : Option (Table ρ) :=
  if h : ∀ x ∈ t.rows, ¬ Clash x r then
    some ⟨t.rows ++ [r], List.pairwise_append.mpr
      ⟨t.unique, List.pairwise_singleton _ _, fun x hx y hy => by
        rw [List.mem_singleton.mp hy]; exact h x hx⟩⟩
  else none

def delete (t : Table ρ) (p : ρ → Bool) : Table ρ :=
  ⟨t.rows.filter fun r => !p r, t.unique.filter _⟩

def update (t : Table ρ) (p : ρ → Bool) (f : ρ → ρ)
    (hf : ∀ a b, Clash (f a) b → Clash a b) : Table ρ :=
  ⟨t.rows.map fun r => if p r then f r else r, by
    refine List.pairwise_map.mpr (t.unique.imp fun {a b} hab h => hab ?_)
    have h₁ : Clash a (if p b then f b else b) := by
      split at h
      · exact hf _ _ h
      · exact h
    have h₂ := clash_symm h₁
    split at h₂
    · exact clash_symm (hf _ _ h₂)
    · exact clash_symm h₂⟩

def queryRow (t : Table ρ) (p : ρ → Bool) : Option ρ := t.rows.find? p

theorem mem_of_insert {t t' : Table ρ} {r x : ρ} (h : t.insert r = some t') :
    x ∈ t' ↔ x ∈ t ∨ x = r := by
  unfold insert at h
  split at h
  · cases h
    simp [mem_def]
  · cases h

theorem insert_rows {t t' : Table ρ} {r : ρ} (h : t.insert r = some t') :
    t'.rows = t.rows ++ [r] := by
  unfold insert at h
  split at h
  · cases h; rfl
  · cases h

theorem insert_fresh {t t' : Table ρ} {r x : ρ} (h : t.insert r = some t') (hx : x ∈ t) :
    ¬ Clash x r := by
  unfold insert at h
  split at h
  · rename_i hc; exact hc x hx
  · cases h

theorem insert_eq_none {t : Table ρ} {r : ρ} (h : t.insert r = none) : ∃ x ∈ t, Clash x r := by
  unfold insert at h
  split at h
  · cases h
  · rename_i hc
    simpa [mem_def] using hc

@[simp] theorem mem_delete {t : Table ρ} {p : ρ → Bool} {x : ρ} :
    x ∈ t.delete p ↔ x ∈ t ∧ p x = false := by
  simp [mem_def, delete]

@[simp] theorem mem_update {t : Table ρ} {p : ρ → Bool} {f : ρ → ρ} {hf} {x : ρ} :
    x ∈ t.update p f hf ↔ ∃ r ∈ t, (if p r then f r else r) = x := by
  simp [mem_def, update]

/-! A property of all rows. -/

theorem forall_insert {P : ρ → Prop} {t t' : Table ρ} {r : ρ} (h : t.insert r = some t')
    (ht : ∀ x ∈ t, P x) (hr : P r) : ∀ x ∈ t', P x := by
  intro x hx
  cases (mem_of_insert h).mp hx with
  | inl hold => exact ht x hold
  | inr heq => exact heq ▸ hr

theorem forall_delete {P : ρ → Prop} {t : Table ρ} {p : ρ → Bool} (ht : ∀ x ∈ t, P x) :
    ∀ x ∈ t.delete p, P x :=
  fun x hx => ht x (mem_delete.mp hx).1

theorem forall_update {P : ρ → Prop} {t t' : Table ρ} {p : ρ → Bool} {f : ρ → ρ}
    (h : t'.rows = t.rows.map fun r => if p r then f r else r) (ht : ∀ x ∈ t, P x)
    (hP : ∀ x, P x → P (f x)) : ∀ x ∈ t', P x := by
  intro x hx
  rw [mem_def, h] at hx
  obtain ⟨r, hr, rfl⟩ := List.mem_map.mp hx
  split
  · exact hP r (ht r hr)
  · exact ht r hr

theorem queryRow_some {t : Table ρ} {p : ρ → Bool} {r : ρ} (h : t.queryRow p = some r) :
    r ∈ t ∧ p r = true :=
  ⟨List.mem_of_find?_eq_some h, List.find?_some h⟩

theorem queryRow_none {t : Table ρ} {p : ρ → Bool} (h : t.queryRow p = none) :
    ∀ r ∈ t, p r = false := by
  intro r hr
  simpa using List.find?_eq_none.mp h r hr

theorem nodup_rows (t : Table ρ) (hrefl : ∀ r : ρ, Clash r r) : t.rows.Nodup := by
  refine t.unique.imp fun {a b} hab => ?_
  rintro rfl
  exact hab (hrefl a)

theorem eq_of_clash {t : Table ρ} {a b : ρ} (ha : a ∈ t) (hb : b ∈ t) (h : Clash a b) :
    a = b := by
  have : Std.Symm fun x y : ρ => ¬ Clash x y := ⟨fun _ _ hxy hyx => hxy (clash_symm hyx)⟩
  by_contra hne
  exact List.Pairwise.forall t.unique ha hb hne h

theorem queryRow_insert {t t' : Table ρ} {r : ρ} (h : t.insert r = some t') (q : ρ → Bool) :
    t'.queryRow q = (t.queryRow q).or (if q r then some r else none) := by
  rw [queryRow, insert_rows h, List.find?_append]
  cases hq : q r <;> simp [queryRow, hq]

theorem queryRow_update {t : Table ρ} {p q : ρ → Bool} {f : ρ → ρ} {hf}
    (hq : ∀ r, q (f r) = q r) :
    (t.update p f hf).queryRow q = (t.queryRow q).map fun r => if p r then f r else r := by
  have hcomp : (q ∘ fun r => if p r = true then f r else r) = q := by
    funext r
    by_cases hp : p r <;> simp [hp, hq]
  simp only [queryRow, update, List.find?_map, hcomp]

theorem queryRow_delete {t : Table ρ} {p q : ρ → Bool}
    (hq : ∀ a b, q a = true → q b = true → Clash a b) :
    (t.delete p).queryRow q = (t.queryRow q).filter fun r => !p r := by
  cases h : t.queryRow q with
  | none =>
    have hnone := queryRow_none h
    rw [Option.filter_none, queryRow, List.find?_eq_none]
    intro r hr
    have hmem : r ∈ t.delete p := hr
    simp [hnone r (mem_delete.mp hmem).1]
  | some a =>
    obtain ⟨ha, hqa⟩ := queryRow_some h
    cases hd : (t.delete p).queryRow q with
    | none =>
      have hpa : p a = true := by
        by_contra hp
        have := queryRow_none hd a (mem_delete.mpr ⟨ha, by simpa using hp⟩)
        simp [hqa] at this
      simp [Option.filter_some, hpa]
    | some b =>
      obtain ⟨hb, hqb⟩ := queryRow_some hd
      obtain ⟨hbt, hpb⟩ := mem_delete.mp hb
      have hab : b = a := eq_of_clash hbt ha (hq b a hqb hqa)
      subst hab
      simp [Option.filter_some, hpb]

theorem queryRow_update_of_imp {t : Table ρ} {p q : ρ → Bool} {f : ρ → ρ}
    (hf : ∀ a b, Clash (f a) b → Clash a b) (hq : ∀ r, q (f r) = q r)
    (hp : ∀ r, q r = true → p r = false) : (t.update p f hf).queryRow q = t.queryRow q := by
  rw [queryRow_update hq]
  cases h : t.queryRow q with
  | none => rfl
  | some r => simp [hp r (queryRow_some h).2]

theorem queryRow_delete_of_imp {t : Table ρ} {p q : ρ → Bool} (hq : ∀ r, q r = true → p r = false) :
    (t.delete p).queryRow q = t.queryRow q := by
  simp only [queryRow, delete, List.find?_filter]
  congr 1
  funext r
  cases h : q r with
  | false => simp
  | true => simp [hq r h]

theorem delete_eq_self {t : Table ρ} {p : ρ → Bool} (h : ∀ r ∈ t, p r = false) : t.delete p = t := by
  cases t with
  | mk rows unique =>
    simp only [delete, mk.injEq, List.filter_eq_self]
    intro r hr
    simp [h r hr]

theorem update_eq_self {t : Table ρ} {p : ρ → Bool} {f : ρ → ρ} {hf} (h : ∀ r ∈ t, p r = false) :
    t.update p f hf = t := by
  cases t with
  | mk rows unique =>
    simp only [update, mk.injEq]
    refine (List.map_congr_left fun r hr => ?_).trans (List.map_id rows)
    simp [h r hr]

theorem queryRow_eq_some {t : Table ρ} {q : ρ → Bool} {r : ρ} (hr : r ∈ t) (hqr : q r = true)
    (hq : ∀ a b, q a = true → q b = true → Clash a b) : t.queryRow q = some r := by
  cases h : t.queryRow q with
  | none =>
    have := queryRow_none h r hr
    simp [hqr] at this
  | some a =>
    obtain ⟨ha, hqa⟩ := queryRow_some h
    rw [eq_of_clash ha hr (hq a r hqa hqr)]

end Table

theorem filter_map_of_unselected {α : Type*} {q : α → Bool} {f : α → α} (hsame : ∀ x, q (f x) = q x)
    (hfix : ∀ x, q x = true → f x = x) (l : List α) : (l.map f).filter q = l.filter q := by
  induction l with
  | nil => rfl
  | cons x l ih =>
    cases hq : q x with
    | true => simp [hq, hfix x hq, ih]
    | false => simp [hsame, hq, ih]

end ScheduleSync
