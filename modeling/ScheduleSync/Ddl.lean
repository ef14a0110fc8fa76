import Mathlib.Data.List.Forall2
import Mathlib.Data.Rat.Defs
import Mathlib.Logic.Function.Basic

/-! Schema statements of SQLite on a catalogue of tables and indexes, each with
`IF [NOT] EXISTS` where the dialect has it. A statement is settled when running
it would change nothing; a script whose statements can all run and do not undo
each other settles all of them and leaves the stored rows alone. -/
namespace ScheduleSync.Ddl

inductive Value where
  | null
  | integer (n : Int)
  | real (q : Rat)
  | text (s : String)
  | blob (bytes : List UInt8)
deriving DecidableEq

structure Column where
  name : String
  type : String
  primaryKey : Bool := false
  unique : Bool := false
  notNull : Bool := false
  default : Value := .null
  /-- The table of a foreign key with ON DELETE CASCADE. -/
  references : Option String := none
deriving DecidableEq

/-- A row gives a value to every column; names the table does not have stand for nothing. -/
abbrev Row := String → Value

structure StoredTable where
  columns : List Column
  unique : List (List String)
  rows : List Row

def StoredTable.names (t : StoredTable) : List String := t.columns.map Column.name

structure Index where
  table : String
  columns : List String
  unique : Bool
  /-- `WHERE c IS NOT NULL`. -/
  whereNotNull : Option String
deriving DecidableEq

structure Catalog where
  tables : String → Option StoredTable
  indexes : String → Option Index

inductive Statement where
  | createTable (name : String) (columns : List Column) (unique : List (List String))
  | createIndex (name : String) (index : Index)
  | addColumn (table : String) (column : Column)
  | dropTable (name : String)
deriving DecidableEq

def Statement.table : Statement → String
  | .createTable name _ _ => name
  | .createIndex _ index => index.table
  | .addColumn table _ => table
  | .dropTable name => name

def Statement.index : Statement → Option Index
  | .createIndex _ index => some index
  | _ => none

def Index.reads (index : Index) : List String := index.columns ++ index.whereNotNull.toList

/-- Two rows collide in a unique index: both are in it, no part of their key is
NULL, and the keys agree. -/
def Index.Collide (index : Index) (a b : Row) : Prop :=
  (∀ c ∈ index.whereNotNull.toList, a c ≠ .null ∧ b c ≠ .null) ∧
    ∀ c ∈ index.columns, a c ≠ .null ∧ a c = b c

instance (index : Index) (a b : Row) : Decidable (index.Collide a b) :=
  inferInstanceAs (Decidable (_ ∧ _))

/-- The rows of `t` can be put into the index. -/
def Index.Fits (index : Index) (t : StoredTable) : Prop :=
  index.unique = true → t.rows.Pairwise fun a b => ¬ index.Collide a b

instance (index : Index) (t : StoredTable) : Decidable (index.Fits t) :=
  inferInstanceAs (Decidable (_ → _))

/-- The driver's text of an error with SQLite's primary result code 1. -/
def logicError (text : String) : String := "SQL logic error: " ++ (text ++ " (1)")

def noSuchTable (name : String) : String := logicError ("no such table: " ++ name)
def noSuchColumn (name : String) : String := logicError ("no such column: " ++ name)
def duplicateColumn (name : String) : String := logicError ("duplicate column name" ++ (": " ++ name))
def nullDefault : String := logicError "Cannot add a NOT NULL column with default value NULL"

def notUnique (index : Index) : String :=
  "constraint failed: UNIQUE constraint failed: " ++
    ", ".intercalate (index.columns.map fun column => index.table ++ "." ++ column) ++ " (2067)"

def StoredTable.addColumn (t : StoredTable) (column : Column) : StoredTable :=
  { t with
    columns := t.columns ++ [column]
    rows := t.rows.map fun row => Function.update row column.name column.default }

namespace Catalog

def exec (c : Catalog) : Statement → Except String Catalog
  | .createTable name columns unique =>
    match c.tables name with
    | some _ => .ok c
    | none => .ok { c with tables := Function.update c.tables name (some ⟨columns, unique, []⟩) }
  | .createIndex name index =>
    match c.indexes name with
    | some _ => .ok c
    | none =>
      match c.tables index.table with
      | none => .error (noSuchTable index.table)
      | some t =>
        match index.reads.find? fun column => column ∉ t.names with
        | some column => .error (noSuchColumn column)
        | none =>
          if index.Fits t then
            .ok { c with indexes := Function.update c.indexes name (some index) }
          else .error (notUnique index)
  | .addColumn table column =>
    match c.tables table with
    | none => .error (noSuchTable table)
    | some t =>
      if column.name ∈ t.names then .error (duplicateColumn column.name)
      else if column.notNull ∧ column.default = .null ∧ t.rows ≠ [] then .error nullDefault
      else .ok { c with tables := Function.update c.tables table (some (t.addColumn column)) }
  | .dropTable name =>
    match c.tables name with
    | none => .ok c
    | some _ =>
      .ok { c with
        tables := Function.update c.tables name none
        indexes := fun i => (c.indexes i).filter fun index => index.table != name }

/-- A multi-statement Exec: it stops at the first error and keeps what came before. -/
def execScript (c : Catalog) : List Statement → Catalog × Option String
  | [] => (c, none)
  | stmt :: rest =>
    match c.exec stmt with
    | .ok c' => c'.execScript rest
    | .error err => (c, some err)

def apply (c : Catalog) (stmt : Statement) : Catalog :=
  match c.exec stmt with
  | .ok c' => c'
  | .error _ => c

/-- Running the statement would change nothing. -/
def Settled (c : Catalog) : Statement → Prop
  | .createTable name _ _ => (c.tables name).isSome = true
  | .createIndex name _ => (c.indexes name).isSome = true
  | .addColumn table column => ∃ t, c.tables table = some t ∧ column.name ∈ t.names
  | .dropTable name => c.tables name = none

def Runnable (c : Catalog) : Statement → Prop
  | .createTable _ _ _ => True
  | .createIndex name index =>
    (c.indexes name).isSome = true ∨
      ∃ t, c.tables index.table = some t ∧ (∀ column ∈ index.reads, column ∈ t.names) ∧ index.Fits t
  | .addColumn table column =>
    ∃ t, c.tables table = some t ∧
      (column.name ∈ t.names ∨ (column.notNull = true → column.default ≠ .null))
  | .dropTable _ => True

end Catalog

/-- After `stmt`, the other statement may no longer be settled or able to run. -/
def Statement.conflicts (stmt other : Statement) : Bool :=
  match stmt, other with
  | .dropTable _, .dropTable _ => false
  | .dropTable name, other => other.table == name
  | .createTable name _ _, .dropTable name' => name == name'
  | _, _ => false

def StoredTable.Kept (t t' : StoredTable) : Prop :=
  (∀ n ∈ t.names, n ∈ t'.names) ∧
    List.Forall₂ (fun row row' => ∀ n ∈ t.names, row' n = row n) t.rows t'.rows

namespace StoredTable
variable {t t' t'' : StoredTable}

theorem Kept.refl (t : StoredTable) : t.Kept t :=
  ⟨fun _ h => h, List.forall₂_same.mpr fun _ _ _ _ => rfl⟩

theorem Kept.trans (h : t.Kept t') (h' : t'.Kept t'') : t.Kept t'' := by
  refine ⟨fun n hn => h'.1 n (h.1 n hn), ?_⟩
  have hrows := h'.2
  have hstart := h.2
  generalize t.rows = rows at hstart
  generalize t'.rows = rows' at hstart hrows
  generalize t''.rows = rows'' at hrows
  induction hstart generalizing rows'' with
  | nil => cases hrows; exact .nil
  | cons hrow _ ih =>
    cases hrows with
    | cons hrow' hrest =>
      exact .cons (fun n hn => (hrow' n (h.1 n hn)).trans (hrow n hn)) (ih _ hrest)

theorem names_addColumn (t : StoredTable) (column : Column) :
    (t.addColumn column).names = t.names ++ [column.name] := by
  simp [names, addColumn]

theorem kept_addColumn {column : Column} (h : column.name ∉ t.names) :
    t.Kept (t.addColumn column) := by
  constructor
  · intro n hn
    rw [names_addColumn]
    exact List.mem_append_left _ hn
  · simp only [addColumn, List.forall₂_map_right_iff]
    refine List.forall₂_same.mpr fun row _ n hn => ?_
    have hne : n ≠ column.name := fun heq => h (heq ▸ hn)
    exact Function.update_of_ne hne _ _

theorem fits_addColumn {index : Index} {column : Column} (h : column.name ∉ t.names)
    (hreads : ∀ n ∈ index.reads, n ∈ t.names) (hfits : index.Fits t) :
    index.Fits (t.addColumn column) := by
  intro hunique
  have hsame : ∀ n ∈ index.reads, ∀ row : Row,
      Function.update row column.name column.default n = row n := by
    intro n hn row
    have hne : n ≠ column.name := fun heq => h (heq ▸ hreads n hn)
    exact Function.update_of_ne hne _ _
  simp only [addColumn, List.pairwise_map]
  refine (hfits hunique).imp fun {a b} hab hcollide => hab ⟨?_, ?_⟩
  · intro n hn
    have hread : n ∈ index.reads := List.mem_append_right _ hn
    simpa only [hsame n hread] using hcollide.1 n hn
  · intro n hn
    have hread : n ∈ index.reads := List.mem_append_left _ hn
    simpa only [hsame n hread] using hcollide.2 n hn

end StoredTable

namespace Catalog
variable {c c' : Catalog} {stmt other : Statement} {script : List Statement}

inductive Effect (c : Catalog) : Statement → Catalog → Prop
  | unchanged {stmt : Statement} : Effect c stmt c
  | created {name : String} {columns : List Column} {unique : List (List String)}
      (h : c.tables name = none) :
      Effect c (.createTable name columns unique)
        { c with tables := Function.update c.tables name (some ⟨columns, unique, []⟩) }
  | indexed {name : String} {index : Index} (h : c.indexes name = none) :
      Effect c (.createIndex name index)
        { c with indexes := Function.update c.indexes name (some index) }
  | added {table : String} {column : Column} {t : StoredTable} (h : c.tables table = some t)
      (hnew : column.name ∉ t.names) :
      Effect c (.addColumn table column)
        { c with tables := Function.update c.tables table (some (t.addColumn column)) }
  | dropped {name : String} :
      Effect c (.dropTable name)
        { c with
          tables := Function.update c.tables name none
          indexes := fun i => (c.indexes i).filter fun index => index.table != name }

theorem effect_apply (c : Catalog) (stmt : Statement) : Effect c stmt (c.apply stmt) := by
  unfold apply
  split
  · rename_i c' hok
    cases stmt with
    | createTable name columns unique =>
      simp only [exec] at hok
      split at hok <;> cases hok
      · exact .unchanged
      · exact .created ‹_›
    | createIndex name index =>
      simp only [exec] at hok
      split at hok
      · cases hok; exact .unchanged
      · split at hok
        · cases hok
        · split at hok
          · cases hok
          · split at hok <;> cases hok
            exact .indexed ‹_›
    | addColumn table column =>
      simp only [exec] at hok
      split at hok
      · cases hok
      · split_ifs at hok with hmem hnull
        cases hok
        exact .added ‹_› hmem
    | dropTable name =>
      simp only [exec] at hok
      split at hok <;> cases hok
      · exact .unchanged
      · exact .dropped
  · exact .unchanged

theorem exec_settled (h : c.Settled stmt) :
    c.exec stmt = .ok c ∨
      ∃ table column, stmt = .addColumn table column ∧
        c.exec stmt = .error (duplicateColumn column.name) := by
  cases stmt with
  | createTable name columns unique =>
    obtain ⟨t, ht⟩ := Option.isSome_iff_exists.mp h
    simp [exec, ht]
  | createIndex name index =>
    obtain ⟨i, hi⟩ := Option.isSome_iff_exists.mp h
    simp [exec, hi]
  | addColumn table column =>
    obtain ⟨t, ht, hmem⟩ := h
    exact .inr ⟨table, column, rfl, by simp [exec, ht, hmem]⟩
  | dropTable name =>
    have ht : c.tables name = none := h
    simp [exec, ht]

theorem settled_of_exec (h : c.exec stmt = .ok c') : c'.Settled stmt := by
  cases stmt with
  | createTable name columns unique =>
    simp only [exec] at h
    split at h <;> cases h
    · simp [Settled, *]
    · simp [Settled]
  | createIndex name index =>
    simp only [exec] at h
    split at h
    · cases h; simp [Settled, *]
    · split at h
      · cases h
      · split at h
        · cases h
        · split at h <;> cases h
          simp [Settled]
  | addColumn table column =>
    simp only [exec] at h
    split at h
    · cases h
    · rename_i t _
      split_ifs at h
      cases h
      exact ⟨t.addColumn column, by simp, by simp [StoredTable.names_addColumn]⟩
  | dropTable name =>
    simp only [exec] at h
    split at h <;> cases h
    · assumption
    · simp [Settled]

theorem exec_runnable (h : c.Runnable stmt) (hs : ¬ c.Settled stmt) :
    c.exec stmt = .ok (c.apply stmt) := by
  cases stmt with
  | createTable name columns unique =>
    have ht : c.tables name = none := by simpa [Settled] using hs
    simp only [apply, exec, ht]
  | createIndex name index =>
    have hnone : c.indexes name = none := by simpa [Settled] using hs
    cases h with
    | inl h => exact absurd h hs
    | inr h =>
      obtain ⟨t, ht, hreads, hfits⟩ := h
      have hfind : index.reads.find? (fun column => decide (column ∉ t.names)) = none := by
        simpa [List.find?_eq_none] using hreads
      simp only [apply, exec, hnone, ht, hfind, if_pos hfits]
  | addColumn table column =>
    obtain ⟨t, ht, hcolumn⟩ := h
    have hmem : column.name ∉ t.names := fun hmem => hs ⟨t, ht, hmem⟩
    have hdefault : ¬ (column.notNull = true ∧ column.default = .null ∧ t.rows ≠ []) := by
      intro hbad
      exact hcolumn.elim hmem fun hd => hd hbad.1 hbad.2.1
    simp only [apply, exec, ht, if_neg hmem, if_neg hdefault]
  | dropTable name =>
    obtain ⟨t, ht⟩ := Option.ne_none_iff_exists'.mp hs
    simp only [apply, exec, ht]

theorem apply_settled (h : c.Settled stmt) : c.apply stmt = c := by
  cases exec_settled h with
  | inl hok => simp [apply, hok]
  | inr hdup =>
    obtain ⟨table, column, _, herr⟩ := hdup
    simp [apply, herr]

theorem settled_apply (h : c.Runnable stmt) : (c.apply stmt).Settled stmt := by
  by_cases hs : c.Settled stmt
  · rw [apply_settled hs]
    exact hs
  · exact settled_of_exec (exec_runnable h hs)

theorem Effect.table (h : Effect c stmt c') {name : String} {t : StoredTable}
    (ht : c.tables name = some t) (hdrop : stmt ≠ .dropTable name) :
    ∃ t', c'.tables name = some t' ∧ t.Kept t' ∧
      ∀ index : Index, (∀ n ∈ index.reads, n ∈ t.names) → index.Fits t → index.Fits t' := by
  have hsame : c'.tables name = some t → ∃ t', c'.tables name = some t' ∧ t.Kept t' ∧
      ∀ index : Index, (∀ n ∈ index.reads, n ∈ t.names) → index.Fits t → index.Fits t' :=
    fun h => ⟨t, h, .refl t, fun _ _ hfits => hfits⟩
  cases h with
  | unchanged => exact hsame ht
  | @created name' columns unique h =>
    have hne : name ≠ name' := by
      intro heq
      rw [heq, h] at ht
      cases ht
    exact hsame (by simpa [Function.update_of_ne hne] using ht)
  | indexed h => exact hsame ht
  | @added table column u h hnew =>
    by_cases heq : name = table
    · subst heq
      have hut : u = t := Option.some.inj (h.symm.trans ht)
      subst hut
      exact ⟨_, by simp, StoredTable.kept_addColumn hnew,
        fun index hreads hfits => StoredTable.fits_addColumn hnew hreads hfits⟩
    · exact hsame (by simpa [Function.update_of_ne heq] using ht)
  | @dropped name' =>
    have hne : name ≠ name' := fun heq => hdrop (heq ▸ rfl)
    exact hsame (by simpa [Function.update_of_ne hne] using ht)

theorem Effect.index_of (h : Effect c stmt c') {name : String} {index : Index}
    (hi : c'.indexes name = some index) :
    c.indexes name = some index ∨ stmt = .createIndex name index := by
  cases h with
  | unchanged => exact .inl hi
  | created h => exact .inl hi
  | @indexed name' index' h =>
    by_cases heq : name = name'
    · subst heq
      right
      simpa using hi
    · exact .inl (by simpa [Function.update_of_ne heq] using hi)
  | added h hnew => exact .inl hi
  | dropped => exact .inl (Option.filter_eq_some_iff.mp hi).1

theorem Effect.keeps_index (h : Effect c stmt c') {name : String} {index : Index}
    (hi : c.indexes name = some index) (hdrop : stmt ≠ .dropTable index.table) :
    c'.indexes name = some index := by
  cases h with
  | unchanged => exact hi
  | created h => exact hi
  | @indexed name' index' h =>
    have hne : name ≠ name' := by
      intro heq
      rw [← heq, hi] at h
      cases h
    simpa [Function.update_of_ne hne] using hi
  | added h hnew => exact hi
  | @dropped name' =>
    have hne : index.table ≠ name' := fun heq => hdrop (heq ▸ rfl)
    simp [hi, hne]

/-- No index that makes `stmt` settled is on the table `other` drops. -/
def Holds (c : Catalog) (stmt other : Statement) : Prop :=
  ∀ name index i, stmt = .createIndex name index → c.indexes name = some i →
    other ≠ .dropTable i.table

theorem Effect.keeps_settled (h : Effect c stmt c') (hconf : stmt.conflicts other = false)
    (hholds : c.Holds other stmt) (hs : c.Settled other) : c'.Settled other := by
  cases other with
  | createTable name columns unique =>
    obtain ⟨t, ht⟩ := Option.isSome_iff_exists.mp hs
    have hdrop : stmt ≠ .dropTable name := by
      rintro rfl
      simp [Statement.conflicts, Statement.table] at hconf
    obtain ⟨t', ht', _⟩ := h.table ht hdrop
    simp [Settled, ht']
  | createIndex name index =>
    obtain ⟨i, hi⟩ := Option.isSome_iff_exists.mp hs
    simp [Settled, h.keeps_index hi (hholds name index i rfl hi)]
  | addColumn table column =>
    obtain ⟨t, ht, hmem⟩ := hs
    have hdrop : stmt ≠ .dropTable table := by
      rintro rfl
      simp [Statement.conflicts, Statement.table] at hconf
    obtain ⟨t', ht', hkept, _⟩ := h.table ht hdrop
    exact ⟨t', ht', hkept.1 _ hmem⟩
  | dropTable name =>
    have ht : c.tables name = none := hs
    cases h with
    | unchanged => exact ht
    | @created name' columns unique h =>
      have hne : name' ≠ name := by
        simpa [Statement.conflicts] using hconf
      simpa [Settled, Function.update_of_ne hne.symm] using ht
    | indexed h => exact ht
    | @added table column t h hnew =>
      have hne : name ≠ table := by
        intro heq
        rw [← heq, ht] at h
        cases h
      simpa [Settled, Function.update_of_ne hne] using ht
    | @dropped name' =>
      by_cases heq : name = name'
      · simp [Settled, heq]
      · simpa [Settled, Function.update_of_ne heq] using ht

theorem Effect.keeps_runnable (h : Effect c stmt c') (hconf : stmt.conflicts other = false)
    (hholds : c.Holds other stmt) (hr : c.Runnable other) : c'.Runnable other := by
  cases other with
  | createTable name columns unique => trivial
  | createIndex name index =>
    cases hr with
    | inl hi => exact .inl (h.keeps_settled hconf hholds hi)
    | inr hr =>
      obtain ⟨t, ht, hreads, hfits⟩ := hr
      have hdrop : stmt ≠ .dropTable index.table := by
        rintro rfl
        simp [Statement.conflicts, Statement.table] at hconf
      obtain ⟨t', ht', hkept, hfit⟩ := h.table ht hdrop
      exact .inr ⟨t', ht', fun n hn => hkept.1 n (hreads n hn), hfit index hreads hfits⟩
  | addColumn table column =>
    obtain ⟨t, ht, hcolumn⟩ := hr
    have hdrop : stmt ≠ .dropTable table := by
      rintro rfl
      simp [Statement.conflicts, Statement.table] at hconf
    obtain ⟨t', ht', hkept, _⟩ := h.table ht hdrop
    exact ⟨t', ht', hcolumn.imp (hkept.1 _) id⟩
  | dropTable name => trivial

/-- Every statement of the script can run now, and none undoes what another does. -/
structure Ready (c : Catalog) (script : List Statement) : Prop where
  run : ∀ stmt ∈ script, c.Runnable stmt
  apart : ∀ stmt ∈ script, ∀ other ∈ script, stmt.conflicts other = false
  held : ∀ stmt ∈ script, ∀ other ∈ script, c.Holds stmt other

theorem Ready.apply (h : Ready c script) (hstmt : stmt ∈ script) : Ready (c.apply stmt) script where
  run other hother :=
    (effect_apply c stmt).keeps_runnable (h.apart stmt hstmt other hother)
      (h.held other hother stmt hstmt) (h.run other hother)
  apart := h.apart
  held a ha b hb := by
    intro name index i heq hi
    cases (effect_apply c stmt).index_of hi with
    | inl hold => exact h.held a ha b hb name index i heq hold
    | inr hnew =>
      subst hnew
      rintro rfl
      have hapart := h.apart _ hb _ hstmt
      simp [Statement.conflicts, Statement.table] at hapart

theorem Ready.foldl {part : List Statement} (h : Ready c script) (hpart : part ⊆ script) :
    Ready (part.foldl Catalog.apply c) script := by
  induction part generalizing c with
  | nil => exact h
  | cons stmt rest ih =>
    obtain ⟨hstmt, hrest⟩ := List.cons_subset.mp hpart
    exact ih (h.apply hstmt) hrest

section Parts
variable {part : List Statement} (h : Ready c script) (hpart : part ⊆ script)
include h hpart

theorem Ready.keeps_settled (hother : other ∈ script) (hs : c.Settled other) :
    (part.foldl Catalog.apply c).Settled other := by
  induction part generalizing c with
  | nil => exact hs
  | cons stmt rest ih =>
    obtain ⟨hstmt, hrest⟩ := List.cons_subset.mp hpart
    exact ih (h.apply hstmt) hrest ((effect_apply c stmt).keeps_settled (h.apart stmt hstmt other hother)
      (h.held other hother stmt hstmt) hs)

theorem Ready.settled : ∀ stmt ∈ part, (part.foldl Catalog.apply c).Settled stmt := by
  induction part generalizing c with
  | nil => simp
  | cons first rest ih =>
    obtain ⟨hfirst, hrest⟩ := List.cons_subset.mp hpart
    intro stmt hstmt
    cases List.mem_cons.mp hstmt with
    | inl heq =>
      subst heq
      exact (h.apply hfirst).keeps_settled hrest hfirst (settled_apply (h.run stmt hfirst))
    | inr hmem => exact ih (h.apply hfirst) hrest stmt hmem

end Parts

theorem Ready.exec (h : Ready c script) (hstmt : stmt ∈ script) :
    c.exec stmt = .ok (c.apply stmt) ∨
      ∃ table column, stmt = .addColumn table column ∧
        c.exec stmt = .error (duplicateColumn column.name) ∧ c.apply stmt = c := by
  by_cases hs : c.Settled stmt
  · rw [apply_settled hs]
    cases exec_settled hs with
    | inl hok => exact .inl hok
    | inr hdup =>
      obtain ⟨table, column, heq, herr⟩ := hdup
      exact .inr ⟨table, column, heq, herr, rfl⟩
  · exact .inl (exec_runnable (h.run stmt hstmt) hs)

theorem Ready.execScript {part : List Statement} (h : Ready c script) (hpart : part ⊆ script)
    (hadd : ∀ table column, .addColumn table column ∉ part) :
    c.execScript part = (part.foldl Catalog.apply c, none) := by
  induction part generalizing c with
  | nil => rfl
  | cons stmt rest ih =>
    obtain ⟨hstmt, hrest⟩ := List.cons_subset.mp hpart
    have hfoldl := ih (h.apply hstmt) hrest
      fun table column hmem => hadd table column (List.mem_cons_of_mem _ hmem)
    cases h.exec hstmt with
    | inl hok => simpa [Catalog.execScript, hok] using hfoldl
    | inr hdup =>
      obtain ⟨table, column, heq, _⟩ := hdup
      exact absurd (heq ▸ List.mem_cons_self) (hadd table column)

end Catalog
end ScheduleSync.Ddl
