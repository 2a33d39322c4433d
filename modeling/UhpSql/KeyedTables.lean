import Mathlib.Data.List.Perm.Basic
import UhpSql.Rows
import UhpSql.Transition

/-!
# Databases of keyed tables

A table has columns, and rows under the values of its first column. `Database.next` says what a
command makes of a database, if it can be obeyed, and `Database.Answers` what may be answered to
it. A command on rows names the row by its key, and to a query by keys the rows are answered in any
order.

`Database.agree_run` : the row under one key after a run is what the commands that name this key
make of it.
-/

namespace Keyed

open Function

variable {T C V : Type*}

/-! ## Commands and answers -/

/-- What a database is told. The values of a row come with the columns they are for. -/
inductive Command (T C V : Type*)
  | create (t : T) (cols : List C)
  | insert (t : T) (row : List (C × V))
  | update (t : T) (k : V) (c : C) (w : V)
  | delete (t : T) (k : V)
  | select (t : T) (sat : V → Bool)

/-- What it answers : that there is no such table, that it is done, how many rows it is about, or
rows. -/
inductive Answer (T C V : Type*)
  | refused
  | done
  | count (n : ℕ)
  | rows (t : T) (cols : List C) (rows : List (List V))

namespace Command

/-- The table that a command is about. -/
def table : Command T C V → T
  | .create t _ | .insert t _ | .update t _ _ _ | .delete t _ | .select t _ => t

/-- The columns of the table that a command creates. -/
def newCols : Command T C V → Option (List C)
  | .create _ cols => some cols
  | _ => none

/-- Whether a command on rows fits the columns of its table : a row has one value for each column,
and the first column is not updated. -/
def Fits (cols : List C) : Command T C V → Prop
  | .create _ _ => False
  | .insert _ row => (row.map Prod.fst).Perm cols ∧ cols ≠ []
  | .update _ _ c _ => c ∈ cols ∧ cols.head? ≠ some c
  | .delete _ _ | .select _ _ => True

variable [DecidableEq C] [DecidableEq V]

instance (cols : List C) (c : Command T C V) : Decidable (c.Fits cols) := by
  cases c <;> unfold Fits <;> infer_instance

/-- The value that a row has for a column. -/
def value (row : List (C × V)) (c : C) : Option V :=
  (row.find? fun p => p.1 = c).map Prod.snd

/-- The values of a row in the order of the columns. -/
def ordered (cols : List C) (row : List (C × V)) : List V :=
  cols.filterMap (value row)

/-- The position of a column. -/
def position (cols : List C) (c : C) : ℕ :=
  cols.idxOf c

/-- What becomes of the row under a key. -/
def onRow (cols : List C) (k : V) : Command T C V → Option (List V) → Option (List V)
  | .insert _ row, old => if (ordered cols row).head? = some k then some (ordered cols row) else old
  | .update _ k' c w, old => if k' = k then old.map fun row => row.set (position cols c) w else old
  | .delete _ k', old => if k' = k then none else old
  | .create _ _, old | .select _ _, old => old

/-- The command is about the whole table, or names the key. -/
def Names (t : T) (k : V) : Command T C V → Prop
  | .create t' _ => t' = t
  | .insert t' row => t' = t ∧ k ∈ row.map Prod.snd
  | .update t' k' _ _ | .delete t' k' => t' = t ∧ k' = k
  | .select _ _ => False

instance [DecidableEq T] (t : T) (k : V) (c : Command T C V) : Decidable (c.Names t k) := by
  cases c <;> unfold Names <;> infer_instance

theorem position_lt {cols : List C} {c : C} (h : c ∈ cols) : position cols c < cols.length :=
  List.idxOf_lt_length_iff.2 h

theorem getElem?_position {cols : List C} {c : C} (h : c ∈ cols) :
    cols[position cols c]? = some c :=
  List.getElem?_idxOf h

omit [DecidableEq V] in
theorem isSome_value_iff {row : List (C × V)} {c : C} :
    (value row c).isSome ↔ c ∈ row.map Prod.fst := by
  rw [value, Option.isSome_map, List.find?_isSome, List.mem_map]
  simp only [decide_eq_true_eq]

omit [DecidableEq V] in
theorem length_ordered {cols : List C} {row : List (C × V)} (h : (row.map Prod.fst).Perm cols) :
    (ordered cols row).length = cols.length :=
  List.filterMap_length_eq_length.2 fun _ hc => isSome_value_iff.2 (h.mem_iff.2 hc)

omit [DecidableEq V] in
/-- Values come from the row. -/
theorem mem_of_mem_ordered {cols : List C} {row : List (C × V)} {v : V}
    (h : v ∈ ordered cols row) : v ∈ row.map Prod.snd := by
  obtain ⟨c, -, hc⟩ := List.mem_filterMap.1 h
  obtain ⟨p, hp, rfl⟩ := Option.map_eq_some_iff.1 hc
  exact List.mem_map_of_mem (List.mem_of_find?_eq_some hp)

omit [DecidableEq C] [DecidableEq V] in
theorem Names.table {c : Command T C V} {t : T} {k : V} (h : c.Names t k) : c.table = t := by
  cases c with
  | create => exact h
  | insert | update | delete => exact h.1
  | select => exact h.elim

/-- A command that does not name a key leaves the row under it as it was. -/
theorem onRow_of_not_names {c : Command T C V} {t : T} {k : V} (hc : c.table = t)
    (h : ¬c.Names t k) (cols : List C) (old : Option (List V)) : c.onRow cols k old = old := by
  cases c with
  | create | select => rfl
  | insert t' row =>
    have hk : (ordered cols row).head? ≠ some k := fun hhead =>
      h ⟨hc, mem_of_mem_ordered (List.mem_of_head? hhead)⟩
    exact if_neg hk
  | update t' k' | delete t' k' => exact if_neg fun hk => h ⟨hc, hk⟩

end Command

/-! ## Tables -/

/-- A table. Every row stands under its first value and has a value for each column. -/
structure Table (C V : Type*) where
  cols : List C
  rows : V → Option (List V)
  keyed : ∀ k row, rows k = some row → row.head? = some k
  full : ∀ k row, rows k = some row → row.length = cols.length

namespace Table

/-- A table without rows. -/
def new (cols : List C) : Table C V where
  cols := cols
  rows _ := none
  keyed _ _ h := absurd h nofun
  full _ _ h := absurd h nofun

variable [DecidableEq C] [DecidableEq V] {tab : Table C V} {c : Command T C V}

/-- The row of an INSERT has its key, and an UPDATE leaves the key alone. -/
theorem head?_onRow (hfits : c.Fits tab.cols) {k : V} {row : List V}
    (h : c.onRow tab.cols k (tab.rows k) = some row) : row.head? = some k := by
  cases c with
  | create | select => exact tab.keyed k row h
  | insert t vs =>
    rw [Command.onRow] at h
    split_ifs at h with hk
    · rwa [← Option.some.inj h]
    · exact tab.keyed k row h
  | update t k' c w =>
    rw [Command.onRow] at h
    split_ifs at h with hk
    · obtain ⟨row', hrow', rfl⟩ := Option.map_eq_some_iff.1 h
      obtain ⟨hmem, hhead⟩ := hfits
      have hne : Command.position tab.cols c ≠ 0 := by
        rw [Command.position]
        cases hcols : tab.cols with
        | nil => simp [hcols] at hmem
        | cons c' cols =>
          rw [hcols, List.head?_cons, ne_eq, Option.some_inj] at hhead
          rw [List.idxOf_cons_ne _ hhead]
          exact Nat.succ_ne_zero _
      rw [← tab.keyed k row' hrow', List.head?_eq_getElem?, List.head?_eq_getElem?,
        List.getElem?_set_ne hne]
    · exact tab.keyed k row h
  | delete t k' =>
    rw [Command.onRow] at h
    split_ifs at h
    exact tab.keyed k row h

theorem length_onRow (hfits : c.Fits tab.cols) {k : V} {row : List V}
    (h : c.onRow tab.cols k (tab.rows k) = some row) : row.length = tab.cols.length := by
  cases c with
  | create | select => exact tab.full k row h
  | insert t vs =>
    rw [Command.onRow] at h
    split_ifs at h with hk
    · rw [← Option.some.inj h, Command.length_ordered hfits.1]
    · exact tab.full k row h
  | update t k' c w =>
    rw [Command.onRow] at h
    split_ifs at h with hk
    · obtain ⟨row', hrow', rfl⟩ := Option.map_eq_some_iff.1 h
      rw [List.length_set]
      exact tab.full k row' hrow'
    · exact tab.full k row h
  | delete t k' =>
    rw [Command.onRow] at h
    split_ifs at h
    exact tab.full k row h

/-- The table after a command on rows. -/
def obey (tab : Table C V) (c : Command T C V) (hfits : c.Fits tab.cols) : Table C V where
  cols := tab.cols
  rows k := c.onRow tab.cols k (tab.rows k)
  keyed _ _ h := head?_onRow hfits h
  full _ _ h := length_onRow hfits h

section
variable {t : T} {k : V}

theorem rows_obey_insert {row : List (C × V)} (hfits : (Command.insert t row).Fits tab.cols)
    (hk : (Command.ordered tab.cols row).head? = some k) :
    (tab.obey (.insert t row) hfits).rows =
      update tab.rows k (some (Command.ordered tab.cols row)) := by
  ext1 k'
  simp only [obey, Command.onRow, hk, Option.some_inj, update_apply, eq_comm (a := k)]

theorem rows_obey_update {c : C} {w : V} (hfits : (Command.update t k c w).Fits tab.cols) :
    (tab.obey (.update t k c w) hfits).rows =
      update tab.rows k ((tab.rows k).map fun row => row.set (Command.position tab.cols c) w) := by
  ext1 k'
  by_cases hk : k' = k
  · rw [hk, update_self]
    exact if_pos rfl
  · rw [update_of_ne hk]
    exact if_neg (Ne.symm hk)

theorem rows_obey_delete (hfits : (Command.delete t k).Fits tab.cols) :
    (tab.obey (.delete t k) hfits).rows = update tab.rows k none := by
  ext1 k'
  simp only [obey, Command.onRow, update_apply, eq_comm (a := k)]

end

end Table

/-! ## Databases -/

/-- The tables by their names. -/
abbrev Database (T C V : Type*) :=
  T → Option (Table C V)

namespace Database

variable [DecidableEq T] [DecidableEq C] [DecidableEq V]

/-- The database after a command. A command that cannot be obeyed is one that creates a table which
is there, or has no columns or two of one name, or that does not fit the columns of its table. A
table that is not there is left alone. -/
def next (db : Database T C V) (c : Command T C V) : Option (Database T C V) :=
  match db c.table with
  | some tab => if h : c.Fits tab.cols then some (update db c.table (some (tab.obey c h))) else none
  | none =>
    match c.newCols with
    | some cols =>
      if cols ≠ [] ∧ cols.Nodup then some (update db c.table (some (.new cols))) else none
    | none => some db

/-- What may be answered. An update counts the rows it finds. -/
def Answers (db : Database T C V) : Command T C V → Answer T C V → Prop
  | .create _ _, a => a = .done
  | .insert t _, a => a = if (db t).isSome then .count 1 else .refused
  | .update t k _ _, a =>
    a = match db t with
      | none => .refused
      | some tab => .count (if (tab.rows k).isSome then 1 else 0)
  | .delete t _, a => a = if (db t).isSome then .done else .refused
  | .select t sat, a =>
    match db t with
    | none => a = .refused
    | some tab => ∃ rows, a = .rows t tab.cols rows ∧
        Rows.Selected tab.rows (fun row => ∃ k ∈ row.head?, sat k) id rows

/-- The database after commands. -/
def run (db : Database T C V) (commands : List (Command T C V)) : Option (Database T C V) :=
  Transition.run next db commands

/-! ## One row of a database -/

/-- The databases have the same table of a name up to its rows, and in it the same row under a
key. -/
structure Agree (t : T) (k : V) (db db' : Database T C V) : Prop where
  cols : (db t).map Table.cols = (db' t).map Table.cols
  row : (db t).bind (fun tab => tab.rows k) = (db' t).bind fun tab => tab.rows k

variable {db db' db₁ db₂ : Database T C V} {t : T} {k : V} {c : Command T C V}

/-- What a command does to a table that is there. -/
theorem next_of_some {tab : Table C V} (htab : db c.table = some tab) :
    db.next c = some db' ↔
      ∃ h : c.Fits tab.cols, update db c.table (some (tab.obey c h)) = db' := by
  simp only [next, htab, Option.dite_none_right_eq_some, Option.some_inj]

/-- What a command does where its table is not there. -/
theorem next_of_none (htab : db c.table = none) :
    db.next c = some db' ↔ c.newCols = none ∧ db = db' ∨
      ∃ cols, c.newCols = some cols ∧ (cols ≠ [] ∧ cols.Nodup) ∧
        update db c.table (some (.new cols)) = db' := by
  simp only [next, htab]
  cases c.newCols <;> simp

/-- A query changes nothing. -/
theorem update_obey_select {tab : Table C V} {sat : V → Bool} (htab : db t = some tab)
    (hfits : (Command.select t sat).Fits tab.cols) :
    update db t (some (tab.obey (.select t sat) hfits)) = db := by
  change update db t (some tab) = db
  rw [← htab, update_eq_self]

omit [DecidableEq T] [DecidableEq C] [DecidableEq V] in
/-- A command on rows of a table that is not there. -/
theorem answers_refused (htab : db c.table = none) (hnew : c.newCols = none) :
    db.Answers c .refused := by
  cases c with
  | create => cases hnew
  | insert | update | delete | select =>
    simp only [Command.table] at htab
    simp [Answers, htab]

/-- Commands on other tables are not seen in a table. -/
theorem next_of_ne (h : db.next c = some db') (ht : c.table ≠ t) : db' t = db t := by
  cases htab : db c.table with
  | none =>
    rcases (next_of_none htab).1 h with ⟨-, rfl⟩ | ⟨cols, -, -, rfl⟩
    · rfl
    · exact update_of_ne (Ne.symm ht) ..
  | some tab =>
    obtain ⟨-, rfl⟩ := (next_of_some htab).1 h
    exact update_of_ne (Ne.symm ht) ..

omit [DecidableEq T] [DecidableEq C] [DecidableEq V] in
theorem Agree.refl (t : T) (k : V) (db : Database T C V) : Agree t k db db :=
  ⟨rfl, rfl⟩

omit [DecidableEq T] [DecidableEq C] [DecidableEq V] in
theorem Agree.symm (h : Agree t k db₁ db₂) : Agree t k db₂ db₁ :=
  ⟨h.cols.symm, h.row.symm⟩

omit [DecidableEq T] [DecidableEq C] [DecidableEq V] in
theorem Agree.trans (h : Agree t k db db₁) (h' : Agree t k db₁ db₂) : Agree t k db db₂ :=
  ⟨h.cols.trans h'.cols, h.row.trans h'.row⟩

/-- A command that does not name the key is not seen in its row. -/
theorem agree_next (h : db.next c = some db') (hnames : ¬c.Names t k) : Agree t k db db' := by
  by_cases ht : c.table = t
  · cases htab : db c.table with
    | none =>
      rcases (next_of_none htab).1 h with ⟨-, rfl⟩ | ⟨cols, hcols, -⟩
      · exact .refl ..
      · cases c with
        | create => exact absurd ht hnames
        | insert | update | delete | select => cases hcols
    | some tab =>
      obtain ⟨hfits, rfl⟩ := (next_of_some htab).1 h
      rw [ht] at htab
      refine ⟨?_, ?_⟩
      · rw [ht, update_self, htab]
        rfl
      · rw [ht, update_self, htab]
        exact (Command.onRow_of_not_names ht hnames ..).symm
  · have heq := next_of_ne h ht
    exact ⟨by rw [heq], by rw [heq]⟩

/-- A command on the table can be obeyed in both databases or in none, and they still agree. -/
theorem Agree.next (hagree : Agree t k db₁ db₂) (ht : c.table = t) (h : db₁.next c = some db') :
    ∃ db₂', db₂.next c = some db₂' ∧ Agree t k db' db₂' := by
  subst ht
  cases htab₁ : db₁ c.table with
  | none =>
    have htab₂ : db₂ c.table = none := by
      rw [← Option.map_eq_none_iff, ← hagree.cols, htab₁, Option.map_none]
    rcases (next_of_none htab₁).1 h with ⟨hno, rfl⟩ | ⟨cols, hcols, hnew, rfl⟩
    · exact ⟨db₂, (next_of_none htab₂).2 (Or.inl ⟨hno, rfl⟩), hagree⟩
    · refine ⟨_, (next_of_none htab₂).2 (Or.inr ⟨cols, hcols, hnew, rfl⟩), ?_, ?_⟩
      · rw [update_self, update_self]
      · rw [update_self, update_self]
  | some tab₁ =>
    obtain ⟨hfits, rfl⟩ := (next_of_some htab₁).1 h
    obtain ⟨tab₂, htab₂, hcols⟩ : ∃ tab₂, db₂ c.table = some tab₂ ∧ tab₂.cols = tab₁.cols := by
      rw [← Option.map_eq_some_iff, ← hagree.cols, htab₁, Option.map_some]
    have hrow := hagree.row
    rw [htab₁, htab₂, Option.bind_some, Option.bind_some] at hrow
    refine ⟨_, (next_of_some htab₂).2 ⟨hcols ▸ hfits, rfl⟩, ?_, ?_⟩
    · rw [update_self, update_self, Option.map_some, Option.map_some]
      exact congrArg some hcols.symm
    · rw [update_self, update_self, Option.bind_some, Option.bind_some]
      change c.onRow tab₁.cols k (tab₁.rows k) = c.onRow tab₂.cols k (tab₂.rows k)
      rw [hrow, hcols]

/-- The row under a key, after a run, is what the commands that name the key make of it. -/
theorem agree_run (hagree : Agree t k db₁ db₂) {commands : List (Command T C V)}
    (h : db₁.run commands = some db') :
    ∃ db₂', db₂.run (commands.filter fun c => c.Names t k) = some db₂' ∧ Agree t k db' db₂' := by
  induction commands generalizing db₁ db₂ with
  | nil =>
    obtain rfl := Option.some.inj h
    exact ⟨db₂, rfl, hagree⟩
  | cons c commands ih =>
    obtain ⟨db, hnext, hrun⟩ := Transition.run_cons_eq_some.1 h
    by_cases hnames : c.Names t k
    · obtain ⟨db₂', hnext', hagree'⟩ := hagree.next hnames.table hnext
      obtain ⟨db₂'', hrun', hagree''⟩ := ih hagree' hrun
      refine ⟨db₂'', ?_, hagree''⟩
      rw [List.filter_cons_of_pos (by simpa using hnames)]
      exact Transition.run_cons_eq_some.2 ⟨db₂', hnext', hrun'⟩
    · rw [List.filter_cons_of_neg (by simpa using hnames)]
      exact ih ((agree_next hnext hnames).symm.trans hagree) hrun

/-! ## Queries by one key -/

omit [DecidableEq T] [DecidableEq C] in
/-- The row under a key is the only one that a query by this key selects. -/
theorem selected_key_iff (tab : Table C V) {out : List (List V)} :
    Rows.Selected tab.rows (fun row => ∃ k' ∈ row.head?, decide (k' = k)) id out ↔
      out = (tab.rows k).toList := by
  have hsel : ∀ row, (∃ k' v, tab.rows k' = some v ∧
      (∃ k'' ∈ v.head?, decide (k'' = k)) ∧ id v = row) ↔ tab.rows k = some row := by
    intro row
    constructor
    · rintro ⟨k', v, hv, ⟨k'', hhead, hk⟩, rfl⟩
      obtain rfl := Option.some.inj ((tab.keyed k' v hv).symm.trans hhead)
      rwa [of_decide_eq_true hk] at hv
    · exact fun h => ⟨k, row, h, ⟨k, tab.keyed k row h, decide_eq_true rfl⟩, rfl⟩
  have hnodup : (tab.rows k).toList.Nodup := by
    cases tab.rows k with
    | none => exact List.nodup_nil
    | some row => exact List.nodup_singleton row
  constructor
  · intro h
    have hperm := (List.perm_ext_iff_of_nodup h.nodup hnodup).2 fun row => by
      rw [h.mem, hsel, Option.mem_toList]
    cases hrow : tab.rows k with
    | none => exact List.perm_nil.1 (by rwa [hrow] at hperm)
    | some row => exact List.perm_singleton.1 (by rwa [hrow] at hperm)
  · rintro rfl
    exact ⟨hnodup, fun row => by rw [hsel, Option.mem_toList]⟩

end Database

end Keyed
