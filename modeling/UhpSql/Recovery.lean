import UhpSql.Steps

/-!
# Reading the catalog back

`DataBase.readTable` is what a start makes of one stored descriptor : the columns in the value,
and the table's name after the last `_` of the key. `recoverLoop_flat` : the loop over a reply
ends well when every entry can be read, and adds the tables in the order of the reply.

`readTable_entry` : the entry of a table reads back as the table if the table is `Restorable`.
`of_readTable` : hardly any other table is ever read.
-/

namespace UhpSql

/-! ## Descriptors -/

/-- A string without the characters that structure a descriptor. -/
def Unmarked (s : Str) : Prop :=
  CChar.ofChar '^' ∉ s ∧ CChar.ofChar '$' ∉ s

instance (s : Str) : Decidable (Unmarked s) :=
  inferInstanceAs (Decidable (_ ∧ _))

theorem unmarked_nil : Unmarked [] :=
  ⟨List.not_mem_nil, List.not_mem_nil⟩

/-- Unmarked characters are collected. -/
theorem getColLoop_append {colname x : Str} (hx : Unmarked x) (rest : Str) :
    ∀ s, getColLoop colname s (x ++ rest) = getColLoop colname (s ++ x) rest := by
  induction x with
  | nil => exact fun s => by rw [List.nil_append, List.append_nil]
  | cons c x ih =>
    intro s
    have hc : c ≠ CChar.ofChar '^' := fun h => hx.1 (h ▸ List.mem_cons_self)
    have hc' : c ≠ CChar.ofChar '$' := fun h => hx.2 (h ▸ List.mem_cons_self)
    have hx' : Unmarked x :=
      ⟨fun h => hx.1 (List.mem_cons_of_mem _ h), fun h => hx.2 (List.mem_cons_of_mem _ h)⟩
    rw [List.cons_append, getColLoop, if_neg hc, if_neg hc', ih hx', List.append_assoc]
    rfl

theorem stoi_toStr_dataType2Int (t : DataType) :
    stoi (toStr (dataType2Int t)) = .ok (dataType2Int t) := by
  cases t <;> decide

theorem unmarked_toStr_dataType2Int (t : DataType) : Unmarked (toStr (dataType2Int t)) := by
  cases t <;> decide

/-- A column, with what follows its type. -/
theorem getColLoop_colDesc {c : TableColumn} (hc : Unmarked c.colName) (colname rest : Str) :
    getColLoop colname [] (colDesc c ++ rest) =
      getColLoop c.colName (toStr (dataType2Int c.colType)) rest := by
  rw [colDesc, List.append_assoc, List.append_assoc, getColLoop_append hc,
    show str "^" = [CChar.ofChar '^'] from rfl, List.cons_append, getColLoop, if_pos rfl,
    List.nil_append, List.nil_append, getColLoop_append (unmarked_toStr_dataType2Int _),
    List.nil_append]

/-- The descriptor of columns without values reads back as these columns. -/
theorem getColLoop_descriptor : ∀ {cols : List TableColumn}, cols ≠ [] →
    (∀ c ∈ cols, Unmarked c.colName ∧ c.val = []) → ∀ colname,
      getColLoop colname [] (descriptor cols) = .ok cols
  | [⟨name, type, val⟩], _, h, colname => by
    obtain ⟨hname, rfl⟩ := h _ List.mem_cons_self
    rw [descriptor, List.map_singleton, stringsJoin, Delimited.join,
      ← List.append_nil (colDesc _), getColLoop_colDesc hname, getColLoop,
      stoi_toStr_dataType2Int, ok_bind, int2DataType_dataType2Int]
    rfl
  | ⟨name, type, val⟩ :: c' :: cols, _, h, colname => by
    obtain ⟨hname, rfl⟩ := h _ List.mem_cons_self
    have ih := @getColLoop_descriptor (c' :: cols) (List.cons_ne_nil _ _)
      (fun c hc => h c (List.mem_cons_of_mem _ hc)) name
    have hdesc : descriptor (⟨name, type, []⟩ :: c' :: cols) =
        colDesc ⟨name, type, []⟩ ++ (str "$$" ++ descriptor (c' :: cols)) := by
      rw [descriptor, List.map_cons, stringsJoin, Delimited.join_cons (by simp), List.append_assoc]
      rfl
    have hdollar : str "$$" ++ descriptor (c' :: cols) =
        CChar.ofChar '$' :: CChar.ofChar '$' :: descriptor (c' :: cols) := rfl
    rw [hdesc, getColLoop_colDesc hname, hdollar, getColLoop, if_neg (by decide), if_pos rfl,
      stoi_toStr_dataType2Int, ok_bind, int2DataType_dataType2Int]
    simp only [ih, ok_bind, pure_eq_ok]

/-- Column names that are read are unmarked, and at least one column is. -/
theorem unmarked_of_getColLoop {colname s value : Str} {cols : List TableColumn}
    (hcolname : Unmarked colname) (hs : Unmarked s) (h : getColLoop colname s value = .ok cols) :
    cols ≠ [] ∧ ∀ c ∈ cols, Unmarked c.colName := by
  induction colname, s, value using getColLoop.induct generalizing cols with
  | case1 colname s =>
    obtain ⟨n, -, h⟩ := bind_eq_ok.1 (by simpa only [getColLoop] using h)
    obtain rfl := Except.ok.inj h
    exact ⟨nofun, fun c hc => by rwa [List.mem_singleton.1 hc]⟩
  | case2 colname s rest ih =>
    rw [getColLoop, if_pos rfl] at h
    exact ih hs unmarked_nil h
  | case3 colname s rest _ ih =>
    rw [getColLoop, if_neg (by decide), if_pos rfl] at h
    obtain ⟨n, -, h⟩ := bind_eq_ok.1 h
    cases rest with
    | nil =>
      obtain ⟨cols', hrest, h⟩ := bind_eq_ok.1 h
      obtain rfl := Except.ok.inj h
      exact ⟨nofun, List.forall_mem_cons.2 ⟨hcolname, (ih hcolname unmarked_nil hrest).2⟩⟩
    | cons _ rest =>
      obtain ⟨cols', hrest, h⟩ := bind_eq_ok.1 h
      obtain rfl := Except.ok.inj h
      exact ⟨nofun, List.forall_mem_cons.2 ⟨hcolname, (ih hcolname unmarked_nil hrest).2⟩⟩
  | case4 colname s c rest hc hc' ih =>
    rw [getColLoop, if_neg hc, if_neg hc'] at h
    have hsc : Unmarked (s ++ [c]) := by
      simp only [Unmarked, List.mem_append, List.mem_singleton, not_or]
      exact ⟨⟨hs.1, Ne.symm hc⟩, hs.2, Ne.symm hc'⟩
    exact ih hcolname hsc h

/-! ## One entry -/

/-- The table a start makes of a stored descriptor. -/
def DataBase.readTable (e : Entry) : Except Fault DataTable := do
  let cols ← getColFromStr e.2
  match (stringSplit e.1 (str "_")).getLast? with
  | none => .error .outOfBounds
  | some tablename => .ok ⟨tablename, cols⟩

/-- The entry that stores a table. -/
def DataTable.entry (dbName : Str) (T : DataTable) : Entry :=
  (tablePrefix dbName ++ T.tableName, descriptor T.cols)

/-- The tables that survive a restart. -/
structure Restorable (T : DataTable) : Prop where
  name_ne_nil : T.tableName ≠ []
  name_trimmed : trim T.tableName = T.tableName
  name_underscore : CChar.ofChar '_' ∉ T.tableName
  cols_ne_nil : T.cols ≠ []
  cols_unmarked : ∀ c ∈ T.cols, Unmarked c.colName

/-- A trimmed name without `_` is the last part of its key. -/
theorem getLast?_stringSplit_key {t : Str} (hne : t ≠ []) (htrim : trim t = t)
    (hu : CChar.ofChar '_' ∉ t) :
    (stringSplit (tablePrefix defaultDatabaseName ++ t) (str "_")).getLast? = some t := by
  have hclean : Delimited.Clean isBlank (str "_") [str "table", defaultDatabaseName, t] := by
    refine ⟨⟨by decide, by decide⟩, ⟨by decide, by decide⟩, hne, htrim, ?_⟩
    rwa [show str "_" = [CChar.ofChar '_'] from rfl, List.singleton_infix_iff]
  have hjoin : tablePrefix defaultDatabaseName ++ t =
      Delimited.join (str "_") [str "table", defaultDatabaseName, t] := by
    rw [tablePrefix, List.append_assoc, List.append_assoc]
    simp only [Delimited.join, List.append_assoc]
    rfl
  rw [hjoin, stringSplit, hclean.split_join (by decide) (by decide)]
  rfl

/-- The part after an empty name is that of the database. -/
theorem getLast?_stringSplit_key_nil :
    (stringSplit (tablePrefix defaultDatabaseName ++ []) (str "_")).getLast? =
      some defaultDatabaseName := by
  decide

theorem readTable_entry {T : DataTable} (hT : Restorable T) (hval : ∀ c ∈ T.cols, c.val = []) :
    DataBase.readTable (T.entry defaultDatabaseName) = .ok T := by
  unfold DataBase.readTable DataTable.entry
  rw [getColFromStr, getColLoop_descriptor hT.cols_ne_nil
    fun c hc => ⟨hT.cols_unmarked c hc, hval c hc⟩, ok_bind]
  simp only [getLast?_stringSplit_key hT.name_ne_nil hT.name_trimmed hT.name_underscore]

/-- What a table that is read looks like. -/
theorem of_readTable {e : Entry} {T : DataTable} (h : DataBase.readTable e = .ok T) :
    (stringSplit e.1 (str "_")).getLast? = some T.tableName ∧ trim T.tableName = T.tableName ∧
      CChar.ofChar '_' ∉ T.tableName ∧ T.cols ≠ [] ∧ ∀ c ∈ T.cols, Unmarked c.colName := by
  obtain ⟨cols, hcols, h⟩ := bind_eq_ok.1 h
  cases hlast : (stringSplit e.1 (str "_")).getLast? with
  | none =>
    rw [hlast] at h
    exact absurd h nofun
  | some t =>
    rw [hlast] at h
    obtain rfl := Except.ok.inj h
    obtain ⟨htrim, hu⟩ := Delimited.of_mem_split (d := str "_") (by decide)
      (List.mem_of_getLast? hlast)
    rw [show str "_" = [CChar.ofChar '_'] from rfl, List.singleton_infix_iff] at hu
    exact ⟨rfl, htrim, hu, unmarked_of_getColLoop unmarked_nil unmarked_nil hcols⟩

/-! ## One reply -/

namespace DataBase

/-- A database with more tables. -/
def addTables (db : DataBase) (Ts : List DataTable) : DataBase :=
  Ts.foldl (fun db T => db.addTable T.tableName T.cols) db

@[simp] theorem dbName_addTables (Ts : List DataTable) :
    ∀ db : DataBase, (db.addTables Ts).dbName = db.dbName := by
  induction Ts with
  | nil => exact fun _ => rfl
  | cons T Ts ih => exact fun db => ih (db.addTable T.tableName T.cols)

/-- The first table of a name counts. -/
theorem getTable_addTables (Ts : List DataTable) (x : Str) : ∀ db : DataBase,
    (db.addTables Ts).getTable x = (db.getTable x).or (Ts.find? fun T => T.tableName = x) := by
  induction Ts with
  | nil => exact fun db => (Option.or_none ..).symm
  | cons T Ts ih =>
    intro db
    have h : (db.addTables (T :: Ts)).getTable x =
        ((db.addTable T.tableName T.cols).addTables Ts).getTable x := rfl
    rw [h, ih, getTable_addTable, Option.or_assoc, List.find?_cons]
    by_cases hx : x = T.tableName
    · simp [hx]
    · simp [hx, Ne.symm hx]

/-- The loop over a reply ends well when every entry can be read. -/
theorem recoverLoop_flat {db' : DataBase} : ∀ {es : List Entry} {db : DataBase},
    recoverLoop (flat es) db = .ok db' ↔
      ∃ Ts : List DataTable, es.map readTable = Ts.map Except.ok ∧ db' = db.addTables Ts
  | [], db => by
    refine ⟨fun h => ⟨[], rfl, (Except.ok.inj h).symm⟩, fun ⟨Ts, hTs, h⟩ => ?_⟩
    obtain rfl := List.map_eq_nil_iff.1 hTs.symm
    rw [h]
    rfl
  | e :: es, db => by
    have hstep : recoverLoop (flat (e :: es)) db =
        readTable e >>= fun T => recoverLoop (flat es) (db.addTable T.tableName T.cols) := by
      rw [flat_cons, recoverLoop, readTable]
      cases getColFromStr e.2 with
      | error _ => rfl
      | ok cols =>
        rw [ok_bind, ok_bind]
        cases (stringSplit e.1 (str "_")).getLast? <;> rfl
    rw [hstep, bind_eq_ok]
    refine ⟨fun ⟨T, hT, h⟩ => ?_, fun ⟨Ts, hTs, h⟩ => ?_⟩
    · obtain ⟨Ts, hTs, rfl⟩ := recoverLoop_flat.1 h
      exact ⟨T :: Ts, by rw [List.map_cons, List.map_cons, hT, hTs], rfl⟩
    · obtain ⟨T, Ts, rfl, hT, hTs⟩ := List.map_eq_cons_iff.1 hTs.symm
      exact ⟨T, hT.symm, recoverLoop_flat.2 ⟨Ts, hTs.symm, h⟩⟩

end DataBase

/-! ## Lists of steps that all end well -/

section
variable {α β : Type} {f : α → Except Fault β}

theorem exists_map_ok : ∀ {l : List α}, (∀ a ∈ l, ∃ b, f a = .ok b) →
    ∃ l' : List β, l.map f = l'.map Except.ok
  | [], _ => ⟨[], rfl⟩
  | a :: l, h => by
    obtain ⟨b, hb⟩ := h a List.mem_cons_self
    obtain ⟨l', hl'⟩ := exists_map_ok fun a' ha => h a' (List.mem_cons_of_mem _ ha)
    exact ⟨b :: l', by rw [List.map_cons, List.map_cons, hb, hl']⟩

variable {l : List α} {l' : List β} (h : l.map f = l'.map Except.ok)
include h

theorem exists_result_of_mem {a : α} (ha : a ∈ l) : ∃ b ∈ l', f a = .ok b := by
  obtain ⟨b, hb, heq⟩ := List.mem_map.1 (h ▸ List.mem_map_of_mem ha)
  exact ⟨b, hb, heq.symm⟩

theorem exists_source_of_mem {b : β} (hb : b ∈ l') : ∃ a ∈ l, f a = .ok b :=
  List.mem_map.1 (h ▸ List.mem_map_of_mem hb)

end

/-- Where a name stands for one table, it is found. -/
theorem find?_tableName_eq_some {Ts : List DataTable} {T : DataTable} (hT : T ∈ Ts)
    (huniq : ∀ T' ∈ Ts, T'.tableName = T.tableName → T' = T) :
    (Ts.find? fun T' => T'.tableName = T.tableName) = some T := by
  cases h : Ts.find? fun T' => T'.tableName = T.tableName with
  | none => exact absurd (List.find?_eq_none.1 h T hT) (by simp)
  | some T' => rw [huniq T' (List.mem_of_find?_eq_some h) (by simpa using List.find?_some h)]

end UhpSql
