import UhpSql.Session

/-!
# Reading back an inserted row

INSERT of a value for every column, in schema order, followed by SELECT on the value of the
first column. `readsBack_iff` says when the answer is the inserted row : the values survive
the `$$` encoding, and a column whose name occurs again later has the empty value, since
`col_index_` sends both to the later position (`fillVals_spec`).
-/

namespace UhpSql

/-! ## What INSERT stores -/

open Classical in
/-- The values as they are stored : a column whose name occurs again later is empty. -/
theorem fillVals_eq {table : DataTable} {vs : List Str}
    (hlen : vs.length = table.colNames.length) {row : List TableColumn}
    (hn : row.map TableColumn.colName = table.colNames) (hv : row.map TableColumn.val = vs) :
    ∃ r, fillVals table row (List.replicate row.length []) = .ok r ∧ r.length = vs.length ∧
      ∀ p, r[p]? = if ∃ x, DataTable.LastAt x table.colNames p then vs[p]?
        else (List.replicate vs.length [])[p]? := by
  have hrow : row.length = table.colNames.length := by rw [← hn, List.length_map]
  obtain ⟨r, hr, hrlen, hlast, hother⟩ := @fillVals_spec table row
    (List.replicate row.length []) fun c hc => by
      rcases table.getColIndex_cases c.colName with ⟨hmem, -⟩ | ⟨i, -, hi⟩
      · exact absurd (hn ▸ List.mem_map_of_mem hc) hmem
      · refine ⟨i, hi, ?_⟩
        rw [List.length_replicate, hrow]
        exact (List.getElem?_eq_some_iff.1 hi.1).1
  refine ⟨r, hr, by rw [hrlen, List.length_replicate, hrow, hlen], fun p => ?_⟩
  split_ifs with hp
  · obtain ⟨x, hx⟩ := hp
    have hlt := (List.getElem?_eq_some_iff.1 hx.1).1
    rw [hlast p x hx, given_eq_getElem? (hn ▸ hx), hv, List.getElem?_eq_getElem (hlen ▸ hlt),
      Option.some_or]
  · rw [hother p hp, hrow, hlen]

/-! ## Reading it back -/

/-- No column with a value has a name that occurs again later. -/
def NoneShadowed (names vs : List Str) : Prop :=
  ∀ (i j : ℕ) (x : Str), i < j → names[i]? = some x → names[j]? = some x → vs[i]? = some []

/-- The stored values are the given ones when no value is shadowed, and else some are empty. -/
theorem forall₂_of_fillVals {names vs r : List Str} (hlen : vs.length = names.length)
    (hr : r.length = vs.length) (h : ∀ p, (∃ x, DataTable.LastAt x names p) → r[p]? = vs[p]?)
    (h' : ∀ p, (¬∃ x, DataTable.LastAt x names p) → r[p]? = (List.replicate vs.length [])[p]?) :
    List.Forall₂ (fun a b => a = b ∨ a = []) r vs ∧ (r = vs ↔ NoneShadowed names vs) := by
  have hlast : ∀ {p}, p < names.length → (¬∃ x, DataTable.LastAt x names p) →
      ∃ j x, p < j ∧ names[p]? = some x ∧ names[j]? = some x := by
    intro p hp hno
    by_contra hall
    refine hno ⟨names[p], List.getElem?_eq_getElem hp,
      fun j hj hx => hall ⟨j, names[p], hj, ?_, hx⟩⟩
    exact List.getElem?_eq_getElem hp
  have hempty : ∀ {p}, p < vs.length → (List.replicate vs.length ([] : Str))[p]? = some [] := by
    intro p hp
    rw [List.getElem?_replicate, if_pos hp]
  refine ⟨?_, ?_, ?_⟩
  · rw [List.forall₂_iff_get]
    refine ⟨hr, fun p h₁ h₂ => ?_⟩
    by_cases hp : ∃ x, DataTable.LastAt x names p
    · refine Or.inl ?_
      simpa [List.getElem?_eq_getElem h₁, List.getElem?_eq_getElem h₂] using h p hp
    · exact Or.inr (by simpa [List.getElem?_eq_getElem h₁, hempty h₂] using h' p hp)
  · rintro rfl i j x hij hi hj
    have hlt := (List.getElem?_eq_some_iff.1 hi).1
    rw [h' i, hempty (hlen ▸ hlt)]
    rintro ⟨y, hy⟩
    obtain rfl : x = y := Option.some.inj (hi.symm.trans hy.1)
    exact hy.2 j hij hj
  · intro hsh
    refine List.ext_getElem? fun p => ?_
    by_cases hp : ∃ x, DataTable.LastAt x names p
    · exact h p hp
    · rcases Nat.lt_or_ge p names.length with hlt | hge
      · obtain ⟨j, x, hpj, hx, hxj⟩ := hlast hlt hp
        rw [h' p hp, hempty (hlen ▸ hlt), hsh p j x hpj hx hxj]
      · rw [List.getElem?_eq_none (by omega), List.getElem?_eq_none (by omega)]

/-- The first values are paired off with the columns one by one. -/
theorem pairColumns_eq : ∀ {names vs : List Str}, names.length ≤ vs.length →
    ∃ row, pairColumns names vs = .ok row ∧ row.map TableColumn.colName = names ∧
      row.map TableColumn.val = vs.take names.length
  | [], _, _ => ⟨[], rfl, rfl, rfl⟩
  | name :: names, v :: vs, h => by
    obtain ⟨row, hrow, hn, hv⟩ := pairColumns_eq (Nat.le_of_succ_le_succ h)
    refine ⟨⟨name, .unknown, v⟩ :: row, ?_, by simp [hn], by simp [hv]⟩
    rw [pairColumns, hrow]
    rfl

theorem decodeRow_eq_zip_iff {table : DataTable} {val : Str} {vs : List Str}
    (hlen : vs.length = table.colNames.length) :
    (decodeRow table val).map (fun c => (c.colName, c.val)) = table.colNames.zip vs ↔
      fields val = vs := by
  constructor
  · intro h
    have hsnd := congrArg (List.map Prod.snd) h
    rw [List.map_map, List.map_snd_zip hlen.le] at hsnd
    rw [← hsnd, ← map_val_decodeRow table val]
    rfl
  · rintro rfl
    refine List.ext_getElem (by simp [decodeRow, hlen]) fun i hi hi' => ?_
    have hlt : i < table.colNames.length := by
      rw [List.length_zip] at hi'
      omega
    simp [decodeRow, DataTable.indexCol_eq, List.getElem?_eq_getElem hlt]

section
variable (env : Env) (u : Uninit) (s : Server) (t : Str) (table : DataTable)

/-- INSERT of the values `v₁ :: vs` in schema order, then SELECT with `c₁ = v₁` for the first
column `c₁`, gives one row, with these values under the names of the columns. -/
def ReadsBack (c₁ v₁ : Str) (vs : List Str) : Prop :=
  ∃ s' n row, insertRow s (insertValues t table.colNames (v₁ :: vs)) = .ok (some (s', n)) ∧
    selectRows env u s' (selectWhere t c₁ .eq v₁) = .ok (some ([row], t)) ∧
    row.map (fun c => (c.colName, c.val)) = table.colNames.zip (v₁ :: vs)

variable {s t table}

/-- INSERT of a value for every column stores the filled values under the first. -/
theorem insertRow_schema (hT : s.dbms.getCurDB.getTable t = some table) (v₁ : Str)
    (vs : List Str) (hlen : (v₁ :: vs).length = table.colNames.length) :
    ∃ r, List.Forall₂ (fun a b => a = b ∨ a = []) r (v₁ :: vs) ∧
      (r = v₁ :: vs ↔ NoneShadowed table.colNames (v₁ :: vs)) ∧
      insertRow s (insertValues t table.colNames (v₁ :: vs)) =
        .ok (some (⟨s.dbms, s.store.set (rowKey s.dbms.getCurDB.dbName t v₁)
          (stringsJoin r (str "$$"))⟩, 1)) := by
  obtain ⟨row, hrow, hn, hv⟩ := pairColumns_eq hlen.ge
  rw [← hlen, List.take_length] at hv
  classical
  obtain ⟨r, hr, hrlen, hrp⟩ := fillVals_eq hlen hn hv
  obtain ⟨hforall, hiff⟩ := forall₂_of_fillVals hlen hrlen
    (fun p hp => by rw [hrp p, if_pos hp]) (fun p hp => by rw [hrp p, if_neg hp])
  refine ⟨r, hforall, hiff, ?_⟩
  rw [insertRow_insertValues hT, hrow, ok_bind]
  cases row with
  | nil => simp at hv
  | cons first row =>
    obtain rfl : first.val = v₁ := (List.cons.inj hv).1
    simp only [insertRowToPMemKV, hT, deref_some, ok_bind, hr, pure_eq_ok]

/-- An inserted row is read back when the stored values are the given ones and survive the
encoding. -/
theorem readsBack_iff_fields (hT : s.dbms.getCurDB.getTable t = some table) (c₁ v₁ : Str)
    (vs : List Str) (hlen : (v₁ :: vs).length = table.colNames.length) :
    ∃ r, List.Forall₂ (fun a b => a = b ∨ a = []) r (v₁ :: vs) ∧
      (r = v₁ :: vs ↔ NoneShadowed table.colNames (v₁ :: vs)) ∧
      (ReadsBack env u s t table c₁ v₁ vs ↔ fields (stringsJoin r (str "$$")) = v₁ :: vs) := by
  obtain ⟨r, hforall, hiff, hinsert⟩ := insertRow_schema hT v₁ vs hlen
  have hselect := selectRows_eq (s := ⟨s.dbms, s.store.set (rowKey s.dbms.getCurDB.dbName t v₁)
    (stringsJoin r (str "$$"))⟩) env u c₁ v₁ hT
  rw [rowsOf_set, Function.update_self] at hselect
  refine ⟨r, hforall, hiff, ?_⟩
  rw [← decodeRow_eq_zip_iff hlen]
  constructor
  · rintro ⟨s', n, row, hs', hrow, heq⟩
    obtain ⟨rfl, -⟩ := Prod.mk.inj (Option.some.inj (Except.ok.inj (hinsert.symm.trans hs')))
    obtain ⟨hrows, -⟩ := Prod.mk.inj (Option.some.inj (Except.ok.inj (hselect.symm.trans hrow)))
    obtain rfl := (List.cons.inj hrows).1
    exact heq
  · exact fun heq => ⟨_, _, _, hinsert, hselect, heq⟩

/-- An inserted row is read back exactly when its values survive the encoding and none is
shadowed by a later column of the same name. -/
theorem readsBack_iff (hT : s.dbms.getCurDB.getTable t = some table) (c₁ v₁ : Str)
    (vs : List Str) (hlen : (v₁ :: vs).length = table.colNames.length) :
    ReadsBack env u s t table c₁ v₁ vs ↔
      RoundTrips dollar (v₁ :: vs) ∧ NoneShadowed table.colNames (v₁ :: vs) := by
  obtain ⟨r, hforall, hiff, hreads⟩ := readsBack_iff_fields env u hT c₁ v₁ vs hlen
  rw [hreads, ← hiff]
  constructor
  · intro h
    -- reading keeps no more than was written, and emptied fields make it less
    have hle := Delimited.length_join_split_le isBlank (d := str "$$") (by decide)
      (stringsJoin r (str "$$"))
    have heq : r = v₁ :: vs := Delimited.eq_of_length_join_le (d := str "$$") hforall
      (by rw [← h]; exact hle)
    rw [heq] at h
    exact ⟨(fields_stringsJoin_iff (List.cons_ne_nil _ _)).1 h, heq⟩
  · rintro ⟨hrt, rfl⟩
    exact (fields_stringsJoin_iff (List.cons_ne_nil _ _)).2 hrt

end

/-- With distinct names no column is shadowed. -/
theorem noneShadowed_of_nodup {names : List Str} (h : names.Nodup) (vs : List Str) :
    NoneShadowed names vs := by
  intro i j x hij hi hj
  have hlt := (List.getElem?_eq_some_iff.1 hi).1
  exact absurd ((List.getElem?_inj hlt h).1 (hi.trans hj.symm)) hij.ne

theorem noneShadowed_classtab (vs : List Str) :
    NoneShadowed (DataTable.mk (str "classtab") (ofDefinitions classtab)).colNames vs :=
  noneShadowed_of_nodup (by decide) vs

theorem readsBack_tom : ReadsBack Env.whole .zero classServer (str "classtab")
    ⟨str "classtab", ofDefinitions classtab⟩ (str "Name") (str "Tom") [str "Class1", str "90"] :=
  (readsBack_iff .whole .zero getTable_classServer (str "Name") (str "Tom")
    [str "Class1", str "90"] rfl).2 ⟨by decide, noneShadowed_classtab _⟩

/-- A row whose last value is empty comes back one field short. -/
theorem not_readsBack_empty : Reachable Env.whole classServer ∧
    ¬ReadsBack Env.whole .zero classServer (str "classtab")
      ⟨str "classtab", ofDefinitions classtab⟩ (str "Name") (str "Tom") [str "Class1", []] := by
  refine ⟨reachable_classServer, ?_⟩
  obtain ⟨r, -, hiff, hreads⟩ := readsBack_iff_fields .whole .zero getTable_classServer
    (str "Name") (str "Tom") [str "Class1", []] rfl
  rw [hreads, hiff.2 (noneShadowed_classtab _)]
  decide

/-- The table of the test script with one row. -/
def tomServer : Server :=
  ⟨classServer.dbms, classServer.store.set (rowKey defaultDatabaseName (str "classtab") (str "Tom"))
    (stringsJoin [str "Tom", str "B", str "93"] (str "$$"))⟩

/-- `INSERT INTO classtab (Name, Class, Score) VALUES ('Tom', 'B', '93')`. -/
def tomInsert : InsertStatement :=
  insertValues (str "classtab") [str "Name", str "Class", str "Score"]
    [str "Tom", str "B", str "93"]

theorem execStatement_tomInsert : execStatement Env.whole .zero 1 classServer (.insert tomInsert) =
    .ok (tomServer, sendOkMessageToClient 1 1 0 2 0) := by
  obtain ⟨r, -, hiff, hinsert⟩ := insertRow_schema getTable_classServer (str "Tom")
    [str "B", str "93"] rfl
  rw [hiff.2 (noneShadowed_classtab _)] at hinsert
  change insertRow classServer tomInsert = _ at hinsert
  rw [execStatement, hinsert]
  rfl

theorem reachable_tomServer : Reachable Env.whole tomServer :=
  .exec .zero 1 _ reachable_classServer execStatement_tomInsert

theorem getTable_tomServer : tomServer.dbms.getCurDB.getTable (str "classtab") =
    some ⟨str "classtab", ofDefinitions classtab⟩ :=
  getTable_classServer

theorem rowsOf_tomServer : rowsOf defaultDatabaseName (str "classtab") tomServer.store =
    Function.update (fun _ => none) (str "Tom")
      (some (stringsJoin [str "Tom", str "B", str "93"] (str "$$"))) := by
  rw [tomServer, rowsOf_set, classServer, rowsOf_withTable, rowsOf_fresh]

theorem keyedByFirst_tomServer :
    KeyedByFirst defaultDatabaseName (str "classtab") tomServer.store := by
  intro pk val h
  rw [rowsOf_tomServer] at h
  by_cases hpk : pk = str "Tom"
  · rw [hpk, Function.update_self, Option.some.injEq] at h
    rw [← h, hpk]
    decide
  · rw [Function.update_of_ne hpk] at h
    exact absurd h nofun

end UhpSql
