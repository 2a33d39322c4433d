import UhpSql.Session

/-!
# What a statement can do

`execStatement_cases` : a statement that completes leaves the state as it was, adds a table,
or sets or deletes the key of one row of the table it names. Every invariant of a session
below follows from this list and from what a restart does.
-/

namespace UhpSql

/-- The statement is an INSERT, UPDATE or DELETE on the table. -/
def SQLStatement.OnTable (t : Str) : SQLStatement → Prop
  | .insert stmt => stmt.tableName = some t
  | .update stmt => ∃ r ∈ stmt.table, r.name = some t
  | .delete stmt => stmt.tableName = some t
  | _ => False

theorem SQLStatement.OnTable.unique {stmt : SQLStatement} {t t' : Str} (h : stmt.OnTable t)
    (h' : stmt.OnTable t') : t = t' := by
  cases stmt with
  | insert stmt => exact Option.some.inj (h.symm.trans h')
  | delete stmt => exact Option.some.inj (h.symm.trans h')
  | update stmt =>
    obtain ⟨r, hr, ht⟩ := h
    obtain ⟨r', hr', ht'⟩ := h'
    obtain rfl := Option.some.inj (hr.symm.trans hr')
    exact Option.some.inj (ht.symm.trans ht')
  | create | select | other => exact h.elim

/-- The SELECT reads the table. -/
def SelectStatement.From (stmt : SelectStatement) (t : Str) : Prop :=
  ∃ r ∈ stmt.fromTable, r.name = some t

/-- The state with one row of the current database set. -/
def Server.setRow (s : Server) (t pk val : Str) : Server :=
  ⟨s.dbms, s.store.set (rowKey s.dbms.getCurDB.dbName t pk) val⟩

/-- The state with one row of the current database deleted. -/
def Server.delRow (s : Server) (t pk : Str) : Server :=
  ⟨s.dbms, s.store.del (rowKey s.dbms.getCurDB.dbName t pk)⟩

theorem rowsOf_setRow (s : Server) (t pk val : Str) :
    rowsOf s.dbms.getCurDB.dbName t (s.setRow t pk val).store =
      Function.update (rowsOf s.dbms.getCurDB.dbName t s.store) pk (some val) :=
  rowsOf_set ..

/-! ## One lemma for each kind of statement -/

section
variable {d : DBMS} {u : Uninit} {t : Str}

theorem tableName_of_analyzeInsert {stmt : InsertStatement} {row : List TableColumn}
    (h : analyzeInsertStatement d stmt = .ok (some (t, row))) : stmt.tableName = some t := by
  obtain ⟨tab, htab, h⟩ := bind_eq_ok.1 h
  split_ifs at h
  · exact absurd h nofun
  obtain ⟨names, -, h⟩ := bind_eq_ok.1 h
  obtain ⟨exprs, -, h⟩ := bind_eq_ok.1 h
  obtain ⟨vals, -, h⟩ := bind_eq_ok.1 h
  obtain ⟨row', -, h⟩ := bind_eq_ok.1 h
  obtain ⟨rfl, -⟩ := Prod.mk.inj (Option.some.inj (Except.ok.inj h))
  exact deref_eq_ok.1 htab

theorem table_of_analyzeUpdate {stmt : UpdateStatement} {q : UpdateQuery}
    (h : analyzeUpdateStatement d u stmt = .ok (some q)) :
    ∃ r ∈ stmt.table, r.name = some q.tabName := by
  obtain ⟨r, hr, h⟩ := bind_eq_ok.1 h
  obtain ⟨tab, htab, h⟩ := bind_eq_ok.1 h
  split_ifs at h
  · exact absurd h nofun
  obtain ⟨clauses, -, h⟩ := bind_eq_ok.1 h
  cases clauses with
  | nil => exact absurd h nofun
  | cons clause clauses =>
    obtain ⟨value, -, h⟩ := bind_eq_ok.1 h
    obtain ⟨expr, -, h⟩ := bind_eq_ok.1 h
    obtain ⟨ops, -, h⟩ := bind_eq_ok.1 h
    obtain rfl := Option.some.inj (Except.ok.inj h)
    exact ⟨r, deref_eq_ok.1 hr, deref_eq_ok.1 htab⟩

theorem tableName_of_analyzeDelete {stmt : DeleteStatement} {q : DeleteQuery}
    (h : analyzeDeleteStatement d u stmt = .ok (some q)) : stmt.tableName = some q.tabName := by
  obtain ⟨tab, htab, h⟩ := bind_eq_ok.1 h
  split_ifs at h
  · exact absurd h nofun
  rw [deref_eq_ok] at htab
  cases hexpr : stmt.expr with
  | none =>
    rw [hexpr] at h
    obtain rfl := Option.some.inj (Except.ok.inj h)
    exact htab
  | some expr =>
    rw [hexpr] at h
    obtain ⟨ops, -, h⟩ := bind_eq_ok.1 h
    obtain rfl := Option.some.inj (Except.ok.inj h)
    exact htab

theorem queryTab_of_analyzeSelect {stmt : SelectStatement} {q : Query}
    (h : analyzeSelectStatement d u stmt = .ok (some q)) :
    ∃ r ∈ stmt.fromTable, r.name = some q.queryTab := by
  obtain ⟨r, hr, h⟩ := bind_eq_ok.1 h
  obtain ⟨tab, htab, h⟩ := bind_eq_ok.1 h
  split_ifs at h
  · exact absurd h nofun
  refine ⟨r, deref_eq_ok.1 hr, ?_⟩
  rw [deref_eq_ok] at htab
  cases hexpr : stmt.whereClause with
  | none =>
    rw [hexpr] at h
    obtain rfl := Option.some.inj (Except.ok.inj h)
    exact htab
  | some expr =>
    rw [hexpr] at h
    obtain ⟨ops, -, h⟩ := bind_eq_ok.1 h
    obtain ⟨limit, -, h⟩ := bind_eq_ok.1 h
    obtain rfl := Option.some.inj (Except.ok.inj h)
    exact htab

end

section
variable {env : Env} {u : Uninit} {s s' : Server} {n : UInt64}

theorem createTable_cases {stmt : CreateStatement} (h : createTable s stmt = .ok (some (s', n))) :
    ∃ t cols, s' = s.withTable t cols := by
  obtain ⟨r, -, h⟩ := bind_eq_ok.1 h
  rcases r with _ | ⟨t, cols⟩
  · exact absurd h nofun
  obtain ⟨rfl, -⟩ := Prod.mk.inj (Option.some.inj (Except.ok.inj h))
  exact ⟨t, cols, rfl⟩

/-- INSERT sets the row of its first value, unless it names no column. -/
theorem insertRow_spec {stmt : InsertStatement} (h : insertRow s stmt = .ok (some (s', n))) :
    ∃ t row, stmt.tableName = some t ∧ analyzeInsertStatement s.dbms stmt = .ok (some (t, row)) ∧
      (row = [] ∧ s' = s ∨
        ∃ first table vals, row.head? = some first ∧ s.dbms.getCurDB.getTable t = some table ∧
          fillVals table row (List.replicate row.length []) = .ok vals ∧
            s' = s.setRow t first.val (stringsJoin vals (str "$$"))) := by
  obtain ⟨r, hr, h⟩ := bind_eq_ok.1 h
  rcases r with _ | ⟨t, row⟩
  · exact absurd h nofun
  obtain ⟨r', hr', h⟩ := bind_eq_ok.1 h
  obtain rfl := Option.some.inj (Except.ok.inj h)
  refine ⟨t, row, tableName_of_analyzeInsert hr, hr, ?_⟩
  cases row with
  | nil => exact Or.inl ⟨rfl, (Prod.mk.inj (Except.ok.inj hr')).1.symm⟩
  | cons first row =>
    obtain ⟨table, htable, hr'⟩ := bind_eq_ok.1 hr'
    obtain ⟨vals, hvals, hr'⟩ := bind_eq_ok.1 hr'
    obtain ⟨rfl, -⟩ := Prod.mk.inj (Except.ok.inj hr')
    exact Or.inr ⟨first, table, vals, rfl, deref_eq_ok.1 htable, hvals, rfl⟩

/-- UPDATE sets a field of the row stored under the value of its WHERE clause. -/
theorem updateRow_spec {stmt : UpdateStatement} (h : updateRow u s stmt = .ok (some (s', n))) :
    ∃ q, (∃ r ∈ stmt.table, r.name = some q.tabName) ∧
      analyzeUpdateStatement s.dbms u stmt = .ok (some q) ∧
      (rowsOf s.dbms.getCurDB.dbName q.tabName s.store q.queryValue = none ∧ s' = s ∨
        ∃ oValue table cols,
          rowsOf s.dbms.getCurDB.dbName q.tabName s.store q.queryValue = some oValue ∧
          s.dbms.getCurDB.getTable q.tabName = some table ∧
            setAt (fields oValue) (table.getColIndex q.column) q.value = .ok cols ∧
              s' = s.setRow q.tabName q.queryValue (stringsJoin cols (str "$$"))) := by
  obtain ⟨r, hr, h⟩ := bind_eq_ok.1 h
  rcases r with _ | q
  · exact absurd h nofun
  obtain ⟨r', hr', h⟩ := bind_eq_ok.1 h
  obtain rfl := Option.some.inj (Except.ok.inj h)
  refine ⟨q, table_of_analyzeUpdate hr, hr, ?_⟩
  unfold updateRowInPMemKV at hr'
  simp only at hr'
  split at hr'
  · next hget => exact Or.inl ⟨hget, (Prod.mk.inj (Except.ok.inj hr')).1.symm⟩
  · next oValue hget =>
    obtain ⟨table, htable, hr'⟩ := bind_eq_ok.1 hr'
    obtain ⟨cols, hcols, hr'⟩ := bind_eq_ok.1 hr'
    obtain ⟨rfl, -⟩ := Prod.mk.inj (Except.ok.inj hr')
    exact Or.inr ⟨oValue, table, cols, hget, deref_eq_ok.1 htable, hcols, rfl⟩

theorem insertRow_cases {stmt : InsertStatement} (h : insertRow s stmt = .ok (some (s', n))) :
    s' = s ∨ ∃ t pk val, stmt.tableName = some t ∧ s' = s.setRow t pk val := by
  obtain ⟨t, row, ht, -, ⟨-, hs⟩ | ⟨first, table, vals, -, -, -, hs⟩⟩ := insertRow_spec h
  · exact Or.inl hs
  · exact Or.inr ⟨t, _, _, ht, hs⟩

theorem updateRow_cases {stmt : UpdateStatement} (h : updateRow u s stmt = .ok (some (s', n))) :
    s' = s ∨ ∃ t pk val, (∃ r ∈ stmt.table, r.name = some t) ∧ s' = s.setRow t pk val := by
  obtain ⟨q, ht, -, ⟨-, hs⟩ | ⟨oValue, table, cols, -, -, -, hs⟩⟩ := updateRow_spec h
  · exact Or.inl hs
  · exact Or.inr ⟨q.tabName, _, _, ht, hs⟩

theorem deleteRows_cases (halt : env.redis.Alternates) {stmt : DeleteStatement}
    (h : deleteRows env u s stmt = .ok (some (s', n))) :
    s' = s ∨ ∃ t pk, stmt.tableName = some t ∧ s' = s.delRow t pk := by
  obtain ⟨r, hr, h⟩ := bind_eq_ok.1 h
  rcases r with _ | ⟨t, op, c, v⟩
  · exact absurd h nofun
  obtain ⟨r', hr', h⟩ := bind_eq_ok.1 h
  obtain rfl := Option.some.inj (Except.ok.inj h)
  by_cases hop : op = .kOpEquals
  · subst hop
    by_cases h1 : c = str "1" ∧ v = str "1" →
        (env.redis.scan s.store 0 env.objectPattern Redis.defaultCount).element = []
    · rw [deleteRowsInPMemKV_eq h1] at hr'
      obtain ⟨rfl, -⟩ := Prod.mk.inj (Except.ok.inj hr')
      exact Or.inr ⟨t, _, tableName_of_analyzeDelete hr, rfl⟩
    · rw [Classical.not_imp] at h1
      rw [deleteRowsInPMemKV_fault halt h1.1 h1.2] at hr'
      exact absurd hr' nofun
  · rw [deleteRowsInPMemKV_of_ne hop] at hr'
    exact Or.inl (Prod.mk.inj (Except.ok.inj hr')).1.symm

/-- A reply to a statement on rows leaves the state the statement made. -/
theorem replyAffected_cases {seq : UInt8} {what : String} {w : UInt16}
    {x : Except Fault (Option (Server × UInt64))} {reply : List (List UInt8)}
    (h : (x >>= fun r => .ok (replyAffected seq what w s r)) = .ok (s', reply)) :
    x = .ok none ∧ s' = s ∨ ∃ n, x = .ok (some (s', n)) := by
  obtain ⟨r, hr, h⟩ := bind_eq_ok.1 h
  rcases r with _ | ⟨s₁, n⟩
  · exact Or.inl ⟨hr, (Prod.mk.inj (Except.ok.inj h)).1.symm⟩
  · obtain ⟨rfl, -⟩ := Prod.mk.inj (Except.ok.inj h)
    exact Or.inr ⟨n, hr⟩

/-- What a statement that completes does to the state. -/
theorem execStatement_cases (halt : env.redis.Alternates) {seq : UInt8} {stmt : SQLStatement}
    {reply : List (List UInt8)} (h : execStatement env u seq s stmt = .ok (s', reply)) :
    s' = s ∨ (∃ c t cols, stmt = .create c ∧ s' = s.withTable t cols) ∨
      (∃ t pk val, stmt.OnTable t ∧ s' = s.setRow t pk val) ∨
      ∃ t pk, stmt.OnTable t ∧ s' = s.delRow t pk := by
  cases stmt with
  | create stmt =>
    rcases replyAffected_cases h with ⟨-, rfl⟩ | ⟨n, hn⟩
    · exact Or.inl rfl
    · obtain ⟨t, cols, hs⟩ := createTable_cases hn
      exact Or.inr (Or.inl ⟨stmt, t, cols, rfl, hs⟩)
  | select stmt =>
    obtain ⟨r, -, h⟩ := bind_eq_ok.1 h
    rcases r with _ | ⟨rows, queryTab⟩
    · exact Or.inl (Prod.mk.inj (Except.ok.inj h)).1.symm
    · obtain ⟨reply', -, h⟩ := bind_eq_ok.1 h
      exact Or.inl (Prod.mk.inj (Except.ok.inj h)).1.symm
  | insert stmt =>
    rcases replyAffected_cases h with ⟨-, rfl⟩ | ⟨n, hn⟩
    · exact Or.inl rfl
    · exact (insertRow_cases hn).imp_right fun hset => Or.inr (Or.inl hset)
  | delete stmt =>
    rcases replyAffected_cases h with ⟨-, rfl⟩ | ⟨n, hn⟩
    · exact Or.inl rfl
    · exact (deleteRows_cases halt hn).imp_right fun hdel => Or.inr (Or.inr hdel)
  | update stmt =>
    rcases replyAffected_cases h with ⟨-, rfl⟩ | ⟨n, hn⟩
    · exact Or.inl rfl
    · exact (updateRow_cases hn).imp_right fun hset => Or.inr (Or.inl hset)
  | other => exact Or.inl (Prod.mk.inj (Except.ok.inj h)).1.symm

end

/-! ## The current database -/

/-- The current database is the default one, and the store names no other. -/
structure DefaultOnly (s : Server) : Prop where
  cur : s.dbms.getCurDB.dbName = defaultDatabaseName
  stored : ∀ k v, s.store.get k = some v → databasePrefix <+: k → v = defaultDatabaseName

theorem DataBase.dbName_recoverLoop :
    ∀ {element : List Str} {db db' : DataBase}, DataBase.recoverLoop element db = .ok db' →
      db'.dbName = db.dbName
  | [], _, _, h => by rw [Except.ok.inj h]
  | [_], _, _, h => absurd h nofun
  | key :: table :: element, db, db', h => by
    obtain ⟨cols, -, h⟩ := bind_eq_ok.1 h
    split at h
    · exact absurd h nofun
    · rw [dbName_recoverLoop h, dbName_addTable]

theorem DataBase.dbName_recover {R : Redis} {st : Store} {dbName : Str} {db : DataBase}
    (h : DataBase.recover R st dbName = .ok db) : db.dbName = dbName :=
  dbName_recoverLoop h

/-- The database recovered last is the current one. -/
theorem DBMS.dbName_recoverLoop {R : Redis} {st : Store} {name : Str} :
    ∀ {es : List Entry} {d : Option DBMS} {d' : DBMS}, (∀ e ∈ es, e.2 = name) →
      (∀ x ∈ d, x.getCurDB.dbName = name) → DBMS.recoverLoop R st (flat es) d = .ok (some d') →
      d'.getCurDB.dbName = name
  | [], d, d', _, hd, h => hd d' (Except.ok.inj h)
  | e :: es, d, d', he, hd, h => by
    obtain ⟨newdb, hnew, h⟩ := bind_eq_ok.1 h
    refine dbName_recoverLoop (fun e' h' => he e' (by simp [h'])) ?_ h
    rintro x ⟨rfl⟩
    rw [getCurDB_push, DataBase.dbName_recover hnew, he e (by simp)]

theorem DefaultOnly.init {env : Env} (henv : env.redis.FullScan) {st : Store} {ip : Str}
    {s : Server} (hst : ∀ k v, st.get k = some v → databasePrefix <+: k → v = defaultDatabaseName)
    (h : init env st ip = .ok s) : DefaultOnly s := by
  have hset : ∀ k v, (st.set (str "pmemaddr") ip).get k = some v → databasePrefix <+: k →
      v = defaultDatabaseName := by
    intro k v hv hk
    rw [Store.get_set_of_ne] at hv
    · exact hst k v hv hk
    · rintro rfl
      exact absurd hk (by decide)
  obtain ⟨⟨d, st'⟩, hnew, h⟩ := bind_eq_ok.1 h
  obtain rfl := Except.ok.inj h
  unfold DBMS.new at hnew
  simp only at hnew
  split_ifs at hnew with hempty
  · obtain ⟨rfl, rfl⟩ := Prod.mk.inj (Except.ok.inj hnew)
    refine ⟨by rw [DBMS.getCurDB_push]; rfl, fun k v hv hk => ?_⟩
    rw [Store.get_set] at hv
    split_ifs at hv
    · exact (Option.some.inj hv).symm
    · exact hset k v hv hk
  · obtain ⟨d', hloop, hnew⟩ := bind_eq_ok.1 hnew
    obtain ⟨d'', hd, hnew⟩ := bind_eq_ok.1 hnew
    obtain ⟨rfl, rfl⟩ := Prod.mk.inj (Except.ok.inj hnew)
    rw [deref_eq_ok] at hd
    rw [hd, henv.alternates] at hloop
    refine ⟨DBMS.dbName_recoverLoop ?_ (fun x hx => absurd hx (by simp)) hloop, hset⟩
    rintro ⟨k, v⟩ he
    obtain ⟨hget, hglob⟩ := henv.mem_page.1 he
    exact hset k v hget ((globMatch_plain plain_databasePrefix k).1 hglob)

/-- Every session stays with the default database. -/
theorem Reachable.defaultOnly {env : Env} (henv : env.redis.FullScan) {s : Server}
    (h : Reachable env s) : DefaultOnly s := by
  induction h with
  | start ip h =>
    have hst : ∀ k v, Store.get ∅ k = some v → databasePrefix <+: k → v = defaultDatabaseName :=
      fun k v hv => absurd hv (by simp)
    exact .init henv hst h
  | restart ip _ h ih => exact .init henv ih.stored h
  | @exec s s' reply u seq stmt _ h ih =>
    have hput : ∀ {k v}, ¬databasePrefix <+: k → ∀ k' v', (s.store.set k v).get k' = some v' →
        databasePrefix <+: k' → v' = defaultDatabaseName := by
      intro k v hk k' v' hv hk'
      rw [Store.get_set_of_ne _ _ (by rintro rfl; exact hk hk')] at hv
      exact ih.stored k' v' hv hk'
    have hrow : ∀ t pk, ¬databasePrefix <+: rowKey s.dbms.getCurDB.dbName t pk := by
      rintro t pk ⟨r, hr⟩
      exact (dataKey_rowKey s.dbms.getCurDB.dbName t pk).ne_databaseKey r hr.symm
    rcases execStatement_cases henv.toAlternates h with rfl | ⟨_, t, cols, -, rfl⟩ |
      ⟨t, pk, val, -, rfl⟩ | ⟨t, pk, -, rfl⟩
    · exact ih
    · refine ⟨by rw [getCurDB_withTable, DataBase.dbName_addTable, ih.cur], hput ?_⟩
      rw [tablePrefix, List.append_assoc, List.append_assoc]
      exact fun hpre => absurd (List.prefix_of_prefix_length_le
        ((str "table_").prefix_append _) hpre (by decide)) (by decide)
    · exact ⟨ih.cur, hput (hrow t pk)⟩
    · refine ⟨ih.cur, fun k v hv hk => ih.stored k v ?_ hk⟩
      rwa [Server.delRow, Store.get_del_of_ne] at hv
      rintro rfl
      exact hrow t pk hk

end UhpSql
