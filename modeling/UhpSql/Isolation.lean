import UhpSql.Limits
import UhpSql.Steps

/-!
# Table isolation

`Isolated env t₁ t₂` : in every reachable state an INSERT, UPDATE or DELETE on `t₁` leaves the
answer of every SELECT on `t₂` as it was. Keys are `data_<db>_<table>_p_<pk>`, so this is a
matter of the two names (`Separate`) : neither name followed by `_p_` begins with the other, and
no scan of `t₂` matches a key of `t₁`. For a name `t₂` without glob characters the second part
follows from the first (`separate_iff_of_plain`). It is a matter of SCAN too, which may list the
same entries in another order once the store has changed (`KeepsOrder`, and
`not_isolated_turning`). `isolated_iff` : these two are all.
-/

namespace UhpSql

/-- Statements on `t₁` do not change what SELECT answers on `t₂`. -/
def Isolated (env : Env) (t₁ t₂ : Str) : Prop :=
  ∀ s, Reachable env s → s.dbms.hasTable t₁ → s.dbms.hasTable t₂ →
    ∀ u seq stmt s' reply, stmt.OnTable t₁ → execStatement env u seq s stmt = .ok (s', reply) →
      ∀ u' sel, sel.From t₂ → selectRows env u' s' sel = selectRows env u' s sel

/-- What stands between the database and the key in the key of a row. -/
def keyInfix (t : Str) : Str :=
  t ++ str "_p_"

/-- Neither name followed by `_p_` begins with the other, and no scan of `t₂` matches a key
of `t₁`. -/
structure Separate (t₁ t₂ : Str) : Prop where
  left : ¬keyInfix t₁ <+: keyInfix t₂
  right : ¬keyInfix t₂ <+: keyInfix t₁
  pattern : ∀ pk q, ¬globMatch (dataPrefix defaultDatabaseName t₂ ++ q ++ str "*")
    (rowKey defaultDatabaseName t₁ pk)

theorem rowKey_eq_append (dbName t pk : Str) :
    rowKey dbName t pk = str "data_" ++ dbName ++ str "_" ++ (keyInfix t ++ pk) := by
  simp only [rowKey, dataPrefix, keyInfix, List.append_assoc]

/-- Two tables share a key exactly when one name followed by `_p_` begins with the other. -/
theorem exists_rowKey_eq_iff {dbName t₁ t₂ : Str} :
    (∃ pk₁ pk₂, rowKey dbName t₁ pk₁ = rowKey dbName t₂ pk₂) ↔
      keyInfix t₁ <+: keyInfix t₂ ∨ keyInfix t₂ <+: keyInfix t₁ := by
  simp only [rowKey_eq_append, List.append_cancel_left_eq]
  refine ⟨fun ⟨pk₁, pk₂, h⟩ => ?_, fun h => ?_⟩
  · exact List.prefix_or_prefix_of_prefix (List.prefix_append _ pk₁) (h ▸ List.prefix_append _ pk₂)
  · rcases h with ⟨r, hr⟩ | ⟨r, hr⟩
    · exact ⟨r, [], by rw [hr, List.append_nil]⟩
    · exact ⟨[], r, by rw [hr, List.append_nil]⟩

theorem Separate.rowKey_ne {t₁ t₂ : Str} (h : Separate t₁ t₂) (pk₁ pk₂ : Str) :
    rowKey defaultDatabaseName t₂ pk₂ ≠ rowKey defaultDatabaseName t₁ pk₁ := fun heq =>
  (exists_rowKey_eq_iff.1 ⟨pk₁, pk₂, heq.symm⟩).elim h.left h.right

theorem plain_dataPrefix {t : Str} (hplain : Plain t) : Plain (dataPrefix defaultDatabaseName t) := by
  intro c hc
  simp only [dataPrefix, List.mem_append] at hc
  rcases hc with (((hc | hc) | hc) | hc) | hc
  · exact (by decide : Plain (str "data_")) c hc
  · exact (by decide : Plain defaultDatabaseName) c hc
  · exact (by decide : Plain (str "_")) c hc
  · exact hplain c hc
  · exact (by decide : Plain (str "_p_")) c hc

/-- A scan of a table whose name has no glob characters matches keys of this table only. -/
theorem separate_iff_of_plain {t₁ t₂ : Str} (hplain : Plain t₂) :
    Separate t₁ t₂ ↔ ¬keyInfix t₁ <+: keyInfix t₂ ∧ ¬keyInfix t₂ <+: keyInfix t₁ := by
  refine ⟨fun h => ⟨h.left, h.right⟩, fun h => ⟨h.1, h.2, fun pk q hglob => ?_⟩⟩
  rw [List.append_assoc] at hglob
  obtain ⟨r, hr, -⟩ := (globMatch_append (plain_dataPrefix hplain) _ _).1 hglob
  exact (exists_rowKey_eq_iff.1 ⟨pk, r, hr⟩).elim h.1 h.2

/-! ## The order of SCAN -/

/-- What SCAN lists first for `data_<db>_<t>_p_<q>*`. -/
def tablePage (env : Env) (s : Server) (t q : Str) : List Entry :=
  env.redis.page s.store (dataPrefix s.dbms.getCurDB.dbName t ++ q ++ str "*") scanCount

/-- Two lists of entries show the same rows one by one. -/
def SameRows (es es' : List Entry) : Prop :=
  es'.map (fun e => fields e.2) = es.map fun e => fields e.2

/-- Keys at the same place of two lists are beyond the same keys of table `t`. The loop for `>`
reads no more than `2 ^ 63` entries. -/
def SameKeys (dbName t : Str) (es es' : List Entry) : Prop :=
  ∀ (i : ℕ) (e e' : Entry), i < 2 ^ 63 → es[i]? = some e → es'[i]? = some e' →
    ∀ v, rowKey dbName t v < e'.1 ↔ rowKey dbName t v < e.1

/-- Where a statement on `t₁` leaves the entries that a scan of `t₂` matches as they were, SCAN
lists them in the same order as before, or in one that no loop of SELECT tells from it. -/
def KeepsOrder (env : Env) (t₁ t₂ : Str) : Prop :=
  ∀ s, Reachable env s → s.dbms.hasTable t₁ → s.dbms.hasTable t₂ →
    ∀ u seq stmt s' reply, stmt.OnTable t₁ → execStatement env u seq s stmt = .ok (s', reply) →
      ∀ q, (tablePage env s' t₂ q).Perm (tablePage env s t₂ q) →
        SameRows (tablePage env s t₂ q) (tablePage env s' t₂ q) ∧
          (q = [] → SameKeys s.dbms.getCurDB.dbName t₂ (tablePage env s t₂ q)
            (tablePage env s' t₂ q))

theorem map_taken_congr {es es' : List Entry} (h : SameRows es es') (table : DataTable)
    (limit : UInt64) :
    (taken (pastLimit limit) 0 es').map (fun e => decodeRow table e.2) =
      (taken (pastLimit limit) 0 es).map fun e => decodeRow table e.2 := by
  have hmap := (map_decodeRow_eq_iff table).2 h
  by_cases hlimit : limit = 0
  · rw [hlimit, taken_pastLimit_zero, taken_pastLimit_zero, hmap]
  · rw [taken_pastLimit hlimit, taken_pastLimit hlimit, List.map_take, List.map_take, hmap]

/-- Two loops that keep the entries at the same places show the same rows. -/
theorem map_filter_congr {β : Type} {f : Entry → β} {p : Entry → Bool} {es es' : List Entry}
    (h : List.Forall₂ (fun e e' => f e' = f e ∧ p e' = p e) es es') :
    (es'.filter p).map f = (es.filter p).map f := by
  induction h with
  | nil => rfl
  | @cons e e' es es' hhead _ ih =>
    rw [List.filter_cons, List.filter_cons, hhead.2]
    split_ifs
    · rw [List.map_cons, List.map_cons, hhead.1, ih]
    · exact ih

section
variable {dbName t : Str} {es es' : List Entry}

theorem forall₂_take (hrows : SameRows es es') (hkeys : SameKeys dbName t es es')
    (table : DataTable) (v : Str) {n : ℕ} (hn : n ≤ 2 ^ 63) :
    List.Forall₂ (fun e e' => decodeRow table e'.2 = decodeRow table e.2 ∧
      decide (rowKey dbName t v < e'.1) = decide (rowKey dbName t v < e.1))
        (es.take n) (es'.take n) := by
  have hlen : es'.length = es.length := by simpa using congrArg List.length hrows
  rw [List.forall₂_iff_get]
  refine ⟨by rw [List.length_take, List.length_take, hlen], fun i hi hi' => ?_⟩
  rw [List.length_take] at hi hi'
  have hget : es[i]? = some (es.take n)[i] := by
    rw [List.getElem_take, List.getElem?_eq_getElem]
  have hget' : es'[i]? = some (es'.take n)[i] := by
    rw [List.getElem_take, List.getElem?_eq_getElem]
  have hrow := congrArg (·[i]?) hrows
  simp only [List.getElem?_map, hget, hget', Option.map_some, Option.some.injEq] at hrow
  exact ⟨decodeRow_eq_iff.2 hrow,
    decide_eq_decide.2 (hkeys i _ _ (by omega) hget hget' v)⟩

/-- Lists that show the same rows beyond every key, as far as one looks, have keys that are beyond
the same keys. -/
theorem sameKeys_of_map_filter (table : DataTable)
    (h : ∀ v, ∀ n ≤ 2 ^ 63, ((es'.take n).filter fun e => rowKey dbName t v < e.1).map
        (fun e => decodeRow table e.2) =
      ((es.take n).filter fun e => rowKey dbName t v < e.1).map fun e => decodeRow table e.2) :
    SameKeys dbName t es es' := by
  intro i e e' hi he he' v
  -- the entry at place `i` is the difference of what is shown of `i + 1` and of `i` entries
  have hlen : ∀ n ≤ 2 ^ 63, ((es'.take n).filter fun e => rowKey dbName t v < e.1).length =
      ((es.take n).filter fun e => rowKey dbName t v < e.1).length := fun n hn => by
    simpa using congrArg List.length (h v n hn)
  have hi₀ := hlen i (by omega)
  have hi₁ := hlen (i + 1) (by omega)
  rw [List.take_add_one, List.take_add_one, he, he', List.filter_append, List.filter_append,
    List.length_append, List.length_append, hi₀, Nat.add_left_cancel_iff] at hi₁
  simp only [Option.toList_some, List.filter_cons, List.filter_nil] at hi₁
  by_cases h₁ : rowKey dbName t v < e'.1 <;> by_cases h₂ : rowKey dbName t v < e.1 <;>
    simp [h₁, h₂] at hi₁ ⊢

end

/-! ## What SELECT depends on -/

/-- `SELECT * FROM t WHERE c > 'v' LIMIT n`. -/
def selectGreater (t c v : Str) (n : ℕ) : SelectStatement :=
  { selectWhere t c .gt v with limit := some ⟨some (.makeLiteralInt (Int64.ofNat n)), none⟩ }

section
variable {env : Env} (henv : env.redis.FullScan) {s s' : Server} {t : Str} {table : DataTable}
  (hT : s.dbms.getCurDB.getTable t = some table)
include henv hT

theorem selectRows_selectGreater (u : Uninit) (c v : Str) {n : ℕ} (hn : n < 2 ^ 63) :
    selectRows env u s (selectGreater t c v n) = .ok (some
      ((((tablePage env s t []).take (n + 1)).filter fun e =>
        rowKey s.dbms.getCurDB.dbName t v < e.1).map fun e => decodeRow table e.2, t)) := by
  have hquery : analyzeSelectStatement s.dbms u (selectGreater t c v n) =
      .ok (some ⟨.kOpGreater, t, c, v, UInt64.ofNat n, u.offset, false⟩) := by
    simp [analyzeSelectStatement, selectGreater, selectWhere, hasTable_of_getTable hT, limitOf,
      Expr.makeLiteralInt, Comparison.opType]
  rw [selectRows, hquery, ok_bind]
  unfold selectRowsFromPMemKV
  simp only [Bool.false_eq_true, if_false]
  rw [scanLoop_page henv hT, taken_pastLimitGreater_ofNat hn, tablePage, List.append_nil]
  rfl

/-- SELECT answers the same on stores that agree on the keys of the table and on what the scans of
the table show. -/
theorem selectRows_congr (hd : s'.dbms = s.dbms)
    (hget : ∀ pk, s'.store.get (rowKey s.dbms.getCurDB.dbName t pk) =
      s.store.get (rowKey s.dbms.getCurDB.dbName t pk))
    (hrows : ∀ q, SameRows (tablePage env s t q) (tablePage env s' t q))
    (hkeys : SameKeys s.dbms.getCurDB.dbName t (tablePage env s t []) (tablePage env s' t []))
    (u : Uninit) {sel : SelectStatement} (hsel : sel.From t) :
    selectRows env u s' sel = selectRows env u s sel := by
  obtain ⟨d, st⟩ := s
  obtain ⟨d', st'⟩ := s'
  obtain rfl : d' = d := hd
  unfold selectRows
  cases hq : analyzeSelectStatement d' u sel with
  | error e => rfl
  | ok r =>
    rcases r with _ | q
    · rfl
    obtain ⟨r, hr, hname⟩ := queryTab_of_analyzeSelect hq
    obtain ⟨r', hr', hname'⟩ := hsel
    obtain rfl : r = r' := Option.some.inj (hr.symm.trans hr')
    obtain rfl : q.queryTab = t := Option.some.inj (hname.symm.trans hname')
    have hstar := hrows []
    simp only [tablePage, List.append_nil] at hrows hstar hkeys
    have hanswer : selectRowsFromPMemKV env ⟨d', st'⟩ q = selectRowsFromPMemKV env ⟨d', st⟩ q := by
      unfold selectRowsFromPMemKV
      simp only
      split_ifs
      · rw [@scanLoop_page ⟨d', st'⟩ _ _ _ henv hT, @scanLoop_page ⟨d', st⟩ _ _ _ henv hT,
          List.filter_true, List.filter_true, map_taken_congr hstar]
      · cases q.opType with
        | kOpEquals =>
          unfold rowKey at hget
          simp only [hget]
        | kOpGreater =>
          have htaken : ∀ es, taken (pastLimitGreater q.limit) 0 es =
              es.take ((q.limit * 2 + 1).toNat / 2 + 1) :=
            taken_eq_take (fun j => by simp [pastLimitGreater]; omega) 0
          have hle : (q.limit * 2 + 1).toNat / 2 + 1 ≤ 2 ^ 63 := by
            have hlt := (q.limit * 2 + 1).toNat_lt
            omega
          simp only
          rw [@scanLoop_page ⟨d', st'⟩ _ _ _ henv hT, @scanLoop_page ⟨d', st⟩ _ _ _ henv hT,
            htaken, htaken]
          exact congrArg Except.ok
            (map_filter_congr (forall₂_take hstar hkeys table q.queryValue hle))
        | kOpLike =>
          simp only
          cases likePrefix q.queryValue with
          | error e => rfl
          | ok v =>
            rw [ok_bind, ok_bind, @scanLoop_page ⟨d', st'⟩ _ _ _ henv hT,
              @scanLoop_page ⟨d', st⟩ _ _ _ henv hT, List.filter_true, List.filter_true,
              map_taken_congr (hrows v)]
        | _ => rfl
    simp only [ok_bind, hanswer]

end

/-! ## When tables are isolated -/

/-- What changes one key of `t₁`, and nothing else, leaves the keys of `t₂` and the entries of its
scans as they were. -/
theorem Separate.unchanged {s s' : Server} {t₁ t₂ : Str} (hsep : Separate t₁ t₂)
    (hdb : s.dbms.getCurDB.dbName = defaultDatabaseName) {pk : Str}
    (hget : ∀ k, k ≠ rowKey defaultDatabaseName t₁ pk → s'.store.get k = s.store.get k)
    (hmatching : ∀ pattern, ¬globMatch pattern (rowKey defaultDatabaseName t₁ pk) →
      s'.store.matching pattern = s.store.matching pattern) :
    (∀ pk', s'.store.get (rowKey s.dbms.getCurDB.dbName t₂ pk') =
        s.store.get (rowKey s.dbms.getCurDB.dbName t₂ pk')) ∧
      ∀ q, s'.store.matching (dataPrefix s.dbms.getCurDB.dbName t₂ ++ q ++ str "*") =
        s.store.matching (dataPrefix s.dbms.getCurDB.dbName t₂ ++ q ++ str "*") := by
  rw [hdb]
  exact ⟨fun pk' => hget _ (hsep.rowKey_ne pk pk'), fun q => hmatching _ (hsep.pattern pk q)⟩

/-- A statement on `t₁` leaves the keys of `t₂` and the entries of its scans as they were. -/
theorem Separate.exec {env : Env} (henv : env.redis.FullScan) {t₁ t₂ : Str}
    (hsep : Separate t₁ t₂) {s s' : Server} (hs : Reachable env s) {u : Uninit} {seq : UInt8}
    {stmt : SQLStatement} {reply : List (List UInt8)} (hon : stmt.OnTable t₁)
    (hexec : execStatement env u seq s stmt = .ok (s', reply)) :
    s'.dbms = s.dbms ∧
      (∀ pk, s'.store.get (rowKey s.dbms.getCurDB.dbName t₂ pk) =
        s.store.get (rowKey s.dbms.getCurDB.dbName t₂ pk)) ∧
      ∀ q, s'.store.matching (dataPrefix s.dbms.getCurDB.dbName t₂ ++ q ++ str "*") =
        s.store.matching (dataPrefix s.dbms.getCurDB.dbName t₂ ++ q ++ str "*") := by
  have hdb := (hs.defaultOnly henv).cur
  rcases execStatement_cases henv.toAlternates hexec with rfl | ⟨c, -, -, rfl, -⟩ |
    ⟨t, pk, val, hon', rfl⟩ | ⟨t, pk, hon', rfl⟩
  · exact ⟨rfl, fun _ => rfl, fun _ => rfl⟩
  · exact hon.elim
  · obtain rfl := hon.unique hon'
    refine ⟨rfl, @Separate.unchanged s _ t₁ t₂ hsep hdb pk (fun k hk => ?_) fun p hp => ?_⟩
    · rw [Server.setRow, hdb, Store.get_set_of_ne _ _ hk]
    · rw [Server.setRow, hdb, Store.matching_set hp]
  · obtain rfl := hon.unique hon'
    refine ⟨rfl, @Separate.unchanged s _ t₁ t₂ hsep hdb pk (fun k hk => ?_) fun p hp => ?_⟩
    · rw [Server.delRow, hdb, Store.get_del_of_ne _ hk]
    · rw [Server.delRow, hdb, Store.matching_del hp]

theorem isolated_of_separate {env : Env} (henv : env.redis.FullScan) {t₁ t₂ : Str}
    (hsep : Separate t₁ t₂) (horder : KeepsOrder env t₁ t₂) : Isolated env t₁ t₂ := by
  intro s hs hT₁ hT₂ u seq stmt s' reply hon hexec u' sel hsel
  obtain ⟨hd, hget, hmatching⟩ := hsep.exec henv hs hon hexec
  obtain ⟨table, hT⟩ := Option.isSome_iff_exists.1 hT₂
  have hperm : ∀ q, (tablePage env s' t₂ q).Perm (tablePage env s t₂ q) := fun q => by
    have hpage :=
      henv.full s'.store (dataPrefix s.dbms.getCurDB.dbName t₂ ++ q ++ str "*") scanCount
    rw [hmatching q] at hpage
    rw [tablePage, tablePage, hd]
    exact hpage.trans (henv.full ..).symm
  have hsame := fun q => horder s hs hT₁ hT₂ u seq stmt s' reply hon hexec q (hperm q)
  exact selectRows_congr henv hT hd hget (fun q => (hsame q).1) ((hsame []).2 rfl) u' hsel

/-- Where the order of SCAN depends on the matching entries only, it is kept. -/
theorem Separate.keepsOrder {env : Env} (henv : env.redis.FullScan) (hsettled : env.redis.Settled)
    {t₁ t₂ : Str} (hsep : Separate t₁ t₂) : KeepsOrder env t₁ t₂ := by
  intro s hs _ _ u seq stmt s' reply hon hexec q _
  obtain ⟨hd, -, hmatching⟩ := hsep.exec henv hs hon hexec
  have hpage : tablePage env s' t₂ q = tablePage env s t₂ q := by
    rw [tablePage, tablePage, hd]
    exact hsettled _ _ _ _ (hmatching q)
  rw [hpage]
  refine ⟨rfl, fun _ i e e' _ he he' v => ?_⟩
  rw [Option.some.inj (he.symm.trans he')]

/-! ## When they are not -/

/-- INSERT into a table of one column. -/
theorem execStatement_insert_single {env : Env} {s : Server} {t : Str}
    (hT : s.dbms.getCurDB.getTable t = some ⟨t, ofDefinitions [⟨str "c", .varchar⟩]⟩) (pk : Str) :
    execStatement env .zero 1 s (.insert (insertValues t [str "c"] [pk])) =
      .ok (s.setRow t pk (stringsJoin [pk] (str "$$")), sendOkMessageToClient 1 1 0 2 0) := by
  obtain ⟨r, -, hiff, hinsert⟩ := insertRow_schema hT pk [] rfl
  rw [hiff.2 (noneShadowed_of_nodup (List.nodup_singleton _) _)] at hinsert
  change insertRow _ (insertValues t [str "c"] [pk]) = _ at hinsert
  rw [execStatement, hinsert]
  rfl

/-- A server with two tables of one column and no rows. -/
def twoTables (t₁ t₂ : Str) : Server :=
  ((Server.fresh []).withTable t₁ (ofDefinitions [⟨str "c", .varchar⟩])).withTable t₂
    (ofDefinitions [⟨str "c", .varchar⟩])

/-- The server after an INSERT into the first table. -/
def twoTablesWith (t₁ t₂ pk : Str) : Server :=
  (twoTables t₁ t₂).setRow t₁ pk (stringsJoin [pk] (str "$$"))

section
variable (t₁ t₂ : Str)

theorem getTable_twoTables_left : (twoTables t₁ t₂).dbms.getCurDB.getTable t₁ =
    some ⟨t₁, ofDefinitions [⟨str "c", .varchar⟩]⟩ := by
  simp [twoTables, DataBase.getTable_addTable]

theorem getTable_twoTables_right : (twoTables t₁ t₂).dbms.getCurDB.getTable t₂ =
    some ⟨t₂, ofDefinitions [⟨str "c", .varchar⟩]⟩ := by
  by_cases h : t₂ = t₁
  · subst h
    exact getTable_twoTables_left t₂ t₂
  · simp [twoTables, DataBase.getTable_addTable, h]

theorem dbName_twoTables : (twoTables t₁ t₂).dbms.getCurDB.dbName = defaultDatabaseName := by
  simp [twoTables, DataBase.new]

variable {t₁ t₂}

theorem get_twoTables {k : Str} (hk : DataKey k) : (twoTables t₁ t₂).store.get k = none := by
  rw [twoTables, get_withTable hk, get_withTable hk, get_fresh hk]

/-- In isolated tables the INSERT is not seen by any SELECT on the second table. -/
theorem Isolated.selectRows_twoTables {env : Env} (henv : env.redis.FullScan)
    (h : Isolated env t₁ t₂) (pk : Str) (u : Uninit) (sel : SelectStatement) (hsel : sel.From t₂) :
    selectRows env u (twoTablesWith t₁ t₂ pk) sel = selectRows env u (twoTables t₁ t₂) sel := by
  have hreach : Reachable env (twoTables t₁ t₂) :=
    ((Reachable.fresh henv []).withTable t₁ _).withTable t₂ _
  have hexec := @execStatement_insert_single env _ t₁ (getTable_twoTables_left t₁ t₂) pk
  have hT₁ := hasTable_of_getTable (getTable_twoTables_left t₁ t₂)
  have hT₂ := hasTable_of_getTable (getTable_twoTables_right t₁ t₂)
  have hon : (SQLStatement.insert (insertValues t₁ [str "c"] [pk])).OnTable t₁ := rfl
  exact h _ hreach hT₁ hT₂ _ _ _ _ _ hon hexec u sel hsel

end

section
variable {env : Env} (henv : env.redis.FullScan) {t₁ t₂ : Str} (h : Isolated env t₁ t₂)
include henv h

/-- A shared key would be found by `=`. -/
theorem Isolated.rowKey_ne (pk₁ pk₂ : Str) :
    rowKey defaultDatabaseName t₁ pk₁ ≠ rowKey defaultDatabaseName t₂ pk₂ := by
  intro heq
  have hT := getTable_twoTables_right t₁ t₂
  have hsel := h.selectRows_twoTables henv pk₁ .zero (selectWhere t₂ (str "c") .eq pk₂)
    ⟨_, rfl, rfl⟩
  have hnone : rowsOf (twoTables t₁ t₂).dbms.getCurDB.dbName t₂ (twoTables t₁ t₂).store pk₂ =
      none := get_twoTables (dataKey_rowKey ..)
  have hsome : rowsOf (twoTablesWith t₁ t₂ pk₁).dbms.getCurDB.dbName t₂
      (twoTablesWith t₁ t₂ pk₁).store pk₂ = some (stringsJoin [pk₁] (str "$$")) := by
    rw [rowsOf, twoTablesWith, Server.setRow, dbName_twoTables, heq, Store.get_set_self]
  rw [selectRows_eq env .zero (str "c") pk₂ hT, hnone,
    selectRows_eq (s := twoTablesWith t₁ t₂ pk₁) env .zero (str "c") pk₂ hT, hsome] at hsel
  exact List.cons_ne_nil _ _ (Prod.mk.inj (Option.some.inj (Except.ok.inj hsel))).1

/-- A key that a scan matches would be found by LIKE. -/
theorem Isolated.not_globMatch (pk q : Str) :
    ¬globMatch (dataPrefix defaultDatabaseName t₂ ++ q ++ str "*")
      (rowKey defaultDatabaseName t₁ pk) := by
  intro hglob
  have hT := getTable_twoTables_right t₁ t₂
  have hdb := dbName_twoTables t₁ t₂
  have hv : q ++ str "%" ≠ [] := by simp [str]
  have hsel := h.selectRows_twoTables henv pk .zero
    (selectWhere t₂ (str "c") .like (q ++ str "%")) ⟨_, rfl, rfl⟩
  rw [selectRows_like .zero (str "c") _ henv hT hv, likeLiteral_percent,
    selectRows_like (s := twoTablesWith t₁ t₂ pk) .zero (str "c") _ henv hT hv,
    likeLiteral_percent] at hsel
  have hrows := (Prod.mk.inj (Option.some.inj (Except.ok.inj hsel))).1
  have hafter : (rowKey defaultDatabaseName t₁ pk, stringsJoin [pk] (str "$$")) ∈
      env.redis.page (twoTablesWith t₁ t₂ pk).store
        (dataPrefix defaultDatabaseName t₂ ++ q ++ str "*") scanCount := by
    refine henv.mem_page.2 ⟨?_, hglob⟩
    rw [twoTablesWith, Server.setRow, hdb, Store.get_set_self]
  have hbefore : env.redis.page (twoTables t₁ t₂).store
      (dataPrefix defaultDatabaseName t₂ ++ q ++ str "*") scanCount = [] := by
    refine List.eq_nil_iff_forall_not_mem.2 fun e hmem => ?_
    obtain ⟨hget, hk⟩ := henv.mem_page.1 hmem
    rw [get_twoTables (dataKey_of_globMatch hk)] at hget
    exact Option.some_ne_none _ hget.symm
  have hdb' : (twoTablesWith t₁ t₂ pk).dbms.getCurDB.dbName = defaultDatabaseName := hdb
  rw [hdb', hdb, hbefore, List.map_nil, List.map_eq_nil_iff] at hrows
  rw [hrows] at hafter
  exact absurd hafter List.not_mem_nil

theorem Isolated.separate : Separate t₁ t₂ := by
  have hkeys : ¬∃ pk₁ pk₂,
      rowKey defaultDatabaseName t₁ pk₁ = rowKey defaultDatabaseName t₂ pk₂ :=
    fun ⟨pk₁, pk₂, heq⟩ => h.rowKey_ne henv pk₁ pk₂ heq
  exact ⟨fun hpre => hkeys (exists_rowKey_eq_iff.2 (Or.inl hpre)),
    fun hpre => hkeys (exists_rowKey_eq_iff.2 (Or.inr hpre)), h.not_globMatch henv⟩

end

/-- The order that SELECT shows is kept where tables are isolated. -/
theorem Isolated.keepsOrder {env : Env} (henv : env.redis.FullScan) {t₁ t₂ : Str}
    (h : Isolated env t₁ t₂) : KeepsOrder env t₁ t₂ := by
  intro s hs hT₁ hT₂ u seq stmt s' reply hon hexec q _
  have hsame := fun sel => h s hs hT₁ hT₂ u seq stmt s' reply hon hexec .zero sel
  obtain ⟨table, hT⟩ := Option.isSome_iff_exists.1 hT₂
  have hd : s'.dbms = s.dbms := by
    rcases execStatement_cases henv.toAlternates hexec with rfl | ⟨c, -, -, rfl, -⟩ |
      ⟨t, pk, val, -, rfl⟩ | ⟨t, pk, -, rfl⟩
    · rfl
    · exact hon.elim
    · rfl
    · rfl
  have hT' : s'.dbms.getCurDB.getTable t₂ = some table := hd ▸ hT
  refine ⟨?_, fun hq => ?_⟩
  · -- LIKE shows all of the scan
    have hv : q ++ str "%" ≠ [] := List.append_ne_nil_of_right_ne_nil _ (by decide)
    have hlike := hsame (selectWhere t₂ (str "c") .like (q ++ str "%")) ⟨_, rfl, rfl⟩
    rw [selectRows_like .zero (str "c") _ henv hT hv, selectRows_like .zero (str "c") _ henv hT' hv,
      likeLiteral_percent] at hlike
    exact (map_decodeRow_eq_iff table).1 (Prod.mk.inj (Option.some.inj (Except.ok.inj hlike))).1
  · -- `>` compares the keys of as many entries as its LIMIT lets it read
    subst hq
    refine sameKeys_of_map_filter table fun v n hn => ?_
    cases n with
    | zero => rfl
    | succ n =>
      have hgt := hsame (selectGreater t₂ (str "c") v n) ⟨_, rfl, rfl⟩
      rw [selectRows_selectGreater henv hT _ _ _ (by omega),
        selectRows_selectGreater henv hT' _ _ _ (by omega), hd] at hgt
      exact (Prod.mk.inj (Option.some.inj (Except.ok.inj hgt))).1

/-! ## A SCAN that turns its listings over -/

/-- The rows of a table with a plain name are what its scan lists. -/
theorem mem_matching_iff {s : Server} {t k v : Str}
    (hplain : Plain (dataPrefix s.dbms.getCurDB.dbName t)) :
    (k, v) ∈ s.store.matching (dataPrefix s.dbms.getCurDB.dbName t ++ str "*") ↔
      ∃ pk, k = rowKey s.dbms.getCurDB.dbName t pk ∧
        rowsOf s.dbms.getCurDB.dbName t s.store pk = some v := by
  rw [Store.mem_matching, globMatch_plain hplain]
  constructor
  · rintro ⟨hget, pk, rfl⟩
    exact ⟨pk, rfl, hget⟩
  · rintro ⟨pk, rfl, hget⟩
    exact ⟨hget, List.prefix_append _ _⟩

/-- Two tables, the second one with the rows `a` and `b`. -/
def twoRows (t₁ t₂ : Str) : Server :=
  ((twoTables t₁ t₂).setRow t₂ (str "a") (str "a")).setRow t₂ (str "b") (str "b")

section
variable {t₁ t₂ : Str}

theorem reachable_twoRows {env : Env} (henv : env.redis.FullScan) :
    Reachable env (twoRows t₁ t₂) := by
  have hT := getTable_twoTables_right t₁ t₂
  have hreach : Reachable env (twoTables t₁ t₂) :=
    ((Reachable.fresh henv []).withTable t₁ _).withTable t₂ _
  exact .exec .zero 1 _ (.exec .zero 1 _ hreach (execStatement_insert_single hT (str "a")))
    (execStatement_insert_single
      (s := (twoTables t₁ t₂).setRow t₂ (str "a") (str "a")) hT (str "b"))

/-- A scan of the second table lists its two rows. -/
theorem perm_matching_twoRows (hplain : Plain t₂) :
    ((twoRows t₁ t₂).store.matching (dataPrefix defaultDatabaseName t₂ ++ str "*")).Perm
      [(rowKey defaultDatabaseName t₂ (str "a"), str "a"),
        (rowKey defaultDatabaseName t₂ (str "b"), str "b")] := by
  have hdb : (twoRows t₁ t₂).dbms.getCurDB.dbName = defaultDatabaseName := dbName_twoTables t₁ t₂
  have hnone : rowsOf (twoTables t₁ t₂).dbms.getCurDB.dbName t₂ (twoTables t₁ t₂).store =
      fun _ => none := funext fun _ => get_twoTables (dataKey_rowKey ..)
  have hrows : rowsOf (twoRows t₁ t₂).dbms.getCurDB.dbName t₂ (twoRows t₁ t₂).store =
      Function.update (Function.update (fun _ => none) (str "a") (some (str "a"))) (str "b")
        (some (str "b")) := by
    rw [← hnone, ← rowsOf_setRow]
    exact rowsOf_setRow ((twoTables t₁ t₂).setRow t₂ (str "a") (str "a")) t₂ _ _
  have hmem := @mem_matching_iff (twoRows t₁ t₂) t₂
  simp only [hdb] at hmem hrows
  rw [List.perm_ext_iff_of_nodup (Store.nodup_matching _ _)
    (List.nodup_cons.2 ⟨fun h => ?_, List.nodup_singleton _⟩)]
  swap
  · exact absurd (Prod.mk.inj (List.mem_singleton.1 h)).2 (by decide)
  rintro ⟨k, v⟩
  rw [hmem (plain_dataPrefix hplain), hrows, List.mem_cons, List.mem_singleton, Prod.mk.injEq,
    Prod.mk.injEq]
  constructor
  · rintro ⟨pk, rfl, hpk⟩
    by_cases hb : pk = str "b"
    · rw [hb, Function.update_self] at hpk
      exact Or.inr ⟨by rw [hb], (Option.some.inj hpk).symm⟩
    · rw [Function.update_of_ne hb] at hpk
      by_cases ha : pk = str "a"
      · rw [ha, Function.update_self] at hpk
        exact Or.inl ⟨by rw [ha], (Option.some.inj hpk).symm⟩
      · rw [Function.update_of_ne ha] at hpk
        cases hpk
  · rintro (⟨rfl, rfl⟩ | ⟨rfl, rfl⟩)
    · exact ⟨_, rfl, by rw [Function.update_of_ne (by decide), Function.update_self]⟩
    · exact ⟨_, rfl, Function.update_self ..⟩

/-- SCAN turns its listings over once `t₁` has a row under the empty key. -/
def Env.turning (t₁ : Str) : Env :=
  ⟨Redis.turning (rowKey defaultDatabaseName t₁ []), []⟩

theorem tablePage_turning {s : Server} (hdb : s.dbms.getCurDB.dbName = defaultDatabaseName) :
    tablePage (Env.turning t₁) s t₂ [] =
      if (s.store.get (rowKey defaultDatabaseName t₁ [])).isSome then
        s.store.matching (dataPrefix defaultDatabaseName t₂ ++ str "*")
      else (s.store.matching (dataPrefix defaultDatabaseName t₂ ++ str "*")).reverse := by
  rw [tablePage, hdb, List.append_nil]
  exact Redis.page_turning ..

section
variable (hsep : Separate t₁ t₂)
include hsep

theorem tablePage_twoRows : tablePage (Env.turning t₁) (twoRows t₁ t₂) t₂ [] =
    ((twoRows t₁ t₂).store.matching (dataPrefix defaultDatabaseName t₂ ++ str "*")).reverse := by
  have hdb : (twoRows t₁ t₂).dbms.getCurDB.dbName = defaultDatabaseName := dbName_twoTables t₁ t₂
  have hnone : (twoRows t₁ t₂).store.get (rowKey defaultDatabaseName t₁ []) = none := by
    rw [twoRows, Server.setRow, Server.setRow, dbName_twoTables,
      Store.get_set_of_ne _ _ (hsep.rowKey_ne [] _).symm,
      Store.get_set_of_ne _ _ (hsep.rowKey_ne [] _).symm]
    exact get_twoTables (dataKey_rowKey ..)
  rw [tablePage_turning hdb, hnone, Option.isSome_none, if_neg Bool.false_ne_true]

theorem tablePage_twoRows_setRow (val : Str) :
    tablePage (Env.turning t₁) ((twoRows t₁ t₂).setRow t₁ [] val) t₂ [] =
      (twoRows t₁ t₂).store.matching (dataPrefix defaultDatabaseName t₂ ++ str "*") := by
  have hdb : (twoRows t₁ t₂).dbms.getCurDB.dbName = defaultDatabaseName := dbName_twoTables t₁ t₂
  have hscan := hsep.pattern [] []
  rw [List.append_nil] at hscan
  rw [tablePage_turning (s := (twoRows t₁ t₂).setRow t₁ [] val) hdb, Server.setRow, hdb,
    Store.get_set_self, if_pos Option.isSome_some, Store.matching_set hscan]

end

/-- The order of SCAN has to be asked for : where it may change, no table is isolated. An INSERT
into the first table turns the two rows of the second one over. -/
theorem not_isolated_turning (hplain : Plain t₂) : ¬Isolated (Env.turning t₁) t₁ t₂ := by
  intro h
  have henv : (Env.turning t₁).redis.FullScan := Redis.turning_fullScan _
  have hsep := h.separate henv
  have hT₁ := getTable_twoTables_left t₁ t₂
  have hT₂ := getTable_twoTables_right t₁ t₂
  have hon : (SQLStatement.insert (insertValues t₁ [str "c"] [[]])).OnTable t₁ := rfl
  have hexec := @execStatement_insert_single (Env.turning t₁) (twoRows t₁ t₂) t₁ hT₁ []
  have hbefore := tablePage_twoRows hsep
  have hafter := tablePage_twoRows_setRow hsep (stringsJoin [[]] (str "$$"))
  have hrows := (h.keepsOrder henv _ (reachable_twoRows henv) (hasTable_of_getTable hT₁)
    (hasTable_of_getTable hT₂) _ _ _ _ _ hon hexec []
      (by rw [hbefore, hafter]; exact (List.reverse_perm _).symm)).1
  rw [SameRows, hbefore, hafter, List.map_reverse] at hrows
  -- The fields of the two rows are the same from both ends, but `a` is not `b`.
  have hperm := (@perm_matching_twoRows t₁ t₂ hplain).map fun e => fields e.2
  obtain ⟨x, y, hxy⟩ := List.length_eq_two.1 hperm.length_eq
  rw [hxy] at hrows hperm
  obtain rfl : x = y := (List.cons.inj hrows).1
  have ha := hperm.symm.subset List.mem_cons_self
  have hb := hperm.symm.subset (List.mem_cons_of_mem _ List.mem_cons_self)
  simp only [List.mem_cons, List.not_mem_nil, or_false, or_self] at ha hb
  exact absurd (ha.trans hb.symm) (by decide)

end

/-! ## Table isolation -/

/-- Statements on `t₁` leave the answers to SELECTs on `t₂` alone exactly when no key of `t₁`
is a key of `t₂` or matched by a scan of `t₂`, and SCAN keeps the order of what it lists. -/
theorem isolated_iff {env : Env} (henv : env.redis.FullScan) (t₁ t₂ : Str) :
    Isolated env t₁ t₂ ↔ Separate t₁ t₂ ∧ KeepsOrder env t₁ t₂ :=
  ⟨fun h => ⟨h.separate henv, h.keepsOrder henv⟩, fun h => isolated_of_separate henv h.1 h.2⟩

/-- The tables of two names neither of which begins with the other. -/
theorem isolated_classtab_users :
    Env.whole.redis.FullScan ∧ Separate (str "classtab") (str "users") ∧
      KeepsOrder Env.whole (str "classtab") (str "users") ∧
        Isolated Env.whole (str "classtab") (str "users") := by
  have hsep : Separate (str "classtab") (str "users") :=
    (separate_iff_of_plain (by decide)).2 (by decide)
  have horder : KeepsOrder Env.whole (str "classtab") (str "users") :=
    hsep.keepsOrder Redis.whole_fullScan Redis.whole_settled
  exact ⟨Redis.whole_fullScan, hsep, horder,
    (isolated_iff Redis.whole_fullScan _ _).2 ⟨hsep, horder⟩⟩

/-- Row `b_p_1` of table `a` is row `1` of table `a_p_b`. -/
theorem not_isolated_infix : ¬Isolated Env.whole (str "a") (str "a_p_b") := fun h =>
  (h.separate Redis.whole_fullScan).left (by decide)

end UhpSql
