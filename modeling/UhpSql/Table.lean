import UhpSql.Executor
import UhpSql.Rows

/-!
# Tables as keyed rows

`rowsOf db t st` is the table `t` as a partial map from primary keys to stored strings. The
fields of a stored string are its `$$`-separated parts (`fields`), a field that is missing is
empty (`fieldAt`), and a column stands for the field at its index (`colVal`).

`Comparison` lists the comparison operators of the grammar with their meaning on strings of
bytes. The `…Where` definitions are the parse trees of the statements `… WHERE c op 'v'`, and
the lemmas after them say what the analyzers make of these trees.
-/

namespace UhpSql

/-! ## Rows and fields -/

/-- The fields of a stored row. -/
def fields (val : Str) : List Str :=
  stringSplit val (str "$$")

/-- The field at a position, empty where the row has fewer fields. -/
def fieldAt (val : Str) (i : ℕ) : Str :=
  (fields val).getD i []

/-- The character that the delimiter of fields doubles. -/
def dollar : CChar :=
  CChar.ofChar '$'

theorem fields_stringsJoin_iff {v : List Str} (hv : v ≠ []) :
    fields (stringsJoin v (str "$$")) = v ↔ RoundTrips dollar v :=
  stringSplit_stringsJoin_iff (by decide) hv

/-- The stored rows of a table by their primary keys. -/
def rowsOf (dbName tabName : Str) (st : Store) : Str → Option Str :=
  fun pk => st.get (rowKey dbName tabName pk)

/-- The value of a column in a stored row, if the table has the column. -/
def colVal (table : DataTable) (colName : Str) (val : Str) : Option Str :=
  match table.getColIndex colName with
  | .ofNat i => some (fieldAt val i)
  | .negSucc _ => none

/-- Every row of the table is stored under its first field. -/
def KeyedByFirst (dbName tabName : Str) (st : Store) : Prop :=
  ∀ pk val, rowsOf dbName tabName st pk = some val → fieldAt val 0 = pk

theorem rowKey_injective (dbName tabName : Str) : Function.Injective (rowKey dbName tabName) :=
  List.append_right_injective _

/-- SET of a row's key changes this row. -/
theorem rowsOf_set (dbName tabName : Str) (st : Store) (pk val : Str) :
    rowsOf dbName tabName (st.set (rowKey dbName tabName pk) val) =
      Function.update (rowsOf dbName tabName st) pk (some val) := by
  ext1 pk'
  by_cases h : pk' = pk
  · rw [h, Function.update_self, rowsOf, Store.get_set_self]
  · rw [Function.update_of_ne h, rowsOf, rowsOf,
      Store.get_set_of_ne _ _ ((rowKey_injective dbName tabName).ne h)]

/-- DEL of a row's key removes this row. -/
theorem rowsOf_del (dbName tabName : Str) (st : Store) (pk : Str) :
    rowsOf dbName tabName (st.del (rowKey dbName tabName pk)) =
      Function.update (rowsOf dbName tabName st) pk none := by
  ext1 pk'
  by_cases h : pk' = pk
  · rw [h, Function.update_self, rowsOf, Store.get_del_self]
  · rw [Function.update_of_ne h, rowsOf, rowsOf,
      Store.get_del_of_ne _ ((rowKey_injective dbName tabName).ne h)]

/-! ## Decoded rows -/

/-- What `DecodeRowResult` makes of a stored row. -/
def decodeRow (table : DataTable) (val : Str) : List TableColumn :=
  (fields val).zipIdx.map fun c =>
    ⟨table.indexCol c.2, table.getColType (table.indexCol c.2), c.1⟩

theorem decodeRowResult_eq {d : DBMS} {tab : Str} {table : DataTable}
    (hT : d.getCurDB.getTable tab = some table) (res : Str) :
    decodeRowResult d res tab = .ok (decodeRow table res) := by
  simp [decodeRowResult, hT, decodeRow, fields]

@[simp] theorem map_val_decodeRow (table : DataTable) (val : Str) :
    (decodeRow table val).map TableColumn.val = fields val := by
  rw [decodeRow, List.map_map]
  exact List.zipIdx_map_fst 0 (fields val)

/-- Rows are shown the same when they have the same fields. -/
theorem decodeRow_eq_iff {table : DataTable} {val val' : Str} :
    decodeRow table val = decodeRow table val' ↔ fields val = fields val' := by
  constructor
  · intro h
    rw [← map_val_decodeRow table val, h, map_val_decodeRow]
  · intro h
    rw [decodeRow, h, decodeRow]

/-- Rows keyed by their first field are told apart by what is shown. -/
theorem KeyedByFirst.decodeRow_injective {dbName tabName : Str} {st : Store}
    (hkey : KeyedByFirst dbName tabName st) (table : DataTable) (pk val pk' val' : Str)
    (h : rowsOf dbName tabName st pk = some val) (h' : rowsOf dbName tabName st pk' = some val')
    (heq : decodeRow table val = decodeRow table val') : pk = pk' := by
  rw [← hkey pk val h, ← hkey pk' val' h', fieldAt, fieldAt, decodeRow_eq_iff.1 heq]

/-! ## Comparisons -/

/-- The comparison operators of WHERE. -/
inductive Comparison where
  | eq
  | ne
  | lt
  | le
  | gt
  | ge
  | like
  | notLike
  | iLike
  deriving DecidableEq

namespace Comparison

def opType : Comparison → OperatorType
  | eq => .kOpEquals
  | ne => .kOpNotEquals
  | lt => .kOpLess
  | le => .kOpLessEq
  | gt => .kOpGreater
  | ge => .kOpGreaterEq
  | like => .kOpLike
  | notLike => .kOpNotLike
  | iLike => .kOpILike

/-- A pattern of LIKE : `%` stands for any text and `_` for one character, and `same` says
when two characters count as equal. -/
def likeMatch (same : CChar → CChar → Bool) : Str → Str → Bool
  | [], s => s.isEmpty
  | p :: ps, s =>
    if p = CChar.ofChar '%' then s.tails.any fun r => likeMatch same ps r
    else match s with
      | [] => false
      | c :: s => (p = CChar.ofChar '_' || same p c) && likeMatch same ps s

/-- Letters without their case. -/
def lower (c : CChar) : UInt8 :=
  if 65 ≤ c.byte ∧ c.byte ≤ 90 then c.byte + 32 else c.byte

/-- `x op v` on strings of bytes. -/
def holds : Comparison → Str → Str → Bool
  | eq, x, v => x = v
  | ne, x, v => x ≠ v
  | lt, x, v => x < v
  | le, x, v => x ≤ v
  | gt, x, v => v < x
  | ge, x, v => v ≤ x
  | like, x, v => likeMatch (fun a b => a = b) v x
  | notLike, x, v => !likeMatch (fun a b => a = b) v x
  | iLike, x, v => likeMatch (fun a b => lower a = lower b) v x

end Comparison

/-- The stored rows for which `c op v` is true. -/
def Satisfies (table : DataTable) (c : Str) (cmp : Comparison) (v : Str) (val : Str) : Prop :=
  ∃ x ∈ colVal table c val, cmp.holds x v

instance (table : DataTable) (c : Str) (cmp : Comparison) (v val : Str) :
    Decidable (Satisfies table c cmp v val) :=
  decidable_of_iff ((colVal table c val).any (cmp.holds · v))
    (by cases h : colVal table c val <;> simp [Satisfies, h])

/-! ## Statements with a WHERE clause -/

/-- `c op 'v'`. -/
def whereOp (c : Str) (cmp : Comparison) (v : Str) : Expr :=
  .makeOpBinary (.makeColumnRef c) cmp.opType (.makeLiteral v)

/-- `SELECT * FROM t`. -/
def selectAll (t : Str) : SelectStatement :=
  { fromTable := some ⟨some t⟩ }

/-- `SELECT * FROM t WHERE c op 'v'`. -/
def selectWhere (t c : Str) (cmp : Comparison) (v : Str) : SelectStatement :=
  { fromTable := some ⟨some t⟩, whereClause := some (whereOp c cmp v) }

/-- `DELETE FROM t WHERE c op 'v'`. -/
def deleteWhere (t c : Str) (cmp : Comparison) (v : Str) : DeleteStatement :=
  { tableName := some t, expr := some (whereOp c cmp v) }

/-- `UPDATE t SET a = 'w', … WHERE c op 'v'`. -/
def updateWhere (t : Str) (clauses : List (Str × Str)) (c : Str) (cmp : Comparison) (v : Str) :
    UpdateStatement where
  table := some ⟨some t⟩
  updates := some (clauses.map fun a => ⟨a.1, .makeLiteral a.2⟩)
  whereExpr := some (whereOp c cmp v)

/-- `INSERT INTO t (c, …) VALUES ('v', …)`. -/
def insertValues (t : Str) (columns values : List Str) : InsertStatement where
  tableName := some t
  columns := some columns
  values := some (values.map .makeLiteral)

@[simp] theorem analyzeWhere_whereOp (op : OperatorType) (c : Str) (cmp : Comparison) (v : Str) :
    analyzeWhere op (whereOp c cmp v) = .ok (cmp.opType, c, v) :=
  rfl

@[simp] theorem collectValues_map_makeLiteral :
    ∀ values : List Str, collectValues (values.map Expr.makeLiteral) = .ok values
  | [] => rfl
  | v :: values => by
    rw [List.map_cons, collectValues, collectValues_map_makeLiteral values]
    rfl

section
variable {s : Server} {t : Str} {table : DataTable}
  (hT : s.dbms.getCurDB.getTable t = some table)
include hT

theorem hasTable_of_getTable : s.dbms.hasTable t = true := by
  rw [DBMS.hasTable, hT, Option.isSome_some]

theorem selectRows_selectAll (env : Env) (u : Uninit) :
    selectRows env u s (selectAll t) =
      selectRowsFromPMemKV env s ⟨u.opType, t, [], [], u.limit, u.offset, true⟩ >>= fun rows =>
        .ok (some (rows, t)) := by
  simp [selectRows, analyzeSelectStatement, selectAll, hasTable_of_getTable hT]

theorem selectRows_selectWhere (env : Env) (u : Uninit) (c : Str) (cmp : Comparison) (v : Str) :
    selectRows env u s (selectWhere t c cmp v) =
      selectRowsFromPMemKV env s ⟨cmp.opType, t, c, v, 0, u.offset, false⟩ >>= fun rows =>
        .ok (some (rows, t)) := by
  simp [selectRows, analyzeSelectStatement, selectWhere, hasTable_of_getTable hT, limitOf]

theorem deleteRows_deleteWhere (env : Env) (u : Uninit) (c : Str) (cmp : Comparison) (v : Str) :
    deleteRows env u s (deleteWhere t c cmp v) =
      deleteRowsInPMemKV env s ⟨t, cmp.opType, c, v⟩ >>= fun r => .ok (some r) := by
  simp [deleteRows, analyzeDeleteStatement, deleteWhere, hasTable_of_getTable hT]

theorem updateRow_updateWhere (u : Uninit) (a w : Str) (clauses : List (Str × Str)) (c : Str)
    (cmp : Comparison) (v : Str) :
    updateRow u s (updateWhere t ((a, w) :: clauses) c cmp v) =
      updateRowInPMemKV s ⟨t, a, w, cmp.opType, c, v⟩ >>= fun r => .ok (some r) := by
  simp [updateRow, analyzeUpdateStatement, updateWhere, hasTable_of_getTable hT, Expr.makeLiteral]

theorem insertRow_insertValues (columns values : List Str) :
    insertRow s (insertValues t columns values) =
      pairColumns columns values >>= fun row => insertRowToPMemKV s t row >>= fun r =>
        .ok (some r) := by
  cases h : pairColumns columns values <;>
    simp [insertRow, analyzeInsertStatement, insertValues, hasTable_of_getTable hT, h]

end

/-! ## What INSERT stores -/

/-- The value that a list of pairs gives a column : the last one. -/
def given : List TableColumn → Str → Option Str
  | [], _ => none
  | c :: row, x => (given row x).or (if c.colName = x then some c.val else none)

/-- The value of each column in schema order, empty for a column without a pair. -/
def givenFields (table : DataTable) (row : List TableColumn) : List Str :=
  table.colNames.map fun x => (given row x).getD []

theorem given_eq_none_iff {x : Str} : ∀ {row : List TableColumn},
    given row x = none ↔ x ∉ row.map TableColumn.colName
  | [] => by simp [given]
  | c :: row => by
    rw [given, Option.or_eq_none_iff, given_eq_none_iff, List.map_cons, List.mem_cons, not_or,
      and_comm, ite_eq_right_iff, eq_comm]
    simp

/-- The last pair of a name has the value that is given. -/
theorem given_eq_getElem? {x : Str} : ∀ {row : List TableColumn} {p : ℕ},
    DataTable.LastAt x (row.map TableColumn.colName) p →
      given row x = (row.map TableColumn.val)[p]?
  | [], p, h => absurd h.1 (by simp)
  | c :: row, 0, h => by
    have hnone : given row x = none := given_eq_none_iff.2 fun hmem => by
      obtain ⟨j, hj⟩ := List.mem_iff_getElem?.1 hmem
      exact h.2 (j + 1) (Nat.succ_pos j) hj
    rw [given, hnone, Option.none_or, if_pos (Option.some.inj h.1)]
    rfl
  | c :: row, p + 1, h => by
    have hrow : DataTable.LastAt x (row.map TableColumn.colName) p :=
      ⟨h.1, fun j hj => h.2 (j + 1) (Nat.succ_lt_succ hj)⟩
    have hval := given_eq_getElem? hrow
    have hlt : p < (row.map TableColumn.val).length := by
      have := (List.getElem?_eq_some_iff.1 hrow.1).1
      simpa using this
    rw [given, hval, List.map_cons, List.getElem?_cons_succ, List.getElem?_eq_getElem hlt,
      Option.some_or]

/-- Every value is put at the last position of its column's name. -/
theorem fillVals_spec {table : DataTable} : ∀ {row : List TableColumn} {vals : List Str},
    (∀ c ∈ row, ∃ i, DataTable.LastAt c.colName table.colNames i ∧ i < vals.length) →
      ∃ r, fillVals table row vals = .ok r ∧ r.length = vals.length ∧
        (∀ p x, DataTable.LastAt x table.colNames p → r[p]? = (given row x).or vals[p]?) ∧
        ∀ p, (¬∃ x, DataTable.LastAt x table.colNames p) → r[p]? = vals[p]?
  | [], vals, _ => ⟨vals, rfl, rfl, fun _ _ _ => (Option.none_or).symm, fun _ _ => rfl⟩
  | c :: row, vals, h => by
    obtain ⟨q, hq, hlt⟩ := h c List.mem_cons_self
    have hset : setAt vals (table.getColIndex c.colName) c.val = .ok (vals.set q c.val) := by
      rw [DataTable.getColIndex_eq_iff.2 hq, setAt, if_pos ⟨by omega, by omega⟩, Int.toNat_natCast]
    obtain ⟨r, hr, hlen, hlast, hother⟩ :=
      @fillVals_spec table row (vals.set q c.val) fun c' hc' => by
        rw [List.length_set]
        exact h c' (List.mem_cons_of_mem _ hc')
    refine ⟨r, by rw [fillVals, hset, ok_bind, hr], by rw [hlen, List.length_set],
      fun p x hx => ?_, fun p hp => ?_⟩
    · rw [hlast p x hx, given, Option.or_assoc]
      by_cases hcx : c.colName = x
      · subst hcx
        obtain rfl := hq.unique hx
        rw [List.getElem?_set_self hlt, if_pos rfl, Option.some_or]
      · have hpq : q ≠ p := by
          rintro rfl
          exact hcx (Option.some.inj (hq.1.symm.trans hx.1))
        rw [List.getElem?_set_ne hpq, if_neg hcx, Option.none_or]
    · rw [hother p hp, List.getElem?_set_ne]
      rintro rfl
      exact hp ⟨_, hq⟩

/-- A value whose column is unknown, or stands past the end of the vector, is out of bounds. -/
theorem lastAt_of_fillVals {table : DataTable} : ∀ {row : List TableColumn} {vals r : List Str},
    fillVals table row vals = .ok r →
      ∀ c ∈ row, ∃ i, DataTable.LastAt c.colName table.colNames i ∧ i < vals.length
  | c :: row, vals, r, h, c', hc' => by
    rw [fillVals] at h
    obtain ⟨vals', hset, hr⟩ := bind_eq_ok.1 h
    rw [setAt] at hset
    split_ifs at hset with hlt
    obtain rfl := Except.ok.inj hset
    obtain ⟨i, hi⟩ := Int.eq_ofNat_of_zero_le hlt.1
    rcases List.mem_cons.1 hc' with rfl | hmem
    · exact ⟨i, DataTable.getColIndex_eq_iff.1 hi, by omega⟩
    · obtain ⟨j, hj, hjlt⟩ := lastAt_of_fillVals hr c' hmem
      exact ⟨j, hj, by rwa [List.length_set] at hjlt⟩

/-! ## Replies to SCAN -/

/-- The entries a loop reads before it stops, from position `i` on. -/
def taken (stop : ℕ → Bool) : ℕ → List Entry → List Entry
  | _, [] => []
  | i, e :: es => if stop i then [] else e :: taken stop (i + 2) es

/-- A loop over keys and values decodes the entries it reads and keeps. -/
theorem scanLoop_flat {d : DBMS} {t : Str} {table : DataTable}
    (hT : d.getCurDB.getTable t = some table) (stop : ℕ → Bool) (keep : Str → Bool) :
    ∀ (i : ℕ) (es : List Entry), scanLoop d t stop keep i (flat es) =
      .ok (((taken stop i es).filter fun e => keep e.1).map fun e => decodeRow table e.2)
  | _, [] => rfl
  | i, e :: es => by
    rw [flat_cons, scanLoop, taken]
    split_ifs with hs hk
    · rfl
    · rw [decodeRowResult_eq hT, scanLoop_flat hT stop keep (i + 2) es, List.filter_cons, if_pos hk]
      rfl
    · rw [scanLoop_flat hT stop keep (i + 2) es, List.filter_cons, if_neg hk]

/-- A limit of 0 is no limit. -/
theorem taken_pastLimit_zero : ∀ (i : ℕ) (es : List Entry), taken (pastLimit 0) i es = es
  | _, [] => rfl
  | i, e :: es => by
    have h : pastLimit 0 i = false := by simp [pastLimit]
    rw [taken, h, taken_pastLimit_zero (i + 2) es]
    rfl

/-- For `>` a limit of 0 ends the loop after one entry. -/
theorem taken_pastLimitGreater_zero : ∀ es : List Entry,
    taken (pastLimitGreater 0) 0 es = es.take 1
  | [] => rfl
  | [_] => rfl
  | _ :: _ :: _ => rfl

/-! ## What SELECT answers -/

section
variable {s : Server} {t : Str} {table : DataTable} (env : Env) (u : Uninit) (c v : Str)

/-- `=` answers the row stored under the value, whatever the column. -/
theorem selectRows_eq (hT : s.dbms.getCurDB.getTable t = some table) :
    selectRows env u s (selectWhere t c .eq v) = .ok (some
      ((rowsOf s.dbms.getCurDB.dbName t s.store v).toList.map (decodeRow table), t)) := by
  rw [selectRows_selectWhere hT]
  unfold selectRowsFromPMemKV rowsOf rowKey
  simp only [Comparison.opType, Bool.false_eq_true, if_false]
  cases s.store.get (dataPrefix s.dbms.getCurDB.dbName t ++ v) with
  | none => rfl
  | some val => simp [decodeRowResult_eq hT]

/-- Operators the code does not know answer nothing. -/
theorem selectRows_of_unknown (hT : s.dbms.getCurDB.getTable t = some table) {cmp : Comparison}
    (heq : cmp ≠ .eq) (hgt : cmp ≠ .gt) (hlike : cmp ≠ .like) :
    selectRows env u s (selectWhere t c cmp v) = .ok (some ([], t)) := by
  rw [selectRows_selectWhere hT]
  cases cmp <;> first | contradiction | rfl

variable {env}

/-- A loop over the first reply to SCAN. -/
theorem scanLoop_page (h : env.redis.FullScan) (hT : s.dbms.getCurDB.getTable t = some table)
    (stop : ℕ → Bool) (keep : Str → Bool) (pattern : Str) :
    scanLoop s.dbms t stop keep 0 (env.redis.scan s.store 0 pattern scanCount).element =
      .ok (((taken stop 0 (env.redis.page s.store pattern scanCount)).filter
        fun e => keep e.1).map fun e => decodeRow table e.2) := by
  rw [h.alternates, scanLoop_flat hT]

/-- `>` answers the first entry listed, if its key is beyond that of the value. -/
theorem selectRows_gt (h : env.redis.FullScan) (hT : s.dbms.getCurDB.getTable t = some table) :
    selectRows env u s (selectWhere t c .gt v) = .ok (some
      ((((env.redis.page s.store (dataPrefix s.dbms.getCurDB.dbName t ++ str "*") scanCount).take
        1).filter fun e => rowKey s.dbms.getCurDB.dbName t v < e.1).map
          fun e => decodeRow table e.2, t)) := by
  rw [selectRows_selectWhere hT]
  unfold selectRowsFromPMemKV
  simp only [Comparison.opType, Bool.false_eq_true, if_false]
  rw [scanLoop_page h hT, taken_pastLimitGreater_zero]
  rfl

/-- The literal of LIKE as the code reads it. -/
def likeLiteral (v : Str) : Str :=
  if v.getLast? = some (CChar.ofChar '%') then v.dropLast else v

theorem likeLiteral_percent (p : Str) : likeLiteral (p ++ str "%") = p := by
  rw [likeLiteral, show str "%" = [CChar.ofChar '%'] from rfl, List.getLast?_concat, if_pos rfl,
    List.dropLast_concat]

theorem likePrefix_eq {v : Str} (hv : v ≠ []) : likePrefix v = .ok (likeLiteral v) := by
  rw [likePrefix, likeLiteral, List.getLast?_eq_some_getLast hv]
  simp

/-- LIKE answers the entries whose keys match the literal followed by `*`. -/
theorem selectRows_like (h : env.redis.FullScan) (hT : s.dbms.getCurDB.getTable t = some table)
    (hv : v ≠ []) :
    selectRows env u s (selectWhere t c .like v) = .ok (some
      ((env.redis.page s.store
        (dataPrefix s.dbms.getCurDB.dbName t ++ likeLiteral v ++ str "*") scanCount).map
          fun e => decodeRow table e.2, t)) := by
  rw [selectRows_selectWhere hT]
  unfold selectRowsFromPMemKV
  simp only [Comparison.opType, Bool.false_eq_true, if_false, likePrefix_eq hv, ok_bind]
  rw [scanLoop_page h hT, taken_pastLimit_zero, List.filter_true]
  rfl

/-- LIKE with an empty literal is undefined. -/
theorem selectRows_like_nil (hT : s.dbms.getCurDB.getTable t = some table) :
    selectRows env u s (selectWhere t c .like []) = .error .outOfBounds := by
  rw [selectRows_selectWhere hT]
  rfl

end

/-! ## What DELETE does -/

/-- The loop ends in a fault once it reaches a position the reply does not have. -/
theorem foldlM_eq_error {α β : Type} {f : β → α → Except Fault β} {e : Fault} :
    ∀ {l : List α} {b : β}, (∃ a ∈ l, ∀ b, f b a = .error e) →
      (∀ a ∈ l, ∀ b, (∃ b', f b a = .ok b') ∨ f b a = .error e) → l.foldlM f b = .error e
  | [], _, h, _ => absurd h (by simp)
  | a :: l, b, h, hall => by
    rw [List.foldlM_cons]
    rcases hall a (by simp) b with ⟨b', hb'⟩ | herr
    · obtain ⟨a', ha', hf⟩ := h
      rw [hb', ok_bind]
      refine foldlM_eq_error ⟨a', ?_, hf⟩ fun a ha => hall a (by simp [ha])
      refine (List.mem_cons.1 ha').resolve_left ?_
      rintro rfl
      exact absurd (hb'.symm.trans (hf b)) nofun
    · rw [herr, error_bind]

/-- The loop runs past the end of every reply with an entry in it. -/
theorem deleteLoop_flat {es : List Entry} (hes : es ≠ []) (st : Store) :
    deleteLoop (flat es) st = .error .outOfBounds := by
  have hpos := List.length_pos_iff.2 hes
  refine foldlM_eq_error ⟨2 * es.length - 1, ?_, fun st => ?_⟩ fun j _ st => ?_
  · rw [List.mem_range, length_flat]
    omega
  · rw [List.getElem?_eq_none (by rw [length_flat]; omega)]
  · cases (flat es)[2 * j]? with
    | none => exact Or.inr rfl
    | some key => exact Or.inl ⟨_, rfl⟩

section
variable {env : Env} {s : Server} {t c v : Str}

theorem deleteRowsInPMemKV_eq
    (h : c = str "1" ∧ v = str "1" →
      (env.redis.scan s.store 0 env.objectPattern Redis.defaultCount).element = []) :
    deleteRowsInPMemKV env s ⟨t, .kOpEquals, c, v⟩ =
      .ok (⟨s.dbms, s.store.del (rowKey s.dbms.getCurDB.dbName t v)⟩, 1) := by
  unfold deleteRowsInPMemKV
  simp only
  split_ifs with h1
  · rw [h h1]
    rfl
  · rfl

theorem deleteRowsInPMemKV_fault (halt : env.redis.Alternates) (h1 : c = str "1" ∧ v = str "1")
    (h : (env.redis.scan s.store 0 env.objectPattern Redis.defaultCount).element ≠ []) :
    deleteRowsInPMemKV env s ⟨t, .kOpEquals, c, v⟩ = .error .outOfBounds := by
  obtain ⟨es, hes⟩ := halt s.store env.objectPattern Redis.defaultCount
  have hne : es ≠ [] := by
    rintro rfl
    exact h hes
  simp only [deleteRowsInPMemKV, if_pos h1, hes, deleteLoop_flat hne, error_bind]

/-- Other operators change nothing and report one row. -/
theorem deleteRowsInPMemKV_of_ne {op : OperatorType} (hop : op ≠ .kOpEquals) :
    deleteRowsInPMemKV env s ⟨t, op, c, v⟩ = .ok (s, 1) := by
  unfold deleteRowsInPMemKV
  split
  · contradiction
  · rfl

end

end UhpSql
