import UhpSql.LikeExact
import UhpSql.Paging
import UhpSql.Uninitialised

/-!
# LIMIT and OFFSET

`Answers` : SELECT on the key, with `LIMIT n OFFSET m` or without, answers the rows number `m + 1`
to `m + n` of those that satisfy the clause, in the order of SCAN. The loops of the code count the
entries they read and not the rows they answer, read one more than the limit, and never look at
the offset. `answers_iff` says when the rows are the same.
-/

namespace UhpSql

/-! ## Windows -/

/-- `LIMIT count OFFSET skip`. -/
structure Window where
  count : ℕ
  skip : ℕ
  one_le_count : 1 ≤ count
  count_lt : count < 2 ^ 63
  skip_lt : skip < 2 ^ 63

namespace Window

def toLimit (w : Window) : Limit :=
  .limitOffset (.literal (.int (Int64.ofNat w.count))) (.literal (.int (Int64.ofNat w.skip)))

/-- The elements a window shows of a list. Without a window it is all of them. -/
def slice {α : Type} : Option Window → List α → List α
  | none, as => as
  | some w, as => (as.drop w.skip).take w.count

/-- The limit as the analyzer reads it. -/
def limitValue : Option Window → UInt64
  | none => 0
  | some w => UInt64.ofNat w.count

theorem limitOf_toLimit (page : Option Window) :
    limitOf ((page.map toLimit).map Limit.toDescription) = .ok (limitValue page) := by
  cases page with
  | none => rfl
  | some w =>
    change Except.ok (Int64.ofNat w.count).toUInt64 = _
    rw [Int64.toUInt64_ofNat']
    rfl

end Window

/-- A beginning of a list looks like a window on it when they have the same number of elements
and the elements look alike one by one. -/
theorem map_take_eq_map_window_iff {α β : Type} {f : α → β} {as : List α} {r m n : ℕ}
    (hr : r ≤ as.length) :
    (as.take r).map f = ((as.drop m).take n).map f ↔
      r = min n (as.length - m) ∧ ∀ i < r, as[i]?.map f = as[m + i]?.map f := by
  constructor
  · intro h
    have hlen : r = min n (as.length - m) := by
      simpa [min_eq_left hr] using congrArg List.length h
    refine ⟨hlen, fun i hi => ?_⟩
    have hin : i < n := hi.trans_le (hlen.trans_le (min_le_left ..))
    have hget := congrArg (·[i]?) h
    simpa [List.getElem?_take_of_lt hi, List.getElem?_take_of_lt hin] using hget
  · rintro ⟨hlen, h⟩
    refine List.ext_getElem? fun i => ?_
    by_cases hi : i < r
    · have hin : i < n := hi.trans_le (hlen.trans_le (min_le_left ..))
      simpa [List.getElem?_take_of_lt hi, List.getElem?_take_of_lt hin] using h i hi
    · have hlen₁ : ((as.take r).map f).length ≤ i := by
        rw [List.length_map, List.length_take_of_le hr]
        exact not_lt.1 hi
      have hlen₂ : (((as.drop m).take n).map f).length ≤ i := by
        rw [List.length_map, List.length_take, List.length_drop, ← hlen]
        exact not_lt.1 hi
      rw [List.getElem?_eq_none hlen₁, List.getElem?_eq_none hlen₂]

/-! ## The entries a loop reads -/

/-- A loop that stops at the position of entry `k` reads `k` entries. -/
theorem taken_eq_take {stop : ℕ → Bool} {k : ℕ} (h : ∀ j, stop (2 * j) ↔ k ≤ j) :
    ∀ (i : ℕ) (es : List Entry), taken stop (2 * i) es = es.take (k - i)
  | i, [] => by rw [taken, List.take_nil]
  | i, e :: es => by
    rw [taken]
    split_ifs with hs
    · rw [Nat.sub_eq_zero_of_le ((h i).1 hs), List.take_zero]
    · have hi : i < k := Nat.lt_of_not_le fun hle => hs ((h i).2 hle)
      have hrest := taken_eq_take h (i + 1) es
      rw [Nat.mul_succ] at hrest
      obtain ⟨j, hj⟩ : ∃ j, k - i = j + 1 := ⟨k - i - 1, by omega⟩
      rw [hj, List.take_succ_cons, hrest, show k - (i + 1) = j by omega]

/-- A limit lets a loop read one entry more than half the bound it compares with. -/
theorem taken_pastLimit {limit : UInt64} (h : limit ≠ 0) (es : List Entry) :
    taken (pastLimit limit) 0 es = es.take ((limit * 2).toNat / 2 + 1) :=
  taken_eq_take (fun j => by simp [pastLimit, h]; omega) 0 es

theorem toNat_limitValue_mul {n : ℕ} (h : n < 2 ^ 63) : (UInt64.ofNat n * 2).toNat = n * 2 := by
  rw [UInt64.toNat_mul, UInt64.toNat_ofNat']
  simp only [UInt64.reduceToNat]
  omega

theorem taken_pastLimit_ofNat {n : ℕ} (h1 : 1 ≤ n) (h : n < 2 ^ 63) (es : List Entry) :
    taken (pastLimit (UInt64.ofNat n)) 0 es = es.take (n + 1) := by
  have hmul := toNat_limitValue_mul h
  have hne : UInt64.ofNat n ≠ 0 := by
    intro h0
    rw [h0] at hmul
    have hzero : ((0 : UInt64) * 2).toNat = 0 := rfl
    omega
  rw [taken_pastLimit hne, hmul, Nat.mul_div_cancel _ (by decide)]

theorem taken_pastLimitGreater_ofNat {n : ℕ} (h : n < 2 ^ 63) (es : List Entry) :
    taken (pastLimitGreater (UInt64.ofNat n)) 0 es = es.take (n + 1) := by
  have hmul := toNat_limitValue_mul h
  have hsucc : (UInt64.ofNat n * 2 + 1).toNat = n * 2 + 1 := by
    rw [UInt64.toNat_add, hmul]
    simp only [UInt64.reduceToNat]
    omega
  exact taken_eq_take (fun j => by simp [pastLimitGreater, hsucc]; omega) 0 es

/-! ## Clauses on the key -/

/-- No WHERE clause, `pk > v` and `pk LIKE 'p%'`. -/
inductive KeyClause where
  | all
  | greater (v : Literal)
  | begins (p : Str)

namespace KeyClause

/-- The clause as it is written, for a column of this name. -/
def cond (c : Str) : KeyClause → Option Term
  | all => none
  | greater v => some (.binary (.column c) .kOpGreater (.literal v))
  | begins p => some (.binary (.column c) .kOpLike (.literal (.string (p ++ str "%"))))

/-- What the clause says of a key. -/
def holds : KeyClause → Str → Bool
  | all, _ => true
  | greater v, pk => Comparison.gt.holds pk v.text
  | begins p, pk => Comparison.like.holds pk (p ++ str "%")

/-- The literal of `>` has a name in its tree. -/
def named : KeyClause → Bool
  | greater v => (Term.literal v).named
  | _ => true

/-- What the code puts between the prefix of the table and the `*` of the pattern. -/
def stem : KeyClause → Str
  | begins p => p
  | _ => []

/-- The stem has no special character of a glob and none of LIKE. -/
def Plain (clause : KeyClause) : Prop :=
  UhpSql.Plain clause.stem ∧ ∀ c ∈ clause.stem, c ≠ CChar.ofChar '%' ∧ c ≠ CChar.ofChar '_'

instance (clause : KeyClause) : Decidable clause.Plain := by
  unfold Plain
  infer_instance

/-- The keys of a reply whose rows are answered. -/
def keeps (keyPrefix : Str) : KeyClause → Str → Bool
  | greater v, key => keyPrefix ++ v.text < key
  | _, _ => true

/-- The number of entries of a reply that are read, if there is a bound. Without WHERE it comes
from what is left in the local. -/
def bound (u : Uninit) (page : Option Window) : KeyClause → Option ℕ
  | all => if u.limit = 0 then none else some ((u.limit * 2).toNat / 2 + 1)
  | greater _ => some (page.elim 1 fun w => w.count + 1)
  | begins _ => page.map fun w => w.count + 1

/-- The entries of a reply that are read. -/
def read (clause : KeyClause) (u : Uninit) (page : Option Window) (es : List Entry) : List Entry :=
  (clause.bound u page).elim es fun k => es.take k

theorem read_prefix (clause : KeyClause) (u : Uninit) (page : Option Window) (es : List Entry) :
    clause.read u page es <+: es := by
  rw [read]
  cases clause.bound u page with
  | none => exact List.prefix_rfl
  | some k => exact List.take_prefix k es

end KeyClause

/-- The server lists all matching entries in one reply, in an order of the store. -/
structure Redis.OrderedScan (R : Redis) (order : Store → List Entry) : Prop where
  perm : ∀ st, (order st).Perm st.toList
  reply : ∀ st pattern count, (R.scan st 0 pattern count).element =
    flat ((order st).filter fun e => globMatch pattern e.1)

section
variable (order : Store → List Entry) (s : Server) (t : Str) (clause : KeyClause)

/-- The rows of the table that satisfy the clause, in the order of SCAN. -/
def satisfying : List Entry :=
  (order s.store).filter fun e => dataPrefix s.dbms.getCurDB.dbName t <+: e.1 ∧
    clause.holds (e.1.drop (dataPrefix s.dbms.getCurDB.dbName t).length)

/-- The reply to the scan. -/
def listed : List Entry :=
  (order s.store).filter fun e =>
    globMatch (dataPrefix s.dbms.getCurDB.dbName t ++ clause.stem ++ str "*") e.1

/-- The entries among those read whose rows are answered. -/
def reached (u : Uninit) (page : Option Window) : List Entry :=
  (clause.read u page (listed order s t clause)).filter fun e =>
    clause.keeps (dataPrefix s.dbms.getCurDB.dbName t) e.1

end

/-! ## What SELECT answers -/

theorem Literal.name_toExpr {lit : Literal} (h : (Term.literal lit).named) :
    lit.toExpr.name = some lit.text := by
  cases lit with
  | string val | date val => rfl
  | bool | float | int | null | interval | parameter => exact absurd h Bool.false_ne_true

/-- The analyzer finds the column and the text of the literal. -/
theorem analyzeWhere_binary (op op' : OperatorType) (c : Str) {lit : Literal}
    (h : (Term.literal lit).named) :
    analyzeWhere op (Term.binary (.column c) op' (.literal lit)).toExpr =
      .ok (op', c, lit.text) := by
  have hname : deref (Term.literal lit).toExpr.name = .ok lit.text :=
    deref_eq_ok.2 (Literal.name_toExpr h)
  change deref (Term.literal lit).toExpr.name >>= (fun v => Except.ok (op', c, v)) = _
  rw [hname]
  rfl

section
variable {env : Env} {order : Store → List Entry} {s : Server} {t : Str} {table : DataTable}
  (hT : s.dbms.getCurDB.getTable t = some table)
include hT

/-- A WHERE clause that compares a column with a literal that has a name. -/
theorem selectRows_binary (u : Uninit) (c : Str) (op : OperatorType) {lit : Literal}
    (hnamed : (Term.literal lit).named) (page : Option Window) :
    selectRows env u s (selectTree (some (.name t))
        (some (.binary (.column c) op (.literal lit))) (page.map Window.toLimit)) =
      selectRowsFromPMemKV env s
        ⟨op, t, c, lit.text, Window.limitValue page, u.offset, false⟩ >>= fun rows =>
          .ok (some (rows, t)) := by
  have hlimit := Window.limitOf_toLimit page
  rw [selectRows_of_where_some rfl rfl (hasTable_of_getTable hT) rfl,
    analyzeWhere_binary _ _ _ hnamed, ok_bind]
  unfold selectTree
  rw [hlimit]
  rfl

variable (hscan : env.redis.OrderedScan order)
include hscan

theorem scanLoop_ordered (stop : ℕ → Bool) (keep : Str → Bool) (pattern : Str) :
    scanLoop s.dbms t stop keep 0 (env.redis.scan s.store 0 pattern scanCount).element =
      .ok (((taken stop 0 ((order s.store).filter fun e => globMatch pattern e.1)).filter
        fun e => keep e.1).map fun e => decodeRow table e.2) := by
  rw [hscan.reply, scanLoop_flat hT]

/-- The code answers the rows it reaches. -/
theorem selectRows_clause (u : Uninit) (c : Str) {clause : KeyClause} (hnamed : clause.named)
    (page : Option Window) :
    selectRows env u s (selectTree (some (.name t)) (clause.cond c) (page.map Window.toLimit)) =
      .ok (some ((reached order s t clause u page).map fun e => decodeRow table e.2, t)) := by
  unfold reached listed KeyClause.read
  cases clause with
  | all =>
    rw [selectRows_of_where_none rfl rfl (hasTable_of_getTable hT) rfl,
      scanLoop_ordered hT hscan, ok_bind]
    simp only [KeyClause.stem, List.append_nil, KeyClause.bound, KeyClause.keeps]
    split_ifs with hlimit
    · rw [hlimit, taken_pastLimit_zero]
      rfl
    · rw [taken_pastLimit hlimit]
      rfl
  | greater v =>
    rw [KeyClause.cond, selectRows_binary hT u c _ hnamed]
    unfold selectRowsFromPMemKV
    simp only [Bool.false_eq_true, if_false]
    rw [scanLoop_ordered hT hscan, ok_bind]
    simp only [KeyClause.stem, List.append_nil, KeyClause.bound, KeyClause.keeps]
    cases page with
    | none => rw [Window.limitValue, taken_pastLimitGreater_zero]; rfl
    | some w => rw [Window.limitValue, taken_pastLimitGreater_ofNat w.count_lt]; rfl
  | begins p =>
    have hne : p ++ str "%" ≠ [] := List.append_ne_nil_of_right_ne_nil _ (by decide)
    rw [KeyClause.cond, selectRows_binary hT u c _ rfl]
    unfold selectRowsFromPMemKV
    simp only [Bool.false_eq_true, if_false, Literal.text, likePrefix_eq hne, likeLiteral_percent,
      ok_bind]
    rw [scanLoop_ordered hT hscan, ok_bind]
    simp only [KeyClause.stem, KeyClause.bound, KeyClause.keeps]
    cases page with
    | none => rw [Window.limitValue, taken_pastLimit_zero]; rfl
    | some w =>
      rw [Window.limitValue, taken_pastLimit_ofNat w.one_le_count w.count_lt]
      rfl

end

/-! ## The rows in reach -/

theorem append_lt_append_iff {u a b : Str} : u ++ a < u ++ b ↔ a < b := by
  refine ⟨fun h => ?_, List.append_left_lt⟩
  rcases lt_trichotomy a b with hlt | rfl | hgt
  · exact hlt
  · exact absurd h (lt_irrefl _)
  · exact absurd h (lt_asymm (List.append_left_lt hgt))

/-- What the code asks of the key of a row is what the clause says. -/
theorem KeyClause.keeps_append_iff {clause : KeyClause} (h : clause.Plain) (u pk : Str) :
    clause.keeps u (u ++ pk) ∧ clause.stem <+: pk ↔ clause.holds pk := by
  cases clause with
  | all => simp [keeps, stem, holds]
  | greater v => simp [keeps, stem, holds, Comparison.holds, append_lt_append_iff]
  | begins p =>
    have hlike := LikePattern.holds_iff ⟨p, true, h.2⟩ pk
    simp only [LikePattern.text, LikePattern.Matches, if_true] at hlike
    simp only [keeps, true_and]
    exact hlike.symm

section
variable {order : Store → List Entry} {s : Server} {t : Str} {clause : KeyClause}

/-- The rows of the specification are the rows of the table. -/
theorem mem_satisfying_iff (hperm : ∀ st, (order st).Perm st.toList) {e : Entry} :
    e ∈ satisfying order s t clause ↔ ∃ pk, e.1 = rowKey s.dbms.getCurDB.dbName t pk ∧
      rowsOf s.dbms.getCurDB.dbName t s.store pk = some e.2 ∧ clause.holds pk := by
  rw [satisfying, List.mem_filter, (hperm _).mem_iff, Store.mem_toList, decide_eq_true_eq]
  constructor
  · rintro ⟨hget, ⟨pk, hpk⟩, hholds⟩
    rw [← hpk, List.drop_left] at hholds
    rw [← hpk] at hget
    exact ⟨pk, hpk.symm, hget, hholds⟩
  · rintro ⟨pk, hpk, hval, hholds⟩
    rw [hpk]
    refine ⟨hval, List.prefix_append .., ?_⟩
    rwa [rowKey, List.drop_left]

variable (hplain : Plain (dataPrefix s.dbms.getCurDB.dbName t)) (hclause : clause.Plain)
include hplain hclause

/-- Where no name and no stem has a special character, the listed entries that are kept are the
rows that satisfy the clause. -/
theorem filter_listed_eq : (listed order s t clause).filter
    (fun e => clause.keeps (dataPrefix s.dbms.getCurDB.dbName t) e.1) =
      satisfying order s t clause := by
  have hstem : Plain (dataPrefix s.dbms.getCurDB.dbName t ++ clause.stem) := by
    intro c hc
    rcases List.mem_append.1 hc with hc | hc
    · exact hplain c hc
    · exact hclause.1 c hc
  rw [listed, satisfying, List.filter_filter]
  refine List.filter_congr fun e _ => ?_
  rw [Bool.eq_iff_iff, Bool.and_eq_true, globMatch_plain hstem, decide_eq_true_eq]
  constructor
  · rintro ⟨hkeeps, pk, hpk⟩
    rw [List.append_assoc] at hpk
    rw [← hpk] at hkeeps ⊢
    rw [List.drop_left]
    exact ⟨List.prefix_append .., (clause.keeps_append_iff hclause _ _).1
      ⟨hkeeps, List.prefix_append ..⟩⟩
  · rintro ⟨⟨pk, hpk⟩, hholds⟩
    rw [← hpk, List.drop_left] at hholds
    obtain ⟨hkeeps, hpre⟩ := (clause.keeps_append_iff hclause _ _).2 hholds
    rw [← hpk]
    exact ⟨hkeeps, (List.prefix_append_right_inj _).2 hpre⟩

/-- The rows in reach are the first of those that satisfy the clause. -/
theorem reached_eq_take (u : Uninit) (page : Option Window) : reached order s t clause u page =
    (satisfying order s t clause).take (reached order s t clause u page).length := by
  have hpre : reached order s t clause u page <+: satisfying order s t clause := by
    rw [← filter_listed_eq hplain hclause, reached]
    exact (clause.read_prefix u page _).filter _
  exact List.prefix_iff_eq_take.1 hpre

theorem length_reached_le (u : Uninit) (page : Option Window) :
    (reached order s t clause u page).length ≤ (satisfying order s t clause).length := by
  rw [reached_eq_take hplain hclause, List.length_take]
  exact min_le_right ..

end

/-! ## LIMIT and OFFSET -/

/-- SELECT answers the rows that satisfy the clause and are in the window, in the order of
SCAN. -/
def Answers (env : Env) (order : Store → List Entry) (u : Uninit) (s : Server) (t : Str)
    (table : DataTable) (c : Str) (clause : KeyClause) (page : Option Window) : Prop :=
  selectRows env u s (selectTree (some (.name t)) (clause.cond c) (page.map Window.toLimit)) =
    .ok (some ((Window.slice page (satisfying order s t clause)).map fun e =>
      decodeRow table e.2, t))

/-- The rows in reach of the loop are as many as the window shows, and each has the fields of the
row the window shows in its place, which OFFSET moves on. -/
def InReach (order : Store → List Entry) (u : Uninit) (s : Server) (t : Str)
    (clause : KeyClause) : Option Window → Prop
  | none => (reached order s t clause u none).length = (satisfying order s t clause).length
  | some w => (reached order s t clause u (some w)).length =
        min w.count ((satisfying order s t clause).length - w.skip) ∧
      ∀ i < (reached order s t clause u (some w)).length,
        ((satisfying order s t clause)[i]?).map (fun e => fields e.2) =
          ((satisfying order s t clause)[w.skip + i]?).map fun e => fields e.2

/-- A loop for LIKE reaches one row more than the limit. -/
theorem reached_begins {order : Store → List Entry} {s : Server} {t p : Str}
    (hplain : Plain (dataPrefix s.dbms.getCurDB.dbName t)) (hclause : (KeyClause.begins p).Plain)
    (u : Uninit) (w : Window) : reached order s t (.begins p) u (some w) =
      (satisfying order s t (.begins p)).take (w.count + 1) := by
  have hlisted := @filter_listed_eq order s t (.begins p) hplain hclause
  simp only [KeyClause.keeps, List.filter_true] at hlisted
  simp only [reached, KeyClause.keeps, List.filter_true, hlisted]
  rfl

/-- So the answer to LIKE with LIMIT is right when no more rows match than the limit, and there is
no offset or no row to skip. -/
theorem inReach_begins_iff {order : Store → List Entry} {s : Server} {t p : Str}
    (hplain : Plain (dataPrefix s.dbms.getCurDB.dbName t)) (hclause : (KeyClause.begins p).Plain)
    (u : Uninit) (w : Window) : InReach order u s t (.begins p) (some w) ↔
      (satisfying order s t (.begins p)).length ≤ w.count ∧
        (w.skip = 0 ∨ satisfying order s t (.begins p) = []) := by
  rw [InReach, reached_begins hplain hclause, List.length_take, ← List.length_eq_zero_iff]
  constructor
  · rintro ⟨hlen, -⟩
    omega
  · rintro ⟨hle, hskip⟩
    refine ⟨by omega, fun i hi => ?_⟩
    rcases hskip with hskip | hnone
    · rw [hskip, Nat.zero_add]
    · omega

/-- The literal has a name and the rows in reach are those of the window. Where a name or the
pattern has special characters, the entries in reach have the fields of the rows of the window. -/
def AnswerCondition (order : Store → List Entry) (u : Uninit) (s : Server) (t : Str)
    (clause : KeyClause) (page : Option Window) : Prop :=
  clause.named ∧
    if Plain (dataPrefix s.dbms.getCurDB.dbName t) ∧ clause.Plain then
      InReach order u s t clause page
    else (reached order s t clause u page).map (fun e => fields e.2) =
      (Window.slice page (satisfying order s t clause)).map fun e => fields e.2

theorem map_decodeRow_eq_iff (table : DataTable) {es es' : List Entry} :
    es.map (fun e => decodeRow table e.2) = es'.map (fun e => decodeRow table e.2) ↔
      es.map (fun e => fields e.2) = es'.map fun e => fields e.2 := by
  rw [map_decodeRow_eq, map_decodeRow_eq,
    (List.map_injective_iff.2 (showFields_injective table)).eq_iff]

/-- A literal without a name is read through a null pointer. -/
theorem named_of_selectRows {env : Env} {u : Uninit} {s : Server} {t c : Str} {table : DataTable}
    {clause : KeyClause} {page : Option Window} {r : Option (List (List TableColumn) × Str)}
    (hT : s.dbms.getCurDB.getTable t = some table)
    (h : selectRows env u s (selectTree (some (.name t)) (clause.cond c)
      (page.map Window.toLimit)) = .ok r) : clause.named := by
  cases clause with
  | greater v =>
    rw [selectRows_of_where_some rfl rfl (hasTable_of_getTable hT) rfl] at h
    obtain ⟨w, hw, -⟩ := bind_eq_ok.1 h
    exact (Term.exists_analyzeWhere u.opType _).1 ⟨w, hw⟩
  | all | begins p => rfl

/-- SELECT with LIMIT and OFFSET answers the rows of the window exactly under
`AnswerCondition`. -/
theorem answers_iff {env : Env} {order : Store → List Entry}
    (hscan : env.redis.OrderedScan order) (u : Uninit) {s : Server} {t : Str} {table : DataTable}
    (hT : s.dbms.getCurDB.getTable t = some table) (c : Str) (clause : KeyClause)
    (page : Option Window) :
    Answers env order u s t table c clause page ↔ AnswerCondition order u s t clause page := by
  unfold Answers AnswerCondition
  by_cases hnamed : clause.named
  swap
  · exact iff_of_false (fun h => hnamed (named_of_selectRows hT h)) fun h => hnamed h.1
  rw [selectRows_clause hT hscan u c hnamed, and_iff_right hnamed]
  simp only [Except.ok.injEq, Option.some.injEq, Prod.mk.injEq, and_true]
  rw [map_decodeRow_eq_iff]
  split_ifs with hplain
  · have hle := @length_reached_le order s t clause hplain.1 hplain.2 u page
    rw [reached_eq_take hplain.1 hplain.2]
    cases page with
    | none =>
      refine ⟨fun h => ?_, fun h => ?_⟩
      · have hlen := congrArg List.length h
        rwa [List.length_map, List.length_map, List.length_take_of_le hle] at hlen
      · rw [show (reached order s t clause u none).length = _ from h, List.take_length]
        rfl
    | some w => exact map_take_eq_map_window_iff hle
  · rfl

theorem whole_orderedScan : Redis.whole.OrderedScan Store.toList :=
  ⟨fun _ => .refl _, fun _ _ _ => rfl⟩

/-- `SELECT * FROM classtab WHERE Name LIKE 'Tom%' LIMIT 10 OFFSET 0`. -/
theorem answers_tom : Answers Env.whole Store.toList .zero tomServer (str "classtab")
    ⟨str "classtab", ofDefinitions classtab⟩ (str "Name") (.begins (str "Tom"))
    (some ⟨10, 0, by decide, by decide, by decide⟩) := by
  have hplain : Plain (dataPrefix tomServer.dbms.getCurDB.dbName (str "classtab")) := plain_classtab
  refine (answers_iff whole_orderedScan .zero getTable_tomServer _ _ _).2 ⟨rfl, ?_⟩
  rw [if_pos ⟨hplain, by decide⟩]
  exact (inReach_begins_iff hplain (by decide) .zero _).2 ⟨by decide, Or.inl rfl⟩

/-- `INSERT INTO classtab (Name, Class, Score) VALUES ('Amy', 'A', '90')`. -/
def amyInsert : InsertStatement :=
  insertValues (str "classtab") [str "Name", str "Class", str "Score"]
    [str "Amy", str "A", str "90"]

theorem reachable_amyServer : Reachable Env.whole amyServer := by
  have hexec : execStatement Env.whole .zero 1 tomServer (.insert amyInsert) =
      .ok (amyServer, sendOkMessageToClient 1 1 0 2 0) := rfl
  exact .exec .zero 1 _ reachable_tomServer hexec

/-- `SELECT * FROM classtab WHERE Name LIKE '%' LIMIT 1 OFFSET 0` answers two rows. -/
theorem not_answers_amy : Reachable Env.whole amyServer ∧
    ¬Answers Env.whole Store.toList .zero amyServer (str "classtab") classTable (str "Name")
      (.begins []) (some ⟨1, 0, by decide, by decide, by decide⟩) := by
  refine ⟨reachable_amyServer, fun h => ?_⟩
  have hboth := @selectRows_clause Env.whole Store.toList amyServer _ classTable getTable_amyServer
    whole_orderedScan .zero (str "Name") (.begins []) rfl
    (some ⟨1, 0, by decide, by decide, by decide⟩)
  rw [Answers, hboth] at h
  obtain ⟨hrows, -⟩ := Prod.mk.inj (Option.some.inj (Except.ok.inj h))
  have hlen := congrArg List.length hrows
  rw [List.length_map, List.length_map] at hlen
  exact absurd hlen (by decide)

end UhpSql
