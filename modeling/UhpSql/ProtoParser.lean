import UhpSql.StringUtils

/-!
# The RESP parser (`network/proto_parser.cc`)

`ParseRequest` reads an array of strings, `*N` and then `$n` and `n` bytes for each, and keeps its
place in it across calls : what does not come in completely is waited for. `input` is what lies from
the `ptr` of the call to its `end`, and `ptr` counts from there. A number that does not fit into an
`int`, a byte that is read outside of the input and an assertion that fails end a call
(`ParserFault`).

`getIntUntilCRLF_eq` : what becomes of a number depends on the digits in front and on what follows
them. Digits up to the end of the input count as a number, whose end is then two bytes further on.
-/

namespace UhpSql

inductive ParseResult
  | ok
  | wait
  | error
  deriving DecidableEq

inductive ParserFault
  | outOfBounds
  | overflow
  | assertion
  deriving DecidableEq

/-- A run of the parser up to a fault. -/
abbrev Parse (α : Type) : Type :=
  Except ParserFault α

namespace ProtoParser

/-! ## Numbers -/

/-- The largest `int`. -/
def intMax : ℕ :=
  2147483647

/-- A number that is computed as an `int`. -/
def int (n : ℤ) : Parse ℤ :=
  if -intMax - 1 ≤ n ∧ n ≤ intMax then .ok n else .error .overflow

/-- The byte at `i`. -/
def read (input : List UInt8) (i : ℕ) : Parse UInt8 :=
  match input[i]? with
  | some c => .ok c
  | none => .error .outOfBounds

def isdigit (c : UInt8) : Bool :=
  48 ≤ c && c ≤ 57

/-- `end - ptr`. -/
def left (input : List UInt8) (ptr : ℕ) : ℤ :=
  input.length - ptr

/-- The loop of `GetIntUntilCRLF` with `k` bytes to go : the result, `i` and `value`. -/
def digitLoop (input : List UInt8) (ptr nBytes : ℕ) :
    ℕ → ℕ → ℤ → Parse (ParseResult × ℕ × ℤ)
  | 0, i, value => .ok (.ok, i, value)
  | k + 1, i, value => do
    let c ← read input (ptr + i)
    if isdigit c then do
      let value ← int (value * 10)
      let value ← int (value + (c.toNat - 48))
      digitLoop input ptr nBytes k (i + 1) value
    else if c ≠ 13 then .ok (.error, i, value)
    else if i + 1 < nBytes then do
      let d ← read input (ptr + (i + 1))
      .ok (if d = 10 then .ok else .error, i, value)
    else .ok (.wait, i, value)

/-- `GetIntUntilCRLF` : the result, `ptr` and `val`. -/
def getIntUntilCRLF (input : List UInt8) (ptr nBytes : ℕ) (val : ℤ) :
    Parse (ParseResult × ℕ × ℤ) :=
  if nBytes < 3 then .ok (.wait, ptr, val)
  else do
    let r ← digitLoop input ptr nBytes nBytes 0 0
    match r with
    | (.ok, i, value) => .ok (.ok, ptr + i + 2, value)
    | (result, _, _) => .ok (result, ptr, val)

/-! ## The parser -/

end ProtoParser

structure ProtoParser where
  multi : ℤ
  paramLen : ℤ
  numOfParam : ℕ
  params : List (List UInt8)

namespace ProtoParser

def new : ProtoParser where
  multi := -1
  paramLen := -1
  numOfParam := 0
  params := []

/-- `resize` of a vector of strings. -/
def resize (v : List (List UInt8)) (n : ℕ) : List (List UInt8) :=
  v.take n ++ List.replicate (n - v.length) []

/-- `Reset`. -/
def reset (p : ProtoParser) : ProtoParser where
  multi := -1
  paramLen := -1
  numOfParam := 0
  params := p.params.take 3

/-- `_ParseMulti` : the result, `ptr` and `result`. -/
def parseMulti (input : List UInt8) (ptr : ℕ) (result : ℤ) : Parse (ParseResult × ℕ × ℤ) :=
  if left input ptr < 3 then .ok (.wait, ptr, result)
  else do
    let c ← read input ptr
    if c ≠ 42 then .ok (.error, ptr, result)
    else getIntUntilCRLF input (ptr + 1) (left input (ptr + 1)).toNat result

/-- `_ParseStrlen` : the result, `ptr` and `result`. -/
def parseStrlen (input : List UInt8) (ptr : ℕ) (result : ℤ) : Parse (ParseResult × ℕ × ℤ) :=
  if left input ptr < 3 then .ok (.wait, ptr, result)
  else do
    let c ← read input ptr
    if c ≠ 36 then .ok (.error, ptr, result)
    else do
      let r ← getIntUntilCRLF input (ptr + 1) (left input (ptr + 1)).toNat result
      .ok (r.1, if r.1 = .ok then r.2.1 else r.2.1 - 1, r.2.2)

/-- `_ParseStrval` : the result, `ptr`, `paramLen_` and `result`. -/
def parseStrval (input : List UInt8) (ptr : ℕ) (paramLen : ℤ) (result : List UInt8) :
    Parse (ParseResult × ℕ × ℤ × List UInt8) :=
  if paramLen < 0 then .error .assertion
  else do
    let size ← int (left input ptr)
    let need ← int (paramLen + 2)
    if size < need then .ok (.wait, ptr, paramLen, result)
    else do
      let tail := ptr + paramLen.toNat
      let c ← read input tail
      if c ≠ 13 then .ok (.error, ptr, paramLen, result)
      else do
        let d ← read input (tail + 1)
        if d ≠ 10 then .ok (.error, ptr, paramLen, result)
        else .ok (.ok, tail + 2, -1, (input.drop ptr).take paramLen.toNat)

/-- `_ParseStr` : the result, `ptr`, `paramLen_` and `result`. -/
def parseStr (input : List UInt8) (ptr : ℕ) (paramLen : ℤ) (result : List UInt8) :
    Parse (ParseResult × ℕ × ℤ × List UInt8) := do
  let r ← if paramLen = -1 then parseStrlen input ptr paramLen else .ok (.ok, ptr, paramLen)
  if r.1 = .error ∨ r.2.2 < -1 then .ok (.error, r.2.1, r.2.2, result)
  else if r.1 ≠ .ok then .ok (.wait, r.2.1, r.2.2, result)
  else if r.2.2 = -1 then .ok (.ok, r.2.1, r.2.2, [])
  else parseStrval input r.2.1 r.2.2 result

/-- `params_` with a place for the next string. -/
def reserve (p : ProtoParser) : List (List UInt8) :=
  if p.params.length < p.numOfParam + 1 then resize p.params (p.numOfParam + 1) else p.params

/-- `_ParseStrlist` with `k` strings to go, which is `multi_ - numOfParam_` : the parser, `ptr` and
the result. The loop compares `numOfParam_` as an `int`. -/
def parseStrlist (input : List UInt8) :
    ℕ → ProtoParser → ℕ → Parse (ProtoParser × ℕ × ParseResult)
  | 0, p, ptr => do
    let _ ← int p.numOfParam
    .ok ({ p with params := resize p.params p.numOfParam }, ptr, .ok)
  | k + 1, p, ptr => do
    let _ ← int p.numOfParam
    let r ← parseStr input ptr p.paramLen (p.reserve.getD p.numOfParam [])
    let p := { p with paramLen := r.2.2.1, params := p.reserve.set p.numOfParam r.2.2.2 }
    if r.1 = .ok then parseStrlist input k { p with numOfParam := p.numOfParam + 1 } r.2.1
    else .ok (p, r.2.1, r.1)

/-- `ParseRequest` on the input : the parser, `ptr` and the result. -/
def parseRequest (p : ProtoParser) (input : List UInt8) :
    Parse (ProtoParser × ℕ × ParseResult) := do
  let r ← if p.multi = -1 then parseMulti input 0 p.multi else .ok (.ok, 0, p.multi)
  let p := { p with multi := r.2.2 }
  if r.1 = .error ∨ p.multi < -1 then .ok (p, r.2.1, .error)
  else if r.1 ≠ .ok then .ok (p, r.2.1, .wait)
  else parseStrlist input (p.multi - p.numOfParam).toNat p r.2.1

/-! ## What becomes of a number -/

def Digits (ds : List UInt8) : Prop :=
  ∀ c ∈ ds, isdigit c

/-- The bytes do not begin with a digit. -/
def NoDigit (after : List UInt8) : Prop :=
  ∀ c ∈ after.head?, isdigit c = false

/-- The value of digits that come after a value. -/
def decVal (v : ℕ) (ds : List UInt8) : ℕ :=
  ds.foldl (fun v c => v * 10 + (c.toNat - 48)) v

/-- The result for a number, by what follows its digits. -/
def ending : List UInt8 → ParseResult
  | [] => .ok
  | [c] => if c = 13 then .wait else .error
  | c :: d :: _ => if c = 13 ∧ d = 10 then .ok else .error

/-- A number counts if nothing follows it, or the end of a line. -/
theorem ending_eq_ok_iff {after : List UInt8} :
    ending after = .ok ↔ after = [] ∨ ∃ rest, after = 13 :: 10 :: rest := by
  match after with
  | [] => simp [ending]
  | [c] =>
    rw [ending]
    split_ifs <;> simp
  | c :: d :: rest =>
    rw [ending]
    split_ifs with h
    · simp [h.1, h.2]
    · simp only [List.cons.injEq, false_or, false_iff, not_exists]
      exact fun rest' hrest => h ⟨hrest.1, hrest.2.1⟩

section
variable {α β : Type}

@[simp] theorem ok_bind (a : α) (f : α → Parse β) : ((.ok a : Parse α) >>= f) = f a :=
  rfl

@[simp] theorem error_bind (e : ParserFault) (f : α → Parse β) :
    ((.error e : Parse α) >>= f) = .error e :=
  rfl

theorem bind_eq_ok {x : Parse α} {f : α → Parse β} {b : β} (h : (x >>= f) = .ok b) :
    ∃ a, x = .ok a ∧ f a = .ok b := by
  cases x with
  | error e => cases h
  | ok a => exact ⟨a, rfl, h⟩

end

/-- Any bytes are digits, then bytes that do not begin with a digit. -/
theorem exists_digits (rest : List UInt8) :
    ∃ ds after, rest = ds ++ after ∧ Digits ds ∧ NoDigit after := by
  refine ⟨rest.takeWhile isdigit, rest.dropWhile isdigit, (List.takeWhile_append_dropWhile).symm,
    fun c hc => List.mem_takeWhile_imp hc, fun c hc => ?_⟩
  have hhead := List.head?_dropWhile_not isdigit rest
  rw [Option.mem_def.1 hc] at hhead
  simpa using hhead

theorem digits_cons {c : UInt8} {ds : List UInt8} : Digits (c :: ds) ↔ isdigit c ∧ Digits ds :=
  List.forall_mem_cons

theorem le_toNat_of_isdigit {c : UInt8} (h : isdigit c) : 48 ≤ c.toNat := by
  rw [isdigit, Bool.and_eq_true, decide_eq_true_iff, UInt8.le_iff_toNat_le] at h
  exact h.1

theorem decVal_cons (v : ℕ) (c : UInt8) (ds : List UInt8) :
    decVal v (c :: ds) = decVal (v * 10 + (c.toNat - 48)) ds := by
  rw [decVal, List.foldl_cons, decVal]

/-- Digits only add to a value. -/
theorem le_decVal (ds : List UInt8) (v : ℕ) : v ≤ decVal v ds := by
  induction ds generalizing v with
  | nil => exact Nat.le_refl v
  | cons c ds ih => exact Nat.le_trans (by omega) (ih (v * 10 + (c.toNat - 48)))

theorem decVal_append (v : ℕ) (ds es : List UInt8) :
    decVal v (ds ++ es) = decVal (decVal v ds) es :=
  List.foldl_append

theorem int_natCast (n : ℕ) : int n = if intMax < n then .error .overflow else .ok (n : ℤ) := by
  have hnonneg : -(intMax : ℤ) - 1 ≤ n := by rw [intMax]; omega
  rw [int]
  split_ifs with h1 h2 h2
  · omega
  · rfl
  · rfl
  · omega

theorem read_of_drop {input rest : List UInt8} {ptr : ℕ} {c : UInt8} (pre : List UInt8)
    (h : input.drop ptr = pre ++ c :: rest) : read input (ptr + pre.length) = .ok c := by
  have hget : input[ptr + pre.length]? = some c := by
    rw [← List.getElem?_drop, h, List.getElem?_append_right (Nat.le_refl _), Nat.sub_self]
    rfl
  rw [read, hget]

/-- The loop goes over digits as far as their value fits. -/
theorem digitLoop_digits {input ds after : List UInt8} {ptr v : ℕ} (nBytes : ℕ) (pre : List UInt8)
    (h : input.drop ptr = pre ++ (ds ++ after)) (hds : Digits ds) (hv : v ≤ intMax) :
    digitLoop input ptr nBytes (ds ++ after).length pre.length v =
      if intMax < decVal v ds then .error .overflow
      else digitLoop input ptr nBytes after.length (pre ++ ds).length (decVal v ds : ℕ) := by
  induction ds generalizing pre v with
  | nil =>
    rw [if_neg (show ¬intMax < decVal v [] from Nat.not_lt.2 hv), List.append_nil]
    rfl
  | cons c ds ih =>
    obtain ⟨hc, hds⟩ := digits_cons.1 hds
    have hc48 := le_toNat_of_isdigit hc
    have hmul : (v : ℤ) * 10 = (v * 10 : ℕ) := by omega
    have hadd : ((v * 10 : ℕ) : ℤ) + ((c.toNat : ℤ) - 48) = (v * 10 + (c.toNat - 48) : ℕ) := by
      omega
    have hle := le_decVal ds (v * 10 + (c.toNat - 48))
    rw [List.cons_append, List.length_cons, digitLoop, read_of_drop pre h, ok_bind, if_pos hc, hmul,
      int_natCast, decVal_cons]
    by_cases hover : intMax < v * 10 + (c.toNat - 48)
    · rw [if_pos (Nat.lt_of_lt_of_le hover hle)]
      split_ifs with hover'
      · rfl
      · rw [ok_bind, hadd, int_natCast, if_pos hover]
        rfl
    · rw [if_neg (show ¬intMax < v * 10 by omega), ok_bind, hadd, int_natCast, if_neg hover,
        ok_bind]
      have hpre : (pre ++ [c]).length = pre.length + 1 := List.length_append
      rw [← hpre, ih (pre ++ [c]) (by rw [h]; simp) hds (Nat.not_lt.1 hover), List.append_assoc]
      rfl

/-- The loop ends at what is not a digit. -/
theorem digitLoop_after {input after : List UInt8} {ptr : ℕ} (pre : List UInt8) (v : ℤ)
    (h : input.drop ptr = pre ++ after) (hafter : NoDigit after) :
    digitLoop input ptr (pre ++ after).length after.length pre.length v =
      .ok (ending after, pre.length, v) := by
  cases after with
  | nil => rfl
  | cons c after =>
    have hc : ¬isdigit c := by rw [hafter c rfl]; exact Bool.false_ne_true
    rw [List.length_cons, digitLoop, read_of_drop pre h, ok_bind, if_neg hc]
    cases after with
    | nil =>
      have hlast : ¬pre.length + 1 < (pre ++ [c]).length := by simp
      rw [if_neg hlast, ending]
      split_ifs <;> first | rfl | contradiction
    | cons d after =>
      have hpre : (pre ++ [c]).length = pre.length + 1 := List.length_append
      have hdrop : input.drop ptr = (pre ++ [c]) ++ d :: after := by rw [h]; simp
      have hmore : pre.length + 1 < (pre ++ c :: d :: after).length := by simp
      rw [if_pos hmore, ← hpre, read_of_drop _ hdrop, ok_bind, ending]
      by_cases h13 : c = 13
      · rw [if_neg (not_not_intro h13)]
        simp only [h13, true_and]
      · rw [if_pos h13, if_neg fun h => h13 h.1]

/-- `GetIntUntilCRLF` on digits and what follows them. -/
theorem getIntUntilCRLF_eq {input ds after : List UInt8} {ptr : ℕ} (val : ℤ)
    (h : input.drop ptr = ds ++ after) (hds : Digits ds) (hafter : NoDigit after)
    (hlen : 3 ≤ (ds ++ after).length) :
    getIntUntilCRLF input ptr (ds ++ after).length val =
      if intMax < decVal 0 ds then .error .overflow
      else if ending after = .ok then .ok (.ok, ptr + ds.length + 2, (decVal 0 ds : ℕ))
      else .ok (ending after, ptr, val) := by
  rw [getIntUntilCRLF, if_neg (Nat.not_lt.2 hlen)]
  have hloop := digitLoop_digits (ds ++ after).length [] h hds (Nat.zero_le intMax)
  rw [List.length_nil, Nat.cast_zero, List.nil_append, digitLoop_after ds _ h hafter] at hloop
  rw [hloop]
  split_ifs with hover hend
  · rfl
  · rw [hend]
    rfl
  · rw [ok_bind]
    cases hend' : ending after with
    | ok => exact absurd hend' hend
    | wait => rfl
    | error => rfl

/-! ## What becomes of a length and of a string -/

theorem left_eq {input : List UInt8} {ptr : ℕ} (h : ptr ≤ input.length) :
    left input ptr = (input.drop ptr).length := by
  rw [left, List.length_drop, Nat.cast_sub h]

theorem toNat_left (input : List UInt8) (ptr : ℕ) :
    (left input ptr).toNat = (input.drop ptr).length := by
  rw [left, List.length_drop]
  omega

theorem left_lt_three_iff {input : List UInt8} {ptr : ℕ} :
    left input ptr < 3 ↔ (input.drop ptr).length < 3 := by
  rw [left, List.length_drop]
  omega

theorem not_left_lt_three {input rest : List UInt8} {ptr : ℕ} {c : UInt8}
    (h : input.drop ptr = c :: rest) (hlen : 2 ≤ rest.length) : ¬left input ptr < 3 := by
  rw [left_lt_three_iff, h, List.length_cons]
  omega

theorem read_head {input rest : List UInt8} {ptr : ℕ} {c : UInt8} (h : input.drop ptr = c :: rest) :
    read input ptr = .ok c :=
  read_of_drop [] h

theorem drop_succ {input rest : List UInt8} {ptr : ℕ} {c : UInt8} (h : input.drop ptr = c :: rest) :
    input.drop (ptr + 1) = rest := by
  rw [← List.drop_drop, h]
  rfl

theorem drop_add (pre : List UInt8) {input rest : List UInt8} {ptr : ℕ}
    (h : input.drop ptr = pre ++ rest) :
    input.drop (ptr + pre.length) = rest := by
  rw [← List.drop_drop, h, List.drop_left]

section
variable {input ds after rest : List UInt8} {ptr : ℕ} {result : ℤ}

theorem parseMulti_short (h : (input.drop ptr).length < 3) :
    parseMulti input ptr result = .ok (.wait, ptr, result) :=
  if_pos (left_lt_three_iff.2 h)

theorem parseStrlen_short (h : (input.drop ptr).length < 3) :
    parseStrlen input ptr result = .ok (.wait, ptr, result) :=
  if_pos (left_lt_three_iff.2 h)

theorem parseMulti_other (ptr : ℕ) (result : ℤ) {c : UInt8} (h : input.drop ptr = c :: rest)
    (hc : c ≠ 42) (hlen : 3 ≤ (c :: rest).length) :
    parseMulti input ptr result = .ok (.error, ptr, result) := by
  rw [parseMulti, if_neg (not_left_lt_three h (Nat.le_of_succ_le_succ hlen)), read_head h, ok_bind,
    if_pos hc]

theorem parseStrlen_other {c : UInt8} (h : input.drop ptr = c :: rest) (hc : c ≠ 36)
    (hlen : 3 ≤ (c :: rest).length) :
    parseStrlen input ptr result = .ok (.error, ptr, result) := by
  rw [parseStrlen, if_neg (not_left_lt_three h (Nat.le_of_succ_le_succ hlen)), read_head h, ok_bind,
    if_pos hc]

/-- `_ParseMulti` on a number that is not too short to be looked at. -/
theorem parseMulti_eq (ptr : ℕ) (result : ℤ) (h : input.drop ptr = 42 :: (ds ++ after))
    (hds : Digits ds) (hafter : NoDigit after) (hlen : 3 ≤ (ds ++ after).length) :
    parseMulti input ptr result =
      if intMax < decVal 0 ds then .error .overflow
      else if ending after = .ok then .ok (.ok, ptr + 1 + ds.length + 2, (decVal 0 ds : ℕ))
      else .ok (ending after, ptr + 1, result) := by
  have hlong := not_left_lt_three h (Nat.le_of_succ_le hlen)
  rw [parseMulti, if_neg hlong, read_head h, ok_bind, if_neg (not_not_intro rfl), toNat_left,
    drop_succ h]
  exact getIntUntilCRLF_eq result (drop_succ h) hds hafter hlen

/-- `_ParseStrlen` on a number that is not too short to be looked at. -/
theorem parseStrlen_eq (result : ℤ) (h : input.drop ptr = 36 :: (ds ++ after)) (hds : Digits ds)
    (hafter : NoDigit after) (hlen : 3 ≤ (ds ++ after).length) :
    parseStrlen input ptr result =
      if intMax < decVal 0 ds then .error .overflow
      else if ending after = .ok then .ok (.ok, ptr + 1 + ds.length + 2, (decVal 0 ds : ℕ))
      else .ok (ending after, ptr, result) := by
  have hlong := not_left_lt_three h (Nat.le_of_succ_le hlen)
  rw [parseStrlen, if_neg hlong, read_head h, ok_bind, if_neg (not_not_intro rfl), toNat_left,
    drop_succ h, getIntUntilCRLF_eq result (drop_succ h) hds hafter hlen]
  split_ifs with hover hend
  · rfl
  · rfl
  · rw [ok_bind, if_neg hend]
    rfl

/-- A number of one or two bytes is waited for, from where `ptr` is then. -/
theorem parseMulti_wait (h : input.drop ptr = 42 :: rest) (hlen : rest.length = 2) :
    parseMulti input ptr result = .ok (.wait, ptr + 1, result) := by
  have hlong := not_left_lt_three h hlen.ge
  rw [parseMulti, if_neg hlong, read_head h, ok_bind, if_neg (not_not_intro rfl), toNat_left,
    drop_succ h, getIntUntilCRLF, if_pos (by omega)]

theorem parseStrlen_wait (h : input.drop ptr = 36 :: rest) (hlen : rest.length < 3) :
    parseStrlen input ptr result = .ok (.wait, ptr, result) := by
  by_cases hshort : (input.drop ptr).length < 3
  · exact parseStrlen_short hshort
  · rw [parseStrlen, if_neg (mt left_lt_three_iff.1 hshort), read_head h, ok_bind,
      if_neg (not_not_intro rfl), toNat_left, drop_succ h, getIntUntilCRLF, if_pos hlen]
    rfl

end

section
variable {input rest result s : List UInt8} {ptr : ℕ}

/-- `_ParseStrval` adds two to the length, and takes what is left as an `int`. -/
theorem parseStrval_eq {l : ℕ} (hptr : ptr ≤ input.length) (h : input.drop ptr = rest) :
    parseStrval input ptr l result =
      if intMax < l + 2 ∨ intMax < rest.length then .error .overflow
      else if rest.length < l + 2 then .ok (.wait, ptr, l, result)
      else if (rest.drop l).take 2 = [13, 10] then .ok (.ok, ptr + l + 2, -1, rest.take l)
      else .ok (.error, ptr, l, result) := by
  have hneed : (l : ℤ) + 2 = (l + 2 : ℕ) := rfl
  rw [parseStrval, if_neg (by omega), left_eq hptr, h, hneed, int_natCast, int_natCast]
  by_cases hsize : intMax < rest.length
  · rw [if_pos hsize, if_pos (Or.inr hsize)]
    rfl
  · rw [if_neg hsize, ok_bind]
    by_cases hover : intMax < l + 2
    · rw [if_pos hover, if_pos (Or.inl hover)]
      rfl
    · rw [if_neg hover, ok_bind, if_neg (not_or.2 ⟨hover, hsize⟩)]
      simp only [Int.ofNat_lt, Int.toNat_natCast]
      by_cases hshort : rest.length < l + 2
      · rw [if_pos hshort, if_pos hshort]
      · rw [if_neg hshort, if_neg hshort]
        have hlen : 2 ≤ (rest.drop l).length := by
          rw [List.length_drop]
          omega
        have hdrop : input.drop (ptr + l) = rest.drop l := by rw [← List.drop_drop, h]
        match htail : rest.drop l, hlen with
        | c :: d :: r, _ =>
          rw [htail] at hdrop
          rw [read_head hdrop, ok_bind, read_head (drop_succ hdrop)]
          by_cases hc : c = 13
          · rw [if_neg (not_not_intro hc), ok_bind]
            by_cases hd : d = 10
            · rw [if_neg (not_not_intro hd), if_pos (by rw [hc, hd]; rfl)]
            · rw [if_pos hd, if_neg fun heq => hd (by injection heq with _ h; injection h)]
          · rw [if_pos hc, if_neg fun heq => hc (by injection heq)]

/-- Beyond the input a string is waited for. -/
theorem parseStrval_beyond {l : ℕ} (hlt : input.length < ptr) (hfar : ptr ≤ input.length + 2) :
    parseStrval input ptr l result =
      if intMax < l + 2 then .error .overflow else .ok (.wait, ptr, l, result) := by
  have hneed : (l : ℤ) + 2 = (l + 2 : ℕ) := rfl
  have hleft : int (left input ptr) = .ok (left input ptr) :=
    if_pos (by rw [left, intMax]; omega)
  rw [parseStrval, if_neg (by omega), hleft, ok_bind, hneed, int_natCast]
  split_ifs with hover
  · rfl
  · rw [ok_bind, if_pos (by rw [left]; omega)]

/-- A length and the string after it. -/
theorem parseStr_of_ok (result : List UInt8) {l ptr' : ℕ}
    (h : parseStrlen input ptr (-1) = .ok (.ok, ptr', (l : ℤ))) :
    parseStr input ptr (-1) result = parseStrval input ptr' l result := by
  have hpos : ¬(l : ℤ) < -1 := by omega
  have hne : ¬(l : ℤ) = -1 := by omega
  rw [parseStr, if_pos rfl, h, ok_bind]
  simp only [reduceCtorEq, hpos, hne, or_self, not_true, if_false, ne_eq]

/-- A string whose length is known. -/
theorem parseStr_natCast (l : ℕ) :
    parseStr input ptr l result = parseStrval input ptr l result := by
  have hpos : ¬(l : ℤ) < -1 := by omega
  have hne : ¬(l : ℤ) = -1 := by omega
  rw [parseStr, if_neg hne, ok_bind]
  simp only [reduceCtorEq, hpos, hne, or_self, not_true, if_false, ne_eq]

/-- A length that is not there ends the call. -/
theorem parseStr_of_ne_ok {r : ParseResult} {ptr' : ℕ}
    (h : parseStrlen input ptr (-1) = .ok (r, ptr', -1)) (hr : r ≠ .ok) :
    parseStr input ptr (-1) result = .ok (r, ptr', -1, result) := by
  rw [parseStr, if_pos rfl, h, ok_bind]
  cases r with
  | ok => contradiction
  | wait => rfl
  | error => rfl

end

section
variable {input s : List UInt8} {ptr ptr' k : ℕ} {p : ProtoParser} {l : ℤ}

/-- A string that came in. -/
theorem parseStrlist_ok (hcount : p.numOfParam ≤ intMax)
    (h : parseStr input ptr p.paramLen (p.reserve.getD p.numOfParam []) = .ok (.ok, ptr', l, s)) :
    parseStrlist input (k + 1) p ptr =
      parseStrlist input k
        { p with
          paramLen := l
          numOfParam := p.numOfParam + 1
          params := p.reserve.set p.numOfParam s } ptr' := by
  rw [parseStrlist, int_natCast, if_neg (Nat.not_lt.2 hcount), ok_bind, h, ok_bind, if_pos rfl]

/-- A string that did not. -/
theorem parseStrlist_stop {r : ParseResult} (hcount : p.numOfParam ≤ intMax)
    (h : parseStr input ptr p.paramLen (p.reserve.getD p.numOfParam []) = .ok (r, ptr', l, s))
    (hr : r ≠ .ok) :
    parseStrlist input (k + 1) p ptr =
      .ok ({ p with paramLen := l, params := p.reserve.set p.numOfParam s }, ptr', r) := by
  rw [parseStrlist, int_natCast, if_neg (Nat.not_lt.2 hcount), ok_bind, h, ok_bind, if_neg hr]

theorem parseStrlist_fault {e : ParserFault} (hcount : p.numOfParam ≤ intMax)
    (h : parseStr input ptr p.paramLen (p.reserve.getD p.numOfParam []) = .error e) :
    parseStrlist input (k + 1) p ptr = .error e := by
  rw [parseStrlist, int_natCast, if_neg (Nat.not_lt.2 hcount), ok_bind, h]
  rfl

/-- A call with the length of the next string read already. -/
theorem parseStrlist_congr (h : ∀ result,
    parseStr input ptr p.paramLen result = parseStr input ptr' l result) :
    parseStrlist input (k + 1) p ptr =
      parseStrlist input (k + 1) { p with paramLen := l } ptr' := by
  rw [parseStrlist, parseStrlist, h]
  rfl

theorem parseStrlist_zero (hcount : p.numOfParam ≤ intMax) :
    parseStrlist input 0 p ptr =
      .ok ({ p with params := resize p.params p.numOfParam }, ptr, .ok) := by
  rw [parseStrlist, int_natCast, if_neg (Nat.not_lt.2 hcount)]
  rfl

end

/-- At the end of the input and beyond it nothing is read, and `ptr` stays there. -/
theorem parseStrlist_beyond {input : List UInt8} {ptr k : ℕ} {p : ProtoParser}
    (hptr : input.length ≤ ptr) (hcount : p.numOfParam ≤ intMax) (hl : p.paramLen = -1) :
    ∃ p' r, parseStrlist input k p ptr = .ok (p', ptr, r) := by
  cases k with
  | zero => exact ⟨_, _, parseStrlist_zero hcount⟩
  | succ k =>
    have hlen : parseStrlen input ptr (-1) = .ok (.wait, ptr, -1) :=
      parseStrlen_short (by rw [List.drop_eq_nil_of_le hptr]; simp)
    exact ⟨_, _, parseStrlist_stop hcount (by rw [hl]; exact parseStr_of_ne_ok hlen (by simp))
      (by simp)⟩

/-! ## Requests -/

section
variable {input : List UInt8} {p : ProtoParser}

/-- `ParseRequest` where it goes on with strings. -/
theorem parseRequest_of_nonneg (h : 0 ≤ p.multi) :
    parseRequest p input = parseStrlist input (p.multi - p.numOfParam).toNat p 0 := by
  have hne : ¬p.multi = -1 := by omega
  have hnot : ¬p.multi < -1 := by omega
  rw [parseRequest, if_neg hne, ok_bind]
  simp only [reduceCtorEq, hnot, or_self, not_true, if_false, ne_eq]

/-- A header that came in. -/
theorem parseRequest_of_ok {ptr n : ℕ} (h : p.multi = -1)
    (hmulti : parseMulti input 0 (-1) = .ok (.ok, ptr, (n : ℤ))) :
    parseRequest p input = parseStrlist input (n - p.numOfParam) { p with multi := n } ptr := by
  have hnot : ¬(n : ℤ) < -1 := by omega
  have hcount : ((n : ℤ) - p.numOfParam).toNat = n - p.numOfParam := by omega
  rw [parseRequest, if_pos h, h, hmulti, ok_bind]
  simp only [reduceCtorEq, hnot, or_self, not_true, if_false, ne_eq, hcount]

/-- A header that did not. -/
theorem parseRequest_of_ne_ok {ptr : ℕ} {r : ParseResult} (h : p.multi = -1)
    (hmulti : parseMulti input 0 (-1) = .ok (r, ptr, -1)) (hr : r ≠ .ok) :
    parseRequest p input = .ok (p, ptr, r) := by
  have hp : { p with multi := (-1 : ℤ) } = p := by rw [← h]
  rw [parseRequest, if_pos h, h, hmulti, ok_bind]
  cases r with
  | ok => contradiction
  | wait => simp [hp]
  | error => simp [hp]

theorem parseRequest_fault {e : ParserFault} (h : p.multi = -1)
    (hmulti : parseMulti input 0 (-1) = .error e) : parseRequest p input = .error e := by
  rw [parseRequest, if_pos h, h, hmulti]
  rfl

end

end ProtoParser

end UhpSql
