import UhpSql.ProtoParser
import UhpSql.Transition

/-!
# The bounds of the RESP parser

A call of `ParseRequest` keeps to its input if it reads nothing outside, computes nothing that does
not fit into an `int` and leaves `ptr` no further than `end` (`Inside`). What it must not come upon
is described by the bytes alone : digits that are the last bytes of the input, numbers and lengths
near `2 ^ 31`, and inputs of that size (`Overruns`). `inside_iff` : over any calls of `ParseRequest`
and `Reset`, the parser keeps to its inputs exactly as long as none of them has such a place in it.
-/

namespace UhpSql

namespace ProtoParser

/-- The call ends, and `ptr` is in the input or at its end. -/
def Inside (input : List UInt8) (r : Parse (ProtoParser × ℕ × ParseResult)) : Prop :=
  ∃ p ptr result, r = .ok (p, ptr, result) ∧ ptr ≤ input.length

/-- Digits and what follows them are looked at, and are the last of the input or too large. -/
def Overrun (ds after : List UInt8) : Prop :=
  3 ≤ (ds ++ after).length ∧ (after = [] ∨ intMax < decVal 0 ds)

/-- Bytes with `k` strings to come, of which the first may be of a length that is known, have a
place in them that the parser overruns : the number behind a `$`, the length of a string if `2` is
added to it, what is left of the input, or such a place further on. -/
inductive Overruns : ℕ → Option ℕ → List UInt8 → Prop
  | number {k ds after} : Digits ds → Overrun ds after →
    Overruns (k + 1) none (36 :: (ds ++ after))
  | size {k l rest} : intMax < l + 2 ∨ intMax < List.length rest → Overruns (k + 1) (some l) rest
  | marker {k ds rest} : Digits ds → Overruns (k + 1) (some (decVal 0 ds)) rest →
    Overruns (k + 1) none (36 :: (ds ++ 13 :: 10 :: rest))
  | string {k s rest} : Overruns k none rest →
    Overruns (k + 1) (some (List.length s)) (s ++ 13 :: 10 :: rest)

/-- The length that `_ParseStrval` is to go by, if it is known. -/
def awaited (p : ProtoParser) : Option ℕ :=
  if p.paramLen = -1 then none else some p.paramLen.toNat

/-- The input has a place that the parser overruns. -/
def RequestOverruns (p : ProtoParser) (input : List UInt8) : Prop :=
  if p.multi = -1 then
    ∃ ds after, input = 42 :: (ds ++ after) ∧ Digits ds ∧
      (Overrun ds after ∨ ∃ rest, after = 13 :: 10 :: rest ∧ Overruns (decVal 0 ds) none rest)
  else Overruns (p.multi - p.numOfParam).toNat p.awaited input

/-! ## The places -/

/-- Fewer digits leave digits over. -/
theorem digits_split {ds after ds' after' : List UInt8} (h : ds' ++ after' = ds ++ after)
    (hds : Digits ds') (hafter : NoDigit after) : ∃ es, ds = ds' ++ es ∧ after' = es ++ after := by
  rcases List.append_eq_append_iff.1 h with ⟨es, hds', hafter'⟩ | ⟨es, hds', hafter'⟩
  · exact ⟨es, hds', hafter'⟩
  · cases es with
    | nil => exact ⟨[], by rw [hds', List.append_nil, List.append_nil], hafter'.symm⟩
    | cons c es =>
      have hdigit : isdigit c := hds c (by rw [hds']; simp)
      rw [hafter c (by rw [hafter']; rfl)] at hdigit
      exact absurd hdigit Bool.false_ne_true

theorem digits_split_crlf {ds after ds' rest : List UInt8}
    (h : ds' ++ 13 :: 10 :: rest = ds ++ after) (hds : Digits ds) (hds' : Digits ds')
    (hafter : NoDigit after) : ds = ds' ∧ after = 13 :: 10 :: rest := by
  obtain ⟨es, rfl, hrest⟩ := digits_split h hds' hafter
  cases es with
  | nil => exact ⟨List.append_nil ds', hrest.symm⟩
  | cons c es =>
    obtain ⟨rfl, -⟩ := List.cons.inj hrest
    exact absurd (hds 13 (by simp)) (by decide)

theorem overrun_of_split {ds after ds' after' : List UInt8} (h : ds' ++ after' = ds ++ after)
    (hds : Digits ds') (hafter : NoDigit after) (hover : Overrun ds' after') :
    Overrun ds after := by
  obtain ⟨es, hes, hafter'⟩ := digits_split h hds hafter
  refine ⟨h ▸ hover.1, hover.2.imp (fun hnil => ?_) fun hval => hval.trans_le ?_⟩
  · rw [hnil] at hafter'
    exact (List.append_eq_nil_iff.1 hafter'.symm).2
  · rw [hes, decVal_append]
    exact le_decVal es _

/-- A place in bytes that begin with a number is the number, or it comes behind the number. -/
theorem overruns_none_iff {k : ℕ} {ds after : List UInt8} (hds : Digits ds)
    (hafter : NoDigit after) :
    Overruns (k + 1) none (36 :: (ds ++ after)) ↔
      Overrun ds after ∨
        ∃ rest, after = 13 :: 10 :: rest ∧ Overruns (k + 1) (some (decVal 0 ds)) rest := by
  constructor
  · intro h
    generalize hbytes : 36 :: (ds ++ after) = bytes at h
    cases h with
    | number hds' hover =>
      exact Or.inl (overrun_of_split (List.cons.inj hbytes).2.symm hds' hafter hover)
    | marker hds' hrest =>
      obtain ⟨rfl, rfl⟩ := digits_split_crlf (List.cons.inj hbytes).2.symm hds hds' hafter
      exact Or.inr ⟨_, rfl, hrest⟩
  · rintro (hover | ⟨rest, rfl, hrest⟩)
    · exact .number hds hover
    · exact .marker hds hrest

/-- Bytes that do not begin with a `$` have no such place. -/
theorem exists_cons_of_overruns {k : ℕ} {bytes : List UInt8} (h : Overruns k none bytes) :
    ∃ rest, bytes = 36 :: rest ∧ 2 ≤ rest.length := by
  cases h with
  | number _ hover => exact ⟨_, rfl, by have := hover.1; omega⟩
  | marker _ _ =>
    refine ⟨_, rfl, ?_⟩
    rw [List.length_append, List.length_cons, List.length_cons]
    omega

theorem overruns_some_iff {k l : ℕ} {bytes : List UInt8} :
    Overruns (k + 1) (some l) bytes ↔
      (intMax < l + 2 ∨ intMax < bytes.length) ∨
        (bytes.drop l).take 2 = [13, 10] ∧ Overruns k none (bytes.drop (l + 2)) := by
  constructor
  · intro h
    cases h with
    | size hsize => exact Or.inl hsize
    | string hrest =>
      refine Or.inr ⟨by rw [List.drop_left]; rfl, ?_⟩
      rwa [← List.drop_drop, List.drop_left]
  · rintro (hsize | ⟨hcrlf, hrest⟩)
    · exact .size hsize
    · have hsplit : bytes = bytes.take l ++ 13 :: 10 :: bytes.drop (l + 2) := by
        conv_lhs => rw [← List.take_append_drop l bytes, ← List.take_append_drop 2 (bytes.drop l)]
        rw [hcrlf, List.drop_drop]
        rfl
      have hlen : (bytes.take l).length = l := by
        rw [List.length_take, Nat.min_eq_left]
        by_contra hlt
        rw [List.drop_eq_nil_of_le (by omega)] at hcrlf
        exact absurd hcrlf (by simp)
      have h := Overruns.string (s := bytes.take l) hrest
      rwa [hlen, ← hsplit] at h

/-! ## Strings -/

section
variable {input : List UInt8} {p : ProtoParser} {ptr k l : ℕ}

theorem inside_ok {result : ParseResult} :
    Inside input (.ok (p, ptr, result)) ↔ ptr ≤ input.length := by
  constructor
  · rintro ⟨p', ptr', result', h, hle⟩
    obtain ⟨-, hptr⟩ := Prod.mk.inj (Except.ok.inj h)
    rwa [(Prod.mk.inj hptr).1]
  · exact fun h => ⟨p, ptr, result, rfl, h⟩

theorem not_inside_error {e : ParserFault} : ¬Inside input (.error e) := by
  rintro ⟨p, ptr, result, h, -⟩
  cases h

/-- What is asked of `k` strings of which no length is known. -/
def ListBounds (input : List UInt8) (k : ℕ) : Prop :=
  ∀ p ptr, ptr ≤ input.length → p.numOfParam + k ≤ intMax → p.paramLen = -1 →
    (Inside input (parseStrlist input k p ptr) ↔ ¬Overruns k none (input.drop ptr))

/-- A string of a known length, and those after it. -/
theorem inside_some_iff (ih : ListBounds input k) (hptr : ptr ≤ input.length)
    (hcount : p.numOfParam + (k + 1) ≤ intMax) (hl : p.paramLen = (l : ℤ)) :
    Inside input (parseStrlist input (k + 1) p ptr) ↔
      ¬Overruns (k + 1) (some l) (input.drop ptr) := by
  have hcount' : p.numOfParam ≤ intMax := by omega
  have hstr : parseStr input ptr p.paramLen (p.reserve.getD p.numOfParam []) =
      parseStrval input ptr l (p.reserve.getD p.numOfParam []) := by rw [hl, parseStr_natCast]
  rw [overruns_some_iff]
  rw [parseStrval_eq hptr rfl] at hstr
  by_cases hsize : intMax < l + 2 ∨ intMax < (input.drop ptr).length
  · rw [if_pos hsize] at hstr
    rw [parseStrlist_fault hcount' hstr]
    exact iff_of_false not_inside_error (not_not_intro (Or.inl hsize))
  rw [if_neg hsize] at hstr
  by_cases hshort : (input.drop ptr).length < l + 2
  · rw [if_pos hshort] at hstr
    rw [parseStrlist_stop hcount' hstr (by simp), inside_ok]
    refine iff_of_true hptr (not_or.2 ⟨hsize, fun h => ?_⟩)
    have hlen := congrArg List.length h.1
    rw [List.length_take, List.length_drop] at hlen
    simp only [List.length_cons, List.length_nil] at hlen
    omega
  rw [if_neg hshort] at hstr
  rw [or_iff_right hsize]
  by_cases hcrlf : ((input.drop ptr).drop l).take 2 = [13, 10]
  · rw [if_pos hcrlf] at hstr
    rw [List.length_drop] at hshort
    rw [parseStrlist_ok hcount' hstr, ih _ _ (by omega) (by simp only; omega) rfl,
      and_iff_right hcrlf, List.drop_drop, Nat.add_assoc]
  · rw [if_neg hcrlf] at hstr
    rw [parseStrlist_stop hcount' hstr (by simp), inside_ok]
    exact iff_of_true hptr fun h => hcrlf h.1

/-- A number that ends in a line end is not overrun, if it fits. -/
theorem not_overrun_crlf {ds rest : List UInt8} (h : ¬intMax < decVal 0 ds) :
    ¬Overrun ds (13 :: 10 :: rest) := by
  rintro ⟨-, hnil | hover⟩
  · exact List.cons_ne_nil _ _ hnil
  · exact h hover

/-- Nothing is overrun at a number that fits and does not end in a line end or the input. -/
theorem not_overruns_of_ending {ds after : List UInt8} {P : List UInt8 → Prop}
    (h : ¬intMax < decVal 0 ds) (hend : ending after ≠ .ok) :
    ¬(Overrun ds after ∨ ∃ rest, after = 13 :: 10 :: rest ∧ P rest) := by
  rintro (hover | ⟨rest, rfl, -⟩)
  · exact h (hover.2.resolve_left fun hnil => hend (by rw [hnil]; rfl))
  · exact hend rfl

/-- What follows a number and its line end. -/
theorem drop_number {input ds rest : List UInt8} {ptr : ℕ} {c : UInt8}
    (h : input.drop ptr = c :: (ds ++ 13 :: 10 :: rest)) :
    input.drop (ptr + 1 + ds.length + 2) = rest :=
  drop_add [13, 10] (drop_add ds (drop_succ h))

theorem not_inside_of_lt (hptr : input.length < ptr) (hcount : p.numOfParam ≤ intMax)
    (hl : p.paramLen = -1) : ¬Inside input (parseStrlist input k p ptr) := by
  obtain ⟨p', r, hcall⟩ := @parseStrlist_beyond input ptr k p hptr.le hcount hl
  rw [hcall, inside_ok]
  exact Nat.not_le.2 hptr

/-- A string of which the length is not known, and those after it. -/
theorem inside_none_iff (ih : ListBounds input k) (hptr : ptr ≤ input.length)
    (hcount : p.numOfParam + (k + 1) ≤ intMax) (hl : p.paramLen = -1) :
    Inside input (parseStrlist input (k + 1) p ptr) ↔
      ¬Overruns (k + 1) none (input.drop ptr) := by
  have hcount' : p.numOfParam ≤ intMax := by omega
  -- A length that is not there leaves `ptr` where it is.
  have hstop {r : ParseResult} (hr : r ≠ .ok)
      (hlen : parseStrlen input ptr (-1) = .ok (r, ptr, -1)) :
      Inside input (parseStrlist input (k + 1) p ptr) := by
    rw [parseStrlist_stop hcount' (by rw [hl]; exact parseStr_of_ne_ok hlen hr) hr, inside_ok]
    exact hptr
  by_cases hshort : (input.drop ptr).length < 3
  · refine iff_of_true (hstop (by simp) (parseStrlen_short hshort)) fun h => ?_
    obtain ⟨rest, hrest, hlen⟩ := exists_cons_of_overruns h
    rw [hrest, List.length_cons] at hshort
    omega
  obtain ⟨c, rest, hrest⟩ := List.exists_cons_of_length_pos (l := input.drop ptr) (by omega)
  by_cases hc : c = 36
  swap
  · refine iff_of_true (hstop (by simp) (parseStrlen_other hrest hc (by rw [← hrest]; omega))) ?_
    intro h
    obtain ⟨rest', hrest', -⟩ := exists_cons_of_overruns h
    exact hc (List.cons.inj (hrest.symm.trans hrest')).1
  subst hc
  obtain ⟨ds, after, rfl, hds, hafter⟩ := exists_digits rest
  rw [hrest, overruns_none_iff hds hafter]
  by_cases hlen : (ds ++ after).length < 3
  · refine iff_of_true (hstop (by simp) (parseStrlen_wait hrest hlen)) ?_
    rintro (hover | ⟨rest, rfl, hover⟩)
    · exact absurd hover.1 (Nat.not_le.2 hlen)
    · simp only [List.length_append, List.length_cons] at hlen
      rw [List.length_eq_zero_iff.1 (show ds.length = 0 by omega),
        List.length_eq_zero_iff.1 (show rest.length = 0 by omega), overruns_some_iff] at hover
      exact absurd hover (by simp [decVal, intMax])
  have heq := parseStrlen_eq (-1) hrest hds hafter (Nat.not_lt.1 hlen)
  by_cases hover : intMax < decVal 0 ds
  · rw [if_pos hover] at heq
    have hstr (result : List UInt8) : parseStr input ptr (-1) result = .error .overflow := by
      rw [parseStr, if_pos rfl, heq]
      rfl
    rw [parseStrlist_fault hcount' (by rw [hl]; exact hstr _)]
    exact iff_of_false not_inside_error
      (not_not_intro (Or.inl ⟨Nat.not_lt.1 hlen, Or.inr hover⟩))
  rw [if_neg hover] at heq
  by_cases hend : ending after = .ok
  · rw [if_pos hend] at heq
    have hstr (result : List UInt8) : parseStr input ptr p.paramLen result =
        parseStr input (ptr + 1 + ds.length + 2) (decVal 0 ds : ℕ) result := by
      rw [hl, parseStr_of_ok _ heq, parseStr_natCast]
    rcases ending_eq_ok_iff.1 hend with rfl | ⟨rest, rfl⟩
    · have hptr' : ptr + 1 + ds.length + 2 = input.length + 2 := by
        have hlength := congrArg List.length hrest
        simp only [List.length_drop, List.append_nil, List.length_cons] at hlength
        omega
      refine iff_of_false ?_ (not_not_intro (Or.inl ⟨Nat.not_lt.1 hlen, Or.inl rfl⟩))
      have hbeyond (result : List UInt8) : parseStr input ptr p.paramLen result =
          if intMax < decVal 0 ds + 2 then .error .overflow
          else .ok (.wait, ptr + 1 + ds.length + 2, (decVal 0 ds : ℕ), result) := by
        rw [hstr, parseStr_natCast, parseStrval_beyond (by omega) (by omega)]
      by_cases hover' : intMax < decVal 0 ds + 2
      · rw [parseStrlist_fault hcount' ((hbeyond _).trans (if_pos hover'))]
        exact not_inside_error
      · rw [parseStrlist_stop hcount' ((hbeyond _).trans (if_neg hover')) (by simp), inside_ok]
        omega
    · have hlength := congrArg List.length hrest
      simp only [List.length_drop, List.length_cons, List.length_append] at hlength
      have hiff := inside_some_iff (p := { p with paramLen := (decVal 0 ds : ℕ) }) ih
        (show ptr + 1 + ds.length + 2 ≤ input.length by omega) hcount rfl
      rw [parseStrlist_congr hstr, hiff, drop_number hrest,
        or_iff_right (not_overrun_crlf hover)]
      simp only [List.cons.injEq, true_and, exists_eq_left']
  · rw [if_neg hend] at heq
    exact iff_of_true (hstop hend heq) (not_overruns_of_ending hover hend)

/-- Strings of which no length is known. -/
theorem listBounds (input : List UInt8) (k : ℕ) : ListBounds input k := by
  induction k with
  | zero =>
    intro p ptr hptr hcount _
    rw [parseStrlist_zero (by omega), inside_ok]
    exact iff_of_true hptr fun h => by cases h
  | succ k ih => exact fun p ptr hptr hcount hl => inside_none_iff ih hptr hcount hl

end

/-! ## Requests -/

/-- What every call of the parser leaves behind. -/
structure Inv (p : ProtoParser) : Prop where
  initial : p.multi = -1 → p.paramLen = -1 ∧ p.numOfParam = 0
  count : p.multi ≠ -1 → p.numOfParam ≤ p.multi ∧ p.multi ≤ intMax
  length : -1 ≤ p.paramLen

theorem inv_new : Inv new where
  initial _ := ⟨rfl, rfl⟩
  count h := absurd rfl h
  length := Int.le_refl _

theorem inv_reset (p : ProtoParser) : Inv p.reset where
  initial _ := ⟨rfl, rfl⟩
  count h := absurd rfl h
  length := Int.le_refl _

section
variable {input : List UInt8} {p p' : ProtoParser}

/-- A header is looked at as it is split into its digits and what follows them. -/
theorem requestOverruns_iff {ds after : List UInt8} (hp : p.multi = -1)
    (hinput : input = 42 :: (ds ++ after)) (hds : Digits ds) (hafter : NoDigit after) :
    RequestOverruns p input ↔
      Overrun ds after ∨ ∃ rest, after = 13 :: 10 :: rest ∧ Overruns (decVal 0 ds) none rest := by
  rw [RequestOverruns, if_pos hp]
  constructor
  · rintro ⟨ds', after', hsplit, hds', hover⟩
    have hsplit' := (List.cons.inj (hsplit.symm.trans hinput)).2
    rcases hover with hover | ⟨rest, rfl, hover⟩
    · exact Or.inl (overrun_of_split hsplit' hds' hafter hover)
    · obtain ⟨rfl, rfl⟩ := digits_split_crlf hsplit' hds hds' hafter
      exact Or.inr ⟨rest, rfl, hover⟩
  · exact fun h => ⟨ds, after, hinput, hds, h⟩

theorem inside_header_iff (hp : Inv p) (hmulti : p.multi = -1) :
    Inside input (parseRequest p input) ↔ ¬RequestOverruns p input := by
  obtain ⟨hlen, hnum⟩ := hp.initial hmulti
  -- A header that is not there leaves `ptr` in the input.
  have hstop {r : ParseResult} {ptr : ℕ} (hr : r ≠ .ok) (hptr : ptr ≤ input.length)
      (h : parseMulti input 0 (-1) = .ok (r, ptr, -1)) : Inside input (parseRequest p input) := by
    rw [parseRequest_of_ne_ok hmulti h hr, inside_ok]
    exact hptr
  by_cases hshort : input.length < 3
  · refine iff_of_true (hstop (by simp) (Nat.zero_le _) (parseMulti_short hshort)) ?_
    rw [RequestOverruns, if_pos hmulti]
    rintro ⟨ds, after, rfl, -, hover | ⟨rest, rfl, -⟩⟩
    · have hlong := hover.1
      rw [List.length_cons] at hshort
      omega
    · simp only [List.length_cons, List.length_append] at hshort
      omega
  obtain ⟨c, rest, hrest⟩ := List.exists_cons_of_length_pos (l := input) (by omega)
  by_cases hc : c = 42
  swap
  · refine iff_of_true (hstop (by simp) (Nat.zero_le _)
      (parseMulti_other _ _ hrest hc (by rw [← hrest]; omega))) ?_
    rw [RequestOverruns, if_pos hmulti]
    rintro ⟨ds, after, hsplit, -⟩
    exact hc (List.cons.inj (hrest.symm.trans hsplit)).1
  subst hc
  obtain ⟨ds, after, rfl, hds, hafter⟩ := exists_digits rest
  have hlength := congrArg List.length hrest
  rw [List.length_cons] at hlength
  rw [requestOverruns_iff hmulti hrest hds hafter]
  by_cases hlong : (ds ++ after).length < 3
  · refine iff_of_true (hstop (by simp) (by omega) (parseMulti_wait hrest (by omega))) ?_
    rintro (hover | ⟨rest, rfl, hover⟩)
    · exact absurd hover.1 (Nat.not_le.2 hlong)
    · simp only [List.length_append, List.length_cons] at hlong
      rw [List.length_eq_zero_iff.1 (show ds.length = 0 by omega)] at hover
      cases hover
  have heq := parseMulti_eq 0 (-1) hrest hds hafter (Nat.not_lt.1 hlong)
  by_cases hover : intMax < decVal 0 ds
  · rw [if_pos hover] at heq
    rw [parseRequest_fault hmulti heq]
    exact iff_of_false not_inside_error
      (not_not_intro (Or.inl ⟨Nat.not_lt.1 hlong, Or.inr hover⟩))
  rw [if_neg hover] at heq
  by_cases hend : ending after = .ok
  · rw [if_pos hend] at heq
    have hcount : decVal 0 ds - p.numOfParam = decVal 0 ds := by rw [hnum, Nat.sub_zero]
    rw [parseRequest_of_ok hmulti heq, hcount]
    rcases ending_eq_ok_iff.1 hend with rfl | ⟨rest, rfl⟩
    · refine iff_of_false (not_inside_of_lt ?_ ?_ hlen)
        (not_not_intro (Or.inl ⟨Nat.not_lt.1 hlong, Or.inl rfl⟩))
      · rw [List.append_nil] at hlength
        omega
      · simp only
        omega
    · have hdrop := @drop_number input ds rest 0 42 hrest
      simp only [List.length_append, List.length_cons] at hlength
      have hbounds := listBounds input (decVal 0 ds) { p with multi := (decVal 0 ds : ℕ) }
        (0 + 1 + ds.length + 2) (by omega) (by simp only; omega) hlen
      rw [hbounds, hdrop, or_iff_right (not_overrun_crlf hover)]
      simp only [List.cons.injEq, true_and, exists_eq_left']
  · rw [if_neg hend] at heq
    exact iff_of_true (hstop hend (by omega) heq) (not_overruns_of_ending hover hend)

/-- A call keeps to its input exactly when the input has no place that is overrun. -/
theorem inside_parseRequest_iff (hp : Inv p) :
    Inside input (parseRequest p input) ↔ ¬RequestOverruns p input := by
  by_cases hmulti : p.multi = -1
  · exact inside_header_iff hp hmulti
  obtain ⟨hnum, hmax⟩ := hp.count hmulti
  have hlength := hp.length
  rw [parseRequest_of_nonneg (by omega), RequestOverruns, if_neg hmulti, awaited]
  generalize hk : (p.multi - p.numOfParam).toNat = k
  split_ifs with hlen
  · exact listBounds input k p 0 (Nat.zero_le _) (by omega) hlen
  · cases k with
    | zero =>
      rw [parseStrlist_zero (by omega), inside_ok]
      exact iff_of_true (Nat.zero_le _) fun h => by cases h
    | succ k =>
      exact inside_some_iff (listBounds input k) (Nat.zero_le _) (by omega) (by omega)

end

/-! ## What a call leaves behind -/

section
variable {input : List UInt8} {ptr ptr' k : ℕ} {p p' : ProtoParser} {r : ParseResult}
  {l l' val val' : ℤ}

/-- A number is read, or the value stays as it is. -/
theorem val_of_getIntUntilCRLF
    (h : getIntUntilCRLF input ptr (left input ptr).toNat val = .ok (r, ptr', val')) :
    r ≠ .ok ∧ val' = val ∨ r = .ok ∧ ∃ n ≤ intMax, val' = (n : ℕ) := by
  obtain ⟨ds, after, hdrop, hds, hafter⟩ := exists_digits (input.drop ptr)
  rw [toNat_left, hdrop] at h
  by_cases hlen : (ds ++ after).length < 3
  · rw [getIntUntilCRLF, if_pos hlen] at h
    cases h
    exact Or.inl ⟨by simp, rfl⟩
  · rw [getIntUntilCRLF_eq val hdrop hds hafter (Nat.not_lt.1 hlen)] at h
    split_ifs at h with hover hend
    · cases h
      exact Or.inr ⟨rfl, _, Nat.not_lt.1 hover, rfl⟩
    · cases h
      exact Or.inl ⟨hend, rfl⟩

theorem val_of_parseMulti (h : parseMulti input ptr val = .ok (r, ptr', val')) :
    r ≠ .ok ∧ val' = val ∨ r = .ok ∧ ∃ n ≤ intMax, val' = (n : ℕ) := by
  rw [parseMulti] at h
  split_ifs at h with hshort
  · cases h
    exact Or.inl ⟨by simp, rfl⟩
  · obtain ⟨c, -, h⟩ := bind_eq_ok h
    split_ifs at h with hc
    · cases h
      exact Or.inl ⟨by simp, rfl⟩
    · exact val_of_getIntUntilCRLF h

theorem val_of_parseStrlen (h : parseStrlen input ptr val = .ok (r, ptr', val')) :
    val' = val ∨ ∃ n : ℕ, val' = n := by
  rw [parseStrlen] at h
  split_ifs at h with hshort
  · cases h
    exact Or.inl rfl
  · obtain ⟨c, -, h⟩ := bind_eq_ok h
    split_ifs at h with hc
    · cases h
      exact Or.inl rfl
    · obtain ⟨⟨r', ptr'', val''⟩, hval, h⟩ := bind_eq_ok h
      cases h
      rcases val_of_getIntUntilCRLF hval with ⟨-, hval⟩ | ⟨-, n, -, hval⟩
      · exact Or.inl hval
      · exact Or.inr ⟨n, hval⟩

theorem paramLen_of_parseStrval {result s : List UInt8}
    (h : parseStrval input ptr l result = .ok (r, ptr', l', s)) : l' = l ∨ l' = -1 := by
  rw [parseStrval] at h
  split_ifs at h with hneg
  obtain ⟨size, -, h⟩ := bind_eq_ok h
  obtain ⟨need, -, h⟩ := bind_eq_ok h
  split_ifs at h with hshort
  · cases h
    exact Or.inl rfl
  · obtain ⟨c, -, h⟩ := bind_eq_ok h
    split_ifs at h with hc
    · cases h
      exact Or.inl rfl
    · obtain ⟨d, -, h⟩ := bind_eq_ok h
      split_ifs at h with hd
      · cases h
        exact Or.inl rfl
      · cases h
        exact Or.inr rfl

theorem paramLen_of_parseStr {result s : List UInt8} (hl : -1 ≤ l)
    (h : parseStr input ptr l result = .ok (r, ptr', l', s)) : -1 ≤ l' := by
  rw [parseStr] at h
  split_ifs at h with hnil
  · obtain ⟨⟨r', ptr'', l''⟩, hlen, h⟩ := bind_eq_ok h
    have hl'' : -1 ≤ l'' := by
      rcases val_of_parseStrlen hlen with rfl | ⟨n, rfl⟩ <;> omega
    simp only at h
    split_ifs at h
    · cases h
      exact hl''
    · cases h
      exact hl''
    · cases h
      exact hl''
    · rcases paramLen_of_parseStrval h with rfl | rfl
      · exact hl''
      · exact Int.le_refl _
  · rw [ok_bind] at h
    simp only [reduceCtorEq, false_or, ne_eq, not_true, if_false, hnil] at h
    split_ifs at h
    · cases h
      exact hl
    · rcases paramLen_of_parseStrval h with rfl | rfl
      · exact hl
      · exact Int.le_refl _

/-- The strings of a call that goes to its end. -/
theorem bounds_of_parseStrlist (hl : -1 ≤ p.paramLen)
    (h : parseStrlist input k p ptr = .ok (p', ptr', r)) :
    p'.multi = p.multi ∧ p'.numOfParam ≤ p.numOfParam + k ∧ -1 ≤ p'.paramLen := by
  induction k generalizing p ptr with
  | zero =>
    obtain ⟨-, -, h⟩ := bind_eq_ok h
    cases h
    exact ⟨rfl, Nat.le_refl _, hl⟩
  | succ k ih =>
    obtain ⟨-, -, h⟩ := bind_eq_ok h
    obtain ⟨⟨r', ptr'', l', s⟩, hstr, h⟩ := bind_eq_ok h
    have hl' := paramLen_of_parseStr hl hstr
    simp only at h
    split_ifs at h
    · obtain ⟨hmulti, hnum, hl''⟩ := ih (p := { p with
        paramLen := l'
        numOfParam := p.numOfParam + 1
        params := p.reserve.set p.numOfParam s }) hl' h
      simp only at hmulti hnum
      exact ⟨hmulti, by omega, hl''⟩
    · cases h
      exact ⟨rfl, Nat.le_add_right _ _, hl'⟩

/-- A call that goes to its end keeps what every call leaves behind. -/
theorem Inv.parseRequest (hp : Inv p) (h : parseRequest p input = .ok (p', ptr, r)) : Inv p' := by
  by_cases hmulti : p.multi = -1
  · obtain ⟨hlen, hnum⟩ := hp.initial hmulti
    cases heq : parseMulti input 0 (-1) with
    | error e =>
      rw [parseRequest_fault hmulti heq] at h
      cases h
    | ok header =>
      obtain ⟨r', ptr', n⟩ := header
      rcases val_of_parseMulti heq with ⟨hr, rfl⟩ | ⟨rfl, n, hn, rfl⟩
      · rw [parseRequest_of_ne_ok hmulti heq hr] at h
        cases h
        exact hp
      · rw [parseRequest_of_ok hmulti heq] at h
        obtain ⟨hmulti', hnum', hl'⟩ :=
          bounds_of_parseStrlist (p := { p with multi := (n : ℤ) }) hp.length h
        simp only at hmulti' hnum'
        exact ⟨fun h => by omega, fun _ => by omega, hl'⟩
  · obtain ⟨hnum, hmax⟩ := hp.count hmulti
    rw [parseRequest_of_nonneg (by omega)] at h
    obtain ⟨hmulti', hnum', hl'⟩ := bounds_of_parseStrlist hp.length h
    exact ⟨fun h => absurd (hmulti'.symm.trans h) hmulti, fun _ => by omega, hl'⟩

end

end ProtoParser

/-! ## Calls one after the other -/

/-- What may be done with a parser. -/
inductive ParserCall
  | parseRequest (input : List UInt8)
  | reset

/-- A parser, and `end - ptr` after the last call, or what it ended in. -/
structure ParserRun where
  parser : ProtoParser
  left : Parse ℤ

namespace ParserRun

/-- A parser that nothing was done with. -/
def new : ParserRun where
  parser := ProtoParser.new
  left := .ok 0

/-- A call. -/
def call (s : ParserRun) : ParserCall → ParserRun
  | .parseRequest input =>
    match s.parser.parseRequest input with
    | .ok (p, ptr, _) => ⟨p, .ok (ProtoParser.left input ptr)⟩
    | .error e => ⟨s.parser, .error e⟩
  | .reset => ⟨s.parser.reset, s.left⟩

/-- A call, unless there was a fault. -/
def step (s : ParserRun) (c : ParserCall) : Option ParserRun :=
  match s.left with
  | .ok _ => some (s.call c)
  | .error _ => none

/-- The last call kept to its input. -/
def Inside (s : ParserRun) : Prop :=
  ∃ n, s.left = .ok n ∧ 0 ≤ n

/-- The call comes upon no place that it overruns. -/
def Bounded (s : ParserRun) : ParserCall → Prop
  | .parseRequest input => ¬s.parser.RequestOverruns input
  | .reset => True

/-- One call. -/
theorem call_spec {s : ParserRun} (hs : s.parser.Inv) (hinside : s.Inside) (c : ParserCall) :
    (s.call c).parser.Inv ∧ ((s.call c).Inside ↔ s.Bounded c) := by
  cases c with
  | reset => exact ⟨ProtoParser.inv_reset _, iff_of_true hinside trivial⟩
  | parseRequest input =>
    rw [Bounded, ← ProtoParser.inside_parseRequest_iff hs]
    cases hcall : s.parser.parseRequest input with
    | error e =>
      simp only [call, hcall]
      refine ⟨hs, iff_of_false ?_ ProtoParser.not_inside_error⟩
      rintro ⟨n, hn, -⟩
      cases hn
    | ok out =>
      obtain ⟨p, ptr, r⟩ := out
      simp only [call, hcall]
      refine ⟨hs.parseRequest hcall, ?_⟩
      rw [ProtoParser.inside_ok]
      constructor
      · rintro ⟨n, hn, hpos⟩
        obtain rfl := Except.ok.inj hn
        rw [ProtoParser.left] at hpos
        omega
      · exact fun h => ⟨_, rfl, by rw [ProtoParser.left]; omega⟩

theorem step_spec {s s' : ParserRun} {c : ParserCall} (hs : s.parser.Inv) (hinside : s.Inside)
    (hstep : s.step c = some s') : s'.parser.Inv ∧ (s'.Inside ↔ s.Bounded c) := by
  obtain ⟨n, hleft, -⟩ := id hinside
  simp only [step, hleft] at hstep
  obtain rfl := Option.some.inj hstep
  exact call_spec hs hinside c

/-- Every call of a run keeps to its input exactly when none comes upon a place that it overruns. -/
theorem inside_iff {calls : List ParserCall} {s : ParserRun}
    (hrun : Transition.run step new calls = some s) :
    Transition.Throughout step Inside new calls ↔ Transition.Allowed step Bounded new calls :=
  Transition.throughout_iff_allowed (fun {s _ _} (hs : s.parser.Inv) => step_spec hs)
    ProtoParser.inv_new ⟨0, rfl, Int.le_refl 0⟩ hrun

/-- `*1` in a call, and `$3` and `get` in another one. -/
def getCalls : List ParserCall :=
  [.parseRequest [42, 49, 13, 10], .parseRequest [36, 51, 13, 10, 103, 101, 116, 13, 10]]

theorem inside_iff_get :
    Transition.Throughout step Inside new getCalls ↔
      Transition.Allowed step Bounded new getCalls :=
  inside_iff (s := ⟨⟨1, -1, 1, [[103, 101, 116]]⟩, .ok 0⟩) rfl

/-- The header `*100` of a request that goes on leaves `ptr` two bytes behind `end`. -/
theorem not_inside_header :
    ∃ s, Transition.run step new [.parseRequest [42, 49, 48, 48]] = some s ∧ s.left = .ok (-2) ∧
      ¬s.Inside := by
  refine ⟨_, rfl, rfl, ?_⟩
  rintro ⟨n, hn, hpos⟩
  obtain rfl := Except.ok.inj hn
  exact absurd hpos (by decide)

end ParserRun

end UhpSql
