import UhpSql.ProtoParser

/-!
# Requests that come in pieces (`network/common.cc`, `network/proto_parser.cc`)

`request vs` is what `PreFormatMultiBulk` and `FormatMultiBulk` make of a list of strings. It comes
in chunks, and after each of them `ParseRequest` is called on the bytes that it left over and the
chunk (`Resumes`). `Splits vs n` : after `n` bytes of the request a cut is not resumed from, since
it is in the header behind its second byte, where `ptr` is moved or passes `end`, or behind the
third or a later digit of a length, which is then taken for the whole length.

`resumes_iff` : the request comes out of the parser exactly if no chunk ends at such a cut.
-/

namespace UhpSql

namespace ProtoParser

/-! ## Encoding -/

/-- `"%lu"`. -/
def decimal (n : ℕ) : List UInt8 :=
  (Nat.toDigits 10 n).map fun c => UInt8.ofNat c.toNat

/-- `FormatBulk`. -/
def formatBulk (s : List UInt8) : List UInt8 :=
  36 :: (decimal s.length ++ 13 :: 10 :: (s ++ [13, 10]))

/-- `PreFormatMultiBulk`. -/
def preFormatMultiBulk (nBulk : ℕ) : List UInt8 :=
  42 :: (decimal nBulk ++ [13, 10])

/-- `FormatMultiBulk`. -/
def formatMultiBulk (vs : List (List UInt8)) : List UInt8 :=
  vs.flatMap formatBulk

def request (vs : List (List UInt8)) : List UInt8 :=
  preFormatMultiBulk vs.length ++ formatMultiBulk vs

theorem isdigit_of_isDigit {c : Char} (h : c.isDigit) :
    isdigit (UInt8.ofNat c.toNat) ∧ (UInt8.ofNat c.toNat).toNat = c.toNat := by
  have hle : 48 ≤ c.toNat ∧ c.toNat ≤ 57 := by
    simpa [Char.isDigit, UInt32.le_iff_toNat_le] using h
  have hnat : (UInt8.ofNat c.toNat).toNat = c.toNat := by
    rw [UInt8.toNat_ofNat']
    omega
  refine ⟨?_, hnat⟩
  rw [isdigit, Bool.and_eq_true, decide_eq_true_iff, decide_eq_true_iff, UInt8.le_iff_toNat_le,
    UInt8.le_iff_toNat_le, hnat]
  exact hle

theorem digits_decimal (n : ℕ) : Digits (decimal n) := by
  intro c hc
  obtain ⟨d, hd, rfl⟩ := List.mem_map.1 hc
  exact (isdigit_of_isDigit (Nat.isDigit_of_mem_toDigits (by decide) (by decide) hd)).1

theorem decVal_map {cs : List Char} (h : ∀ c ∈ cs, c.isDigit) (v : ℕ) :
    decVal v (cs.map fun c => UInt8.ofNat c.toNat) = Nat.ofDigitChars 10 cs v := by
  induction cs generalizing v with
  | nil => rfl
  | cons c cs ih =>
    obtain ⟨hc, hcs⟩ := List.forall_mem_cons.1 h
    rw [List.map_cons, decVal_cons, ih hcs, Nat.ofDigitChars_cons, (isdigit_of_isDigit hc).2,
      Nat.mul_comm]
    rfl

theorem decVal_decimal (n : ℕ) : decVal 0 (decimal n) = n := by
  rw [decimal, decVal_map fun c hc => Nat.isDigit_of_mem_toDigits (by decide) (by decide) hc]
  exact Nat.ofDigitChars_ten_toDigits

theorem length_decimal_pos (n : ℕ) : 0 < (decimal n).length := by
  rw [decimal, List.length_map]
  exact List.length_pos_iff.2 Nat.toDigits_ne_nil

example : request [[103, 101, 116]] =
    [42, 49, 13, 10, 36, 51, 13, 10, 103, 101, 116, 13, 10] := by decide

/-! ## Positions -/

/-- Where the bytes of string number `i` begin. -/
def offset (vs : List (List UInt8)) (i : ℕ) : ℕ :=
  (preFormatMultiBulk vs.length).length + (formatMultiBulk (vs.take i)).length

/-- The first `n` bytes end inside of the header, behind its second byte, or in the digits of a
length, behind the third or a later one. -/
def Splits (vs : List (List UInt8)) (n : ℕ) : Prop :=
  3 ≤ n ∧ n < (preFormatMultiBulk vs.length).length ∨
    ∃ i w, vs[i]? = some w ∧ offset vs i + 4 ≤ n ∧ n ≤ offset vs i + 1 + (decimal w.length).length

/-- The bytes from `c` on of the first `n`. -/
def window (vs : List (List UInt8)) (c n : ℕ) : List UInt8 :=
  ((request vs).take n).drop c

section
variable {vs : List (List UInt8)} {i j c n : ℕ} {w : List UInt8}

theorem length_formatBulk (w : List UInt8) :
    (formatBulk w).length = (decimal w.length).length + w.length + 5 := by
  simp only [formatBulk, List.length_cons, List.length_append, List.length_nil]
  omega

theorem length_preFormatMultiBulk (n : ℕ) :
    (preFormatMultiBulk n).length = (decimal n).length + 3 := by
  simp only [preFormatMultiBulk, List.length_cons, List.length_append, List.length_nil]

theorem offset_succ (h : vs[i]? = some w) :
    offset vs (i + 1) = offset vs i + ((decimal w.length).length + w.length + 5) := by
  rw [offset, offset, List.take_add_one, h, formatMultiBulk, formatMultiBulk, List.flatMap_append,
    ← length_formatBulk]
  simp only [Option.toList_some, List.flatMap_singleton, List.length_append]
  omega

theorem offset_length (vs : List (List UInt8)) : offset vs vs.length = (request vs).length := by
  rw [offset, List.take_length, request, List.length_append]

theorem offset_mono (h : i ≤ j) : offset vs i ≤ offset vs j := by
  rw [offset, offset, ← List.take_append_drop i (vs.take j), List.take_take, Nat.min_eq_left h,
    formatMultiBulk, formatMultiBulk, List.flatMap_append, List.length_append]
  omega

theorem offset_le (h : i ≤ vs.length) : offset vs i ≤ (request vs).length := by
  rw [← offset_length]
  exact offset_mono h

theorem offset_succ_le (h : vs[i]? = some w) : offset vs (i + 1) ≤ (request vs).length :=
  offset_le (List.getElem?_eq_some_iff.1 h).1

theorem le_offset (h : i ≤ vs.length) : i ≤ offset vs i := by
  induction i with
  | zero => exact Nat.zero_le _
  | succ i ih =>
    have hnext := offset_succ (List.getElem?_eq_getElem (show i < vs.length from h))
    have hi := ih (by omega)
    omega

/-- Whether a cut inside of a string splits a number is a question about this string. -/
theorem splits_iff (h : vs[i]? = some w) (hle : offset vs i ≤ n) (hlt : n < offset vs (i + 1)) :
    Splits vs n ↔ offset vs i + 4 ≤ n ∧ n ≤ offset vs i + 1 + (decimal w.length).length := by
  constructor
  · rintro (⟨-, hheader⟩ | ⟨j, u, hu, hfrom, hto⟩)
    · rw [offset] at hle
      omega
    · have hnext := offset_succ hu
      rcases Nat.lt_trichotomy i j with hij | rfl | hij
      · have hmono := @offset_mono vs _ _ (show i + 1 ≤ j from hij)
        omega
      · obtain rfl := Option.some.inj (hu.symm.trans h)
        exact ⟨hfrom, hto⟩
      · have hmono := @offset_mono vs _ _ (show j + 1 ≤ i from hij)
        omega
  · exact fun hn => Or.inr ⟨i, w, h, hn⟩

theorem not_splits_length (vs : List (List UInt8)) : ¬Splits vs (request vs).length := by
  rintro (⟨-, hheader⟩ | ⟨i, w, hw, hfrom, hto⟩)
  · rw [← offset_length, offset] at hheader
    omega
  · have hnext := offset_succ hw
    have hlast := offset_succ_le hw
    omega

theorem drop_offset (vs : List (List UInt8)) (i : ℕ) :
    (request vs).drop (offset vs i) = formatMultiBulk (vs.drop i) := by
  have hsplit : request vs = (preFormatMultiBulk vs.length ++ formatMultiBulk (vs.take i)) ++
      formatMultiBulk (vs.drop i) := by
    rw [request, List.append_assoc, formatMultiBulk, formatMultiBulk, formatMultiBulk,
      ← List.flatMap_append, List.take_append_drop]
  rw [hsplit, offset, ← List.length_append, List.drop_left]

theorem drop_window (vs : List (List UInt8)) (c n k : ℕ) :
    (window vs c n).drop k = window vs (c + k) n := by
  rw [window, window, List.drop_drop]

theorem window_eq (vs : List (List UInt8)) (c n : ℕ) :
    window vs c n = ((request vs).drop c).take (n - c) :=
  List.drop_take

theorem length_window (h : n ≤ (request vs).length) : (window vs c n).length = n - c := by
  rw [window, List.length_drop, List.length_take, Nat.min_eq_left h]

/-- The window of a string begins with its bytes. -/
theorem window_offset (h : vs[i]? = some w) (n : ℕ) :
    window vs (offset vs i) n =
      (36 :: (decimal w.length ++
        13 :: 10 :: (w ++ 13 :: 10 :: formatMultiBulk (vs.drop (i + 1))))).take
        (n - offset vs i) := by
  obtain ⟨hlt, hget⟩ := List.getElem?_eq_some_iff.1 h
  rw [window_eq, drop_offset, List.drop_eq_getElem_cons hlt, hget, formatMultiBulk,
    List.flatMap_cons, formatBulk]
  simp only [List.cons_append, List.append_assoc, List.nil_append, formatMultiBulk]

/-- Behind the length come the bytes of the string. -/
theorem window_string (h : vs[i]? = some w) (n : ℕ) :
    window vs (offset vs i + (decimal w.length).length + 3) n =
      (w ++ 13 :: 10 :: formatMultiBulk (vs.drop (i + 1))).take
        (n - (offset vs i + (decimal w.length).length + 3)) := by
  have hdrop (rest : List UInt8) :
      (36 :: (decimal w.length ++ 13 :: 10 :: rest)).drop ((decimal w.length).length + 3) =
        rest := by
    rw [show (decimal w.length).length + 3 = 1 + ((decimal w.length).length + 2) by omega,
      ← List.drop_drop, List.drop_succ_cons, List.drop_zero, ← List.drop_drop, List.drop_left]
    rfl
  rw [Nat.add_assoc, ← drop_window, window_offset h, List.drop_take, Nat.sub_sub, hdrop]

theorem window_zero (vs : List (List UInt8)) (n : ℕ) :
    window vs 0 n =
      (42 :: (decimal vs.length ++ 13 :: 10 :: formatMultiBulk vs)).take n := by
  rw [window_eq, List.drop_zero, Nat.sub_zero, request, preFormatMultiBulk]
  simp only [List.cons_append, List.append_assoc, List.nil_append]

end

theorem digits_take {ds : List UInt8} (h : Digits ds) (m : ℕ) : Digits (ds.take m) :=
  fun c hc => h c (List.mem_of_mem_take hc)

theorem noDigit_nil : NoDigit [] :=
  fun _ h => absurd h (by simp)

theorem noDigit_crlf (rest : List UInt8) : NoDigit (13 :: rest) := by
  rintro c ⟨⟩
  decide

/-- Some of the digits are of no larger value. -/
theorem decVal_take_le (v m : ℕ) (ds : List UInt8) : decVal v (ds.take m) ≤ decVal v ds := by
  conv_rhs => rw [← List.take_append_drop m ds, decVal_append]
  exact le_decVal _ _

/-- The first bytes of a marked number end in its digits, in the end of its line, or behind it. -/
theorem take_number {c : UInt8} {ds rest : List UInt8} {j : ℕ} :
    (0 < j → j ≤ ds.length + 1 →
      (c :: (ds ++ 13 :: 10 :: rest)).take j = c :: (ds.take (j - 1) ++ [])) ∧
    (j = ds.length + 2 → (c :: (ds ++ 13 :: 10 :: rest)).take j = c :: (ds ++ [13])) ∧
    (ds.length + 3 ≤ j →
      (c :: (ds ++ 13 :: 10 :: rest)).take j =
        c :: (ds ++ 13 :: 10 :: rest.take (j - (ds.length + 3)))) := by
  refine ⟨fun hpos hle => ?_, fun heq => ?_, fun hle => ?_⟩
  · obtain ⟨j, rfl⟩ := Nat.exists_eq_add_of_lt hpos
    rw [Nat.zero_add, List.take_succ_cons, List.take_append_of_le_length (by omega),
      List.append_nil]
    rfl
  · rw [heq, List.take_succ_cons, List.take_append, List.take_of_length_le (by omega)]
    simp
  · obtain ⟨m, rfl⟩ := Nat.exists_eq_add_of_le hle
    rw [Nat.add_sub_cancel_left, show ds.length + 3 + m = (ds.length + (m + 2)) + 1 by omega,
      List.take_succ_cons, List.take_length_add_append]
    rfl

/-! ## One call -/

/-- A parser that has read nothing of a request. -/
structure Initial (p : ProtoParser) : Prop where
  multi : p.multi = -1
  paramLen : p.paramLen = -1
  numOfParam : p.numOfParam = 0

theorem initial_new : Initial new :=
  ⟨rfl, rfl, rfl⟩

theorem initial_reset (p : ProtoParser) : Initial p.reset :=
  ⟨rfl, rfl, rfl⟩

/-- A parser that has the strings up to number `i`. -/
structure Holds (vs : List (List UInt8)) (p : ProtoParser) (i : ℕ) : Prop where
  multi : p.multi = vs.length
  numOfParam : p.numOfParam = i
  params : p.params.take i = vs.take i
  le : i ≤ vs.length

/-- The bytes of a request that the parser has passed : none, those up to a string, or those up to
the bytes of a string of which it has the length. -/
inductive Awaits (vs : List (List UInt8)) : ProtoParser → ℕ → Prop
  | header {p} : Initial p → Awaits vs p 0
  | marker {p i} : Holds vs p i → p.paramLen = -1 → Awaits vs p (offset vs i)
  | string {p i w} : Holds vs p i → vs[i]? = some w → p.paramLen = w.length →
    Awaits vs p (offset vs i + (decimal w.length).length + 3)

/-- What a call makes of the bytes from `c` on when `n` bytes have come in. -/
structure Outcome (vs : List (List UInt8)) (c n : ℕ) (r : Parse (ProtoParser × ℕ × ParseResult)) :
    Prop where
  done : n = (request vs).length → ∃ p, r = .ok (p, n - c, .ok) ∧ p.params = vs
  waits : n < (request vs).length → ¬Splits vs n →
    ∃ p ptr, r = .ok (p, ptr, .wait) ∧ c + ptr ≤ n ∧ Awaits vs p (c + ptr)
  lost : n < (request vs).length → Splits vs n →
    ∃ p ptr result, r = .ok (p, ptr, result) ∧ (n < c + ptr ∨ p.Initial ∧ c + ptr = 1)

section
variable {vs : List (List UInt8)} {p : ProtoParser} {i : ℕ} {w : List UInt8}

namespace Holds

theorem length_take (h : Holds vs p i) : (p.params.take i).length = i := by
  rw [h.params, List.length_take, Nat.min_eq_left h.le]

theorem numOfParam_le (h : Holds vs p i) (hsize : (request vs).length ≤ intMax) :
    p.numOfParam ≤ intMax := by
  rw [h.numOfParam]
  exact (le_offset h.le).trans ((offset_le h.le).trans hsize)

theorem reserve (h : Holds vs p i) :
    p.reserve.take i = vs.take i ∧ i < p.reserve.length := by
  have hlen := h.length_take
  rw [List.length_take] at hlen
  have hi := h.numOfParam
  rw [ProtoParser.reserve, hi]
  split_ifs with hshort
  · rw [resize, List.take_of_length_le (by omega : p.params.length ≤ i + 1),
      List.take_append_of_le_length (by omega), h.params, List.length_append,
      List.length_replicate]
    exact ⟨rfl, by omega⟩
  · exact ⟨h.params, by omega⟩

/-- A string that is not there yet. -/
theorem stay (h : Holds vs p i) (l : ℤ) (s : List UInt8) :
    Holds vs { p with paramLen := l, params := p.reserve.set p.numOfParam s } i :=
  ⟨h.multi, h.numOfParam, by
    rw [h.numOfParam, List.take_set_of_le (Nat.le_refl i)]
    exact h.reserve.1, h.le⟩

/-- A string that is there. -/
theorem next (h : Holds vs p i) (hw : vs[i]? = some w) (l : ℤ) :
    Holds vs
      { p with
        paramLen := l
        numOfParam := p.numOfParam + 1
        params := p.reserve.set p.numOfParam w } (i + 1) where
  multi := h.multi
  numOfParam := by rw [h.numOfParam]
  params := by
    obtain ⟨htake, hlt⟩ := h.reserve
    rw [h.numOfParam, List.take_add_one, List.take_add_one, List.take_set_of_le (Nat.le_refl i),
      htake, List.getElem?_set_self hlt, hw]
  le := (List.getElem?_eq_some_iff.1 hw).1

theorem resize_eq (h : Holds vs p vs.length) : resize p.params p.numOfParam = vs := by
  have hlen := h.length_take
  rw [List.length_take] at hlen
  have hparams := h.params
  rw [List.take_length] at hparams
  rw [h.numOfParam, resize, hparams, show vs.length - p.params.length = 0 by omega]
  exact List.append_nil vs

end Holds

/-- What is asked of `k` strings of which none has been looked at. -/
def ListSpec (vs : List (List UInt8)) (c n k : ℕ) : Prop :=
  ∀ p ptr i, i + k = vs.length → Holds vs p i → p.paramLen = -1 → c + ptr = offset vs i →
    c + ptr ≤ n → Outcome vs c n (parseStrlist (window vs c n) k p ptr)

variable {c n k ptr : ℕ}

/-- A string of which the length is there, and those after it. -/
theorem string_spec (hsize : (request vs).length ≤ intMax) (hn : n ≤ (request vs).length)
    (ih : ListSpec vs c n k) (hk : i + (k + 1) = vs.length) (hp : Holds vs p i)
    (hw : vs[i]? = some w) (hl : p.paramLen = w.length)
    (hc : c + ptr = offset vs i + (decimal w.length).length + 3) (hle : c + ptr ≤ n) :
    Outcome vs c n (parseStrlist (window vs c n) (k + 1) p ptr) := by
  have hnext := offset_succ hw
  have hlast := offset_succ_le hw
  have hcount := hp.numOfParam_le hsize
  have hptr : ptr ≤ (window vs c n).length := by
    rw [length_window hn]
    omega
  have hrest : (window vs c n).drop ptr =
      (w ++ 13 :: 10 :: formatMultiBulk (vs.drop (i + 1))).take (n - (c + ptr)) := by
    rw [drop_window, hc, window_string hw]
  have hlen : ((window vs c n).drop ptr).length = n - (c + ptr) := by
    rw [drop_window, length_window hn]
  have hstr : parseStr (window vs c n) ptr p.paramLen (p.reserve.getD p.numOfParam []) =
      parseStrval (window vs c n) ptr w.length (p.reserve.getD p.numOfParam []) := by
    rw [hl, parseStr_natCast]
  rw [parseStrval_eq hptr rfl, hlen, if_neg (by omega)] at hstr
  by_cases hshort : n - (c + ptr) < w.length + 2
  · rw [if_pos hshort] at hstr
    rw [parseStrlist_stop hcount hstr (by simp)]
    refine ⟨fun h => by omega, fun _ _ => ⟨_, ptr, rfl, hle, ?_⟩, fun _ hsplits => ?_⟩
    · rw [hc]
      exact .string (hp.stay _ _) hw rfl
    · have hin := (splits_iff hw (by omega) (by omega)).1 hsplits
      omega
  · rw [if_neg hshort] at hstr
    obtain ⟨m, hm⟩ := Nat.exists_eq_add_of_le (Nat.not_lt.1 hshort)
    have htake : (w ++ 13 :: 10 :: formatMultiBulk (vs.drop (i + 1))).take (n - (c + ptr)) =
        w ++ 13 :: 10 :: (formatMultiBulk (vs.drop (i + 1))).take m := by
      rw [hm, Nat.add_assoc, List.take_length_add_append, Nat.add_comm 2 m]
      rfl
    rw [hrest, htake, List.drop_left, List.take_left, if_pos (by rfl)] at hstr
    rw [parseStrlist_ok hcount hstr]
    exact ih _ _ (i + 1) (by omega) (hp.next hw _) rfl (by omega) (by omega)

/-- A string of which some digits of the length are the last bytes that came. -/
theorem lost_spec (hsize : (request vs).length ≤ intMax) (hn : n ≤ (request vs).length)
    (hp : Holds vs p i) (hw : vs[i]? = some w) (hl : p.paramLen = -1) (hc : c + ptr = offset vs i)
    (hfrom : offset vs i + 4 ≤ n) (hto : n ≤ offset vs i + 1 + (decimal w.length).length) :
    ∃ p' ptr', parseStrlist (window vs c n) (k + 1) p ptr = .ok (p', ptr', .wait) ∧
      n < c + ptr' := by
  have hnext := offset_succ hw
  have hlast := offset_succ_le hw
  have hcount := hp.numOfParam_le hsize
  have hdigits : ((decimal w.length).take (n - offset vs i - 1)).length = n - offset vs i - 1 := by
    rw [List.length_take]
    omega
  have hval := decVal_take_le 0 (n - offset vs i - 1) (decimal w.length)
  rw [decVal_decimal] at hval
  have hrest : (window vs c n).drop ptr =
      36 :: ((decimal w.length).take (n - offset vs i - 1) ++ []) := by
    rw [drop_window, hc, window_offset hw]
    exact take_number.1 (by omega) (by omega)
  have heq := parseStrlen_eq (-1) hrest (digits_take (digits_decimal _) _) noDigit_nil
    (by rw [List.append_nil, hdigits]; omega)
  rw [if_neg (by omega), if_pos (by rfl), hdigits] at heq
  have hlen := length_window (c := c) hn
  have hstr (result : List UInt8) := (parseStr_of_ok result heq).trans
    ((parseStrval_beyond (by omega) (by omega)).trans (if_neg (by omega)))
  refine ⟨_, _, parseStrlist_stop hcount (by rw [hl]; exact hstr _) (by simp), by omega⟩

/-- A string of which nothing has been looked at, and those after it. -/
theorem marker_spec (hsize : (request vs).length ≤ intMax) (hn : n ≤ (request vs).length)
    (ih : ListSpec vs c n k) : ListSpec vs c n (k + 1) := by
  intro p ptr i hk hp hl hc hle
  have hlt : i < vs.length := by omega
  have hw := List.getElem?_eq_getElem hlt
  generalize vs[i] = w at hw
  have hnext := offset_succ hw
  have hlast := offset_succ_le hw
  have hpos := length_decimal_pos w.length
  have hcount := hp.numOfParam_le hsize
  have hlen : ((window vs c n).drop ptr).length = n - offset vs i := by
    rw [drop_window, length_window hn, hc]
  have hrest : (window vs c n).drop ptr = window vs (offset vs i) n := by rw [drop_window, hc]
  rw [window_offset hw] at hrest
  -- A length that is not there yet is waited for.
  have hwait (hnot : n < offset vs i + 4 ∨ offset vs i + 1 + (decimal w.length).length < n)
      (hbefore : n < offset vs (i + 1))
      (hstrlen : parseStrlen (window vs c n) ptr (-1) = .ok (.wait, ptr, -1)) :
      Outcome vs c n (parseStrlist (window vs c n) (k + 1) p ptr) := by
    rw [parseStrlist_stop hcount (by rw [hl]; exact parseStr_of_ne_ok hstrlen (by simp))
      (by simp)]
    refine ⟨fun _ => by omega, fun _ _ => ⟨_, ptr, rfl, hle, ?_⟩, fun _ hsplits => ?_⟩
    · rw [hc]
      exact .marker (hp.stay _ _) rfl
    · have hin := (splits_iff hw (by omega) hbefore).1 hsplits
      omega
  by_cases hshort : n < offset vs i + 3
  · exact hwait (by omega) (by omega) (parseStrlen_short (by omega))
  by_cases hfour : n = offset vs i + 3
  · rw [show n - offset vs i = 2 + 1 by omega, List.take_succ_cons] at hrest
    exact hwait (by omega) (by omega)
      (parseStrlen_wait hrest (by rw [List.length_take]; omega))
  by_cases hdigits : n ≤ offset vs i + 1 + (decimal w.length).length
  · obtain ⟨p', ptr', hcall, hbeyond⟩ :=
      @lost_spec vs p i w c n k ptr hsize hn hp hw hl hc (by omega) hdigits
    refine ⟨fun _ => by omega, fun _ hnot => ?_, fun _ _ => ⟨p', ptr', _, hcall, Or.inl hbeyond⟩⟩
    exact absurd (Or.inr ⟨i, w, hw, by omega, hdigits⟩) hnot
  by_cases hcr : n = offset vs i + 2 + (decimal w.length).length
  · rw [take_number.2.1 (by omega)] at hrest
    have heq := parseStrlen_eq (-1) hrest (digits_decimal _) (noDigit_crlf [])
      (by rw [List.length_append, List.length_singleton]; omega)
    rw [decVal_decimal, if_neg (by omega), if_neg (by simp [ending])] at heq
    exact hwait (by omega) (by omega) heq
  · rw [take_number.2.2 (by omega)] at hrest
    have heq := parseStrlen_eq (-1) hrest (digits_decimal _) (noDigit_crlf _)
      (by simp only [List.length_append, List.length_cons]; omega)
    rw [decVal_decimal, if_neg (by omega), if_pos (by rfl)] at heq
    have hstr (result : List UInt8) : parseStr (window vs c n) ptr p.paramLen result =
        parseStr (window vs c n) (ptr + 1 + (decimal w.length).length + 2) (w.length : ℤ)
          result := by
      rw [hl, parseStr_of_ok _ heq, parseStr_natCast]
    rw [parseStrlist_congr hstr]
    exact string_spec hsize hn ih hk ⟨hp.multi, hp.numOfParam, hp.params, hp.le⟩ hw rfl
      (by omega) (by omega)

/-- Strings of which none has been looked at. -/
theorem listSpec (hsize : (request vs).length ≤ intMax) (hn : n ≤ (request vs).length) (c k : ℕ) :
    ListSpec vs c n k := by
  induction k with
  | zero =>
    intro p ptr i hk hp hl hc hle
    obtain rfl : i = vs.length := hk
    rw [offset_length] at hc
    rw [parseStrlist_zero (hp.numOfParam_le hsize)]
    refine ⟨fun _ => ⟨{ p with params := resize p.params p.numOfParam }, ?_, hp.resize_eq⟩,
      fun _ => by omega, fun _ => by omega⟩
    rw [show n - c = ptr by omega]
  | succ k ih => exact marker_spec hsize hn ih

/-- A parser that has read nothing. -/
theorem header_spec (hsize : (request vs).length ≤ intMax) (hn : n ≤ (request vs).length)
    (hp : Initial p) : Outcome vs 0 n (parseRequest p (window vs 0 n)) := by
  have hheader := length_preFormatMultiBulk vs.length
  have hoffset : offset vs 0 = (decimal vs.length).length + 3 := hheader
  have hlast := offset_le (Nat.zero_le vs.length)
  have hi := le_offset (Nat.le_refl vs.length)
  have hpos := length_decimal_pos vs.length
  rw [offset_length] at hi
  have hlen : (window vs 0 n).length = n := length_window hn
  have hinput : (window vs 0 n).drop 0 = _ := window_zero vs n
  have hsplits (hlt : n < (decimal vs.length).length + 3) : Splits vs n ↔ 3 ≤ n := by
    refine ⟨?_, fun h => Or.inl ⟨h, by omega⟩⟩
    rintro (⟨h, -⟩ | ⟨i, w, hw, hfrom, -⟩)
    · exact h
    · omega
  -- A header of which more than two bytes are there is not waited for where it begins.
  have hlost {ptr : ℕ} {r : ParseResult} {p' : ProtoParser} (h3 : 3 ≤ n)
      (hlt : n < (decimal vs.length).length + 3)
      (hcall : parseRequest p (window vs 0 n) = .ok (p', ptr, r))
      (hptr : n < 0 + ptr ∨ p'.Initial ∧ 0 + ptr = 1) :
      Outcome vs 0 n (parseRequest p (window vs 0 n)) :=
    ⟨fun _ => by omega, fun _ hnot => absurd ((hsplits hlt).2 h3) hnot,
      fun _ _ => ⟨p', ptr, r, hcall, hptr⟩⟩
  by_cases hshort : n < 3
  · have hmulti : parseMulti (window vs 0 n) 0 (-1) = .ok (.wait, 0, -1) :=
      parseMulti_short (by rw [List.drop_zero]; omega)
    rw [parseRequest_of_ne_ok hp.multi hmulti (by simp)]
    refine ⟨fun _ => by omega, fun _ _ => ⟨p, 0, rfl, Nat.zero_le _, .header hp⟩, fun _ h => ?_⟩
    have h3 := (hsplits (by omega)).1 h
    omega
  by_cases hthree : n = 3
  · have hmulti : parseMulti (window vs 0 n) 0 (-1) = .ok (.wait, 0 + 1, -1) := by
      have htwo : (window vs 0 n).drop 0 =
          42 :: (decimal vs.length ++ 13 :: 10 :: formatMultiBulk vs).take 2 := by
        rw [hinput, hthree]
        rfl
      refine parseMulti_wait htwo ?_
      rw [List.length_take, List.length_append, List.length_cons, List.length_cons]
      omega
    exact hlost (by omega) (by omega) (parseRequest_of_ne_ok hp.multi hmulti (by simp))
      (Or.inr ⟨hp, rfl⟩)
  by_cases hdigits : n ≤ (decimal vs.length).length + 1
  · rw [take_number.1 (by omega) hdigits] at hinput
    have hcount : ((decimal vs.length).take (n - 1)).length = n - 1 := by
      rw [List.length_take]
      omega
    have hval := decVal_take_le 0 (n - 1) (decimal vs.length)
    rw [decVal_decimal] at hval
    have heq := parseMulti_eq 0 (-1) hinput (digits_take (digits_decimal _) _)
      noDigit_nil (by rw [List.append_nil, hcount]; omega)
    rw [if_neg (by omega), if_pos (by rfl), hcount] at heq
    obtain ⟨p', r, hcall⟩ := @parseStrlist_beyond (window vs 0 n) (0 + 1 + (n - 1) + 2)
      (decVal 0 ((decimal vs.length).take (n - 1)) - p.numOfParam)
      { p with multi := (decVal 0 ((decimal vs.length).take (n - 1)) : ℕ) } (by omega)
      (by simp only [hp.numOfParam]; omega) hp.paramLen
    exact hlost (by omega) (by omega) ((parseRequest_of_ok hp.multi heq).trans hcall)
      (Or.inl (by omega))
  by_cases hcr : n = (decimal vs.length).length + 2
  · rw [take_number.2.1 hcr] at hinput
    have heq := parseMulti_eq 0 (-1) hinput (digits_decimal _) (noDigit_crlf [])
      (by rw [List.length_append, List.length_singleton]; omega)
    rw [decVal_decimal, if_neg (by omega), if_neg (by simp [ending])] at heq
    exact hlost (by omega) (by omega) (parseRequest_of_ne_ok hp.multi heq (by simp [ending]))
      (Or.inr ⟨hp, rfl⟩)
  · rw [take_number.2.2 (by omega)] at hinput
    have heq := parseMulti_eq 0 (-1) hinput (digits_decimal _) (noDigit_crlf _)
      (by simp only [List.length_append, List.length_cons]; omega)
    rw [decVal_decimal, if_neg (by omega), if_pos (by rfl)] at heq
    rw [parseRequest_of_ok hp.multi heq]
    refine listSpec hsize hn 0 _ _ _ 0 ?_ ⟨rfl, hp.numOfParam, rfl, Nat.zero_le _⟩ hp.paramLen
      (by omega) (by omega)
    rw [hp.numOfParam]
    omega

/-- Every call of a parser that waits for what comes next. -/
theorem call_spec (hsize : (request vs).length ≤ intMax) (hn : n ≤ (request vs).length)
    (hp : Awaits vs p c) (hc : c ≤ n) : Outcome vs c n (parseRequest p (window vs c n)) := by
  cases hp with
  | header hp => exact header_spec hsize hn hp
  | marker hp hl =>
    have hmulti := hp.multi
    have hnum := hp.numOfParam
    have hi := hp.le
    rw [parseRequest_of_nonneg (by omega)]
    exact listSpec hsize hn _ _ p 0 _ (by omega) hp hl rfl hc
  | string hp hw hl =>
    have hmulti := hp.multi
    have hnum := hp.numOfParam
    have hlt := (List.getElem?_eq_some_iff.1 hw).1
    rw [parseRequest_of_nonneg (by omega)]
    obtain ⟨k, hk⟩ := Nat.exists_eq_add_of_lt hlt
    rw [show (p.multi - p.numOfParam).toNat = k + 1 by omega]
    exact string_spec hsize hn (listSpec hsize hn _ k) (by omega) hp hw hl rfl hc

end

/-! ## Chunks -/

/-- The request comes out of the parser : it is called on what is left over and each chunk, waits
for more after each but the last, and has the strings of the request and no bytes left after the
last. -/
def Resumes (vs : List (List UInt8)) :
    ProtoParser → List UInt8 → List (List UInt8) → Prop
  | _, _, [] => False
  | p, rest, [chunk] =>
    ∃ p', parseRequest p (rest ++ chunk) = .ok (p', (rest ++ chunk).length, .ok) ∧ p'.params = vs
  | p, rest, chunk :: chunks =>
    ∃ p' ptr, parseRequest p (rest ++ chunk) = .ok (p', ptr, .wait) ∧
      ptr ≤ (rest ++ chunk).length ∧ Resumes vs p' ((rest ++ chunk).drop ptr) chunks

section
variable {vs : List (List UInt8)} {p : ProtoParser} {c n : ℕ} {chunks : List (List UInt8)}

theorem window_append {chunk rest : List UInt8} (hc : c ≤ n) (hn : n ≤ (request vs).length)
    (h : chunk ++ rest = (request vs).drop n) :
    window vs c n ++ chunk = window vs c (n + chunk.length) ∧
      rest = (request vs).drop (n + chunk.length) := by
  constructor
  · have hle : c ≤ ((request vs).take n).length := by
      rw [List.length_take]
      omega
    rw [window, window, List.take_add, ← h, List.take_left, List.drop_append_of_le_length hle]
  · rw [← List.drop_drop, ← h, List.drop_left]

/-- A parser that takes a digit for the first byte of a request. -/
theorem parseRequest_of_lost (hp : Initial p) :
    ∃ r, r ≠ .ok ∧ parseRequest p (window vs 1 n) = .ok (p, 0, r) := by
  by_cases hshort : (window vs 1 n).length < 3
  · have hmulti : parseMulti (window vs 1 n) 0 (-1) = .ok (.wait, 0, -1) := parseMulti_short hshort
    exact ⟨.wait, by simp, parseRequest_of_ne_ok hp.multi hmulti (by simp)⟩
  · obtain ⟨d, ds, hdecimal⟩ := List.exists_cons_of_length_pos (length_decimal_pos vs.length)
    have hdigit : isdigit d := digits_decimal vs.length d (by rw [hdecimal]; simp)
    have hd : d ≠ 42 := by
      rintro rfl
      exact absurd hdigit (by decide)
    have hdrop : (request vs).drop 1 = d :: (ds ++ 13 :: 10 :: formatMultiBulk vs) := by
      rw [request, preFormatMultiBulk, hdecimal]
      simp
    rw [window_eq, hdrop] at hshort ⊢
    cases hn : n - 1 with
    | zero =>
      rw [hn, List.take_zero] at hshort
      exact absurd (Nat.zero_lt_succ 2) hshort
    | succ m =>
      rw [hn, List.take_succ_cons] at hshort
      rw [List.take_succ_cons]
      have hmulti := parseMulti_other 0 (-1) rfl hd (Nat.not_lt.1 hshort)
      exact ⟨.error, by simp, parseRequest_of_ne_ok hp.multi hmulti (by simp)⟩

/-- It finds no request any more. -/
theorem not_resumes_of_lost (hp : Initial p) (h1 : 1 ≤ n) (hn : n ≤ (request vs).length)
    (hchunks : chunks.flatten = (request vs).drop n) : ¬Resumes vs p (window vs 1 n) chunks := by
  induction chunks generalizing n with
  | nil => exact id
  | cons chunk chunks ih =>
    obtain ⟨hwindow, hrest⟩ := window_append h1 hn hchunks
    have hlen := congrArg List.length hchunks
    rw [List.flatten_cons, List.length_append, List.length_drop] at hlen
    obtain ⟨r, hr, hcall⟩ := @parseRequest_of_lost vs p (n + chunk.length) hp
    cases chunks with
    | nil =>
      rintro ⟨p', hdone, -⟩
      rw [hwindow, hcall] at hdone
      obtain ⟨-, hout⟩ := Prod.mk.inj (Except.ok.inj hdone)
      exact hr (Prod.mk.inj hout).2
    | cons second chunks =>
      rintro ⟨p', ptr, hwait, -, hresumes⟩
      rw [hwindow, hcall] at hwait
      cases hwait
      rw [hwindow] at hresumes
      exact ih (by omega) (by omega) hrest hresumes

theorem forall_prefix_cons {P : List (List UInt8) → Prop} {chunk : List UInt8} :
    (∀ pre, pre <+: chunk :: chunks → pre ≠ [] → P pre) ↔
      P [chunk] ∧ ∀ pre, pre <+: chunks → pre ≠ [] → P (chunk :: pre) := by
  constructor
  · intro h
    exact ⟨h [chunk] (List.prefix_append [chunk] chunks) (by simp), fun pre hpre _ =>
      h (chunk :: pre) (List.cons_prefix_cons.2 ⟨rfl, hpre⟩) (by simp)⟩
  · rintro ⟨hone, hmore⟩ pre hpre hne
    cases pre with
    | nil => exact absurd rfl hne
    | cons first pre =>
      obtain ⟨rfl, hrest⟩ := List.cons_prefix_cons.1 hpre
      cases pre with
      | nil => exact hone
      | cons second pre => exact hmore _ hrest (by simp)

/-- From a parser that waits for what comes next. -/
theorem resumes_of_awaits (hsize : (request vs).length ≤ intMax) (hp : Awaits vs p c) (hc : c ≤ n)
    (hn : n < (request vs).length) (hchunks : chunks.flatten = (request vs).drop n)
    (hne : ∀ chunk ∈ chunks, chunk ≠ []) :
    Resumes vs p (window vs c n) chunks ↔
      ∀ pre, pre <+: chunks → pre ≠ [] → ¬Splits vs (n + pre.flatten.length) := by
  induction chunks generalizing p c n with
  | nil =>
    have hlen := congrArg List.length hchunks
    rw [List.flatten_nil, List.length_nil, List.length_drop] at hlen
    omega
  | cons chunk chunks ih =>
    obtain ⟨hwindow, hrest⟩ := window_append hc hn.le hchunks
    have hlen := congrArg List.length hchunks
    rw [List.flatten_cons, List.length_append, List.length_drop] at hlen
    have hout := call_spec hsize (show n + chunk.length ≤ (request vs).length by omega) hp
      (by omega)
    rw [forall_prefix_cons]
    simp only [List.flatten_cons, List.flatten_nil, List.append_nil, List.length_append,
      ← Nat.add_assoc]
    cases chunks with
    | nil =>
      have htotal : n + chunk.length = (request vs).length := by
        rw [List.flatten_nil, List.length_nil] at hlen
        omega
      obtain ⟨p', hcall, hparams⟩ := hout.done htotal
      refine iff_of_true ⟨p', ?_, hparams⟩ ⟨htotal ▸ not_splits_length vs, fun pre hpre hpre' => ?_⟩
      · rw [hwindow, hcall, length_window (by omega)]
      · exact absurd (List.prefix_nil.1 hpre) hpre'
    | cons second chunks =>
      have hsecond := List.length_pos_iff.2 (hne second (by simp))
      rw [List.flatten_cons, List.length_append] at hlen
      have hlt : n + chunk.length < (request vs).length := by omega
      by_cases hsplits : Splits vs (n + chunk.length)
      · refine iff_of_false ?_ fun h => h.1 hsplits
        rintro ⟨p', ptr, hwait, hptr, hresumes⟩
        obtain ⟨p'', ptr', result, hcall, hlost⟩ := hout.lost hlt hsplits
        rw [hwindow] at hwait hptr hresumes
        rw [hcall] at hwait
        cases hwait
        rw [length_window hlt.le] at hptr
        rcases hlost with hbeyond | ⟨hinitial, hone⟩
        · omega
        · rw [drop_window, hone] at hresumes
          exact not_resumes_of_lost hinitial (by omega) hlt.le hrest hresumes
      · obtain ⟨p', ptr, hcall, hptr, hawaits⟩ := hout.waits hlt hsplits
        rw [and_iff_right hsplits,
          ← ih hawaits hptr hlt hrest fun c hc => hne c (List.mem_cons_of_mem _ hc)]
        constructor
        · rintro ⟨p'', ptr', hwait, -, hresumes⟩
          rw [hwindow] at hwait hresumes
          rw [hcall] at hwait
          cases hwait
          rwa [drop_window] at hresumes
        · intro hresumes
          refine ⟨p', ptr, by rw [hwindow, hcall], ?_, ?_⟩
          · rw [hwindow, length_window hlt.le]
            omega
          · rwa [hwindow, drop_window]

/-- A request of less than `2 ^ 31` bytes comes out of a fresh parser, whatever is in its
parameters, exactly if no chunk ends where a number is split. -/
theorem resumes_iff (hsize : (request vs).length < 2 ^ 31) (hp : Initial p)
    (hchunks : chunks.flatten = request vs) (hne : ∀ chunk ∈ chunks, chunk ≠ []) :
    Resumes vs p [] chunks ↔ ∀ pre, pre <+: chunks → ¬Splits vs pre.flatten.length := by
  have hpos : 0 < (request vs).length := by
    rw [request, preFormatMultiBulk]
    simp
  have hle : (request vs).length ≤ intMax := by
    rw [intMax]
    omega
  have hzero : ¬Splits vs 0 := by
    rintro (⟨h, -⟩ | ⟨i, w, -, h, -⟩) <;> omega
  have hiff := resumes_of_awaits hle (.header hp) (Nat.le_refl 0) hpos hchunks hne
  rw [show window vs 0 0 = [] from rfl] at hiff
  rw [hiff]
  simp only [Nat.zero_add]
  refine forall_congr' fun pre => forall_congr' fun _ => ⟨fun h => ?_, fun h _ => h⟩
  by_cases hnil : pre = []
  · rw [hnil]
    exact hzero
  · exact h hnil

/-- A request for `get`, cut behind its `cut`-th byte. -/
def getChunks (cut : ℕ) : List (List UInt8) :=
  [(request [[103, 101, 116]]).take cut, (request [[103, 101, 116]]).drop cut]

theorem resumes_iff_get :
    Resumes [[103, 101, 116]] new [] (getChunks 2) ↔
      ∀ pre, pre <+: getChunks 2 → ¬Splits [[103, 101, 116]] pre.flatten.length :=
  resumes_iff (by decide) initial_new (by decide) (by decide)

/-- The header `*1` comes in up to its CR : `ptr` is behind the `*` then, and the next call takes
the `1` for the first byte of a request. -/
theorem not_resumes_get : (getChunks 3).flatten = request [[103, 101, 116]] ∧
    getChunks 3 = [[42, 49, 13], [10, 36, 51, 13, 10, 103, 101, 116, 13, 10]] ∧
    ¬Resumes [[103, 101, 116]] new [] (getChunks 3) := by
  refine ⟨by decide, by decide, ?_⟩
  rintro ⟨p', ptr, hwait, -, p'', hdone, -⟩
  have hfirst : parseRequest new ([] ++ (request [[103, 101, 116]]).take 3) =
      .ok (new, 1, .wait) := rfl
  rw [hfirst] at hwait
  cases hwait
  have hsecond : parseRequest new
      (([] ++ (request [[103, 101, 116]]).take 3).drop 1 ++ (request [[103, 101, 116]]).drop 3) =
        .ok (new, 0, .error) := rfl
  rw [hsecond] at hdone
  cases hdone

end

end ProtoParser

end UhpSql
