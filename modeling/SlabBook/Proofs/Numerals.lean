import SlabBook.Address
import SlabBook.Number.Literal
import SlabBook.Proofs.Amount

/-!
# Written numbers read back

Whole numbers, addresses and decimal numbers are written as text from which a reader gets back
exactly what was written, in whichever notation a decimal number comes.

* `Digits.digits_ofDigits` — digits without a leading zero are those of their number;
* `Literal.digits?_toText` — whole numbers;
* `Base58.decode?_encode`, `Address.ofText_toText` — runs of bytes, leading zeros included;
* `Literal.amount?_toText` — decimal numbers.
-/

namespace SlabBook

/-! ## Digits of a number -/

namespace Digits

variable {base : Nat}

theorem digits_lt (proper : 2 ≤ base) (value : Nat) : ∀ d ∈ digits base value, d < base := by
  fun_induction digits base value with
  | case1 value done => simp
  | case2 value done ih =>
    intro d among
    rcases List.mem_append.1 among with high | low
    · exact ih d high
    · rw [List.mem_singleton.1 low]
      exact Nat.mod_lt _ (by omega)

theorem digits_eq_nil_iff (proper : 2 ≤ base) {value : Nat} :
    digits base value = [] ↔ value = 0 := by
  rw [digits]
  split
  next done => simp only [true_iff]; omega
  next more => simp only [List.append_eq_nil_iff, List.cons_ne_nil, and_false, false_iff]; omega

/-- The first digit counts. -/
theorem head?_digits (proper : 2 ≤ base) (value : Nat) : (digits base value).head? ≠ some 0 := by
  fun_induction digits base value with
  | case1 value done => simp
  | case2 value done ih =>
    by_cases single : value / base = 0
    · have small : value < base := by
        rcases Nat.div_eq_zero_iff.1 single with zero | small
        · omega
        · exact small
      rw [(digits_eq_nil_iff proper).2 single, List.nil_append, List.head?_cons,
        Nat.mod_eq_of_lt small]
      simp only [ne_eq, Option.some.injEq]
      omega
    · rwa [List.head?_append_of_ne_nil _ (mt (digits_eq_nil_iff proper).1 single)]

theorem ofDigits_append_list (high low : List Nat) :
    ofDigits base (high ++ low) = ofDigits base high * base ^ low.length + ofDigits base low := by
  induction low using List.reverseRecOn with
  | nil => simp [ofDigits]
  | append_singleton low d ih =>
    rw [← List.append_assoc, ofDigits_append, ih, ofDigits_append, List.length_append,
      List.length_singleton, pow_succ]
    ring

theorem ofDigits_zeros (count : Nat) : ofDigits base (List.replicate count 0) = 0 := by
  induction count with
  | zero => rfl
  | succ count ih => rw [List.replicate_succ', ofDigits_append, ih, Nat.zero_mul]

theorem ofDigits_zeros_append (count : Nat) (ds : List Nat) :
    ofDigits base (List.replicate count 0 ++ ds) = ofDigits base ds := by
  rw [ofDigits_append_list, ofDigits_zeros, Nat.zero_mul, Nat.zero_add]

theorem ofDigits_pos {ds : List Nat} (proper : 2 ≤ base) (nonempty : ds ≠ [])
    (counts : ds.head? ≠ some 0) : 0 < ofDigits base ds := by
  cases ds with
  | nil => exact absurd rfl nonempty
  | cons d rest =>
    have positive : 0 < d := Nat.pos_of_ne_zero fun zero => counts (by rw [zero]; rfl)
    rw [show d :: rest = [d] ++ rest from rfl, ofDigits_append_list]
    have weight : 0 < base ^ rest.length := Nat.pow_pos (by omega)
    have leading : 0 < ofDigits base [d] * base ^ rest.length :=
      Nat.mul_pos (by simpa [ofDigits] using positive) weight
    omega

/-- Digits that do not start with a zero are the digits of the number they stand for. -/
theorem digits_ofDigits (proper : 2 ≤ base) {ds : List Nat} (bounded : ∀ d ∈ ds, d < base)
    (counts : ds.head? ≠ some 0) : digits base (ofDigits base ds) = ds := by
  induction ds using List.reverseRecOn with
  | nil => exact (digits_eq_nil_iff proper).2 rfl
  | append_singleton high low ih =>
    have low_lt : low < base := bounded low (by simp)
    have positive : 0 < ofDigits base (high ++ [low]) := ofDigits_pos proper (by simp) counts
    rw [ofDigits_append] at positive ⊢
    have quotient : (ofDigits base high * base + low) / base = ofDigits base high := by
      rw [Nat.add_comm, Nat.add_mul_div_right _ _ (by omega), Nat.div_eq_of_lt low_lt,
        Nat.zero_add]
    have rest : (ofDigits base high * base + low) % base = low := by
      rw [Nat.add_comm, Nat.add_mul_mod_self_right, Nat.mod_eq_of_lt low_lt]
    rw [digits, dif_neg (by omega), quotient, rest, ih (fun d among => bounded d (by simp [among]))]
    cases high with
    | nil => simp
    | cons first others => exact counts

end Digits

/-! ## Reading digits -/

namespace Literal

open Digits

theorem digit?_digitChar {d : Nat} (bounded : d < 10) : digit? 10 (digitChar d) = some d := by
  have every : ∀ d < 10, digit? 10 (digitChar d) = some d := by decide
  exact every d bounded

theorem isDigit_digitChar {d : Nat} (bounded : d < 10) : (digitChar d).isDigit = true := by
  have every : ∀ d < 10, (digitChar d).isDigit = true := by decide
  exact every d bounded

/-- Reading each of a list of written values. -/
theorem mapM_map {read : Char → Option Nat} {write : Nat → Char} {ds : List Nat}
    (back : ∀ d ∈ ds, read (write d) = some d) : (ds.map write).mapM read = some ds := by
  induction ds with
  | nil => rfl
  | cons d rest ih =>
    rw [List.map_cons, List.mapM_cons, back d List.mem_cons_self,
      ih fun d among => back d (List.mem_cons_of_mem _ among)]
    rfl

theorem digits?_map {ds : List Nat} (bounded : ∀ d ∈ ds, d < 10) (nonempty : ds ≠ []) :
    digits? 10 (ds.map digitChar) = some (ofDigits 10 ds) := by
  rw [digits?, List.isEmpty_map, if_neg (by simpa using nonempty),
    mapM_map fun d among => digit?_digitChar (bounded d among)]
  rfl

/-- A whole number is read from its text. -/
theorem digits?_toText (value : Nat) : digits? 10 (toText value).toList = some value := by
  unfold toText
  split
  next zero =>
    rw [zero]
    rfl
  next nonzero =>
    rw [String.toList_ofList, chars, digits?_map (digits_lt (by decide) value)
      (mt (digits_eq_nil_iff (by decide)).1 nonzero), ofDigits_digits (by decide)]

theorem toText_injective : Function.Injective toText := by
  intro first second same
  have read := digits?_toText first
  rw [same, digits?_toText] at read
  exact (Option.some.inj read).symm

end Literal

/-! ## Base 58 -/

namespace Base58

open Digits

theorem digit?_digit {d : Nat} (bounded : d < 58) : digit? (digit d) = some d := by
  have every : ∀ d < 58, digit? (digit d) = some d := by decide
  exact every d bounded

/-- Leading zeros and what follows them. -/
theorem split_zeros {α : Type} [DecidableEq α] (zero : α) (run : List α) :
    ∃ rest, run = List.replicate (run.takeWhile (· == zero)).length zero ++ rest ∧
      rest.head? ≠ some zero := by
  refine ⟨run.dropWhile (· == zero), ?_, ?_⟩
  · have zeros : run.takeWhile (· == zero) =
        List.replicate (run.takeWhile (· == zero)).length zero := by
      rw [List.eq_replicate_iff]
      refine ⟨rfl, fun d among => ?_⟩
      simpa using List.all_eq_true.1 List.all_takeWhile d among
    rw [← zeros, List.takeWhile_append_dropWhile]
  · intro first
    have := List.head?_dropWhile_not (· == zero) run
    rw [first] at this
    simp at this

theorem takeWhile_zeros {α : Type} [DecidableEq α] {zero : α} {rest : List α} (count : Nat)
    (counts : rest.head? ≠ some zero) :
    (List.replicate count zero ++ rest).takeWhile (· == zero) = List.replicate count zero := by
  rw [List.takeWhile_append_of_pos (by simp +contextual)]
  cases rest with
  | nil => simp
  | cons first others =>
    have other : first ≠ zero := fun same => counts (by rw [same]; rfl)
    simp [other]

/-- Every run of bytes is read from its text, whatever zeros it begins with. -/
theorem decode?_encode (run : List UInt8) : decode? (encode run) = some run := by
  obtain ⟨rest, split, counts⟩ := split_zeros 0 run
  generalize zeros_eq : (run.takeWhile (· == 0)).length = zeros at split
  have values : run.map UInt8.toNat = List.replicate zeros 0 ++ rest.map UInt8.toNat := by
    conv_lhs => rw [split, List.map_append, List.map_replicate]
    rfl
  have value_eq : ofDigits 256 (run.map UInt8.toNat) = ofDigits 256 (rest.map UInt8.toNat) := by
    rw [values, ofDigits_zeros_append]
  have rest_counts : (rest.map UInt8.toNat).head? ≠ some 0 := by
    cases rest with
    | nil => simp
    | cons byte others =>
      intro zero
      exact counts (congrArg some (UInt8.toNat_inj.1 (Option.some.inj zero)))
  have bytes_eq : digits 256 (ofDigits 256 (rest.map UInt8.toNat)) = rest.map UInt8.toNat :=
    digits_ofDigits (by decide) (by simpa using fun byte _ => byte.toNat_lt) rest_counts
  generalize ofDigits 256 (rest.map UInt8.toNat) = value at value_eq bytes_eq
  have written : (encode run).toList =
      (List.replicate zeros 0 ++ digits 58 value).map digit := by
    rw [encode, String.toList_ofList, value_eq, zeros_eq, List.map_append, List.map_replicate]
    rfl
  have bounded : ∀ d ∈ List.replicate zeros 0 ++ digits 58 value, d < 58 := by
    intro d among
    rcases List.mem_append.1 among with zero | digit
    · rw [List.eq_of_mem_replicate zero]
      decide
    · exact digits_lt (by decide) value d digit
  have read : (encode run).toList.mapM digit? =
      some (List.replicate zeros 0 ++ digits 58 value) := by
    rw [written, Literal.mapM_map fun d among => digit?_digit (bounded d among)]
  have back : (rest.map UInt8.toNat).map UInt8.ofNat = rest := by
    rw [List.map_map]
    exact (List.map_congr_left fun byte _ => UInt8.ofNat_toNat).trans (List.map_id rest)
  simp only [decode?, read, Option.bind_eq_bind, Option.bind_some, Option.pure_def,
    takeWhile_zeros zeros (head?_digits (by decide : 2 ≤ 58) value), List.length_replicate,
    ofDigits_zeros_append, ofDigits_digits (by decide : 2 ≤ 58), bytes_eq, back, ← split]

end Base58

/-- An address is read from its text. -/
theorem Address.ofText_toText (address : Address) : ofText address.toText = .ok address := by
  obtain ⟨⟨⟨bytes⟩, exact⟩⟩ := address
  have length_eq : bytes.length = 32 := exact
  simp [ofText, toText, Base58.decode?_encode, ofList?, length_eq]

theorem Address.toText_injective : Function.Injective toText := by
  intro first second same
  have read := ofText_toText first
  rw [same, ofText_toText] at read
  exact (Except.ok.inj read).symm

/-! ## Decimal numbers -/

namespace Literal

open Digits

variable {ds whole part : List Nat} {tail : List Char} {power : Int}

/-- Digits end where something else begins. -/
theorem takeWhile_digits (bounded : ∀ d ∈ ds, d < 10)
    (stops : ∀ c ∈ tail.head?, c.isDigit = false) :
    (ds.map digitChar ++ tail).takeWhile Char.isDigit = ds.map digitChar ∧
      (ds.map digitChar ++ tail).dropWhile Char.isDigit = tail := by
  have digits : ∀ c ∈ ds.map digitChar, c.isDigit = true := by
    intro c among
    obtain ⟨d, inside, rfl⟩ := List.mem_map.1 among
    exact isDigit_digitChar (bounded d inside)
  rw [List.takeWhile_append_of_pos digits, List.dropWhile_append_of_pos digits]
  cases tail with
  | nil => simp
  | cons c rest =>
    have stop := stops c rfl
    simp [stop]

/-- A power of ten begins with its mark, and without a power there is nothing. -/
theorem head?_of_exponent? (success : exponent? tail = some power) :
    ∀ c ∈ tail.head?, c.isDigit = false ∧ c ≠ '.' := by
  cases tail with
  | nil => simp
  | cons mark rest =>
    rintro c ⟨⟩
    rw [exponent?] at success
    split at success
    next marked => rcases marked with rfl | rfl <;> decide
    next => cases success

theorem decimal?_whole (bounded : ∀ d ∈ ds, d < 10) (nonempty : ds ≠ [])
    (success : exponent? tail = some power) :
    decimal? (ds.map digitChar ++ tail) = some (ofDigits 10 ds, power) := by
  have stops := head?_of_exponent? success
  obtain ⟨taken, dropped⟩ := takeWhile_digits bounded fun c first => (stops c first).1
  have no_point : fraction tail = ([], tail) := by
    unfold fraction
    split
    next rest => exact absurd rfl (stops '.' rfl).2
    next => rfl
  simp [decimal?, taken, dropped, no_point, digits?_map bounded nonempty, success]

theorem decimal?_pointed (bounded : ∀ d ∈ whole, d < 10) (bounded_too : ∀ d ∈ part, d < 10)
    (nonempty : whole ++ part ≠ []) (success : exponent? tail = some power) :
    decimal? (whole.map digitChar ++ '.' :: (part.map digitChar ++ tail)) =
      some (ofDigits 10 (whole ++ part), power - part.length) := by
  have stops := head?_of_exponent? success
  have point : ∀ c ∈ ('.' :: (part.map digitChar ++ tail)).head?, c.isDigit = false := by simp
  obtain ⟨taken, dropped⟩ := takeWhile_digits bounded point
  obtain ⟨taken_too, dropped_too⟩ :=
    takeWhile_digits bounded_too fun c first => (stops c first).1
  have all_bounded : ∀ d ∈ whole ++ part, d < 10 := by
    intro d among
    exact (List.mem_append.1 among).elim (bounded d) (bounded_too d)
  have read := digits?_map all_bounded nonempty
  rw [List.map_append] at read
  simp [decimal?, taken, dropped, fraction, taken_too, dropped_too, read, success]

theorem lt_of_mem_zeros {count d : Nat} (among : d ∈ List.replicate count 0) : d < 10 := by
  rw [List.eq_of_mem_replicate among]
  decide

/-- A positional text is read as the number that was written. -/
theorem decimal?_plain (bounded : ∀ d ∈ ds, d < 10) (nonempty : ds ≠ []) (exponent : Int) :
    ∃ value power, decimal? (plain (ds.map digitChar) exponent) = some (value, power) ∧
      (value : ℚ) * 10 ^ power = ofDigits 10 ds * 10 ^ exponent := by
  have no_power : exponent? [] = some 0 := rfl
  simp only [plain, List.length_map]
  split
  next whole =>
    -- zeros behind the digits
    have bounded_too : ∀ d ∈ ds ++ List.replicate exponent.toNat 0, d < 10 :=
      List.forall_mem_append.2 ⟨bounded, fun d => lt_of_mem_zeros⟩
    have read := decimal?_whole bounded_too (by simp [nonempty]) no_power
    rw [List.append_nil, List.map_append, List.map_replicate] at read
    refine ⟨_, _, read, ?_⟩
    have power_eq : (10 : ℚ) ^ exponent = (10 ^ exponent.toNat : Nat) := by
      conv_lhs => rw [← Int.toNat_of_nonneg whole]
      rw [zpow_natCast]
      push_cast
      rfl
    rw [ofDigits_append_list, ofDigits_zeros, List.length_replicate, power_eq]
    push_cast
    ring
  next fractional =>
    split
    next inside =>
      -- the point stands between the digits
      generalize count_eq : (exponent + ds.length - 1 + 1).toNat = count
      have read := decimal?_pointed (fun d among => bounded d (List.mem_of_mem_take among))
        (fun d among => bounded d (List.mem_of_mem_drop among))
        (by rwa [List.take_append_drop count ds]) no_power
      rw [List.append_nil, List.map_take, List.map_drop, List.take_append_drop,
        List.length_drop] at read
      refine ⟨_, _, read, ?_⟩
      congr 2
      omega
    next below =>
      -- zeros between the point and the digits
      generalize count_eq : (-(exponent + ds.length - 1) - 1).toNat = count
      have bounded_too : ∀ d ∈ List.replicate count 0 ++ ds, d < 10 :=
        List.forall_mem_append.2 ⟨fun d => lt_of_mem_zeros, bounded⟩
      have first : ∀ d ∈ [0], d < 10 := by simp
      have read := decimal?_pointed first bounded_too (by simp) no_power
      rw [List.append_nil, List.map_append, List.map_replicate] at read
      refine ⟨_, _, read, ?_⟩
      rw [show [0] ++ (List.replicate count 0 ++ ds) = List.replicate (count + 1) 0 ++ ds from rfl,
        ofDigits_zeros_append, List.length_append, List.length_replicate]
      congr 2
      push_cast
      omega

/-- A text with a power of ten is read as the digits times that power, moved behind the last one. -/
theorem decimal?_scientific (bounded : ∀ d ∈ ds, d < 10) (nonempty : ds ≠ []) (leading : Int) :
    decimal? (scientific (ds.map digitChar) leading) =
      some (ofDigits 10 ds, leading - (ds.length - 1)) := by
  have read_power : exponent? ('e' :: (if leading < 0 then '-' else '+') ::
      (toText leading.natAbs).toList) = some leading := by
    by_cases negative : leading < 0
    · simp only [exponent?, true_or, if_true, if_pos negative, sign, digits?_toText,
        Option.map_some, Option.some.injEq]
      omega
    · simp only [exponent?, true_or, if_true, if_neg negative, sign, digits?_toText,
        Option.map_some, Bool.false_eq_true, if_false, Option.some.injEq]
      omega
  simp only [scientific, List.length_map, List.append_assoc]
  cases ds with
  | nil => exact absurd rfl nonempty
  | cons d rest =>
    cases rest with
    | nil =>
      have read := decimal?_whole bounded nonempty read_power
      simpa using read
    | cons next others =>
      have first : ∀ e ∈ [d], e < 10 := by simpa using bounded d List.mem_cons_self
      have read := decimal?_pointed first
        (fun e (among : e ∈ next :: others) => bounded e (List.mem_cons_of_mem _ among))
        (by simp) read_power
      simpa using read

/-- The rational number that a decimal text stands for. -/
def amount? (text : String) : Option ℚ :=
  let (negative, rest) := sign text.toList
  (decimal? rest).map fun read => Decimal.signed negative (read.1 * 10 ^ read.2)

/-- What is read as a decimal number has no sign of its own. -/
theorem sign_of_decimal? {cs : List Char} {read : Nat × Int} (success : decimal? cs = some read) :
    sign cs = (false, cs) := by
  unfold sign
  split
  next rest => simp [decimal?, fraction, digits?] at success
  next rest => simp [decimal?, fraction, digits?] at success
  next => rfl

/-- The number that `place` writes, in either notation. -/
theorem decimal?_place {coefficient : Nat} (nonzero : coefficient ≠ 0) (exponent : Int) :
    ∃ value power, decimal? (place coefficient exponent).toList = some (value, power) ∧
      (value : ℚ) * 10 ^ power = coefficient * 10 ^ exponent := by
  have bounded := digits_lt (by decide : 2 ≤ 10) coefficient
  have nonempty := mt (digits_eq_nil_iff (by decide : 2 ≤ 10)).1 nonzero
  have back := ofDigits_digits (by decide : 2 ≤ 10) coefficient
  simp only [place, String.toList_ofList, chars, List.length_map]
  split
  next positional =>
    have read := decimal?_plain bounded nonempty exponent
    rwa [back] at read
  next =>
    refine ⟨_, _, decimal?_scientific bounded nonempty _, ?_⟩
    rw [back]
    congr 2
    omega

/-- Reading the text of a decimal number gives its amount, and nothing where it has none. -/
theorem amount?_toText (x : Decimal) : amount? x.toText = x.toRat? := by
  cases x with
  | nan => rfl
  | infinite negative => cases negative <;> rfl
  | finite negative coefficient exponent =>
    rw [Decimal.toText, Decimal.toRat?]
    split
    next zero =>
      have read : decimal? "0".toList = some (0, 0) := rfl
      rw [amount?, sign_of_decimal? read, zero]
      simp only [read, Option.map_some, Nat.cast_zero, zero_mul]
      cases negative <;> simp [Decimal.signed]
    next nonzero =>
      obtain ⟨value, power, read, amount_eq⟩ := decimal?_place nonzero exponent
      rw [amount?, String.toList_append]
      cases negative with
      | false =>
        rw [signText, if_neg (by decide), String.toList_empty, List.nil_append,
          sign_of_decimal? read]
        simp only [read, Option.map_some, amount_eq]
      | true =>
        rw [signText, if_pos rfl, show "-".toList = ['-'] from rfl, List.singleton_append]
        simp only [sign, read, Option.map_some, amount_eq]

end Literal

end SlabBook
