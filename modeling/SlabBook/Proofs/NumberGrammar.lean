import Mathlib.Data.List.TakeWhile
import SlabBook.Proofs.Numerals
import SlabBook.Proofs.SingleRounding

/-!
# The grammar of numbers

Which texts are numbers, and which numbers they are.  A text is nothing but blanks, or digits of a
radix that is named, or a decimal with or without a sign, a point and a power of ten.  The grammar says
so form by form and knows nothing of the order in which a reader tries the forms; what is read of a
text is what it spells.

* `Literal.Spells` — the grammar;
* `Literal.number_eq_iff`, `Literal.Spells.number_padded` — what is read of a text, whatever it is;
* `Binary64.whole?_ofDecimal` — whole numbers below `2 ^ 53` are read as they are.
-/

namespace SlabBook

/-! ## Blanks -/

namespace Text

variable {cs rest before after : List Char} {c : Char}

/-- None of the characters is a blank. -/
def Solid (cs : List Char) : Prop := ∀ c ∈ cs, isBlank c = false

instance (cs : List Char) : Decidable (Solid cs) :=
  decidable_of_iff (cs.all fun c => !isBlank c) (by simp [Solid])

theorem solid_cons_iff : Solid (c :: cs) ↔ isBlank c = false ∧ Solid cs := List.forall_mem_cons

theorem solid_append_iff : Solid (cs ++ rest) ↔ Solid cs ∧ Solid rest := List.forall_mem_append

theorem isBlank_of_toNat (above : 0x20 < c.toNat) (below : c.toNat < 0x7f) :
    isBlank c = false := by
  simp only [isBlank, Bool.or_eq_false_iff, Bool.and_eq_false_iff, decide_eq_false_iff_not,
    beq_eq_false_iff_ne]
  omega

theorem dropWhile_of_blank (blank : ∀ c ∈ before, isBlank c = true) (cs : List Char) :
    (before ++ cs).dropWhile isBlank = cs.dropWhile isBlank :=
  List.dropWhile_append_of_pos blank

theorem dropBlankEnd_append (blank : ∀ c ∈ after, isBlank c = true) (cs : List Char) :
    dropBlankEnd (cs ++ after) = dropBlankEnd cs := by
  have reversed : ∀ c ∈ after.reverse, isBlank c = true := fun c among =>
    blank c (List.mem_reverse.1 among)
  rw [dropBlankEnd, List.reverse_append, dropWhile_of_blank reversed, dropBlankEnd]

/-- Blanks on either side do not count. -/
theorem trim_append (blank : ∀ c ∈ before, isBlank c = true)
    (blank_too : ∀ c ∈ after, isBlank c = true) (cs : List Char) :
    trim (before ++ cs ++ after) = trim cs := by
  rw [trim, List.append_assoc, dropWhile_of_blank blank, trim]
  by_cases shown : cs.dropWhile isBlank = []
  · have all_blank : ∀ c ∈ cs, isBlank c = true := List.dropWhile_eq_nil_iff.1 shown
    rw [dropWhile_of_blank all_blank, shown, List.dropWhile_eq_nil_iff.2 blank_too]
  · rw [List.dropWhile_append, if_neg (by simpa using shown), dropBlankEnd_append blank_too]

theorem trim_of_solid (solid : Solid cs) : trim cs = cs := by
  have kept {ds : List Char} (solid : Solid ds) : ds.dropWhile isBlank = ds := by
    cases ds with
    | nil => rfl
    | cons d rest => exact List.dropWhile_cons_of_neg (by simp [solid d List.mem_cons_self])
  rw [trim, kept solid, dropBlankEnd, kept fun c among => solid c (List.mem_reverse.1 among),
    List.reverse_reverse]

end Text

theorem Binary64.ofDecimal_ne_nan {negative : Bool} {value : Nat} {exponent : Int} :
    ofDecimal negative value exponent ≠ .nan := by
  unfold ofDecimal ofRatio
  dsimp only
  split_ifs <;> exact nofun

namespace Literal

open Digits Text

variable {radix value : Nat} {cs : List Char} {negative : Bool} {power : Int}

/-! ## Digits -/

/-- The character is the digit of a value below the radix; a letter may be small or capital. -/
def Stands (radix : Nat) (c : Char) (d : Nat) : Prop :=
  d < radix ∧ (d < 10 ∧ c.toNat = 48 + d ∨ 10 ≤ d ∧ (c.toNat = 87 + d ∨ c.toNat = 55 + d))

/-- One or more digits of a radix and the number they make. -/
def IsDigits (radix : Nat) (cs : List Char) (value : Nat) : Prop :=
  cs ≠ [] ∧ ∃ ds, List.Forall₂ (Stands radix) cs ds ∧ ofDigits radix ds = value

theorem digit?_eq_some_iff {c : Char} {d : Nat} (small : radix ≤ 36) :
    digit? radix c = some d ↔ Stands radix c d := by
  have numeral : '0' ≤ c ∧ c ≤ '9' ↔ 48 ≤ c.toNat ∧ c.toNat ≤ 57 := Iff.rfl
  have letter : 'a' ≤ c ∧ c ≤ 'z' ↔ 97 ≤ c.toNat ∧ c.toNat ≤ 122 := Iff.rfl
  have capital : 'A' ≤ c ∧ c ≤ 'Z' ↔ 65 ≤ c.toNat ∧ c.toNat ≤ 90 := Iff.rfl
  simp only [digit?, numeral, letter, capital, Stands, Option.ite_none_right_eq_some,
    Option.some.injEq]
  split_ifs <;> omega

theorem mapM_eq_some_iff {α β : Type} {read : α → Option β} {xs : List α} {ys : List β} :
    xs.mapM read = some ys ↔ List.Forall₂ (fun x y => read x = some y) xs ys := by
  induction xs generalizing ys with
  | nil => cases ys <;> simp
  | cons x rest ih =>
    cases ys with
    | nil => simp [Option.bind_eq_some_iff]
    | cons y others => simp [Option.bind_eq_some_iff, ih]

theorem digits?_eq_some_iff (small : radix ≤ 36) :
    digits? radix cs = some value ↔ IsDigits radix cs value := by
  have each : (fun c d => digit? radix c = some d) = Stands radix :=
    funext₂ fun _ _ => propext (digit?_eq_some_iff small)
  simp only [digits?, List.isEmpty_iff, Option.ite_none_left_eq_some, Option.map_eq_some_iff,
    mapM_eq_some_iff, each, IsDigits, ne_eq]

/-- Decimal digits are those that are written. -/
theorem map_of_stands {ds : List Nat} (each : List.Forall₂ (Stands 10) cs ds) :
    (∀ d ∈ ds, d < 10) ∧ cs = ds.map digitChar := by
  induction each with
  | nil => simp
  | @cons c d rest others stands _ ih =>
    obtain ⟨small, rest_eq⟩ := ih
    obtain ⟨bounded, ⟨-, char⟩ | ⟨letter, -⟩⟩ := stands
    · refine ⟨List.forall_mem_cons.2 ⟨bounded, small⟩, ?_⟩
      rw [List.map_cons, ← rest_eq, digitChar, ← char, Char.ofNat_toNat]
    · omega

theorem IsDigits.exists_map (digits : IsDigits 10 cs value) :
    ∃ ds, ds ≠ [] ∧ (∀ d ∈ ds, d < 10) ∧ cs = ds.map digitChar ∧ ofDigits 10 ds = value := by
  obtain ⟨nonempty, ds, each, made⟩ := digits
  obtain ⟨small, rfl⟩ := map_of_stands each
  exact ⟨ds, by simpa using nonempty, small, rfl, made⟩

/-! ## Signs and powers of ten -/

/-- A sign, or none. -/
inductive IsSign : List Char → Bool → Prop
  | none : IsSign [] false
  | plus : IsSign ['+'] false
  | minus : IsSign ['-'] true

/-- A power of ten behind its mark, or none. -/
inductive IsPower : List Char → Int → Prop
  | none : IsPower [] 0
  | marked {mark : Char} {sign cs : List Char} {negative : Bool} {value : Nat}
      (mark_eq : mark = 'e' ∨ mark = 'E') (signed : IsSign sign negative)
      (digits : IsDigits 10 cs value) :
    IsPower (mark :: (sign ++ cs)) (if negative then -(value : Int) else value)

/-- An unsigned decimal has digits before or behind its point, and the power of ten is that of its
last digit. -/
inductive IsDecimal : List Char → Nat → Int → Prop
  | whole {cs tail : List Char} {value : Nat} {power : Int} (digits : IsDigits 10 cs value)
      (scaled : IsPower tail power) : IsDecimal (cs ++ tail) value power
  | pointed {whole part tail : List Char} {value : Nat} {power : Int}
      (digits : IsDigits 10 (whole ++ part) value) (scaled : IsPower tail power) :
    IsDecimal (whole ++ '.' :: (part ++ tail)) value (power - part.length)

/-- The letters that name a radix. -/
def radixes : List (Char × Nat) := [('x', 16), ('X', 16), ('o', 8), ('O', 8), ('b', 2), ('B', 2)]

/-- The number that a text without blanks around it spells. -/
inductive Spells : List Char → Binary64 → Prop
  | blank : Spells [] (.ofNat 0)
  | radix {mark : Char} {radix value : Nat} {cs : List Char} (named : (mark, radix) ∈ radixes)
      (digits : IsDigits radix cs value) : Spells ('0' :: mark :: cs) (.ofNat value)
  | infinity {sign : List Char} {negative : Bool} (signed : IsSign sign negative) :
    Spells (sign ++ "Infinity".toList) (.infinite negative)
  | decimal {sign cs : List Char} {negative : Bool} {value : Nat} {power : Int}
      (signed : IsSign sign negative) (unsigned : IsDecimal cs value power) :
    Spells (sign ++ cs) (.ofDecimal negative value power)

/-! ## Reading the parts -/

theorem exists_sign (cs : List Char) :
    ∃ signed, IsSign signed (sign cs).1 ∧ cs = signed ++ (sign cs).2 := by
  unfold sign
  split
  · exact ⟨_, .minus, rfl⟩
  · exact ⟨_, .plus, rfl⟩
  · exact ⟨_, .none, rfl⟩

theorem IsSign.sign_append {signed : List Char} (is_sign : IsSign signed negative)
    (plain : sign cs = (false, cs)) : sign (signed ++ cs) = (negative, cs) := by
  cases is_sign with
  | none => exact plain
  | plus => rfl
  | minus => rfl

theorem IsDigits.sign_eq (digits : IsDigits 10 cs value) : sign cs = (false, cs) := by
  obtain ⟨ds, nonempty, bounded, rfl, -⟩ := digits.exists_map
  have read := decimal?_whole bounded nonempty (rfl : exponent? [] = some 0)
  rw [List.append_nil] at read
  exact sign_of_decimal? read

theorem exponent?_eq_some_iff : exponent? cs = some power ↔ IsPower cs power := by
  constructor
  · intro read
    cases cs with
    | nil =>
      cases read
      exact .none
    | cons mark rest =>
      rw [exponent?] at read
      split at read
      next marked =>
        obtain ⟨signed, is_sign, split⟩ := exists_sign rest
        generalize sign rest = parts at read is_sign split
        obtain ⟨value, found, rfl⟩ := Option.map_eq_some_iff.1 read
        rw [split]
        exact .marked marked is_sign ((digits?_eq_some_iff (by decide)).1 found)
      next => cases read
  · rintro (_ | ⟨marked, is_sign, digits⟩)
    · rfl
    · have found := (digits?_eq_some_iff (by decide)).2 digits
      rw [exponent?, if_pos marked, is_sign.sign_append digits.sign_eq]
      simp only [found, Option.map_some]

/-- A point is read with the digits behind it, and anything else is left. -/
theorem fraction_cases (cs : List Char) :
    (fraction cs).1 = [] ∧ (fraction cs).2 = cs ∨ '.' :: ((fraction cs).1 ++ (fraction cs).2) = cs := by
  unfold fraction
  split
  next behind => exact Or.inr (congrArg _ List.takeWhile_append_dropWhile)
  next => exact Or.inl ⟨rfl, rfl⟩

theorem decimal?_eq_some_iff : decimal? cs = some (value, power) ↔ IsDecimal cs value power := by
  constructor
  · intro read
    have split := List.takeWhile_append_dropWhile (p := Char.isDigit) (l := cs)
    have point := fraction_cases (cs.dropWhile Char.isDigit)
    simp only [decimal?] at read
    generalize cs.takeWhile Char.isDigit = whole at read split
    generalize cs.dropWhile Char.isDigit = rest at read split point
    generalize fraction rest = parts at read point
    obtain ⟨part, tail⟩ := parts
    simp only [Option.bind_eq_bind, Option.bind_eq_some_iff, Option.pure_def, Option.some.injEq,
      Prod.mk.injEq] at read
    obtain ⟨_, digits, exponent, scaled, rfl, rfl⟩ := read
    rw [digits?_eq_some_iff (by decide)] at digits
    rw [exponent?_eq_some_iff] at scaled
    rw [← split]
    rcases point with ⟨rfl, rfl⟩ | rfl
    · rw [List.append_nil] at digits
      simpa using IsDecimal.whole digits scaled
    · exact .pointed digits scaled
  · rintro (⟨digits, scaled⟩ | ⟨digits, scaled⟩)
    · obtain ⟨ds, nonempty, bounded, rfl, rfl⟩ := digits.exists_map
      exact decimal?_whole bounded nonempty (exponent?_eq_some_iff.2 scaled)
    · obtain ⟨ds, nonempty, bounded, split, rfl⟩ := digits.exists_map
      obtain ⟨high, low, rfl, rfl, rfl⟩ := List.append_eq_map_iff.1 split
      obtain ⟨small, small_too⟩ := List.forall_mem_append.1 bounded
      rw [List.length_map]
      exact decimal?_pointed small small_too nonempty (exponent?_eq_some_iff.2 scaled)

theorem radix?_eq_some_iff {rest : List Char} :
    radix? cs = some (radix, rest) ↔ ∃ mark, (mark, radix) ∈ radixes ∧ cs = '0' :: mark :: rest := by
  constructor
  · intro read
    unfold radix? at read
    split at read
    next mark _ =>
      split_ifs at read with hexadecimal octal binary
      all_goals
        cases read
        refine ⟨mark, ?_, rfl⟩
        simp only [radixes, List.mem_cons, Prod.mk.injEq]
        tauto
    next => cases read
  · rintro ⟨mark, named, rfl⟩
    simp only [radixes, List.mem_cons, Prod.mk.injEq, List.not_mem_nil, or_false] at named
    rcases named with ⟨rfl, rfl⟩ | ⟨rfl, rfl⟩ | ⟨rfl, rfl⟩ | ⟨rfl, rfl⟩ | ⟨rfl, rfl⟩ | ⟨rfl, rfl⟩
    all_goals rfl

/-- A decimal does not begin with the name of a radix. -/
theorem radix?_of_decimal? {read : Nat × Int} (success : decimal? cs = some read) :
    radix? cs = none := by
  rw [Option.eq_none_iff_forall_ne_some]
  rintro ⟨radix, rest⟩ found
  obtain ⟨mark, named, rfl⟩ := radix?_eq_some_iff.1 found
  have strange : ¬ mark.isDigit ∧ mark ≠ '.' ∧ mark ≠ 'e' ∧ mark ≠ 'E' := by
    have every : ∀ entry ∈ radixes,
        ¬ entry.1.isDigit ∧ entry.1 ≠ '.' ∧ entry.1 ≠ 'e' ∧ entry.1 ≠ 'E' := by decide
    exact every _ named
  obtain ⟨no_digit, no_point, no_power⟩ := strange
  simp [decimal?, fraction, exponent?, no_digit, no_point, no_power] at success

/-! ## Reading a number -/

variable {text : String} {x : Binary64}

theorem le_of_mem_radixes {mark : Char} (named : (mark, radix) ∈ radixes) : radix ≤ 36 := by
  have every : ∀ entry ∈ radixes, entry.2 ≤ 36 := by decide
  exact every _ named

/-- What is spelled is read. -/
theorem number_of_spells (spells : Spells (trim text.toList) x) : number text = x := by
  unfold number
  generalize trim text.toList = cs at spells ⊢
  cases spells with
  | blank => rfl
  | @radix mark radix value rest named digits =>
    have found : radix? ('0' :: mark :: rest) = some (radix, rest) :=
      radix?_eq_some_iff.2 ⟨mark, named, rfl⟩
    have read := (digits?_eq_some_iff (le_of_mem_radixes named)).2 digits
    simp only [found, read, Option.map_some, Option.getD_some]
  | infinity signed => cases signed <;> rfl
  | @decimal sign cs negative value power signed unsigned =>
    have read := decimal?_eq_some_iff.2 unsigned
    have parts := signed.sign_append (sign_of_decimal? read)
    have no_radix : radix? (sign ++ cs) = none := by
      cases signed with
      | none => exact radix?_of_decimal? read
      | plus => rfl
      | minus => rfl
    have finite : cs ≠ "Infinity".toList := by
      rintro rfl
      cases read
    split
    next empty =>
      obtain ⟨-, rfl⟩ := List.append_eq_nil_iff.1 empty
      cases read
    next => simp only [no_radix, parts, if_neg finite, read]

/-- What is read is spelled. -/
theorem spells_number (known : number text ≠ .nan) :
    Spells (trim text.toList) (number text) := by
  unfold number at known ⊢
  generalize trim text.toList = cs at known ⊢
  split at known
  next => exact .blank
  next =>
    cases found : radix? cs with
    | some named_rest =>
      obtain ⟨radix, rest⟩ := named_rest
      obtain ⟨mark, named, rfl⟩ := radix?_eq_some_iff.1 found
      simp only [found] at known ⊢
      cases read : digits? radix rest with
      | none =>
        rw [read] at known
        exact absurd rfl known
      | some value =>
        exact .radix named ((digits?_eq_some_iff (le_of_mem_radixes named)).1 read)
    | none =>
      obtain ⟨signed, is_sign, split⟩ := exists_sign cs
      simp only [found] at known ⊢
      generalize sign cs = parts at known is_sign split ⊢
      obtain ⟨negative, rest⟩ := parts
      simp only at known is_sign split ⊢
      subst split
      split at known
      next infinite =>
        rw [if_pos infinite, infinite]
        exact .infinity is_sign
      next finite =>
        rw [if_neg finite]
        cases read : decimal? rest with
        | none =>
          rw [read] at known
          exact absurd rfl known
        | some number => exact .decimal is_sign (decimal?_eq_some_iff.1 read)

theorem Spells.ne_nan (spells : Spells cs x) : x ≠ .nan := by
  cases spells with
  | blank => exact Binary64.ofDecimal_ne_nan
  | radix named digits => exact Binary64.ofDecimal_ne_nan
  | infinity signed => exact nofun
  | decimal signed unsigned => exact Binary64.ofDecimal_ne_nan

/-- A text is read as the number that it spells between its blanks, and as none if it spells none. -/
theorem number_eq_iff : number text = x ↔
    Spells (trim text.toList) x ∨ (x = .nan ∧ ∀ y, ¬ Spells (trim text.toList) y) := by
  constructor
  · rintro rfl
    by_cases known : number text = .nan
    · refine Or.inr ⟨known, fun y spells => spells.ne_nan ?_⟩
      rw [← number_of_spells spells, known]
    · exact Or.inl (spells_number known)
  · rintro (spells | ⟨rfl, none_spelled⟩)
    · exact number_of_spells spells
    · by_contra known
      exact none_spelled _ (spells_number known)

/-! ## Blanks around a number -/

theorem IsDigits.solid (digits : IsDigits radix cs value) (small : radix ≤ 36) : Solid cs := by
  obtain ⟨-, ds, each, -⟩ := digits
  induction each with
  | nil => exact nofun
  | cons stands _ ih =>
    obtain ⟨bounded, found⟩ := stands
    exact solid_cons_iff.2 ⟨isBlank_of_toNat (by omega) (by omega), ih⟩

theorem IsSign.solid {signed : List Char} (is_sign : IsSign signed negative) : Solid signed := by
  cases is_sign <;> decide

theorem IsPower.solid (scaled : IsPower cs power) : Solid cs := by
  cases scaled with
  | none => exact nofun
  | marked marked is_sign digits =>
    refine solid_cons_iff.2 ⟨?_, solid_append_iff.2 ⟨is_sign.solid, digits.solid (by decide)⟩⟩
    rcases marked with rfl | rfl <;> decide

theorem IsDecimal.solid (unsigned : IsDecimal cs value power) : Solid cs := by
  cases unsigned with
  | whole digits scaled => exact solid_append_iff.2 ⟨digits.solid (by decide), scaled.solid⟩
  | pointed digits scaled =>
    obtain ⟨before, behind⟩ := solid_append_iff.1 (digits.solid (by decide))
    exact solid_append_iff.2 ⟨before, solid_cons_iff.2
      ⟨by decide, solid_append_iff.2 ⟨behind, scaled.solid⟩⟩⟩

theorem Spells.solid (spells : Spells cs x) : Solid cs := by
  cases spells with
  | blank => exact nofun
  | @radix mark radix value rest named digits =>
    have marks : ∀ entry ∈ radixes, isBlank entry.1 = false := by decide
    exact solid_cons_iff.2 ⟨by decide, solid_cons_iff.2
      ⟨marks (mark, radix) named, digits.solid (le_of_mem_radixes named)⟩⟩
  | infinity signed => exact solid_append_iff.2 ⟨signed.solid, by decide⟩
  | decimal signed unsigned => exact solid_append_iff.2 ⟨signed.solid, unsigned.solid⟩

/-- A number is read in whatever blanks it stands. -/
theorem Spells.number_padded (spells : Spells cs x) {before after : List Char}
    (blank : ∀ c ∈ before, isBlank c = true) (blank_too : ∀ c ∈ after, isBlank c = true) :
    number (String.ofList (before ++ cs ++ after)) = x := by
  apply number_of_spells
  rwa [String.toList_ofList, trim_append blank blank_too, trim_of_solid spells.solid]

end Literal

/-! ## Whole numbers -/

namespace Binary64

variable {n num den : Nat} {negative : Bool}

/-- The leading binary digit of a ratio that is a whole number below `2 ^ 53`. -/
theorem leading_of_whole (positive : 0 < n) (small : n < 2 ^ 53) (den_pos : 0 < den) :
    ∃ power : Nat, Rounding.leading 2 (n * den) den = power ∧ power ≤ 52 ∧ n < 2 ^ (power + 1) := by
  have den_rat : (den : ℚ) ≠ 0 := by positivity
  have ratio : ((n * den : Nat) : ℚ) / den = n := by
    push_cast
    field_simp
  have proper : 2 ≤ 2 := le_rfl
  have lower := Rounding.leading_le proper (Nat.mul_pos positive den_pos) den_pos
  have upper : ((n * den : Nat) : ℚ) / den < (2 : Nat) ^ (Rounding.leading 2 (n * den) den + 1) :=
    Rounding.lt_leading proper den_pos
  rw [ratio] at lower upper
  generalize Rounding.leading 2 (n * den) den = power at lower upper ⊢
  have nonneg : 0 ≤ power := by
    have one_lt : (2 : ℚ) ^ (0 : ℤ) < 2 ^ (power + 1) := by
      rw [zpow_zero]
      have one_le : (1 : ℚ) ≤ n := by exact_mod_cast positive
      exact one_le.trans_lt (by exact_mod_cast upper)
    have := (zpow_lt_zpow_iff_right₀ (by norm_num)).1 one_lt
    omega
  obtain ⟨power, rfl⟩ := Int.eq_ofNat_of_zero_le nonneg
  refine ⟨power, rfl, ?_, by exact_mod_cast upper⟩
  have less : 2 ^ power < 2 ^ 53 := lt_of_le_of_lt (by exact_mod_cast lower) small
  have := (Nat.pow_lt_pow_iff_right (by decide)).1 less
  omega

/-- A ratio that is a whole number below `2 ^ 53` is not rounded. -/
theorem whole?_ofRatio (den_pos : 0 < den) (small : n < 2 ^ 53) :
    (ofRatio negative (n * den) den).whole? = some (if negative then -(n : Int) else n) := by
  rcases Nat.eq_zero_or_pos n with rfl | positive
  · simp [ofRatio, whole?]
  obtain ⟨power, leading, few, bounded⟩ := leading_of_whole positive small den_pos
  -- the last binary digit of the mantissa counts `2 ^ -shift`
  obtain ⟨shift, shift_eq⟩ : ∃ shift : Nat, power + shift = 52 := ⟨52 - power, by omega⟩
  have last : max (Rounding.leading 2 (n * den) den - 52) leastExponent = -(shift : Int) := by
    rw [leading, leastExponent]
    omega
  have mantissa : Rounding.atExponent 2 (-(shift : Int)) (n * den) den = n * 2 ^ shift := by
    have kept :=
      Rounding.atExponent_eq_halfEven (by decide : 0 < 2) den_pos (n * den) (-(shift : Int))
    have den_rat : (den : ℚ) ≠ 0 := by positivity
    have whole : ((n * den : Nat) : ℚ) / den / (2 : Nat) ^ (-(shift : Int)) =
        ((n * 2 ^ shift : Nat) : ℤ) := by
      rw [zpow_neg, zpow_natCast]
      push_cast
      field_simp
    rw [whole, halfEven_intCast] at kept
    exact_mod_cast kept
  have fits : n * 2 ^ shift < 2 ^ 53 :=
    calc n * 2 ^ shift < 2 ^ (power + 1) * 2 ^ shift := by gcongr
      _ = 2 ^ 53 := by rw [← Nat.pow_add]; congr 1; omega
  have nonzero : n * den ≠ 0 := (Nat.mul_pos positive den_pos).ne'
  simp only [ofRatio, if_neg nonzero, last, mantissa, Nat.pow_eq, if_neg fits.ne]
  rw [if_neg (by omega)]
  simp [whole?]

/-- A whole number below `2 ^ 53` has few digits before its point. -/
theorem length_of_whole {value : Nat} {exponent : Int} (amount : (value : ℚ) * 10 ^ exponent = n)
    (value_pos : 0 < value) (small : n < 2 ^ 53) :
    0 < exponent + (Digits.digits 10 value).length ∧
      exponent + (Digits.digits 10 value).length ≤ 17 := by
  have proper : 2 ≤ 10 := by decide
  have upper : (value : ℚ) < 10 ^ (Digits.digits 10 value).length := by
    exact_mod_cast Digits.lt_pow_length proper value
  have lower : (10 : ℚ) ^ (Digits.digits 10 value).length ≤ value * 10 := by
    exact_mod_cast Digits.pow_length_le proper value_pos
  generalize (Digits.digits 10 value).length = length at lower upper ⊢
  have scale_pos : (0 : ℚ) < 10 ^ exponent := by positivity
  have positive : (1 : ℚ) ≤ n := by
    have above : (0 : ℚ) < n := by
      rw [← amount]
      positivity
    exact_mod_cast above
  have small_rat : (n : ℚ) < 2 ^ 53 := by exact_mod_cast small
  have split : (10 : ℚ) ^ (exponent + length) = 10 ^ length * 10 ^ exponent := by
    rw [add_comm, zpow_add₀ (by norm_num), zpow_natCast]
  constructor
  · have one_lt : (10 : ℚ) ^ (0 : ℤ) < 10 ^ (exponent + length) :=
      calc (10 : ℚ) ^ (0 : ℤ) ≤ value * 10 ^ exponent := by rw [zpow_zero, amount]; exact positive
        _ < 10 ^ length * 10 ^ exponent := by gcongr
        _ = 10 ^ (exponent + length) := split.symm
    exact (zpow_lt_zpow_iff_right₀ (by norm_num)).1 one_lt
  · have less : (10 : ℚ) ^ (exponent + length) < 10 ^ (17 : ℤ) :=
      calc (10 : ℚ) ^ (exponent + length) = 10 ^ length * 10 ^ exponent := split
        _ ≤ value * 10 * 10 ^ exponent := by gcongr
        _ = n * 10 := by rw [← amount]; ring
        _ < 10 ^ (17 : ℤ) := by norm_num; linarith
    exact ((zpow_lt_zpow_iff_right₀ (by norm_num)).1 less).le

/-- A decimal that is a whole number below `2 ^ 53` is that number, whatever its notation. -/
theorem whole?_ofDecimal {value : Nat} {exponent : Int}
    (amount : (value : ℚ) * 10 ^ exponent = n) (small : n < 2 ^ 53) :
    (ofDecimal negative value exponent).whole? = some (if negative then -(n : Int) else n) := by
  rcases Nat.eq_zero_or_pos value with rfl | value_pos
  · have zero : n = 0 := by simpa using amount.symm
    simp [ofDecimal, whole?, zero]
  obtain ⟨above, below⟩ := length_of_whole amount value_pos small
  have ratio : value * 10 ^ exponent.toNat = n * 10 ^ (-exponent).toNat := by
    have moved := Rounding.pow_toNat (by decide : 0 < 10) exponent
    have ratio_rat : (value : ℚ) * (10 : Nat) ^ exponent.toNat = n * (10 : Nat) ^ (-exponent).toNat := by
      rw [moved, ← mul_assoc, ← amount]
      push_cast
      rfl
    exact_mod_cast ratio_rat
  simp only [ofDecimal, Nat.pow_eq]
  rw [if_neg (by omega), if_neg (by omega), ratio]
  exact whole?_ofRatio (Nat.pow_pos (by decide)) small

theorem whole?_ofNat (small : n < 2 ^ 53) : (ofNat n).whole? = some (n : Int) :=
  whole?_ofDecimal (by simp) small

end Binary64
end SlabBook
