import Mathlib.Data.List.Forall2
import SlabBook.Book.Order
import SlabBook.Proofs.NumberGrammar

/-!
# The words of a description

A described side is a text of lines, and a line consists of words with blanks between them.  The words
are numbers, addresses and names, which hold neither blanks nor line ends.  So the text can be taken
apart again, and every word is where it was put.

* `Text.pieces_intercalate` — a text that was put together is taken apart;
* `Text.solid_number`, `Text.solid_decimal`, `Text.solid_address` — what holds no blank;
* `BookSide.words_described` — the words of the lines of a description.
-/

namespace SlabBook

/-! ## Pieces of a text -/

namespace Text

variable {separator c : Char} {parts : List String} {run rest : List Char}

/-- The pieces between the separators of a text. -/
def pieces (separator : Char) (text : String) : List String :=
  (text.toList.splitOn separator).map String.ofList

def words (line : String) : List String := pieces ' ' line

def lines (text : String) : List String := pieces '\n' text

/-- What was put together of parts without separators is taken apart into them. -/
theorem pieces_intercalate (free : ∀ part ∈ parts, separator ∉ part.toList) (nonempty : parts ≠ []) :
    pieces separator ((String.singleton separator).intercalate parts) = parts := by
  have split : ([separator].intercalate (parts.map String.toList)).splitOn separator =
      parts.map String.toList := by
    refine List.splitOn_intercalate separator ?_ (by simpa using nonempty)
    simpa using free
  rw [pieces, String.toList_intercalate, String.toList_singleton, split, List.map_map]
  exact List.map_id'' (fun part => String.ofList_toList) parts

/-! ## Text without blanks -/

theorem Solid.subset (solid : Solid run) (subset : rest ⊆ run) : Solid rest :=
  fun c member => solid c (subset member)

theorem solid_replicate (count : Nat) (plain : isBlank c = false) : Solid (List.replicate count c) :=
  fun _ member => List.eq_of_mem_replicate member ▸ plain

theorem Solid.not_mem (solid : Solid run) (blank : isBlank c = true) : c ∉ run := by
  intro member
  rw [solid c member] at blank
  cases blank

theorem words_intercalate (solid : ∀ part ∈ parts, Solid part.toList) (nonempty : parts ≠ []) :
    words (" ".intercalate parts) = parts :=
  pieces_intercalate (fun part member => (solid part member).not_mem rfl) nonempty

theorem isBlank_of_isDigit (digit : c.isDigit = true) : isBlank c = false := by
  have bounds : 48 ≤ c.toNat ∧ c.toNat ≤ 57 := Char.isDigit_iff_toNat.1 digit
  exact isBlank_of_toNat (by omega) (by omega)

end Text

/-! ## Numbers and addresses -/

namespace Digits

theorem digitChar_eq {d : Nat} (bounded : d < 10) : digitChar d = d.digitChar := by
  have every : ∀ d < 10, digitChar d = d.digitChar := by decide
  exact every d bounded

theorem chars_eq {value : Nat} (nonzero : value ≠ 0) : chars value = Nat.toDigits 10 value := by
  induction value using Nat.strongRecOn with
  | ind value ih =>
    have last : digitChar (value % 10) = (value % 10).digitChar :=
      digitChar_eq (Nat.mod_lt value (by decide))
    rw [chars, digits, dif_neg (by omega), List.map_append, List.map_singleton, last]
    by_cases short : value < 10
    · rw [Nat.toDigits_of_lt_base short, Nat.div_eq_of_lt short, Nat.mod_eq_of_lt short, digits,
        dif_pos (.inl rfl)]
      rfl
    · rw [Nat.toDigits_of_base_le (by decide) (Nat.le_of_not_lt short),
        ← ih (value / 10) (by omega) (by omega), chars]

/-- A number is written as it always is. -/
theorem toText_eq (value : Nat) : toText value = toString value := by
  unfold toText
  split
  next zero => rw [zero]; rfl
  next nonzero => rw [chars_eq nonzero]; rfl

end Digits

namespace Text

theorem solid_number (value : Nat) : Solid (toString value).toList := by
  intro c member
  exact isBlank_of_isDigit (Nat.isDigit_of_mem_toDigits (by decide) (by decide)
    (Nat.toList_repr ▸ member))

theorem solid_chars (value : Nat) : Solid (Digits.chars value) := by
  intro c member
  obtain ⟨d, among, rfl⟩ := List.mem_map.1 member
  exact isBlank_of_isDigit
    (Literal.isDigit_digitChar (Digits.digits_lt (by decide) value d among))

theorem solid_plain (value : Nat) (exponent : Int) :
    Solid (Digits.plain (Digits.chars value) exponent) := by
  have written := solid_chars value
  unfold Digits.plain
  dsimp only
  split
  · exact solid_append_iff.2 ⟨written, solid_replicate _ rfl⟩
  · split
    · exact solid_append_iff.2 ⟨written.subset (List.take_subset ..),
        solid_cons_iff.2 ⟨rfl, written.subset (List.drop_subset ..)⟩⟩
    · exact solid_append_iff.2 ⟨solid_cons_iff.2 ⟨rfl, solid_cons_iff.2
        ⟨rfl, solid_replicate _ rfl⟩⟩, written⟩

theorem solid_scientific (value : Nat) (leading : Int) :
    Solid (Digits.scientific (Digits.chars value) leading) := by
  have written := solid_chars value
  have power : Solid (Digits.toText leading.natAbs).toList :=
    (Digits.toText_eq _).symm ▸ solid_number _
  unfold Digits.scientific
  dsimp only
  refine solid_append_iff.2 ⟨solid_append_iff.2 ⟨written.subset (List.take_subset ..), ?_⟩,
    solid_cons_iff.2 ⟨rfl, solid_cons_iff.2 ⟨?_, power⟩⟩⟩
  · split
    · nofun
    · exact solid_cons_iff.2 ⟨rfl, written.subset (List.drop_subset ..)⟩
  · split <;> rfl

theorem solid_decimal (x : Decimal) : Solid x.toText.toList := by
  have sign (negative : Bool) : Solid (Digits.signText negative).toList := by
    cases negative <;> decide
  cases x with
  | nan => decide
  | infinite negative =>
    rw [Decimal.toText, String.toList_append]
    exact solid_append_iff.2 ⟨sign negative, by decide⟩
  | finite negative coefficient exponent =>
    rw [Decimal.toText]
    split
    · decide
    · rw [String.toList_append, Digits.place, String.toList_ofList]
      refine solid_append_iff.2 ⟨sign negative, ?_⟩
      split
      · exact solid_plain coefficient exponent
      · exact solid_scientific coefficient _

theorem solid_address (address : Address) : Solid address.toText.toList := by
  have every : ∀ d < 58, isBlank (Base58.digit d) = false := by decide +kernel
  rw [Address.toText, Base58.encode, String.toList_ofList]
  refine solid_append_iff.2 ⟨solid_replicate _ rfl, fun c member => ?_⟩
  obtain ⟨d, among, rfl⟩ := List.mem_map.1 member
  exact every d (Digits.digits_lt (by decide) _ d among)

/-- The line consists of the parts, which have no blanks, with one blank between them. -/
structure Consists (line : String) (parts : List String) : Prop where
  solid : ∀ part ∈ parts, Solid part.toList
  nonempty : parts ≠ []
  text : line = " ".intercalate parts

theorem Consists.words {line : String} (consists : Consists line parts) :
    Text.words line = parts := by
  rw [consists.text, words_intercalate consists.solid consists.nonempty]

theorem not_mem_intercalate {texts : List (List Char)} (different : c ≠ separator)
    (absent : ∀ text ∈ texts, c ∉ text) : c ∉ [separator].intercalate texts := by
  induction texts with
  | nil => nofun
  | cons text rest ih =>
    obtain ⟨first, others⟩ := List.forall_mem_cons.1 absent
    cases rest with
    | nil => rwa [List.intercalate_singleton]
    | cons next later =>
      rw [List.intercalate_cons_cons, List.append_assoc]
      simpa [first, different] using ih others

/-- A line does not end before its last word. -/
theorem Consists.unbroken {line : String} (consists : Consists line parts) :
    '\n' ∉ line.toList := by
  rw [consists.text, String.toList_intercalate]
  refine not_mem_intercalate (by decide) fun text member => ?_
  obtain ⟨part, among, rfl⟩ := List.mem_map.1 member
  exact (consists.solid part among).not_mem rfl

theorem consist_lines {written : List String} {rows : List (List String)}
    (consist : List.Forall₂ Consists written rows) :
    (∀ line ∈ written, '\n' ∉ line.toList) ∧ written.map words = rows := by
  induction consist with
  | nil => exact ⟨nofun, rfl⟩
  | cons consists _ ih =>
    exact ⟨List.forall_mem_cons.2 ⟨consists.unbroken, ih.1⟩,
      by rw [List.map_cons, consists.words, ih.2]⟩

/-- A text of lines is taken apart into the words of each. -/
theorem words_lines {written : List String} {rows : List (List String)}
    (consist : List.Forall₂ Consists written rows) (nonempty : written ≠ []) :
    (lines ("\n".intercalate written)).map words = rows := by
  obtain ⟨unbroken, rows_eq⟩ := consist_lines consist
  have apart : lines ("\n".intercalate written) = written := pieces_intercalate unbroken nonempty
  rw [apart, rows_eq]

theorem forall₂_consists {β : Type} {write : β → String} {parts : β → List String}
    (consists : ∀ item, Consists (write item) (parts item)) (items : List β) :
    List.Forall₂ Consists (items.map write) (items.map parts) :=
  List.forall₂_map_left_iff.2 (List.forall₂_map_right_iff.2
    (List.forall₂_same.2 fun item _ => consists item))

end Text

/-! ## The lines of a description -/

open Text

/-- The words of a printed order: the side, the quantity and the price, and by name the numbers of the
order and its owner. -/
def Order.words (order : Order) : List String :=
  [match order.side with
    | .buy => "buy"
    | .sell => "sell",
    order.quantity.toText, "@", order.price.toText, "id=" ++ toString order.key.toNat,
    "client=" ++ toString order.clientOrderId.toNat, "owner=" ++ order.owner.toText]

theorem intercalate_line (side quantity price id client owner : String) :
    "  " ++ side ++ " " ++ quantity ++ " @ " ++ price ++ " id=" ++ id ++ " client=" ++ client ++
      " owner=" ++ owner = " ".intercalate ["", "", side, quantity, "@", price, "id=" ++ id,
        "client=" ++ client, "owner=" ++ owner] := by
  rw [← String.toList_inj]
  simp

theorem Order.consists_line (order : Order) : Consists order.line ("" :: "" :: order.words) where
  solid := by
    have named (name : String) (plain : Solid name.toList) {value : String}
        (solid : Solid value.toList) : Solid (name ++ value).toList := by
      rw [String.toList_append]
      exact solid_append_iff.2 ⟨plain, solid⟩
    simp only [words, List.forall_mem_cons]
    refine ⟨by decide, by decide, ?_, solid_decimal _, by decide, solid_decimal _,
      named "id=" (by decide) (solid_number _), named "client=" (by decide) (solid_number _),
      named "owner=" (by decide) (solid_address _), nofun⟩
    cases order.side <;> decide
  nonempty := nofun
  text := by
    have side : order.side.toText = match order.side with | .buy => "buy" | .sell => "sell" := by
      cases order.side <;> rfl
    rw [words, ← side, ← Digits.toText_eq, ← Digits.toText_eq]
    exact intercalate_line ..

/-- The words of the lines that head a description. -/
def BookSide.heading (side : BookSide) : List (List String) :=
  let h := side.header
  [["BookSide", side.kind.toText, "[" ++ side.address.toText ++ "]"],
    ["", "", "Version:", toString h.metadata.version.toNat, "Initialized:",
      toString h.metadata.isInitialized],
    ["", "", "Bump", "Index:", toString h.bumpIndex.toNat],
    ["", "", "Free", "List:", toString h.freeListHead.toNat, "(head)",
      toString h.freeListLen.toNat, "(length)"],
    ["", "", "Root", "Node:", toString h.rootNode.toNat],
    ["", "", "Leaf", "Count:", toString h.leafCount.toNat]]

theorem consist_heading {kind address version initialized bump head length root leaves : String}
    (solid : ∀ part ∈ [kind, address, version, initialized, bump, head, length, root, leaves],
      Solid part.toList) :
    List.Forall₂ Consists
      ["BookSide " ++ kind ++ " [" ++ address ++ "]",
        "  Version: " ++ version ++ " Initialized: " ++ initialized,
        "  Bump Index: " ++ bump,
        "  Free List: " ++ head ++ " (head) " ++ length ++ " (length)",
        "  Root Node: " ++ root,
        "  Leaf Count: " ++ leaves]
      [["BookSide", kind, "[" ++ address ++ "]"],
        ["", "", "Version:", version, "Initialized:", initialized],
        ["", "", "Bump", "Index:", bump],
        ["", "", "Free", "List:", head, "(head)", length, "(length)"],
        ["", "", "Root", "Node:", root],
        ["", "", "Leaf", "Count:", leaves]] := by
  simp only [List.forall_mem_cons] at solid
  obtain ⟨kind_solid, address_solid, version_solid, initialized_solid, bump_solid, head_solid,
    length_solid, root_solid, leaves_solid, -⟩ := solid
  have bracketed : Solid ("[" ++ address ++ "]").toList := by
    rw [String.toList_append, String.toList_append]
    exact solid_append_iff.2 ⟨solid_append_iff.2 ⟨by decide, address_solid⟩, by decide⟩
  have line {line : String} {parts : List String} (nonempty : parts ≠ [])
      (chars : line.toList = (" ".intercalate parts).toList)
      (solid : ∀ part ∈ parts, Solid part.toList) : Consists line parts :=
    ⟨solid, nonempty, String.toList_inj.1 chars⟩
  refine .cons (line nofun (by simp) ?_) (.cons (line nofun (by simp) ?_) (.cons
    (line nofun (by simp) ?_) (.cons (line nofun (by simp) ?_) (.cons (line nofun (by simp) ?_)
      (.cons (line nofun (by simp) ?_) .nil)))))
  all_goals simp only [List.forall_mem_cons]
  · exact ⟨by decide, kind_solid, bracketed, nofun⟩
  · exact ⟨by decide, by decide, by decide, version_solid, by decide, initialized_solid, nofun⟩
  · exact ⟨by decide, by decide, by decide, by decide, bump_solid, nofun⟩
  · exact ⟨by decide, by decide, by decide, by decide, head_solid, by decide, length_solid,
      by decide, nofun⟩
  · exact ⟨by decide, by decide, by decide, by decide, root_solid, nofun⟩
  · exact ⟨by decide, by decide, by decide, by decide, leaves_solid, nofun⟩

theorem BookSide.consist_headerLines (side : BookSide) :
    List.Forall₂ Consists side.headerLines side.heading := by
  refine consist_heading ?_
  simp only [List.forall_mem_cons]
  refine ⟨?_, solid_address _, solid_number _, ?_, solid_number _, solid_number _, solid_number _,
    solid_number _, solid_number _, nofun⟩
  · cases side.kind <;> decide
  · cases side.header.metadata.isInitialized <;> decide

/-- The lines of a description are those of the header, one for each order, and a mark if there are
more. -/
theorem BookSide.words_described (side : BookSide) (orders : List Order) (more : Prop)
    [Decidable more] :
    (lines ("\n".intercalate (side.headerLines ++ orders.map Order.line ++
      if more then ["  ..."] else []))).map words =
        side.heading ++ orders.map (fun order => "" :: "" :: order.words) ++
          if more then [["", "", "..."]] else [] := by
  have mark : Consists "  ..." ["", "", "..."] := ⟨by decide, nofun, by decide⟩
  have marked : List.Forall₂ Consists (if more then ["  ..."] else [])
      (if more then [["", "", "..."]] else []) := by
    split
    · exact .cons mark .nil
    · exact .nil
  exact words_lines (List.rel_append (List.rel_append side.consist_headerLines
    (forall₂_consists Order.consists_line orders)) marked) (by simp [headerLines])

end SlabBook
