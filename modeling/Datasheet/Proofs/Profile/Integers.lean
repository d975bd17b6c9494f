import Datasheet.Profile.Basic
import Datasheet.Proofs.Binary64.Integers
import Datasheet.Proofs.Profile.Frequency
import Datasheet.Proofs.Profile.Numeric
import Mathlib.Data.Finset.Image

/-!
# Columns of integers

A column whose cells are all texts of integers has the type of integers, but its cells
are counted by the numbers nearest them (`Column.map_countingKey`), of which there are
fewer:

* `Profile.ofColumn_integers`: the distinct numbers are counted, not the distinct
  integers. The two agree if no two integers are rounded to one number, as is the case
  up to a magnitude of `2 ^ 53`.
-/

namespace Datasheet

/-- The integer that a text spells. -/
def Cell.integer? : Cell → Option Int
  | text s => parseInt64? (trim s.toList)
  | _ => none

/-- What an integer is counted as: the text of the number nearest it. -/
def integerKey (i : Int) : String := .ofList (Binary64.ofInt i).compact

theorem Cell.countingKey_of_integer? {cell : Cell} {i : Int} (h : cell.integer? = some i) :
    cell.countingKey .integer = integerKey i := by
  cases cell with
  | missing | number x | bool b => cases h
  | text s =>
    obtain ⟨x, hparse, hfinite⟩ := exists_parse?_of_parseInt64? h
    have hnumber : (text s).number? = some x := by
      simp [number?, finiteNumber?, hparse, hfinite]
    have hcompact := Binary64.compact_of_parseInt64? h
    rw [hparse, Option.map_some, Option.some.injEq] at hcompact
    rw [countingKey, hnumber, integerKey, ← hcompact]
    rfl

namespace Column

/-- All cells that hold a value are texts of integers. -/
def SpellsIntegers (c : Column) : Prop := ∀ cell ∈ c.present, cell.integer?.isSome

/-- The integers of the cells, in their order. -/
def integers (c : Column) : List Int := c.cells.filterMap Cell.integer?

variable {c : Column} (h : c.SpellsIntegers)

theorem natAbs_le_of_mem {i : Int} (hi : i ∈ c.integers) : i.natAbs ≤ Word.signedLimit := by
  obtain ⟨cell, -, hcell⟩ := List.mem_filterMap.mp hi
  cases cell with
  | text s => exact Binary64.natAbs_le_of_parseInt64? hcell
  | _ => cases hcell

theorem integerKey_eq_iff {i j : Int} (hi : i ∈ c.integers) (hj : j ∈ c.integers) :
    integerKey i = integerKey j ↔ Binary64.ofInt i = Binary64.ofInt j := by
  rw [integerKey, integerKey, String.ofList_inj]
  exact ⟨Binary64.ofInt_eq_of_compact (natAbs_le_of_mem hi) (natAbs_le_of_mem hj),
    congrArg Binary64.compact⟩

/-- There are as many texts to count by as numbers. -/
theorem card_integerKeys : (c.integers.map integerKey).toFinset.card =
    (c.integers.toFinset.image Binary64.ofInt).card := by
  have himage : (c.integers.map integerKey).toFinset =
      (c.integers.toFinset.image Binary64.ofInt).image fun x => String.ofList x.compact := by
    ext key
    simp [integerKey]
  rw [himage, Finset.card_image_iff]
  intro x hx y hy heq
  obtain ⟨i, hi, rfl⟩ := Finset.mem_image.mp hx
  obtain ⟨j, hj, rfl⟩ := Finset.mem_image.mp hy
  exact (integerKey_eq_iff (List.mem_toFinset.mp hi) (List.mem_toFinset.mp hj)).mp heq

theorem count_integerKey {i : Int} (hi : i ∈ c.integers) :
    (c.integers.map integerKey).count (integerKey i) =
      c.integers.countP fun j => Binary64.ofInt j = Binary64.ofInt i := by
  rw [List.count_eq_countP, List.countP_map]
  refine List.countP_congr fun j hj => ?_
  rw [Function.comp_apply, beq_iff_eq, decide_eq_true_eq]
  exact integerKey_eq_iff hj hi

theorem countP_eq_count (hinj : Set.InjOn Binary64.ofInt c.integers.toFinset) {i : Int}
    (hi : i ∈ c.integers) :
    (c.integers.countP fun j => Binary64.ofInt j = Binary64.ofInt i) = c.integers.count i := by
  rw [List.count_eq_countP]
  refine List.countP_congr fun j hj => ?_
  rw [decide_eq_true_eq, beq_iff_eq]
  exact hinj.eq_iff (List.mem_toFinset.mpr hj) (List.mem_toFinset.mpr hi)

theorem injOn_ofInt (hsmall : ∀ i ∈ c.integers, i.natAbs ≤ 2 ^ 53) :
    Set.InjOn Binary64.ofInt c.integers.toFinset := fun i hi j hj heq =>
  Binary64.eq_of_ofInt (hsmall i (List.mem_toFinset.mp hi)) (hsmall j (List.mem_toFinset.mp hj)) heq

include h

theorem type_eq_integer (hne : c.present ≠ []) : c.type = .integer := by
  have hall : c.present.all Cell.isInteger := List.all_eq_true.mpr fun cell hcell => by
    have hsome := h cell hcell
    cases cell with
    | text s => exact hsome
    | _ => cases hsome
  rw [type, ColumnType.ofPresent, if_neg (by simpa using hne), if_pos hall]

/-- The cells are counted by the numbers nearest their integers. -/
theorem map_countingKey : c.present.map (Cell.countingKey c.type) = c.integers.map integerKey := by
  have hpresent : c.integers = c.present.filterMap Cell.integer? := by
    rw [integers, present, List.filterMap_filter]
    refine List.filterMap_congr fun cell _ => ?_
    cases cell <;> rfl
  rw [hpresent, List.map_filterMap, eq_comm, List.filterMap_eq_map_iff_forall_eq_some]
  intro cell hcell
  obtain ⟨i, hi⟩ := Option.isSome_iff_exists.mp (h cell hcell)
  rw [type_eq_integer h (List.ne_nil_of_mem hcell), Cell.countingKey_of_integer? hi, hi]
  rfl

end Column

namespace Profile

/-- A column of texts of integers counts the distinct numbers nearest them, each with the
cells of all integers that it is nearest to. These are the distinct integers if and only if
no two of them are rounded to one number, as is the case up to a magnitude of `2 ^ 53`. -/
theorem ofColumn_integers (rows : Nat) {c : Column} (h : c.SpellsIntegers) :
    (c.present ≠ [] → (ofColumn rows c).type = .integer) ∧
      (ofColumn rows c).unique = (c.integers.toFinset.image Binary64.ofInt).card ∧
      (∀ entry ∈ (ofColumn rows c).top, ∃ i ∈ c.integers,
        entry = (integerKey i,
          c.integers.countP fun j => Binary64.ofInt j = Binary64.ofInt i)) ∧
      ((ofColumn rows c).unique = c.integers.toFinset.card ↔
        Set.InjOn Binary64.ofInt c.integers.toFinset) ∧
      (Set.InjOn Binary64.ofInt c.integers.toFinset → ∀ entry ∈ (ofColumn rows c).top,
        ∃ i ∈ c.integers, entry = (integerKey i, c.integers.count i)) ∧
      ((∀ i ∈ c.integers, i.natAbs ≤ 2 ^ 53) →
        Set.InjOn Binary64.ofInt c.integers.toFinset) := by
  have hkeys : (ofColumn rows c).unique = (distinct (c.integers.map integerKey)).length ∧
      (ofColumn rows c).top = (ranking (c.integers.map integerKey)).take topValues := by
    rw [← Column.map_countingKey h]
    exact ⟨rfl, rfl⟩
  have hunique : (ofColumn rows c).unique =
      (c.integers.toFinset.image Binary64.ofInt).card := by
    rw [hkeys.1, length_distinct, Column.card_integerKeys]
  have htop : ∀ entry ∈ (ofColumn rows c).top, ∃ i ∈ c.integers, entry = (integerKey i,
      c.integers.countP fun j => Binary64.ofInt j = Binary64.ofInt i) := by
    intro entry hentry
    rw [hkeys.2] at hentry
    obtain ⟨key, hkey, rfl⟩ := mem_ranking.mp (List.mem_of_mem_take hentry)
    obtain ⟨i, hi, rfl⟩ := List.mem_map.mp hkey
    exact ⟨i, hi, by rw [Column.count_integerKey hi]⟩
  refine ⟨Column.type_eq_integer h, hunique, htop, ?_, fun hinj entry hentry => ?_,
    Column.injOn_ofInt⟩
  · rw [hunique, Finset.card_image_iff]
  · obtain ⟨i, hi, rfl⟩ := htop entry hentry
    exact ⟨i, hi, by rw [Column.countP_eq_count hinj hi]⟩

/-- Integers with signs, leading zeros and white space, up to the last that is exact. -/
def identifiers : Column :=
  ⟨"id", [.text "7", .missing, .text " +7 ", .text "-0", .text "00",
    .text "9007199254740992", .text "-9007199254740991"]⟩

theorem ofColumn_identifiers :
    identifiers.SpellsIntegers ∧
      identifiers.integers = [7, 7, 0, 0, 9007199254740992, -9007199254740991] ∧
      (ofColumn 7 identifiers).type = .integer ∧ (ofColumn 7 identifiers).unique = 4 ∧
      ∀ entry ∈ (ofColumn 7 identifiers).top, ∃ i ∈ identifiers.integers,
        entry = (integerKey i, identifiers.integers.count i) := by
  have h : identifiers.SpellsIntegers := by unfold Column.SpellsIntegers; decide
  have hints : identifiers.integers = [7, 7, 0, 0, 9007199254740992, -9007199254740991] := by
    decide
  obtain ⟨htype, -, -, hunique, htop, hinj⟩ := ofColumn_integers 7 h
  have hexact := hinj (by rw [hints]; decide)
  refine ⟨h, hints, htype (by decide), ?_, htop hexact⟩
  rw [hunique.mpr hexact, hints]
  decide

/-- The first two integers that are rounded to one number are counted as one value. -/
theorem neighbours_counted_as_one :
    let c : Column := ⟨"id", [.text "9007199254740992", .text "9007199254740993"]⟩
    c.SpellsIntegers ∧ c.integers = [9007199254740992, 9007199254740993] ∧
      c.integers.toFinset.card = 2 ∧ (ofColumn 2 c).unique = 1 ∧
      (ofColumn 2 c).top = [("9007199254740992", 2)] := by
  intro c
  have h : c.SpellsIntegers := by unfold Column.SpellsIntegers; decide
  exact ⟨h, by decide, by decide, by decide +kernel, by decide +kernel⟩

end Profile

end Datasheet
