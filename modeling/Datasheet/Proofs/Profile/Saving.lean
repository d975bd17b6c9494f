import Datasheet.Proofs.Binary64.Reading
import Datasheet.Proofs.Csv.RoundTrip
import Datasheet.Proofs.Profile.Numeric

/-!
# Column types of a table that is saved

A table that is written and read again has texts where it had numbers and truth values.
Each of them is still the number or the truth value that it was:

* `Cell.isSome_number?_saved`, `Cell.isSome_bool?_saved`: the text of a cell has a number
  or a truth value whenever the cell has one;
* `Cell.isInteger_saved`: it is an integer if the cell is, unless that is a number whose
  magnitude is `2 ^ 63` or more, since a text is read as an integer of 64 bits;
* `Profile.types_saved`: so all columns keep their types, but for integers with such a
  number among them, which become floats.
-/

namespace Datasheet

namespace Cell

/-- What can be told from its text again: a number has to be finite, and a text none of
those that stand for a missing value. -/
def Savable : Cell → Prop
  | number x => x.isFinite
  | text s => s ∉ missingTexts
  | missing | bool _ => True

instance (c : Cell) : Decidable c.Savable := by
  cases c <;> unfold Savable <;> infer_instance

/-- The cell that is read from the text of a cell. -/
def saved (c : Cell) : Cell := .ofField c.display

/-- A number that is too great for an integer of 64 bits. -/
def exceedsWord : Cell → Bool
  | number x => Word.signedLimit * Binary64.one ≤ x.units
  | _ => false

theorem saved_text {s : String} (h : s ∉ missingTexts) : (text s).saved = text s := if_neg h

theorem saved_bool (b : Bool) : (bool b).saved = text (boolText b) := by
  cases b <;> decide

theorem finiteNumber?_compact {x : Binary64} (hx : x.isFinite) :
    finiteNumber? (.ofList x.compact) = some (if x.isZero then .zero false else x) := by
  rw [finiteNumber?, String.toList_ofList, Binary64.trim_compact hx, Binary64.parse?_compact hx]
  split
  · rfl
  · exact Option.filter_some_pos hx

/-- A text that is a number does not stand for a missing value. -/
theorem notMem_missingTexts {s : String} (h : (finiteNumber? s).isSome) : s ∉ missingTexts := by
  have hnone : ∀ t ∈ missingTexts, finiteNumber? t = none := by decide
  intro hs
  rw [hnone s hs] at h
  cases h

theorem saved_number {x : Binary64} (hx : x.isFinite) :
    (number x).saved = text (.ofList x.compact) :=
  saved_text (notMem_missingTexts (by rw [finiteNumber?_compact hx]; rfl))

/-- No text is both a truth value and a number: neither word for one begins like a
numeral, or is infinity or NaN. -/
theorem bool?_eq_none_of_number? {c : Cell} (h : c.number?.isSome) : c.bool? = none := by
  cases c with
  | missing | bool b => cases h
  | number x => rfl
  | text s =>
    have hword {c : Char} {cs : List Char} (hlower : (trim s.toList).map Char.toLower = c :: cs)
        (hc : c = 't' ∨ c = 'f') : False := by
      obtain ⟨d, ds, htrim, rfl, -⟩ := List.map_eq_cons_iff.mp hlower
      rw [number?, finiteNumber?, htrim, Binary64.parse?_eq_none_of_letter hc] at h
      cases h
    rw [bool?]
    split
    · exact (hword ‹_› (.inl rfl)).elim
    · split
      · exact (hword ‹_› (.inr rfl)).elim
      · rfl

variable {c : Cell} (hc : c.Savable)

include hc

theorem isMissing_saved : c.saved.isMissing = c.isMissing := by
  cases c with
  | missing => rfl
  | text s => rw [saved_text hc]
  | number x => rw [saved_number hc]; rfl
  | bool b => rw [saved_bool]; rfl

theorem isSome_number?_saved : c.saved.number?.isSome = c.number?.isSome := by
  cases c with
  | missing => rfl
  | text s => rw [saved_text hc]
  | number x =>
    have hsome : (finiteNumber? (.ofList x.compact)).isSome := by
      rw [finiteNumber?_compact hc]
      rfl
    rw [saved_number hc]
    exact hsome
  | bool b => rw [saved_bool]; cases b <;> decide

theorem isSome_bool?_saved : c.saved.bool?.isSome = c.bool?.isSome := by
  cases c with
  | missing => rfl
  | text s => rw [saved_text hc]
  | number x =>
    have hnumber : (number x).saved.number?.isSome := by rw [isSome_number?_saved hc]; rfl
    rw [bool?_eq_none_of_number? hnumber]
    rfl
  | bool b => rw [saved_bool]; cases b <;> decide

theorem isInteger_saved : c.saved.isInteger = (c.isInteger && !c.exceedsWord) := by
  cases c with
  | missing => rfl
  | text s =>
    rw [saved_text hc]
    exact (Bool.and_true _).symm
  | number x =>
    have hinteger : (text (.ofList x.compact)).isInteger = (parseInt64? x.compact).isSome := by
      rw [← Binary64.trim_compact hc]
      simp [isInteger, trim_trim]
    rw [saved_number hc, hinteger, Bool.eq_iff_iff, Binary64.parseInt64?_compact hc]
    simp [isInteger, exceedsWord]
  | bool b => rw [saved_bool]; cases b <;> decide

end Cell

/-! ## Columns -/

theorem all_map_saved {test : Cell → Bool} {cells : List Cell}
    (h : ∀ cell ∈ cells, test cell.saved = test cell) :
    (cells.map Cell.saved).all test = cells.all test := by
  rw [List.all_map, Bool.eq_iff_iff, List.all_eq_true, List.all_eq_true]
  exact forall₂_congr fun cell hcell => by rw [Function.comp_apply, h cell hcell]

theorem ColumnType.ofPresent_eq_integer_iff {cells : List Cell} :
    ofPresent cells = .integer ↔ cells.isEmpty = false ∧ cells.all Cell.isInteger := by
  by_cases hempty : cells.isEmpty
  · simp [ofPresent, hempty]
  · by_cases hall : cells.all Cell.isInteger
    · simp only [ofPresent, hempty, hall]
      simp
    · refine iff_of_false ?_ (hall ·.2)
      rw [ofPresent, if_neg hempty, if_neg hall]
      split
      · simp
      · split <;> simp

/-- Cells that hold a value keep their type, but for integers that are too great. -/
theorem ColumnType.ofPresent_saved {cells : List Cell} (h : ∀ cell ∈ cells, cell.Savable) :
    ofPresent (cells.map Cell.saved) =
      if ofPresent cells = .integer ∧ cells.any Cell.exceedsWord then .float
      else ofPresent cells := by
  have hinteger : (cells.map Cell.saved).all Cell.isInteger =
      (cells.all Cell.isInteger && !cells.any Cell.exceedsWord) := by
    rw [Bool.eq_iff_iff]
    simp +contextual [Cell.isInteger_saved (h _ _), forall_and]
  have hnumber : (cells.map Cell.saved).all (·.number?.isSome) =
      cells.all (·.number?.isSome) :=
    all_map_saved fun cell hcell => Cell.isSome_number?_saved (h cell hcell)
  have hbool : (cells.map Cell.saved).all (·.bool?.isSome) = cells.all (·.bool?.isSome) :=
    all_map_saved fun cell hcell => Cell.isSome_bool?_saved (h cell hcell)
  rw [ofPresent, hinteger, hnumber, hbool, List.isEmpty_map]
  simp only [ofPresent_eq_integer_iff]
  by_cases hempty : cells.isEmpty
  · simp [ofPresent, hempty]
  · by_cases hall : cells.all Cell.isInteger
    · have hnumbers : cells.all (·.number?.isSome) := List.all_eq_true.mpr fun cell hcell =>
        Cell.isSome_number?_of_isInteger (List.all_eq_true.mp hall cell hcell)
      by_cases hwide : cells.any Cell.exceedsWord <;>
        simp [ofPresent, hempty, hall, hnumbers, hwide]
    · simp [ofPresent, hempty, hall, -List.all_eq_true]

namespace Column

/-- The column as it is read from the texts of its cells. -/
def reread (c : Column) : Column := ⟨c.name, c.cells.map Cell.saved⟩

/-- The type of a column after its table was saved. -/
def savedType (c : Column) : ColumnType :=
  if c.type = .integer ∧ c.cells.any Cell.exceedsWord then .float else c.type

variable {c : Column} (hc : ∀ cell ∈ c.cells, cell.Savable)

include hc

theorem present_reread : c.reread.present = c.present.map Cell.saved := by
  rw [present, reread, List.filter_map, present]
  refine congrArg _ (List.filter_congr fun cell hcell => ?_)
  rw [Function.comp_apply, Cell.isMissing_saved (hc cell hcell)]

theorem type_reread : c.reread.type = c.savedType := by
  have hwide : c.present.any Cell.exceedsWord = c.cells.any Cell.exceedsWord := by
    rw [present, List.any_filter]
    refine congrArg c.cells.any (funext fun cell => ?_)
    cases cell <;> simp [Cell.isMissing, Cell.exceedsWord]
  rw [type, present_reread hc, ColumnType.ofPresent_saved fun cell hcell =>
    hc cell (mem_present.mp hcell).1, hwide, savedType, type]

end Column

namespace Profile

/-- A table that is written and read again has columns of the same types, but for an
integer column with a number of magnitude `2 ^ 63` or more, which is a float column. -/
theorem types_saved {t : Table} (ht : t.WellFormed) (hfilled : t.NamesFilled)
    (hne : t.columns ≠ [])
    (hmark : ∀ name, t.names.head? = some name → name.toList.head? ≠ some '\uFEFF')
    (hcells : ∀ c ∈ t.columns, ∀ cell ∈ c.cells, cell.Savable) :
    ∃ t', Csv.readTable (.ofList (Csv.write t)) = .ok t' ∧
      (ofTable t).columns.map (fun p => (p.name, p.type)) =
        t.columns.map (fun c => (c.name, c.type)) ∧
      (ofTable t').columns.map (fun p => (p.name, p.type)) =
        t.columns.map fun c => (c.name, c.savedType) := by
  refine ⟨t.reread, Csv.readTable_ofList_write ht hfilled hne (Csv.head?_write hne hmark), ?_, ?_⟩
  · rw [ofTable, List.map_map]
    rfl
  · rw [ofTable, Table.reread, List.map_map, List.map_map]
    refine List.map_congr_left fun c hc => ?_
    exact congrArg (c.name, ·) (Column.type_reread (hcells c hc))

/-- A column of each type, and one more of integers, too great for a text. -/
def measurements : Table :=
  ⟨[⟨"count", [.number (.ofNat 7), .text " -12 ", .missing]⟩,
    ⟨"weight", [.text "2e3", .number (.ofDecimal false 1 (-1)), .number (.zero true)]⟩,
    ⟨"valid", [.bool true, .text "FALSE", .missing]⟩,
    ⟨"note", [.number (.ofNat 1), .bool false, .text "n/a"]⟩,
    ⟨"none", [.missing, .missing, .missing]⟩,
    ⟨"atoms", [.number (.ofNat (6 * 10 ^ 23)), .text "1", .missing]⟩], 3⟩

theorem types_saved_measurements :
    measurements.WellFormed ∧ measurements.NamesFilled ∧ measurements.columns ≠ [] ∧
      (∀ c ∈ measurements.columns, ∀ cell ∈ c.cells, cell.Savable) ∧
      ∃ t', Csv.readTable (.ofList (Csv.write measurements)) = .ok t' ∧
        (ofTable measurements).columns.map (fun p => (p.name, p.type)) =
          [("count", .integer), ("weight", .float), ("valid", .boolean), ("note", .text),
            ("none", .empty), ("atoms", .integer)] ∧
        (ofTable t').columns.map (fun p => (p.name, p.type)) =
          [("count", .integer), ("weight", .float), ("valid", .boolean), ("note", .text),
            ("none", .empty), ("atoms", .float)] := by
  have ht : measurements.WellFormed := ⟨by decide, by decide⟩
  have hfilled : measurements.NamesFilled := by unfold Table.NamesFilled; decide
  have hne : measurements.columns ≠ [] := List.cons_ne_nil _ _
  have hcells : ∀ c ∈ measurements.columns, ∀ cell ∈ c.cells, cell.Savable := by decide +kernel
  obtain ⟨t', hread, hbefore, hafter⟩ := types_saved ht hfilled hne
    (fun name hname => by rw [← Option.some.inj hname]; decide) hcells
  refine ⟨ht, hfilled, hne, hcells, t', hread, hbefore.trans ?_, hafter.trans ?_⟩
  · decide +kernel
  · decide +kernel

/-- Ten to the power of 19 is an integer, but its text is none of 64 bits. -/
theorem types_not_saved :
    let t : Table := ⟨[⟨"a", [.number (.ofNat (10 ^ 19))]⟩], 1⟩
    t.WellFormed ∧ t.NamesFilled ∧ t.columns ≠ [] ∧
      (∀ name, t.names.head? = some name → name.toList.head? ≠ some '\uFEFF') ∧
      (∀ c ∈ t.columns, ∀ cell ∈ c.cells, cell.Savable) ∧
      Csv.readTable (.ofList (Csv.write t)) = .ok t.reread ∧
      (ofTable t).columns.map (·.type) = [.integer] ∧
      (ofTable t.reread).columns.map (·.type) = [.float] := by
  intro t
  have ht : t.WellFormed := ⟨by decide, by decide⟩
  have hfilled : t.NamesFilled := by unfold Table.NamesFilled; decide
  have hne : t.columns ≠ [] := List.cons_ne_nil _ _
  have hmark : ∀ name, t.names.head? = some name → name.toList.head? ≠ some '\uFEFF' := by
    intro name hname
    rw [← Option.some.inj hname]
    decide
  have hread := Csv.readTable_ofList_write ht hfilled hne (Csv.head?_write hne hmark)
  exact ⟨ht, hfilled, hne, hmark, by decide +kernel, hread, by decide +kernel, by decide +kernel⟩

end Profile

end Datasheet
