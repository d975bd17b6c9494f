import Datasheet.Proofs.Profile.RowOrder
import Datasheet.Proofs.Profile.Saving
import Mathlib.Data.List.Perm.Subperm
import Mathlib.Order.Lattice

/-!
# The order of column types

A type allows some cells (`Cell.fits`), and types are in the order of what they allow:
integers are floats, every cell is text, and truth values are no numbers. A column has the
least type that allows all its values (`ColumnType.ofPresent_le_iff`). So it is the join of
the types of its parts, and neither the order of the cells nor missing ones count
(`Column.type_append`).
-/

namespace Datasheet

namespace ColumnType

/-- The least type that is not below either of two. -/
def join : ColumnType → ColumnType → ColumnType
  | empty, t | t, empty => t
  | integer, float | float, integer => float
  | s, t => if s = t then s else text

/-- Whether a type is another one or before it in `empty`, `integer`, `float`, `text` or in
`empty`, `boolean`, `text`. -/
def below : ColumnType → ColumnType → Bool
  | empty, _ | _, text | integer, float => true
  | s, t => s = t

instance : SemilatticeSup ColumnType where
  le s t := below s t
  le_refl s := by cases s <;> rfl
  le_trans s t u := by cases s <;> cases t <;> cases u <;> decide
  le_antisymm s t := by cases s <;> cases t <;> decide
  sup := join
  le_sup_left s t := by cases s <;> cases t <;> decide
  le_sup_right s t := by cases s <;> cases t <;> decide
  sup_le s t u := by cases s <;> cases t <;> cases u <;> decide

instance : DecidableLE ColumnType := fun s t => inferInstanceAs (Decidable (below s t = true))

instance : DecidableLT ColumnType := decidableLTOfDecidableLE

theorem le_text (t : ColumnType) : t ≤ text := by
  cases t <;> rfl

theorem cases_of_le {s t : ColumnType} (h : s ≤ t) :
    s = empty ∨ t = text ∨ s = t ∨ s = integer ∧ t = float := by
  revert h
  cases s <;> cases t <;> decide

example : empty < integer ∧ integer < float ∧ float < text ∧ empty < boolean ∧ boolean < text ∧
    ¬ boolean ≤ float ∧ ¬ integer ≤ boolean := by
  decide

end ColumnType

namespace Cell

/-- Whether a cell that holds a value can stand in a column of a type. -/
def fits (cell : Cell) : ColumnType → Bool
  | .integer => cell.isInteger
  | .float => cell.number?.isSome
  | .boolean => cell.bool?.isSome
  | .text => true
  | .empty => false

variable {cell : Cell}

theorem fits_float_of_fits_integer (h : cell.fits .integer) : cell.fits .float :=
  isSome_number?_of_isInteger h

theorem not_fits_boolean_of_fits_float (h : cell.fits .float) : ¬ cell.fits .boolean := by
  simp [fits, bool?_eq_none_of_number? h]

theorem fits_of_le {s t : ColumnType} (hle : s ≤ t) (h : cell.fits s) : cell.fits t := by
  obtain rfl | rfl | rfl | ⟨rfl, rfl⟩ := ColumnType.cases_of_le hle
  · cases h
  · rfl
  · exact h
  · exact fits_float_of_fits_integer h

end Cell

namespace ColumnType

variable {cells : List Cell}

theorem ofPresent_eq (cells : List Cell) : ofPresent cells =
    if cells.isEmpty then empty
    else if cells.all (·.fits .integer) then integer
    else if cells.all (·.fits .float) then float
    else if cells.all (·.fits .boolean) then boolean
    else text := rfl

/-- Every value can stand in a column of the type that is inferred. -/
theorem fits_ofPresent {cell : Cell} (h : cell ∈ cells) : cell.fits (ofPresent cells) := by
  rw [ofPresent_eq]
  split
  · rename_i hempty
    rw [List.isEmpty_iff.mp hempty] at h
    cases h
  · split
    · exact List.all_eq_true.mp ‹_› cell h
    · split
      · exact List.all_eq_true.mp ‹_› cell h
      · split
        · exact List.all_eq_true.mp ‹_› cell h
        · rfl

/-- No lesser type would do: a test that all values pass is not reached only if an earlier one
succeeds, and one value that is a truth value makes those for numbers fail. -/
theorem ofPresent_le {t : ColumnType} (h : ∀ cell ∈ cells, cell.fits t) : ofPresent cells ≤ t := by
  cases cells with
  | nil => rfl
  | cons first rest =>
    have hall : (first :: rest).all (·.fits t) := List.all_eq_true.mpr h
    have hfirst := h first List.mem_cons_self
    rw [ofPresent_eq, if_neg (by simp)]
    cases t with
    | empty => cases hfirst
    | integer => rw [if_pos hall]
    | float =>
      split
      · decide
      · rfl
    | boolean =>
      have hfloat : ¬ first.fits .float := fun hnumber =>
        Cell.not_fits_boolean_of_fits_float hnumber hfirst
      have hnumbers : ¬ (first :: rest).all (·.fits .float) := fun hnumbers =>
        hfloat (List.all_eq_true.mp hnumbers first List.mem_cons_self)
      have hintegers : ¬ (first :: rest).all (·.fits .integer) := fun hintegers =>
        hfloat (Cell.fits_float_of_fits_integer
          (List.all_eq_true.mp hintegers first List.mem_cons_self))
      rw [if_neg hintegers, if_neg hnumbers, if_pos hall]
    | text => exact le_text _

/-- Values have the least type that each of them can stand in a column of. -/
theorem ofPresent_le_iff {t : ColumnType} :
    ofPresent cells ≤ t ↔ ∀ cell ∈ cells, cell.fits t :=
  ⟨fun hle _ hcell => Cell.fits_of_le hle (fits_ofPresent hcell), ofPresent_le⟩

/-- The type of values in two parts is the join of the types of the parts. -/
theorem ofPresent_append (xs ys : List Cell) :
    ofPresent (xs ++ ys) = join (ofPresent xs) (ofPresent ys) := by
  refine eq_of_forall_ge_iff fun t => ?_
  show _ ↔ ofPresent xs ⊔ ofPresent ys ≤ t
  rw [sup_le_iff, ofPresent_le_iff, ofPresent_le_iff, ofPresent_le_iff, List.forall_mem_append]

/-- More values do not have a lesser type, wherever they stand. -/
theorem ofPresent_le_of_subset {xs ys : List Cell} (h : xs ⊆ ys) : ofPresent xs ≤ ofPresent ys :=
  ofPresent_le fun _ hcell => fits_ofPresent (h hcell)

end ColumnType

namespace Column

/-- A column that continues another one has the join of their types. The type is the same for
cells in another order and for more or fewer missing ones, and more cells only move it up. -/
theorem type_append (name : String) (xs ys : List Cell) :
    type ⟨name, xs ++ ys⟩ = (type ⟨name, xs⟩).join (type ⟨name, ys⟩) ∧
      (ys.Perm xs → type ⟨name, ys⟩ = type ⟨name, xs⟩) ∧
      (ys.filter (!·.isMissing) = xs.filter (!·.isMissing) →
        type ⟨name, ys⟩ = type ⟨name, xs⟩) ∧
      (xs.Subperm ys → type ⟨name, xs⟩ ≤ type ⟨name, ys⟩) := by
  refine ⟨?_, fun hperm => ?_, fun hpresent => ?_, fun hsub => ?_⟩
  · rw [type, type, type, present, List.filter_append]
    exact ColumnType.ofPresent_append _ _
  · exact ColumnType.ofPresent_perm (hperm.filter _)
  · exact congrArg ColumnType.ofPresent hpresent
  · exact ColumnType.ofPresent_le_of_subset (hsub.filter _).subset

/-- Two integers, a fraction that makes them floats, and a truth value that makes them text. -/
theorem type_append_counts :
    let counts : List Cell := [.text " 7", .missing, .number (.ofNat 9)]
    let shares : List Cell := [.text "25e-1"]
    let turned : List Cell := [.number (.ofNat 9), .text " 7", .missing]
    let flagged : List Cell := [.text "TRUE", .number (.ofNat 9), .text " 7", .missing]
    type ⟨"n", counts⟩ = .integer ∧ type ⟨"n", shares⟩ = .float ∧
      type ⟨"n", counts ++ shares⟩ = .float ∧ turned.Perm counts ∧ type ⟨"n", turned⟩ = .integer ∧
      counts.Subperm flagged ∧ type ⟨"n", counts⟩ ≤ type ⟨"n", flagged⟩ := by
  intro counts shares turned flagged
  have hcounts : type ⟨"n", counts⟩ = .integer := by decide +kernel
  have hshares : type ⟨"n", shares⟩ = .float := by decide +kernel
  have hturned : turned.Perm counts :=
    (List.perm_append_singleton (Cell.number (.ofNat 9)) [.text " 7", .missing]).symm
  have hflagged : counts.Subperm flagged := hturned.symm.subperm.cons_right _
  have happend := (type_append "n" counts shares).1
  rw [hcounts, hshares] at happend
  exact ⟨hcounts, hshares, happend, hturned,
    ((type_append "n" counts turned).2.1 hturned).trans hcounts, hflagged,
    (type_append "n" counts flagged).2.2.2 hflagged⟩

end Column

end Datasheet
