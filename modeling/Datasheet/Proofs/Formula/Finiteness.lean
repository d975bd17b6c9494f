import Datasheet.Proofs.Binary64.Finite
import Datasheet.Proofs.Formula.Atoms
import Mathlib.Data.List.Basic

/-!
# Formulas and infinities

An operator that makes a number makes a finite one (`ArithOp.isFinite_of_eval`), and so
do cells that hold text. What an operator passes on, it takes from its operands
(`UnaryOp.eval_eq_number`, `BinaryOp.eval_eq_number`). So if the numbers of a table are
finite, a number that a formula gives is not finite only if the formula says infinity
itself, in a numeral that is too large (`evalCell_eq_number`); it is no NaN even then.
-/

namespace Datasheet

theorem finiteNumber?_isFinite {s : String} {x : Binary64} (h : finiteNumber? s = some x) :
    x.isFinite :=
  (Option.filter_eq_some_iff.mp h).2

/-- Every number that stands in a cell is finite. -/
def Table.NumbersFinite (t : Table) : Prop :=
  ∀ c ∈ t.columns, ∀ x, Cell.number x ∈ c.cells → x.isFinite

namespace Formula

/-! ## Operators -/

/-- Truth values count as finite numbers. -/
theorem Value.number?_eq_some {v : Value} {x : Binary64} (h : v.number? = some x) :
    x.isFinite ∨ v = .number x := by
  cases v with
  | number y => exact .inr (congrArg Value.number (Option.some.inj h))
  | text s => cases h
  | bool b =>
    cases h
    exact .inl (Binary64.isFinite_ofNat_toNat b)

theorem UnaryOp.eval_eq_number {op : UnaryOp} {v : Value} {x : Binary64}
    (h : op.eval v = .ok (.number x)) :
    x.isFinite ∨ v = .number x ∨ v = .number x.neg := by
  rw [UnaryOp.eval.eq_def] at h
  split at h
  · cases h
  · cases h
    exact (Value.number?_eq_some ‹_›).imp_right .inl
  · cases h
    rw [Binary64.neg_neg]
    exact (Value.number?_eq_some ‹_›).imp_right .inr
  · cases h

/-- A result that is not finite is a failure. -/
theorem ArithOp.isFinite_of_eval {op : ArithOp} {v w : Value} {x : Binary64}
    (h : op.eval v w = .ok (.number x)) : x.isFinite := by
  rw [ArithOp.eval] at h
  split at h
  · split at h
    · cases h
    · split at h
      · cases h
        assumption
      · cases h
  · cases h

theorem BinaryOp.eval_eq_number {op : BinaryOp} {v w : Value} {x : Binary64}
    (h : op.eval v w = .ok (.number x)) : x.isFinite ∨ w = .number x := by
  rw [BinaryOp.eval.eq_def] at h
  split at h
  · exact .inr (Except.ok.inj h)
  · exact .inr (Except.ok.inj h)
  · cases h
  · cases h
  · cases horder : v.order w <;> rw [horder] at h <;> cases h
  · cases h
  · exact .inl (ArithOp.isFinite_of_eval h)

/-! ## Values -/

/-- The number is finite, or an infinity of which the expression speaks. -/
def FiniteUnlessSaid (e : Expr) (x : Binary64) : Prop :=
  x.isFinite ∨ (∃ negative, x = .infinity negative) ∧
    .literal (.number (.infinity false)) ∈ e.atoms

theorem FiniteUnlessSaid.neg {e : Expr} {x : Binary64} (h : FiniteUnlessSaid e x.neg) :
    FiniteUnlessSaid e x := by
  refine h.imp id (And.imp_left ?_)
  rintro ⟨negative, hx⟩
  refine ⟨!negative, ?_⟩
  rw [← Binary64.neg_neg x, hx]
  rfl

theorem FiniteUnlessSaid.left {left : Expr} {x : Binary64} (h : FiniteUnlessSaid left x)
    (op : BinaryOp) (right : Expr) : FiniteUnlessSaid (.binary op left right) x :=
  h.imp id (And.imp_right (List.mem_append_left right.atoms))

theorem FiniteUnlessSaid.right {right : Expr} {x : Binary64} (h : FiniteUnlessSaid right x)
    (op : BinaryOp) (left : Expr) : FiniteUnlessSaid (.binary op left right) x :=
  h.imp id (And.imp_right (List.mem_append_right left.atoms))

/-- By induction on the expression: each operator makes a finite number or passes on one
of its operands. -/
theorem eval_eq_number {lookup : Nat → Except EvalError Value} {e : Expr}
    (hlookup : ∀ i x, lookup i = .ok (.number x) → x.isFinite)
    (hliteral : ∀ x, .literal (.number x) ∈ e.atoms → x.isFinite ∨ x = .infinity false)
    {x : Binary64} (h : e.eval lookup = .ok (.number x)) : FiniteUnlessSaid e x := by
  induction e generalizing x with
  | literal v =>
    cases h
    refine (hliteral x List.mem_cons_self).imp id ?_
    rintro rfl
    exact ⟨⟨false, rfl⟩, List.mem_cons_self⟩
  | column i => exact .inl (hlookup i x h)
  | unary op operand ih =>
    rw [Expr.eval] at h
    split at h
    · cases h
    · rename_i v hoperand
      rcases UnaryOp.eval_eq_number h with hfinite | rfl | rfl
      · exact .inl hfinite
      · exact ih hliteral hoperand
      · exact (ih hliteral hoperand).neg
  | binary op left right ihl ihr =>
    have hl := fun y hy => hliteral y (List.mem_append_left right.atoms hy)
    have hr := fun y hy => hliteral y (List.mem_append_right left.atoms hy)
    rw [Expr.eval] at h
    split at h
    · cases h
    · rename_i v hleft
      split at h
      · cases h
        exact (ihl hl hleft).left op right
      · split at h
        · cases h
        · rename_i w hright
          rcases BinaryOp.eval_eq_number h with hfinite | rfl
          · exact .inl hfinite
          · exact (ihr hr hright).right op left

/-- What a table with finite numbers binds are finite numbers. -/
theorem isFinite_of_lookup {t : Table} (ht : t.NumbersFinite) {row i : Nat} {x : Binary64}
    (h : lookup t row i = .ok (.number x)) : x.isFinite := by
  rw [lookup] at h
  split at h
  · cases h
  · rename_i c hc
    split at h
    · cases h
    · rename_i cell hcell
      cases cell with
      | missing => cases h
      | number y =>
        cases h
        exact ht c (List.mem_of_getElem? hc) x (List.mem_of_getElem? hcell)
      | bool b => cases h
      | text s =>
        rw [Value.ofCell] at h
        split at h
        · cases h
          exact finiteNumber?_isFinite ‹_›
        · cases h

/-- A numeral is a finite number or infinity. -/
theorem isFinite_or_eq_infinity_of_mem_atoms {source : String} {names : List String} {e : Expr}
    (h : compile source names = .ok e) {x : Binary64} (hx : .literal (.number x) ∈ e.atoms) :
    x.isFinite ∨ x = .infinity false := by
  rcases mem_atoms_of_compile h hx with ⟨s, hs⟩ | ⟨key, -, hkey⟩ | ⟨n, hn⟩ | ⟨b, hb⟩
  · cases hs
  · cases hkey
  · cases hn
    exact Decidable.or_iff_not_imp_left.mpr Binary64.ofDecimal_eq_infinity
  · cases hb

/-- A number that a formula gives is finite, unless a numeral in the formula is so large
that it counts as infinity: then it may be that or its negative, but never NaN. -/
theorem evalCell_eq_number {t : Table} (ht : t.NumbersFinite) {source : String} {e : Expr}
    (hcompile : compile source t.names = .ok e) {row : Nat} {x : Binary64}
    (h : evalCell t row e = .ok (.number x)) :
    x.isFinite ∨ (∃ negative, x = .infinity negative) ∧
      .literal (.number (.infinity false)) ∈ e.atoms := by
  rw [evalCell] at h
  split at h
  · cases h
  · rename_i v hv
    have hnumber : v = .number x := by
      cases v <;> cases h
      rfl
    rw [hnumber] at hv
    exact eval_eq_number (fun i y hy => isFinite_of_lookup ht hy)
      (fun y hy => isFinite_or_eq_infinity_of_mem_atoms hcompile hy) hv

/-- A number and texts that spell one, of which the last is too large to be finite. -/
def measures : Table := ⟨[⟨"a", [.number (.ofNat 2), .text "0", .text "1e999"]⟩], 3⟩

theorem names_measures : measures.names = ["a"] := rfl

theorem columnKeys_a : columnKeys ["a"] = [⟨['a'], 0⟩] := by decide +kernel

theorem measures_numbersFinite : measures.NumbersFinite := by
  intro c hc x hx
  obtain rfl := List.mem_singleton.mp hc
  have htwo : x = .ofNat 2 := by simpa using hx
  rw [htwo]
  decide +kernel

/-- In the second row the formula gives the infinity that it speaks of. -/
theorem evalCell_orInfinity :
    measures.NumbersFinite ∧
      compile "a or -1e999" measures.names = .ok (.binary .or (.column 0)
        (.unary .minus (.literal (.number (.infinity false))))) ∧
      evalCell measures 1 (.binary .or (.column 0)
        (.unary .minus (.literal (.number (.infinity false))))) =
          .ok (.number (.infinity true)) ∧
      ((Binary64.infinity true).isFinite ∨
        (∃ negative, Binary64.infinity true = .infinity negative) ∧
          .literal (.number (.infinity false)) ∈ (Expr.binary .or (.column 0)
            (.unary .minus (.literal (.number (.infinity false))))).atoms) := by
  have hcompile : compile "a or -1e999" measures.names = .ok (.binary .or (.column 0)
      (.unary .minus (.literal (.number (.infinity false))))) := by
    rw [names_measures, compile, scan, columnKeys_a]
    decide +kernel
  have hvalue : evalCell measures 1 (.binary .or (.column 0)
      (.unary .minus (.literal (.number (.infinity false))))) =
        .ok (.number (.infinity true)) := by decide +kernel
  exact ⟨measures_numbersFinite, hcompile, hvalue,
    evalCell_eq_number measures_numbersFinite hcompile hvalue⟩

/-- A numeral alone can give infinity, where the same text in a cell is no number. -/
theorem hugeNumeral_not_finite :
    measures.NumbersFinite ∧
      compile "1e999" measures.names = .ok (.literal (.number (.infinity false))) ∧
      evalCell measures 0 (.literal (.number (.infinity false))) =
        .ok (.number (.infinity false)) ∧
      ¬ (Binary64.infinity false).isFinite ∧
      evalCell measures 2 (.column 0) = .ok (.text "1e999") := by
  refine ⟨measures_numbersFinite, ?_, rfl, by decide, by decide +kernel⟩
  rw [names_measures, compile, scan, columnKeys_a]
  decide +kernel

end Formula

end Datasheet
