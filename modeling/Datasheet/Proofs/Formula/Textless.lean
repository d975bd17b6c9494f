import Datasheet.Proofs.Formula.Finiteness
import Datasheet.Proofs.Formula.Lexemes

/-!
# Formulas without text

Where neither a literal nor a cell gives a text, a formula never fails for the kind of a
value: operators get what counts as a number and give it (`UnaryOp.eval_of_number`,
`BinaryOp.eval_cases`). What can go wrong then is in the numbers or is a missing cell, and
each failure is one of some operator or column of the formula (`Explains`).

* `eval_textless`: a formula over the columns of a table gives a number or a truth value
  for a row without text, or it fails for one of these reasons.
-/

namespace Datasheet.Formula

/-! ## Values -/

theorem Value.ofCell_eq_error {column : String} {cell : Cell} {f : EvalError}
    (h : ofCell column cell = .error f) : cell = .missing ∧ f = .missingValue column := by
  cases cell with
  | missing =>
    cases h
    exact ⟨rfl, rfl⟩
  | number x => cases h
  | bool b => cases h
  | text s =>
    rw [ofCell] at h
    split at h <;> cases h

theorem Value.isSome_number?_iff {v : Value} : v.number?.isSome ↔ ∀ s, v ≠ .text s := by
  cases v <;> simp [number?]

/-! ## Operators -/

theorem UnaryOp.eval_of_number (op : UnaryOp) {v : Value} (hv : v.number?.isSome) :
    ∃ w, op.eval v = .ok w ∧ w.number?.isSome := by
  obtain ⟨x, hx⟩ := Option.isSome_iff_exists.mp hv
  rw [UnaryOp.eval.eq_def, hx]
  cases op <;> exact ⟨_, rfl, rfl⟩

section Numbers

variable {v w : Value} {x y : Binary64} (hv : v.number? = some x) (hw : w.number? = some y)

include hv hw

theorem Value.order_of_numbers :
    v.order w = (x.compare? y).elim (.error .unorderedNaN) .ok := by
  have htext := Value.isSome_number?_iff.mp (Option.isSome_of_eq_some hv)
  rw [order.eq_2 v w fun s t hs _ => htext s hs, hv, hw]
  dsimp only
  cases x.compare? y <;> rfl

theorem ArithOp.eval_of_numbers (op : ArithOp) :
    op.eval v w =
      if op.divides && y.isZero then .error .divisionByZero
      else if (op.apply x y).isFinite then .ok (.number (op.apply x y))
      else .error (.notFinite op) := by
  rw [ArithOp.eval, hv, hw]

/-- On what counts as numbers an operator fails for the numbers only. -/
theorem BinaryOp.eval_cases (op : BinaryOp) :
    (∃ u, op.eval v w = .ok u ∧ u.number?.isSome) ∨
      (∃ a, op = .arith a ∧ a.divides ∧ y.isZero ∧ op.eval v w = .error .divisionByZero) ∨
      (∃ a, op = .arith a ∧ (a.apply x y).isFinite = false ∧
        op.eval v w = .error (.notFinite a)) ∨
      ∃ o, op = .order o ∧ (x.isNaN ∨ y.isNaN) ∧ op.eval v w = .error .unorderedNaN := by
  have htext := Value.isSome_number?_iff.mp (Option.isSome_of_eq_some hv)
  cases op with
  | or | and => exact .inl ⟨w, rfl, Option.isSome_of_eq_some hw⟩
  | equal | notEqual => exact .inl ⟨_, rfl, rfl⟩
  | order o =>
    rw [BinaryOp.eval, Value.order_of_numbers hv hw]
    cases hcompare : x.compare? y with
    | some c => exact .inl ⟨_, rfl, rfl⟩
    | none =>
      have hnan : x.isNaN ∨ y.isNaN := by
        rw [Binary64.compare?] at hcompare
        split at hcompare
        · exact Bool.or_eq_true_iff.mp ‹_›
        · cases hcompare
      exact .inr (.inr (.inr ⟨o, rfl, hnan, rfl⟩))
  | arith a =>
    have heval : (BinaryOp.arith a).eval v w = a.eval v w := by
      rw [BinaryOp.eval]
      exact fun s t hs _ _ => htext s hs
    rw [heval, ArithOp.eval_of_numbers hv hw]
    split
    · rename_i hzero
      obtain ⟨hdivides, hzero⟩ := Bool.and_eq_true_iff.mp hzero
      exact .inr (.inl ⟨a, rfl, hdivides, hzero, rfl⟩)
    · split
      · exact .inl ⟨_, rfl, rfl⟩
      · exact .inr (.inr (.inl ⟨a, rfl, Bool.eq_false_iff.mpr ‹_›, rfl⟩))

end Numbers

/-! ## Expressions -/

variable {t : Table} {row : Nat}

/-- Somewhere in the expression the operator meets these values of its operands. -/
inductive Meets (t : Table) (row : Nat) (op : BinaryOp) (v w : Value) : Expr → Prop where
  | here {left right : Expr} (hleft : left.eval (lookup t row) = .ok v)
      (hright : right.eval (lookup t row) = .ok w) : Meets t row op v w (.binary op left right)
  | operand {other : UnaryOp} {e : Expr} (h : Meets t row op v w e) :
      Meets t row op v w (.unary other e)
  | left {other : BinaryOp} {e right : Expr} (h : Meets t row op v w e) :
      Meets t row op v w (.binary other e right)
  | right {other : BinaryOp} {left e : Expr} (h : Meets t row op v w e) :
      Meets t row op v w (.binary other left e)

/-- The failures of an expression without text, each with its reason in a missing cell or in
the numbers that an operator meets. -/
inductive Explains (t : Table) (row : Nat) (e : Expr) : EvalError → Prop where
  | missingValue {i : Nat} {c : Column} (hi : .column i ∈ e.atoms) (hc : t.columns[i]? = some c)
      (hcell : c.cells[row]? = some .missing) : Explains t row e (.missingValue c.name)
  | divisionByZero {op : ArithOp} {v w : Value} {y : Binary64}
      (hmeets : Meets t row (.arith op) v w e) (hw : w.number? = some y) (hop : op.divides)
      (hy : y.isZero) : Explains t row e .divisionByZero
  | notFinite {op : ArithOp} {v w : Value} {x y : Binary64}
      (hmeets : Meets t row (.arith op) v w e) (hv : v.number? = some x) (hw : w.number? = some y)
      (hresult : (op.apply x y).isFinite = false) : Explains t row e (.notFinite op)
  | unorderedNaN {op : OrderOp} {v w : Value} {x y : Binary64}
      (hmeets : Meets t row (.order op) v w e) (hv : v.number? = some x) (hw : w.number? = some y)
      (hnan : x.isNaN ∨ y.isNaN) : Explains t row e .unorderedNaN

/-- What explains a failure in a part explains it in the whole. -/
theorem Explains.mono {e whole : Expr} {f : EvalError} (h : Explains t row e f)
    (hatoms : e.atoms ⊆ whole.atoms)
    (hmeets : ∀ op v w, Meets t row op v w e → Meets t row op v w whole) :
    Explains t row whole f := by
  cases h with
  | missingValue hi hc hcell => exact .missingValue (hatoms hi) hc hcell
  | divisionByZero h hw hop hy => exact .divisionByZero (hmeets _ _ _ h) hw hop hy
  | notFinite h hv hw hresult => exact .notFinite (hmeets _ _ _ h) hv hw hresult
  | unorderedNaN h hv hw hnan => exact .unorderedNaN (hmeets _ _ _ h) hv hw hnan

/-- The value counts as a number, or the failure is explained. -/
inductive Sound (t : Table) (row : Nat) (e : Expr) : Except EvalError Value → Prop where
  | value {v : Value} (h : v.number?.isSome) : Sound t row e (.ok v)
  | failure {f : EvalError} (h : Explains t row e f) : Sound t row e (.error f)

/-- A cell of a column that does not bind to a text. -/
theorem sound_lookup {i : Nat} {c : Column} (hc : t.columns[i]? = some c)
    (hrow : row < c.cells.length) (htext : ∀ s, lookup t row i ≠ .ok (.text s)) :
    Sound t row (.column i) (lookup t row i) := by
  have hcell := List.getElem?_eq_getElem hrow
  rw [lookup_of_getElem? hc hcell] at htext ⊢
  cases hvalue : Value.ofCell c.name c.cells[row] with
  | ok v =>
    refine .value (Value.isSome_number?_iff.mpr ?_)
    rintro s rfl
    exact htext s hvalue
  | error f =>
    obtain ⟨hmissing, rfl⟩ := Value.ofCell_eq_error hvalue
    exact .failure (.missingValue List.mem_cons_self hc (hcell.trans (congrArg some hmissing)))

/-- An operator of which the operands are known. -/
theorem sound_binary {op : BinaryOp} {left right : Expr} {v w : Value}
    (hleft : left.eval (lookup t row) = .ok v) (hright : right.eval (lookup t row) = .ok w)
    (hv : v.number?.isSome) (hw : w.number?.isSome) :
    Sound t row (.binary op left right) (op.eval v w) := by
  obtain ⟨x, hx⟩ := Option.isSome_iff_exists.mp hv
  obtain ⟨y, hy⟩ := Option.isSome_iff_exists.mp hw
  rcases op.eval_cases hx hy with ⟨u, heval, hu⟩ | ⟨a, rfl, hdivides, hzero, heval⟩ |
    ⟨a, rfl, hresult, heval⟩ | ⟨o, rfl, hnan, heval⟩ <;> rw [heval]
  · exact .value hu
  · exact .failure (.divisionByZero (.here hleft hright) hy hdivides hzero)
  · exact .failure (.notFinite (.here hleft hright) hx hy hresult)
  · exact .failure (.unorderedNaN (.here hleft hright) hx hy hnan)

/-- By induction on the expression: each operator gets what counts as a number from its operands
and gives it, or the failure is its own or that of an operand. -/
theorem sound_eval {e : Expr} (hliteral : ∀ s, .literal (.text s) ∉ e.atoms)
    (hcolumn : ∀ i, .column i ∈ e.atoms → ∃ c, t.columns[i]? = some c ∧ row < c.cells.length)
    (htext : ∀ i s, .column i ∈ e.atoms → lookup t row i ≠ .ok (.text s)) :
    Sound t row e (e.eval (lookup t row)) := by
  induction e with
  | literal v =>
    refine .value (Value.isSome_number?_iff.mpr ?_)
    rintro s rfl
    exact hliteral s List.mem_cons_self
  | column i =>
    obtain ⟨c, hc, hrow⟩ := hcolumn i List.mem_cons_self
    exact sound_lookup hc hrow fun s => htext i s List.mem_cons_self
  | unary op operand ih =>
    specialize ih hliteral hcolumn htext
    rw [Expr.eval]
    cases hoperand : operand.eval (lookup t row) with
    | error f =>
      rw [hoperand] at ih
      obtain ⟨⟩ | ⟨hf⟩ := ih
      exact .failure (hf.mono (List.Subset.refl _) fun _ _ _ => .operand)
    | ok v =>
      rw [hoperand] at ih
      obtain ⟨hv⟩ | ⟨⟩ := ih
      obtain ⟨w, hw, hnumber⟩ := op.eval_of_number hv
      dsimp only
      rw [hw]
      exact .value hnumber
  | binary op left right ihl ihr =>
    specialize ihl (fun s hs => hliteral s (List.mem_append_left _ hs))
      (fun i hi => hcolumn i (List.mem_append_left _ hi))
      fun i s hi => htext i s (List.mem_append_left _ hi)
    specialize ihr (fun s hs => hliteral s (List.mem_append_right _ hs))
      (fun i hi => hcolumn i (List.mem_append_right _ hi))
      fun i s hi => htext i s (List.mem_append_right _ hi)
    rw [Expr.eval]
    cases hleft : left.eval (lookup t row) with
    | error f =>
      rw [hleft] at ihl
      obtain ⟨⟩ | ⟨hf⟩ := ihl
      exact .failure (hf.mono (List.subset_append_left _ _) fun _ _ _ => .left)
    | ok v =>
      rw [hleft] at ihl
      obtain ⟨hv⟩ | ⟨⟩ := ihl
      dsimp only
      split
      · exact .value hv
      · cases hright : right.eval (lookup t row) with
        | error f =>
          rw [hright] at ihr
          obtain ⟨⟩ | ⟨hf⟩ := ihr
          exact .failure (hf.mono (List.subset_append_right _ _) fun _ _ _ => .right)
        | ok w =>
          rw [hright] at ihr
          obtain ⟨hw⟩ | ⟨⟩ := ihr
          exact sound_binary hleft hright hv hw

/-- The columns of a formula are columns of the table. -/
theorem exists_getElem?_of_compile {source : String} {names : List String} {e : Expr} {i : Nat}
    (h : compile source names = .ok e) (hi : .column i ∈ e.atoms) : ∃ name, names[i]? = some name := by
  rcases mem_atoms_of_compile h hi with ⟨s, hs⟩ | ⟨key, hkey, heq⟩ | ⟨n, hn⟩ | ⟨b, hb⟩
  · cases hs
  · cases heq
    obtain ⟨-, name, hname, -⟩ := spells_of_mem_columnKeys hkey
    exact ⟨name, hname⟩
  · cases hn
  · cases hb

/-- A formula without literal texts, over a row in which no cell that it refers to binds to a
text, gives a number or a truth value. Or it fails, for a missing cell that it refers to,
for a division by zero, for a result that is not finite or for a NaN that would have to be
ordered: never for the kind of a value, nor for a column or a row that is not there. -/
theorem eval_textless {t : Table} (ht : t.WellFormed) {source : String} {e : Expr}
    (hcompile : compile source t.names = .ok e) (hliteral : ∀ s, .literal (.text s) ∉ e.atoms)
    {row : Nat} (hrow : row < t.rowCount)
    (hcells : ∀ i s, .column i ∈ e.atoms → lookup t row i ≠ .ok (.text s)) :
    (∃ x, e.eval (lookup t row) = .ok (.number x)) ∨
      (∃ b, e.eval (lookup t row) = .ok (.bool b)) ∨
      ∃ f, e.eval (lookup t row) = .error f ∧ Explains t row e f := by
  have hcolumn : ∀ i, .column i ∈ e.atoms → ∃ c, t.columns[i]? = some c ∧ row < c.cells.length := by
    intro i hi
    obtain ⟨name, hname⟩ := exists_getElem?_of_compile hcompile hi
    rw [Table.names, List.getElem?_map] at hname
    obtain ⟨c, hc, -⟩ := Option.map_eq_some_iff.mp hname
    exact ⟨c, hc, by rwa [ht.length_cells c (List.mem_of_getElem? hc)]⟩
  have hsound := sound_eval hliteral hcolumn hcells
  cases hresult : e.eval (lookup t row) with
  | error f =>
    rw [hresult] at hsound
    obtain ⟨⟩ | ⟨hf⟩ := hsound
    exact .inr (.inr ⟨f, rfl, hf⟩)
  | ok v =>
    rw [hresult] at hsound
    obtain ⟨hv⟩ | ⟨⟩ := hsound
    cases v with
    | number x => exact .inl ⟨x, rfl⟩
    | bool b => exact .inr (.inl ⟨b, rfl⟩)
    | text s => cases hv

/-- One row, with a text that spells a number, a missing cell and a text that spells none. -/
def mixedRow : Table :=
  ⟨[⟨"a", [.number (.ofNat 5)]⟩, ⟨"b", [.text "2"]⟩, ⟨"c", [.missing]⟩, ⟨"d", [.text "x"]⟩], 1⟩

/-- What `a > 7 and c or a % (b - 2)` stands for over the columns of `mixedRow`. -/
def guardedRemainder : Expr :=
  .binary .or
    (.binary .and
      (.binary (.order .greater) (.column 0) (.literal (.number (.ofNat 7)))) (.column 2))
    (.binary (.arith .modulo) (.column 0)
      (.binary (.arith .subtract) (.column 1) (.literal (.number (.ofNat 2)))))

/-- The missing cell is left alone, and the division by zero is found. -/
theorem eval_guardedRemainder :
    mixedRow.WellFormed ∧
      compile "a > 7 and c or a % (b - 2)" mixedRow.names = .ok guardedRemainder ∧
      (∀ s, .literal (.text s) ∉ guardedRemainder.atoms) ∧ 0 < mixedRow.rowCount ∧
      (∀ i s, .column i ∈ guardedRemainder.atoms → lookup mixedRow 0 i ≠ .ok (.text s)) ∧
      guardedRemainder.eval (lookup mixedRow 0) = .error .divisionByZero ∧
      Explains mixedRow 0 guardedRemainder .divisionByZero := by
  have hwell : mixedRow.WellFormed := ⟨by decide, by decide⟩
  have hnames : mixedRow.names = ["a", "b", "c", "d"] := rfl
  have htrimmed : trimmedKeys [['a'], ['b'], ['c'], ['d']] []
      [⟨['a'], 0⟩, ⟨['b'], 1⟩, ⟨['c'], 2⟩, ⟨['d'], 3⟩] = [] := by
    decide +kernel
  have hkeys : columnKeys ["a", "b", "c", "d"] =
      [⟨['a'], 0⟩, ⟨['b'], 1⟩, ⟨['c'], 2⟩, ⟨['d'], 3⟩] := by
    simp +decide [columnKeys, htrimmed, List.mergeSort]
  have hcompile : compile "a > 7 and c or a % (b - 2)" mixedRow.names = .ok guardedRemainder := by
    rw [hnames, compile, scan, hkeys]
    decide +kernel
  have hliteral : ∀ s, .literal (.text s) ∉ guardedRemainder.atoms := by
    simp [guardedRemainder, Expr.atoms]
  have hcells : ∀ i s, .column i ∈ guardedRemainder.atoms →
      lookup mixedRow 0 i ≠ .ok (.text s) := by
    intro i s hi
    have hspelled : lookup mixedRow 0 1 = .ok (.number (.ofNat 2)) := by decide +kernel
    have hcases : i = 0 ∨ i = 2 ∨ i = 1 := by
      simpa [guardedRemainder, Expr.atoms, or_assoc, or_comm, or_left_comm] using hi
    rcases hcases with rfl | rfl | rfl
    · rintro ⟨⟩
    · rintro ⟨⟩
    · rw [hspelled]
      rintro ⟨⟩
  have hvalue : guardedRemainder.eval (lookup mixedRow 0) = .error .divisionByZero := by
    decide +kernel
  have hrow : 0 < mixedRow.rowCount := by decide
  refine ⟨hwell, hcompile, hliteral, hrow, hcells, hvalue, ?_⟩
  rcases eval_textless hwell hcompile hliteral hrow hcells with
    ⟨x, hx⟩ | ⟨b, hb⟩ | ⟨f, hf, hexplains⟩
  · rw [hvalue] at hx
    cases hx
  · rw [hvalue] at hb
    cases hb
  · rw [hvalue] at hf
    cases hf
    exact hexplains

end Datasheet.Formula
