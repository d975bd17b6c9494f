import Datasheet.Csv.Document
import Datasheet.Proofs.Table.Header
import Datasheet.Rule.Apply
import Datasheet.Sheet.Basic

/-!
# Tables over a run of edits

A table comes from somewhere (`Origin`) and is edited any number of times
(`Edit.run`); an edit that fails leaves it as it was. Main lemmas:

* `Edit.apply_cases`: all that an edit can do is to drop columns or to add one;
* `ofRows_wellFormed`, `WellFormed.withColumn`, `WellFormed.dropColumns`: what
  makes a table, and both things that edits do, keep `Table.WellFormed`;
* `run_wellFormed`: so every table that a run leads to is well-formed, and no
  column has a blank name unless an edit that does not check names gave it one.
-/

namespace Datasheet

namespace Table

/-- No column's name is blank. -/
def NamesFilled (t : Table) : Prop := ∀ name ∈ t.names, isBlank name.toList = false

/-! ## Making tables -/

@[simp] theorem names_ofRows (headers : List String) (rows : List (List Cell)) :
    (ofRows headers rows).names = uniqueNames headers := by
  refine List.ext_getElem ?_ fun i h₁ h₂ => ?_
  · simp [names, ofRows]
  · simp [names, ofRows]

theorem empty_wellFormed : empty.WellFormed := ⟨by simp [empty], by simp [empty, names]⟩

theorem empty_namesFilled : empty.NamesFilled := fun _ hname => absurd hname List.not_mem_nil

theorem ofRows_wellFormed (headers : List String) (rows : List (List Cell)) :
    (ofRows headers rows).WellFormed where
  length_cells c hc := by
    obtain ⟨i, hi, rfl⟩ := List.mem_mapIdx.mp hc
    exact List.length_map _
  names_nodup := by
    rw [names_ofRows]
    exact uniqueNames_nodup headers

theorem ofRows_namesFilled (headers : List String) (rows : List (List Cell)) :
    (ofRows headers rows).NamesFilled := by
  intro name hname
  rw [names_ofRows] at hname
  exact not_isBlank_of_mem_uniqueNames hname

/-- A column is found by its name. -/
theorem WellFormed.column?_name {t : Table} (ht : t.WellFormed) {c : Column}
    (hc : c ∈ t.columns) : t.column? c.name = some c := by
  have hfound : ∃ d, t.column? c.name = some d :=
    Option.isSome_iff_exists.mp (List.find?_isSome.mpr ⟨c, hc, by simp⟩)
  obtain ⟨d, hd⟩ := hfound
  have hname : d.name = c.name := by simpa using List.find?_some hd
  rw [hd, List.inj_on_of_nodup_map ht.names_nodup (List.mem_of_find?_eq_some hd) hc hname]

/-! ## Adding a column -/

/-- A column takes the place of the one of its name, or the last place. -/
theorem names_replaceColumn (new : Column) (cs : List Column) :
    (replaceColumn new cs).map Column.name =
      if new.name ∈ cs.map Column.name then cs.map Column.name
      else cs.map Column.name ++ [new.name] := by
  induction cs with
  | nil => rfl
  | cons c cs ih =>
    by_cases h : c.name = new.name
    · simp [replaceColumn, h]
    · by_cases hmem : new.name ∈ cs.map Column.name <;> simp_all [replaceColumn, eq_comm]

theorem mem_replaceColumn {new c : Column} {cs : List Column} (h : c ∈ replaceColumn new cs) :
    c = new ∨ c ∈ cs := by
  induction cs with
  | nil => exact .inl (List.mem_singleton.mp h)
  | cons d ds ih =>
    rw [replaceColumn] at h
    split at h <;> rcases List.mem_cons.mp h with rfl | h
    · exact .inl rfl
    · exact .inr (List.mem_cons_of_mem _ h)
    · exact .inr List.mem_cons_self
    · exact (ih h).imp_right (List.mem_cons_of_mem _)

/-- What adding a column can lead to. A table without columns takes its number
of rows from the new one. -/
theorem withColumn_cases {t t' : Table} {c : Column} (h : t.withColumn c = .ok t') :
    (t.columns = [] ∧ t' = ⟨[c], c.cells.length⟩) ∨
      (c.cells.length = t.rowCount ∧ t' = ⟨replaceColumn c t.columns, t.rowCount⟩) := by
  rw [withColumn] at h
  split at h
  · exact .inl ⟨List.isEmpty_iff.mp ‹_›, (Except.ok.inj h).symm⟩
  · split at h <;> cases h
    exact .inr ⟨by omega, rfl⟩

theorem WellFormed.withColumn {t t' : Table} {c : Column} (ht : t.WellFormed)
    (h : t.withColumn c = .ok t') : t'.WellFormed := by
  obtain ⟨-, rfl⟩ | ⟨hlength, rfl⟩ := withColumn_cases h
  · exact ⟨by simp, by simp [names]⟩
  · refine ⟨fun d hd => ?_, ?_⟩
    · rcases mem_replaceColumn hd with rfl | hd
      · exact hlength
      · exact ht.length_cells d hd
    · rw [names, names_replaceColumn]
      split
      · exact ht.names_nodup
      · rw [List.nodup_append]
        refine ⟨ht.names_nodup, List.nodup_singleton _, fun a ha b hb => ?_⟩
        rw [List.mem_singleton.mp hb]
        exact fun e => ‹¬_› (e ▸ ha)

theorem NamesFilled.withColumn {t t' : Table} {c : Column} (ht : t.NamesFilled)
    (hc : isBlank c.name.toList = false) (h : t.withColumn c = .ok t') : t'.NamesFilled := by
  intro name hname
  obtain ⟨d, hd, rfl⟩ := List.mem_map.mp hname
  obtain ⟨-, rfl⟩ | ⟨-, rfl⟩ := withColumn_cases h
  · rwa [List.mem_singleton.mp hd]
  · rcases mem_replaceColumn hd with rfl | hd
    · exact hc
    · exact ht _ (List.mem_map_of_mem hd)

/-! ## Dropping columns -/

theorem WellFormed.dropColumns {t : Table} (ht : t.WellFormed) (dropped : List String) :
    (t.dropColumns dropped).WellFormed where
  length_cells c hc := ht.length_cells c (List.mem_of_mem_filter hc)
  names_nodup := ht.names_nodup.sublist (List.filter_sublist.map _)

theorem NamesFilled.dropColumns {t : Table} (ht : t.NamesFilled) (dropped : List String) :
    (t.dropColumns dropped).NamesFilled := by
  intro name hname
  obtain ⟨c, hc, rfl⟩ := List.mem_map.mp hname
  exact ht _ (List.mem_map_of_mem (List.mem_of_mem_filter hc))

end Table

/-! ## Edits -/

/-- Where a table comes from. -/
inductive Origin where
  | empty
  | rows (headers : List String) (cells : List (List Cell))
  | text (s : String)
  | sheet (s : Sheet)

def Origin.table : Origin → Except Failure Table
  | empty => .ok .empty
  | rows headers cells => .ok (.ofRows headers cells)
  | text s => Csv.readTable s
  | sheet s => .ok s.toTable

/-- A change to a table. -/
inductive Edit where
  | put (c : Column)
  | drop (names : List String)
  | condition (name : String) (c : Condition)
  | formula (name source : String)
  | blank (name : String)
  | rule (name : String) (r : Rule)

namespace Edit

def apply : Edit → Table → Except Failure Table
  | put c, t => t.withColumn c
  | drop names, t => .ok (t.dropColumns names)
  | condition name c, t => t.addConditionColumn name c
  | formula name source, t => t.addFormulaColumn name source
  | blank name, t => t.addBlankColumn name
  | rule name r, t => r.apply t name

/-- The name that an edit gives to a column without looking whether it is blank. -/
def uncheckedName? : Edit → Option String
  | put c => some c.name
  | condition name _ | formula name _ | blank name => some name
  | drop _ | rule _ _ => none

/-- The table after an edit, which is the same if the edit fails. -/
def step (t : Table) (e : Edit) : Table :=
  match e.apply t with
  | .ok t' => t'
  | .error _ => t

def run (t : Table) (edits : List Edit) : Table := edits.foldl step t

/-- An edit that succeeds drops columns or adds one, under a name that is its own
to choose or that is not blank. -/
theorem apply_cases {e : Edit} {t t' : Table} (h : e.apply t = .ok t') :
    (∃ dropped, t' = t.dropColumns dropped) ∨
      ∃ c, t.withColumn c = .ok t' ∧
        (e.uncheckedName? = some c.name ∨ isBlank c.name.toList = false) := by
  cases e with
  | put c => exact .inr ⟨c, h, .inl rfl⟩
  | drop names => exact .inl ⟨names, (Except.ok.inj h).symm⟩
  | condition name c => exact .inr ⟨_, h, .inl rfl⟩
  | formula name source => exact .inr ⟨_, h, .inl rfl⟩
  | blank name => exact .inr ⟨_, h, .inl rfl⟩
  | rule name r =>
    simp only [apply, Rule.apply] at h
    split at h
    · cases h
    · have hname := Bool.eq_false_iff.mpr ‹¬_›
      cases r with
      | condition c => exact .inr ⟨_, h, .inr hname⟩
      | formula source => exact .inr ⟨_, h, .inr hname⟩
      | blank => exact .inr ⟨_, h, .inr hname⟩

theorem step_wellFormed {t : Table} (ht : t.WellFormed) (e : Edit) : (step t e).WellFormed := by
  rw [step]
  split
  · obtain ⟨dropped, rfl⟩ | ⟨c, hc, -⟩ := apply_cases ‹_›
    · exact ht.dropColumns dropped
    · exact ht.withColumn hc
  · exact ht

theorem step_namesFilled {t : Table} (ht : t.NamesFilled) {e : Edit}
    (he : ∀ name, e.uncheckedName? = some name → isBlank name.toList = false) :
    (step t e).NamesFilled := by
  rw [step]
  split
  · obtain ⟨dropped, rfl⟩ | ⟨c, hc, hname⟩ := apply_cases ‹_›
    · exact ht.dropColumns dropped
    · exact ht.withColumn (hname.elim (he c.name) id) hc
  · exact ht

/-! ## Runs -/

/-- A run keeps what each of its edits keeps. -/
theorem run_induction {P : Table → Prop} {t : Table} {edits : List Edit} (ht : P t)
    (hstep : ∀ e ∈ edits, ∀ s, P s → P (step s e)) : P (run t edits) := by
  induction edits generalizing t with
  | nil => exact ht
  | cons e edits ih =>
    exact ih (hstep e List.mem_cons_self t ht) fun e' he' => hstep e' (List.mem_cons_of_mem _ he')

end Edit

theorem Origin.table_wellFormed {o : Origin} {t : Table} (h : o.table = .ok t) :
    t.WellFormed ∧ t.NamesFilled := by
  cases o with
  | empty =>
    cases h
    exact ⟨Table.empty_wellFormed, Table.empty_namesFilled⟩
  | rows headers cells =>
    cases h
    exact ⟨Table.ofRows_wellFormed _ _, Table.ofRows_namesFilled _ _⟩
  | text s =>
    simp only [table, Csv.readTable, Csv.read, Csv.readWith] at h
    split at h <;> cases h
    exact ⟨Table.ofRows_wellFormed _ _, Table.ofRows_namesFilled _ _⟩
  | sheet s =>
    cases h
    cases s with
    | nil => exact ⟨Table.empty_wellFormed, Table.empty_namesFilled⟩
    | cons header rows => exact ⟨Table.ofRows_wellFormed _ _, Table.ofRows_namesFilled _ _⟩

/-- Every table that any run of edits leads to has a cell for each row in every
column and different column names. None of these is blank if those that are put
in unchecked are not. -/
theorem Edit.run_wellFormed {o : Origin} {t : Table} (h : o.table = .ok t) (edits : List Edit) :
    (run t edits).WellFormed ∧
      ((∀ e ∈ edits, ∀ name, e.uncheckedName? = some name → isBlank name.toList = false) →
        (run t edits).NamesFilled) := by
  obtain ⟨hwell, hfilled⟩ := Origin.table_wellFormed h
  refine ⟨run_induction hwell fun e _ s hs => step_wellFormed hs e, fun hnames => ?_⟩
  exact run_induction hfilled fun e he s hs => step_namesFilled hs (hnames e he)

/-- Drops every column of a table of one row and goes on with two rows. -/
def Edit.startOver : List Edit :=
  [.drop ["a", "a.1"], .put ⟨"b", [.missing, .bool true]⟩, .rule "c" .blank]

theorem Edit.run_wellFormed_of_drop_all :
    Origin.table (.rows ["a", "a"] [[.missing]]) = .ok (.ofRows ["a", "a"] [[.missing]]) ∧
      (run (.ofRows ["a", "a"] [[.missing]]) startOver).WellFormed ∧
      (run (.ofRows ["a", "a"] [[.missing]]) startOver).NamesFilled := by
  have hrun := run_wellFormed (o := .rows ["a", "a"] [[.missing]]) rfl startOver
  refine ⟨rfl, hrun.1, hrun.2 fun e he name hname => ?_⟩
  simp only [startOver, List.mem_cons, List.not_mem_nil, or_false] at he
  rcases he with rfl | rfl | rfl <;> cases hname
  decide

end Datasheet
