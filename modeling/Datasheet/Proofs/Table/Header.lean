import Datasheet.Table.Header
import Mathlib.Data.List.Nodup
import Mathlib.Data.Nat.Find

/-!
# Names from a header line

What `uniqueNames` makes of any header line, and which lines it leaves alone:

* `uniqueNames_nodup`, `not_isBlank_of_mem_uniqueNames`: the names are different
  and none is blank;
* `uniqueNames_eq_self`: different headers that are not blank stay as they are;
* `uniqueNames_firstFree`: each name is the first variant of its base that no name
  before it took.

A base has different variants (`variant_injective`), so among `n + 1` of them one is not
among `n` names (`le_length_of_variants`). The search for a free name, which stops after
`n` variants, therefore ends at the first free one (`FirstFree.freeName_eq`).
-/

namespace Datasheet

/-! ## Variants -/

/-- The names that a base may get: itself, then its variants by their numbers. -/
def variant (base : String) : Nat → String
  | 0 => base
  | k + 1 => numberedName base (k + 1)

theorem numberedName_injective (base : String) : Function.Injective (numberedName base) := by
  intro j k h
  have h' : Nat.toDigits 10 j = Nat.toDigits 10 k := by
    simpa [numberedName, Nat.toString_eq_ofList_toDigits] using congrArg String.toList h
  rw [← Nat.ofDigitChars_ten_toDigits (n := j), h', Nat.ofDigitChars_ten_toDigits]

/-- A number makes a name longer. -/
theorem numberedName_ne (base : String) (k : Nat) : numberedName base k ≠ base := by
  intro h
  have hlength := congrArg (fun name => name.toList.length) h
  simp [numberedName] at hlength

theorem variant_injective (base : String) : Function.Injective (variant base) := by
  intro j k h
  cases j with
  | zero =>
    cases k with
    | zero => rfl
    | succ k => exact absurd h.symm (numberedName_ne base (k + 1))
  | succ j =>
    cases k with
    | zero => exact absurd h (numberedName_ne base (j + 1))
    | succ k => exact numberedName_injective base h

/-- Only as many variants can be taken as there are names that take them. -/
theorem le_length_of_variants {taken : List String} {base : String} {n : Nat}
    (h : ∀ j < n, variant base j ∈ taken) : n ≤ taken.length := by
  have hsub : (List.range n).map (variant base) ⊆ taken := by
    intro name hname
    obtain ⟨j, hj, rfl⟩ := List.mem_map.mp hname
    exact h j (List.mem_range.mp hj)
  have hnodup := List.Nodup.map (variant_injective base) (List.nodup_range (n := n))
  simpa using hnodup.length_le_of_subset hsub

/-- The `k`-th variant is the first one that is not taken. -/
structure FirstFree (taken : List String) (base : String) (k : Nat) : Prop where
  free : variant base k ∉ taken
  taken_of_lt : ∀ j < k, variant base j ∈ taken

namespace FirstFree

variable {taken : List String} {base : String} {k : Nat}

/-- A search through the variants ends after as many as there are names, or before. -/
theorem le_length (h : FirstFree taken base k) : k ≤ taken.length :=
  le_length_of_variants h.taken_of_lt

theorem exists_of_taken (taken : List String) (base : String) : ∃ k, FirstFree taken base k := by
  have hfree : ∃ k, variant base k ∉ taken := by
    by_contra! hall
    have hle := le_length_of_variants (n := taken.length + 1) fun j _ => hall j
    omega
  refine ⟨Nat.find hfree, Nat.find_spec hfree, fun j hj => ?_⟩
  exact not_not.mp (Nat.find_min hfree hj)

/-- Which names are taken matters, not their order. -/
theorem of_mem_iff {taken' : List String} (h : FirstFree taken base k)
    (hmem : ∀ name, name ∈ taken' ↔ name ∈ taken) : FirstFree taken' base k :=
  ⟨mt (hmem _).mp h.free, fun j hj => (hmem _).mpr (h.taken_of_lt j hj)⟩

end FirstFree

/-! ## Free names -/

/-- The name that is free is the first variant that is not taken. -/
theorem FirstFree.freeName_eq {taken : List String} {base : String} {k : Nat}
    (h : FirstFree taken base k) : freeName taken base = variant base k := by
  cases k with
  | zero => exact if_pos h.free
  | succ k =>
    have hbase : base ∈ taken := h.taken_of_lt 0 (Nat.succ_pos k)
    let free (j : Nat) : Bool := decide (numberedName base j ∉ taken)
    have hfind : (List.range' 1 (taken.length + 1)).find? free = some (k + 1) := by
      rw [List.find?_range'_eq_some]
      refine ⟨decide_eq_true h.free, ?_, fun j hj hlt => ?_⟩
      · have hle := h.le_length
        rw [List.mem_range'_1]
        omega
      · obtain ⟨i, rfl⟩ := Nat.exists_eq_add_of_le' hj
        have htaken : numberedName base (i + 1) ∈ taken := h.taken_of_lt (i + 1) hlt
        simpa [free] using htaken
    have hsearch : (List.range' 1 (taken.length + 1)).findSome?
        (fun j => if numberedName base j ∉ taken then some (numberedName base j) else none) =
          some (numberedName base (k + 1)) := by
      rw [← Option.map_some (f := numberedName base), ← hfind, ← List.findSome?_guard,
        List.map_findSome?]
      refine congrArg (List.findSome? · _) (funext fun j => ?_)
      by_cases hj : numberedName base j ∈ taken <;> simp [free, Option.guard, hj]
    rw [freeName, if_neg (not_not_intro hbase)]
    dsimp only
    rw [hsearch]
    rfl

/-- A base that is taken is replaced by a variant that is not. -/
theorem freeName_of_mem {taken : List String} {base : String} (h : base ∈ taken) :
    ∃ k, freeName taken base = numberedName base k ∧ numberedName base k ∉ taken := by
  obtain ⟨k, hk⟩ := FirstFree.exists_of_taken taken base
  cases k with
  | zero => exact absurd h hk.free
  | succ k => exact ⟨k + 1, hk.freeName_eq, hk.free⟩

theorem freeName_of_notMem {taken : List String} {base : String} (h : base ∉ taken) :
    freeName taken base = base := if_pos h

theorem freeName_notMem (taken : List String) (base : String) : freeName taken base ∉ taken := by
  by_cases h : base ∈ taken
  · obtain ⟨k, hk, hfree⟩ := freeName_of_mem h
    rwa [hk]
  · rwa [freeName_of_notMem h]

/-! ## Blank names -/

theorem isBlank_append (cs ds : List Char) : isBlank (cs ++ ds) = (isBlank cs && isBlank ds) :=
  List.all_append

theorem not_isBlank_baseName (index : Nat) (header : String) :
    isBlank (baseName index header).toList = false := by
  rw [baseName]
  split
  · rw [String.toList_append, isBlank_append]
    rfl
  · exact Bool.eq_false_iff.mpr ‹_›

theorem not_isBlank_freeName (taken : List String) {base : String}
    (h : isBlank base.toList = false) : isBlank (freeName taken base).toList = false := by
  by_cases hmem : base ∈ taken
  · obtain ⟨k, hk, -⟩ := freeName_of_mem hmem
    rw [hk, numberedName, String.toList_append, String.toList_append, isBlank_append,
      isBlank_append, h]
    rfl
  · rwa [freeName_of_notMem hmem]

/-! ## The names of a line -/

theorem length_uniqueNamesFrom (headers taken : List String) (index : Nat) :
    (uniqueNamesFrom taken index headers).length = headers.length := by
  induction headers generalizing taken index with
  | nil => rfl
  | cons header headers ih => rw [uniqueNamesFrom, List.length_cons, ih, List.length_cons]

theorem uniqueNamesFrom_nodup (headers : List String) (taken : List String) (index : Nat) :
    (uniqueNamesFrom taken index headers).Nodup ∧
      ∀ name ∈ uniqueNamesFrom taken index headers, name ∉ taken := by
  induction headers generalizing taken index with
  | nil => exact ⟨List.nodup_nil, fun _ h => absurd h List.not_mem_nil⟩
  | cons header headers ih =>
    obtain ⟨hnodup, hfresh⟩ := ih (freeName taken (baseName index header) :: taken) (index + 1)
    refine ⟨List.nodup_cons.mpr ⟨fun hmem => hfresh _ hmem List.mem_cons_self, hnodup⟩, ?_⟩
    intro name hname
    rcases List.mem_cons.mp hname with rfl | hname
    · exact freeName_notMem _ _
    · exact fun hmem => hfresh name hname (List.mem_cons_of_mem _ hmem)

theorem uniqueNames_nodup (headers : List String) : (uniqueNames headers).Nodup :=
  (uniqueNamesFrom_nodup headers [] 0).1

theorem not_isBlank_of_mem_uniqueNamesFrom {headers taken : List String} {index : Nat}
    {name : String} (h : name ∈ uniqueNamesFrom taken index headers) :
    isBlank name.toList = false := by
  induction headers generalizing taken index with
  | nil => exact absurd h List.not_mem_nil
  | cons header headers ih =>
    rcases List.mem_cons.mp h with rfl | h
    · exact not_isBlank_freeName _ (not_isBlank_baseName _ _)
    · exact ih h

theorem not_isBlank_of_mem_uniqueNames {headers : List String} {name : String}
    (h : name ∈ uniqueNames headers) : isBlank name.toList = false :=
  not_isBlank_of_mem_uniqueNamesFrom h

theorem uniqueNamesFrom_eq_self {headers taken : List String} {index : Nat}
    (hnodup : headers.Nodup) (hfresh : ∀ header ∈ headers, header ∉ taken)
    (hblank : ∀ header ∈ headers, isBlank header.toList = false) :
    uniqueNamesFrom taken index headers = headers := by
  induction headers generalizing taken index with
  | nil => rfl
  | cons header headers ih =>
    have hbase : baseName index header = header :=
      if_neg (Bool.eq_false_iff.mp (hblank header List.mem_cons_self))
    have hname : freeName taken (baseName index header) = header := by
      rw [hbase, freeName_of_notMem (hfresh header List.mem_cons_self)]
    obtain ⟨hhead, htail⟩ := List.nodup_cons.mp hnodup
    rw [uniqueNamesFrom, hname, ih htail]
    · intro other hother
      rw [List.mem_cons, not_or]
      exact ⟨fun e => hhead (e ▸ hother), hfresh other (List.mem_cons_of_mem _ hother)⟩
    · exact fun other hother => hblank other (List.mem_cons_of_mem _ hother)

/-- Different headers that are not blank name the columns as they are. -/
theorem uniqueNames_eq_self {headers : List String} (hnodup : headers.Nodup)
    (hblank : ∀ header ∈ headers, isBlank header.toList = false) : uniqueNames headers = headers :=
  uniqueNamesFrom_eq_self hnodup (fun _ _ => List.not_mem_nil) hblank

/-! ## Which names a line gets -/

/-- Each name is the first variant of its header's base that none before it is. -/
theorem getElem?_uniqueNamesFrom {headers : List String} {i : Nat} {header : String}
    (hi : headers[i]? = some header) (taken : List String) (index : Nat) :
    ∃ k, FirstFree (((uniqueNamesFrom taken index headers).take i).reverse ++ taken)
        (baseName (index + i) header) k ∧
      (uniqueNamesFrom taken index headers)[i]? =
        some (variant (baseName (index + i) header) k) := by
  induction headers generalizing taken index i with
  | nil => simp at hi
  | cons first headers ih =>
    cases i with
    | zero =>
      obtain rfl : first = header := by simpa using hi
      obtain ⟨k, hk⟩ := FirstFree.exists_of_taken taken (baseName index first)
      exact ⟨k, hk, congrArg some hk.freeName_eq⟩
    | succ i =>
      rw [List.getElem?_cons_succ] at hi
      obtain ⟨k, hk, hname⟩ := ih hi (freeName taken (baseName index first) :: taken) (index + 1)
      rw [Nat.add_right_comm, Nat.add_assoc] at hk hname
      refine ⟨k, ?_, ?_⟩
      · simpa [uniqueNamesFrom] using hk
      · simpa [uniqueNamesFrom] using hname

/-- A header line of any length gets as many names, all different and none blank. Each is the
base of its header, or its variant of the least number, that none of the names before it is;
there are no more variants to try than names before it. So a line of different headers that
are not blank stays as it is, and names stay as they are. -/
theorem uniqueNames_firstFree (headers : List String) :
    (uniqueNames headers).length = headers.length ∧ (uniqueNames headers).Nodup ∧
      (∀ name ∈ uniqueNames headers, isBlank name.toList = false) ∧
      (∀ i header, headers[i]? = some header →
        ∃ k ≤ i, FirstFree ((uniqueNames headers).take i) (baseName i header) k ∧
          (uniqueNames headers)[i]? = some (variant (baseName i header) k)) ∧
      (headers.Nodup → (∀ header ∈ headers, isBlank header.toList = false) →
        uniqueNames headers = headers) ∧
      uniqueNames (uniqueNames headers) = uniqueNames headers := by
  have hblank : ∀ name ∈ uniqueNames headers, isBlank name.toList = false :=
    fun _ hname => not_isBlank_of_mem_uniqueNames hname
  refine ⟨length_uniqueNamesFrom headers [] 0, uniqueNames_nodup headers, hblank, ?_,
    uniqueNames_eq_self, uniqueNames_eq_self (uniqueNames_nodup headers) hblank⟩
  intro i header hi
  obtain ⟨k, hk, hname⟩ := getElem?_uniqueNamesFrom hi [] 0
  rw [Nat.zero_add] at hk hname
  have hfirst : FirstFree ((uniqueNames headers).take i) (baseName i header) k :=
    hk.of_mem_iff fun name => by simp [uniqueNames]
  refine ⟨k, ?_, hfirst, hname⟩
  exact Nat.le_trans hfirst.le_length (List.length_take_le _ _)

/-- Variants and names for blank headers that stand in the line already. -/
def clashingLine : List String := ["x", "x", "x.1", " ", "Unnamed: 3", "x", "x.1"]

def clashingNames : List String :=
  ["x", "x.1", "x.1.1", "Unnamed: 3", "Unnamed: 3.1", "x.2", "x.1.2"]

theorem uniqueNames_clashingLine :
    uniqueNames clashingLine = clashingNames ∧ clashingLine[5]? = some "x" ∧
      (∃ k ≤ 5, FirstFree (clashingNames.take 5) "x" k ∧ variant "x" k = "x.2") ∧
      clashingNames.Nodup ∧ (∀ name ∈ clashingNames, isBlank name.toList = false) ∧
      uniqueNames clashingNames = clashingNames := by
  have hnames : uniqueNames clashingLine = clashingNames := by decide +kernel
  obtain ⟨-, hnodup, hblank, hfirst, -, -⟩ := uniqueNames_firstFree clashingLine
  obtain ⟨-, -, -, -, hsame, -⟩ := uniqueNames_firstFree clashingNames
  rw [hnames] at hnodup hblank hfirst
  obtain ⟨k, hk, hfree, hname⟩ := hfirst 5 "x" rfl
  exact ⟨hnames, rfl, ⟨k, hk, hfree, (Option.some.inj hname).symm⟩, hnodup, hblank,
    hsame hnodup hblank⟩

end Datasheet
