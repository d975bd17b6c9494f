import Datasheet.Text.Alphabet
import Datasheet.Text.Space

/-!
# Classes of characters

* `CharRanges.not_contains_of_apart`: classes that are lists of ranges have no
  character in common if no two of their ranges meet, which is computed;
* `takeWhile_stop`, `dropWhile_stop`: a text in the class of a scanner is taken
  as far as a character that is not in it;
* `trim_eq_self`, `trim_trim`: a text without white space is its own trimmed text,
  and so is a trimmed text;
* `exists_append_trim`: a text is its trimmed text with white space on either side.
-/

namespace Datasheet

/-- No range of one list meets one of the other. -/
def CharRanges.apart (xs ys : CharRanges) : Bool :=
  xs.all fun x => ys.all fun y => x.2 < y.1 || y.2 < x.1

theorem CharRanges.not_contains_of_apart {xs ys : CharRanges} {c : Char} (h : xs.apart ys)
    (hc : xs.contains c) : ys.contains c = false := by
  obtain ⟨x, hx, hcx⟩ := List.any_eq_true.mp hc
  refine List.any_eq_false.mpr fun y hy hcy => ?_
  have hxy := List.all_eq_true.mp (List.all_eq_true.mp h x hx) y hy
  simp only [Bool.and_eq_true, Bool.or_eq_true, decide_eq_true_eq] at hcx hcy hxy
  omega

/-- The decimal digits of ASCII. -/
def digitRanges : CharRanges := [(0x30, 0x39)]

theorem contains_digitRanges {c : Char} (h : c.isDigit) : digitRanges.contains c := by
  simpa [digitRanges, CharRanges.contains] using Char.isDigit_iff_toNat.mp h

theorem not_isLetter_of_isDigit {c : Char} (h : c.isDigit) : isLetter c = false :=
  CharRanges.not_contains_of_apart (by decide +kernel) (contains_digitRanges h)

theorem not_isSpace_of_isLetterOrNumber {c : Char} (h : isLetterOrNumber c) :
    isSpace c = false := by
  have hletter : CharRanges.apart alphabeticRanges spaceRanges := by decide +kernel
  have hnumber : CharRanges.apart numericRanges spaceRanges := by decide +kernel
  rcases Bool.or_eq_true_iff.mp h with h | h
  · exact CharRanges.not_contains_of_apart hletter h
  · exact CharRanges.not_contains_of_apart hnumber h

theorem isLetterOrNumber_of_isDigit {c : Char} (h : c.isDigit) : isLetterOrNumber c := by
  have hc := contains_digitRanges h
  rw [digitRanges, CharRanges.contains, List.any_cons, List.any_nil, Bool.or_false] at hc
  have hnumber : numericRanges.contains c := by
    rw [numericRanges, CharRanges.contains, List.any_cons, hc, Bool.true_or]
  rw [isLetterOrNumber, hnumber, Bool.or_true]

/-! ## Runs of a class -/

section Runs

variable {p : Char → Bool} {ws rest : List Char}

/-- What is taken ends where the characters of the class do. -/
theorem takeWhile_stop (hws : ∀ c ∈ ws, p c) (hrest : ∀ c ∈ rest.head?, p c = false) :
    (ws ++ rest).takeWhile p = ws := by
  rw [List.takeWhile_append_of_pos hws]
  cases rest with
  | nil => rw [List.takeWhile_nil, List.append_nil]
  | cons c cs => rw [List.takeWhile_cons_of_neg (by simp [hrest c rfl]), List.append_nil]

theorem dropWhile_stop (hws : ∀ c ∈ ws, p c) (hrest : ∀ c ∈ rest.head?, p c = false) :
    (ws ++ rest).dropWhile p = rest := by
  rw [List.dropWhile_append_of_pos hws]
  cases rest with
  | nil => rfl
  | cons c cs => exact List.dropWhile_cons_of_neg (by simp [hrest c rfl])

end Runs

/-! ## Trimmed texts -/

/-- White space behind a text that neither starts nor ends with any is trimmed off. -/
theorem trim_append_of_ends {cs trail : List Char} (hhead : ∀ c ∈ cs.head?, isSpace c = false)
    (hlast : ∀ c ∈ cs.reverse.head?, isSpace c = false) (htrail : ∀ c ∈ trail, isSpace c) :
    trim (cs ++ trail) = cs := by
  cases cs with
  | nil =>
    have hstart : trimStart (trail ++ []) = [] := dropWhile_stop htrail (by simp)
    rw [List.append_nil] at hstart
    rw [List.nil_append, trim, hstart]
    rfl
  | cons c cs =>
    have hstart : trimStart (c :: cs ++ trail) = c :: cs ++ trail :=
      List.dropWhile_cons_of_neg (by simp [hhead c rfl])
    have hend : (trail.reverse ++ (c :: cs).reverse).dropWhile isSpace = (c :: cs).reverse :=
      dropWhile_stop (fun d hd => htrail d (List.mem_reverse.mp hd)) hlast
    rw [trim, hstart, trimEnd, List.reverse_append, hend, List.reverse_reverse]

/-- A text that neither starts nor ends with white space is its own trimmed text. -/
theorem trim_eq_self_of_ends {cs : List Char} (hhead : ∀ c ∈ cs.head?, isSpace c = false)
    (hlast : ∀ c ∈ cs.reverse.head?, isSpace c = false) : trim cs = cs := by
  have htrim := trim_append_of_ends hhead hlast (List.forall_mem_nil _)
  rwa [List.append_nil] at htrim

theorem trim_eq_self {cs : List Char} (h : ∀ c ∈ cs, isSpace c = false) : trim cs = cs :=
  trim_eq_self_of_ends (fun c hc => h c (List.mem_of_mem_head? hc))
    fun c hc => h c (List.mem_reverse.mp (List.mem_of_mem_head? hc))

theorem not_isSpace_of_head?_dropWhile (cs : List Char) :
    ∀ c ∈ (cs.dropWhile isSpace).head?, isSpace c = false := by
  intro c hc
  have hstop := List.head?_dropWhile_not isSpace cs
  rwa [hc] at hstop

/-- What is left after trimming starts where the text without its first white space
does. -/
theorem not_isSpace_of_head?_trim (cs : List Char) :
    ∀ c ∈ (trim cs).head?, isSpace c = false := by
  have hprefix : trim cs <+: trimStart cs := by
    rw [← List.reverse_suffix, trim, trimEnd, List.reverse_reverse]
    exact List.dropWhile_suffix _
  intro c hc
  obtain ⟨ds, hds⟩ := List.head?_eq_some_iff.mp hc
  obtain ⟨es, hes⟩ := hprefix
  refine not_isSpace_of_head?_dropWhile cs c ?_
  show c ∈ (trimStart cs).head?
  rw [← hes, hds]
  rfl

theorem not_isSpace_of_head?_reverse_trim (cs : List Char) :
    ∀ c ∈ (trim cs).reverse.head?, isSpace c = false := by
  rw [trim, trimEnd, List.reverse_reverse]
  exact not_isSpace_of_head?_dropWhile _

/-- White space may stand behind a trimmed text. -/
theorem trim_trim_append {cs trail : List Char} (htrail : ∀ c ∈ trail, isSpace c) :
    trim (trim cs ++ trail) = trim cs :=
  trim_append_of_ends (not_isSpace_of_head?_trim cs) (not_isSpace_of_head?_reverse_trim cs) htrail

theorem trim_trim (cs : List Char) : trim (trim cs) = trim cs :=
  trim_eq_self_of_ends (not_isSpace_of_head?_trim cs) (not_isSpace_of_head?_reverse_trim cs)

/-- What is trimmed off a text is white space on either side. -/
theorem exists_append_trim (cs : List Char) :
    ∃ lead trail, cs = lead ++ (trim cs ++ trail) ∧ (∀ c ∈ lead, isSpace c) ∧
      ∀ c ∈ trail, isSpace c := by
  have hstart : cs.takeWhile isSpace ++ trimStart cs = cs := List.takeWhile_append_dropWhile
  have hend : trim cs ++ ((trimStart cs).reverse.takeWhile isSpace).reverse = trimStart cs := by
    rw [trim, trimEnd, ← List.reverse_append, List.takeWhile_append_dropWhile,
      List.reverse_reverse]
  have htaken : ∀ ds : List Char, ∀ c ∈ ds.takeWhile isSpace, isSpace c := fun _ =>
    List.all_eq_true.mp List.all_takeWhile
  refine ⟨cs.takeWhile isSpace, ((trimStart cs).reverse.takeWhile isSpace).reverse, ?_,
    htaken cs, fun c hc => htaken _ c (List.mem_reverse.mp hc)⟩
  rw [hend, hstart]

end Datasheet
