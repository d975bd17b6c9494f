import Datasheet.Proofs.Formula.Names
import Mathlib.Data.List.Nodup

/-!
# Which column owns a spelling

If the columns have different names, each text belongs to one column at most
(`owner?`): to the one of that name, else to the first one whose name is that text with
white space around it. The keys of the columns are the texts with an owner
(`mem_columnKeys_iff_owner?`), so what is found at a place of a formula is the longest
one that fits there (`find?_columnKeys_iff`).
-/

namespace Datasheet.Formula

/-- The column that a text stands for. -/
def owner? (names : List String) (text : List Char) : Option Nat :=
  if text = [] then none
  else (names.findIdx? (·.toList = text)).or (names.findIdx? (trim ·.toList = text))

/-! ## The keys of the columns -/

/-- The trimmed text of a key is claimed by the first key that has it, unless it is a
name. -/
theorem mem_trimmedKeys_iff {texts claimed : List (List Char)} {keys : List ColumnKey}
    (htexts : ∀ k ∈ keys, k.text ∈ texts) {key : ColumnKey} :
    key ∈ trimmedKeys texts claimed keys ↔
      key.text ≠ [] ∧ key.text ∉ texts ∧ key.text ∉ claimed ∧
        (keys.find? (trim ·.text = key.text)).map ColumnKey.index = some key.index := by
  induction keys generalizing claimed with
  | nil => simp [trimmedKeys]
  | cons k keys ih =>
    rw [List.forall_mem_cons] at htexts
    by_cases hskip : trim k.text = [] ∨ trim k.text = k.text ∨ trim k.text ∈ texts ∨
        trim k.text ∈ claimed
    · -- `k` claims nothing, so it is not the key that has claimed `key.text`
      rw [trimmedKeys, if_pos (by simpa [or_assoc] using hskip), ih htexts.2]
      refine and_congr_right fun hne => and_congr_right fun hname => and_congr_right fun hfree => ?_
      have hother : trim k.text ≠ key.text := by
        rintro heq
        rw [heq] at hskip
        rcases hskip with h | h | h | h
        · exact hne h
        · exact hname (h ▸ htexts.1)
        · exact hname h
        · exact hfree h
      rw [List.find?_cons_of_neg (by simpa using hother)]
    · rw [trimmedKeys, if_neg (by simpa [or_assoc] using hskip), List.mem_cons, ih htexts.2]
      rw [not_or, not_or, not_or] at hskip
      by_cases heq : trim k.text = key.text
      · rw [List.find?_cons_of_pos (by simpa using heq), ← heq]
        simp only [List.mem_cons, true_or, not_true_eq_false, false_and, and_false, or_false]
        constructor
        · rintro rfl
          exact ⟨hskip.1, hskip.2.2.1, hskip.2.2.2, rfl⟩
        · rintro ⟨-, -, -, hindex⟩
          rw [Option.map_some, Option.some.injEq] at hindex
          rw [hindex, heq]
      · have hfirst : key ≠ ⟨trim k.text, k.index⟩ := fun h => heq (by rw [h])
        rw [List.find?_cons_of_neg (by simpa using heq), List.mem_cons, not_or]
        simp only [hfirst, false_or, Ne.symm heq, not_false_eq_true, true_and]

theorem map_text_nameKeys (names : List String) :
    (nameKeys names).map (·.text) = names.map String.toList := by
  have htexts : names.zipIdx.map (String.toList ∘ Prod.fst) = names.map String.toList := by
    rw [← List.map_map, List.zipIdx_map_fst]
  rw [nameKeys, List.map_map, ← htexts]
  rfl

/-- The first key with a trimmed text is that of the first name with it. -/
theorem find?_nameKeys (names : List String) (text : List Char) :
    ((nameKeys names).find? (trim ·.text = text)).map ColumnKey.index =
      names.findIdx? (trim ·.toList = text) := by
  rw [nameKeys, List.find?_map, Option.map_map, List.findIdx?_eq_fst_find?_zipIdx]
  rfl

section Owned

variable {names : List String} (hnodup : names.Nodup)

include hnodup

theorem getElem?_iff_findIdx? {i : Nat} {name : String} :
    names[i]? = some name ↔ names.findIdx? (·.toList = name.toList) = some i := by
  rw [List.findIdx?_eq_some_iff_getElem]
  constructor
  · intro hi
    obtain ⟨hlt, rfl⟩ := List.getElem?_eq_some_iff.mp hi
    refine ⟨hlt, by simp, fun j hj hsame => ?_⟩
    have hindex := (List.getElem_inj hnodup).mp (String.toList_inj.mp (of_decide_eq_true hsame))
    omega
  · rintro ⟨hlt, hsame, -⟩
    rw [List.getElem?_eq_getElem hlt, String.toList_inj.mp (of_decide_eq_true hsame)]

theorem mem_columnKeys_iff_owner? {key : ColumnKey} :
    key ∈ columnKeys names ↔ owner? names key.text = some key.index := by
  have hnames : (nameKeys names).map (·.text) = names.map String.toList := map_text_nameKeys names
  have htexts : ∀ k ∈ nameKeys names, k.text ∈ names.map String.toList := fun k hk =>
    hnames ▸ List.mem_map_of_mem hk
  have hkey : names[key.index]? = some (.ofList key.text) ↔
      names.findIdx? (·.toList = key.text) = some key.index := by
    rw [getElem?_iff_findIdx? hnodup, String.toList_ofList]
  rw [mem_columnKeys_cases, hnames, mem_trimmedKeys_iff htexts, find?_nameKeys, mem_nameKeys,
    hkey, owner?]
  by_cases hne : key.text = []
  · simp [hne]
  · have hnone : key.text ∉ names.map String.toList ↔
        names.findIdx? (·.toList = key.text) = none := by
      simp [List.findIdx?_eq_none_iff]
    rw [hnone]
    cases names.findIdx? (·.toList = key.text) <;> simp [hne]

theorem lt_of_mem_columnKeys {key : ColumnKey} (h : key ∈ columnKeys names) :
    key.index < names.length := by
  rw [mem_columnKeys_iff_owner? hnodup, owner?] at h
  split at h
  · cases h
  · rcases Option.or_eq_some_iff.mp h with h | ⟨-, h⟩ <;>
      exact (List.findIdx?_eq_some_iff_getElem.mp h).1

/-- No text is a key of two columns. -/
theorem eq_of_mem_columnKeys {a b : ColumnKey} (ha : a ∈ columnKeys names)
    (hb : b ∈ columnKeys names) (htext : a.text = b.text) : a = b := by
  rw [mem_columnKeys_iff_owner? hnodup] at ha hb
  rw [htext, hb, Option.some.injEq] at ha
  cases a
  cases b
  simp_all

end Owned

/-! ## Where keys fit -/

theorem byteLength_append (cs ds : List Char) :
    byteLength (cs ++ ds) = byteLength cs + byteLength ds := by
  induction cs with
  | nil => rw [List.nil_append, byteLength, Nat.zero_add]
  | cons c cs ih => rw [List.cons_append, byteLength, byteLength, ih, Nat.add_assoc]

theorem eq_nil_of_byteLength_eq_zero {cs : List Char} (h : byteLength cs = 0) : cs = [] := by
  cases cs with
  | nil => rfl
  | cons c cs =>
    have hpos := c.utf8Size_pos
    rw [byteLength] at h
    omega

/-- Of two texts at one place, the one with fewer bytes starts the other. -/
theorem prefix_of_byteLength_le {cs ds text : List Char} (hcs : cs <+: text) (hds : ds <+: text)
    (h : byteLength cs ≤ byteLength ds) : cs <+: ds := by
  rcases List.prefix_or_prefix_of_prefix hcs hds with hp | ⟨es, rfl⟩
  · exact hp
  · have hes : byteLength es = 0 := by
      rw [byteLength_append] at h
      omega
    simp [eq_nil_of_byteLength_eq_zero hes]

/-- Of two texts of one size, neither is longer than the other. -/
theorem eq_of_prefix_of_byteLength_eq {cs ds text : List Char} (hcs : cs <+: text)
    (hds : ds <+: text) (h : byteLength cs = byteLength ds) : cs = ds :=
  (prefix_of_byteLength_le hcs hds (Nat.le_of_eq h)).eq_of_length_le
    (prefix_of_byteLength_le hds hcs (Nat.le_of_eq h.symm)).length_le

theorem prefix_of_fits {key : ColumnKey} {before : Option Char} {rest : List Char}
    (h : key.fits before rest) : key.text <+: rest := by
  simp only [ColumnKey.fits, Bool.and_eq_true] at h
  exact List.isPrefixOf_iff_prefix.mp h.1.1

/-- What is found first in a list comes before everything else that could be. -/
theorem rel_of_find?_eq_some {α : Type} {r : α → α → Prop} (hrefl : ∀ a, r a a) {l : List α}
    (hl : l.Pairwise r) {p : α → Bool} {a b : α} (ha : l.find? p = some a) (hb : b ∈ l)
    (hpb : p b) : r a b := by
  induction l with
  | nil => cases hb
  | cons c l ih =>
    obtain ⟨hc, hl⟩ := List.pairwise_cons.mp hl
    by_cases hpc : p c
    · rw [List.find?_cons_of_pos hpc] at ha
      obtain rfl := Option.some.inj ha
      rcases List.mem_cons.mp hb with rfl | hb
      · exact hrefl _
      · exact hc b hb
    · rw [List.find?_cons_of_neg hpc] at ha
      rcases List.mem_cons.mp hb with rfl | hb
      · exact absurd hpb hpc
      · exact ih hl ha hb

theorem pairwise_columnKeys (names : List String) :
    (columnKeys names).Pairwise fun a b => byteLength b.text ≤ byteLength a.text := by
  refine (List.pairwise_mergeSort (fun a b c hab hbc => ?_) (fun a b => ?_) _).imp of_decide_eq_true
  · rw [decide_eq_true_eq] at hab hbc ⊢
    omega
  · rw [Bool.or_eq_true, decide_eq_true_eq, decide_eq_true_eq]
    omega

/-- Whether a key fits is told by its text. -/
theorem fits_congr {a b : ColumnKey} (h : a.text = b.text) (before : Option Char)
    (rest : List Char) : a.fits before rest = b.fits before rest := by
  rw [ColumnKey.fits, ColumnKey.fits, h]

/-- What is found is the key with the most bytes of those that fit. -/
theorem find?_columnKeys_iff {names : List String} (hnodup : names.Nodup)
    {before : Option Char} {rest : List Char} {key : ColumnKey} :
    (columnKeys names).find? (·.fits before rest) = some key ↔
      key ∈ columnKeys names ∧ key.fits before rest ∧
        ∀ other ∈ columnKeys names, other.fits before rest →
          byteLength other.text ≤ byteLength key.text := by
  have hlongest : ∀ {found}, (columnKeys names).find? (·.fits before rest) = some found →
      ∀ other ∈ columnKeys names, other.fits before rest →
        byteLength other.text ≤ byteLength found.text := fun hfound other hother =>
    rel_of_find?_eq_some (r := fun a b => byteLength b.text ≤ byteLength a.text)
      (fun _ => Nat.le_refl _) (pairwise_columnKeys names) hfound hother
  constructor
  · intro hfound
    exact ⟨List.mem_of_find?_eq_some hfound, List.find?_some hfound, hlongest hfound⟩
  · rintro ⟨hkey, hfits, hmost⟩
    have hsome := List.find?_isSome.mpr ⟨key, hkey, hfits⟩
    obtain ⟨found, hfound⟩ := Option.isSome_iff_exists.mp hsome
    have hmem := List.mem_of_find?_eq_some hfound
    -- each of the two has at least as many bytes as the other, and both start the rest
    have hsize := Nat.le_antisymm (hmost found hmem (List.find?_some hfound))
      (hlongest hfound key hkey hfits)
    have htext := eq_of_prefix_of_byteLength_eq (prefix_of_fits (List.find?_some hfound))
      (prefix_of_fits hfits) hsize
    rw [hfound, eq_of_mem_columnKeys hnodup hmem hkey htext]

end Datasheet.Formula
