import Datasheet.Proofs.Csv.Reader

/-!
# When a text counts as comma-separated

* `sniff_of_headerWidth`: the comma wins whenever it splits the header record;
* `sniff_of_narrow`: if no candidate splits the header record, only a delimiter
  outside quotes in the first line could be taken for another one. A header
  that is in quotes has none (`occursUnquoted_quote`).
-/

namespace Datasheet.Csv

theorem headerWidth_of_head? {text : List Char} {d : Delimiter} {record : List (List Char)}
    (h : (records d.char text).head? = some record) : headerWidth text d = record.length := by
  rw [headerWidth, h]
  rfl

theorem sniff_of_headerWidth {text : List Char} (h : 1 < headerWidth text .comma) :
    sniff text = .comma := by
  rw [sniff, Delimiter.candidates, List.find?_cons_of_pos (by simpa using h)]

/-! ## The first line -/

theorem head?_lines (text : List Char) :
    (lines text).head?.getD [] = text.takeWhile (· ≠ '\n') := by
  cases text with
  | nil => rw [lines]; rfl
  | cons c cs => rw [lines]; rfl

/-- A text that goes on after its first line break. -/
theorem takeWhile_lineFeed_prefix (line rest : List Char) :
    (line ++ '\n' :: rest).takeWhile (· ≠ '\n') <+: line := by
  rw [List.takeWhile_append]
  split
  · simp
  · exact List.takeWhile_prefix _

/-- In a shorter text a delimiter occurs less. -/
theorem occursUnquoted_of_prefix {d : Delimiter} {cs ds : List Char} (h : cs <+: ds)
    {quoted : Bool} (hds : occursUnquoted d quoted ds = false) :
    occursUnquoted d quoted cs = false := by
  induction cs generalizing ds quoted with
  | nil => rfl
  | cons c cs ih =>
    obtain ⟨rest, rfl⟩ := h
    rw [List.cons_append, occursUnquoted, Bool.or_eq_false_iff] at hds
    rw [occursUnquoted, hds.1, ih (List.prefix_append cs rest) hds.2]
    rfl

theorem occursUnquoted_of_notMem {d : Delimiter} {cs : List Char} (h : d.char ∉ cs)
    (quoted : Bool) : occursUnquoted d quoted cs = false := by
  induction cs generalizing quoted with
  | nil => rfl
  | cons c cs ih =>
    rw [List.mem_cons, not_or] at h
    rw [occursUnquoted, ih h.2]
    simp [Ne.symm h.1]

/-- Within quotes no delimiter counts, and a doubled quote leads back into them. -/
theorem occursUnquoted_quote_append (d : Delimiter) (field rest : List Char) :
    occursUnquoted d false (quote field ++ rest) = occursUnquoted d false rest := by
  have hquote : '"' ≠ d.char := Ne.symm d.delimits.ne_quote
  have hbody : ∀ cs : List Char, occursUnquoted d true
      ((cs.flatMap fun c => if c = '"' then ['"', '"'] else [c]) ++ '"' :: rest) =
        occursUnquoted d false rest := by
    intro cs
    induction cs with
    | nil => simp [occursUnquoted, hquote]
    | cons c cs ih =>
      rw [List.flatMap_cons, List.append_assoc]
      by_cases hc : c = '"' <;> simp [hc, occursUnquoted, hquote, ih]
  rw [quote, List.cons_append, List.cons_append, List.append_assoc, List.singleton_append,
    occursUnquoted]
  simp [hbody]

theorem occursUnquoted_quote (d : Delimiter) (field : List Char) :
    occursUnquoted d false (quote field) = false := by
  have happend := occursUnquoted_quote_append d field []
  rwa [List.append_nil] at happend

theorem sniff_of_narrow {text : List Char} (hwidth : ∀ d, headerWidth text d ≤ 1)
    (hline : ∀ d, d ≠ .comma → occursUnquoted d false (text.takeWhile (· ≠ '\n')) = false) :
    sniff text = .comma := by
  have hfind : Delimiter.candidates.find? (1 < headerWidth text ·) = none :=
    List.find?_eq_none.mpr fun d _ => by simpa using hwidth d
  rw [sniff, hfind]
  dsimp only
  rw [head?_lines]
  by_cases hguess : mostRegular text = .comma
  · rw [hguess, ite_self]
  · rw [hline _ hguess]
    rfl

end Datasheet.Csv
