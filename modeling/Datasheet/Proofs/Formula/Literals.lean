import Datasheet.Proofs.Formula.Lexemes
import Datasheet.Proofs.Formula.Owners
import Datasheet.Proofs.Formula.Rendering

/-!
# Text literals

A text may be written between quotes in several ways (`Quote.IsLiteral`): the quote and the
backslash need a backslash, and a line break or a tab can be a letter after a backslash. A
scan takes what stands between the quotes whole (`scanText_eq_ok_iff`), so nothing that is
broken off before the closing quote is a literal (`scanText_start`). As no column is looked
for where a quote is, names have no say in it.

* `compile_textLiteral`: a literal alone is the formula of its text, and what is left of it
  when it breaks off is a syntax error.
-/

namespace Datasheet.Formula

/-! ## Spellings -/

/-- What letters stand for after a backslash. -/
def letterEscapes : List (Char × Char) := [('n', '\n'), ('t', '\t'), ('r', '\r')]

theorem unescape_of_mem_letterEscapes :
    ∀ escape ∈ letterEscapes, unescape escape.1 = escape.2 := by
  decide

/-- The ways to write a character between quotes. -/
def Quote.spellings (q : Quote) (c : Char) : List (List Char) :=
  if c = q.char ∨ c = '\\' then [['\\', c]]
  else [c] :: (letterEscapes.filter (·.2 = c)).map fun (letter, _) => ['\\', letter]

/-- The source is the text in quotes, each character in one of its spellings. -/
def Quote.IsLiteral (q : Quote) (s : String) (source : List Char) : Prop :=
  ∃ parts, List.Forall₂ (fun c part => part ∈ q.spellings c) s.toList parts ∧
    source = q.char :: (parts.flatten ++ [q.char])

/-- Each spelling of a character stands for it. -/
theorem Escapes.spelling {q : Quote} {c : Char} {part body text : List Char}
    (hpart : part ∈ q.spellings c) (h : Escapes q.char body text) :
    Escapes q.char (part ++ body) (c :: text) := by
  rw [Quote.spellings] at hpart
  split at hpart
  · rename_i hc
    obtain rfl := List.mem_singleton.mp hpart
    have hself : unescape c = c := by
      rcases hc with rfl | rfl
      · exact q.class_char.2.2.2
      · rfl
    have hescaped := h.escaped c
    rwa [hself] at hescaped
  · rename_i hc
    obtain ⟨hquote, hslash⟩ := not_or.mp hc
    rcases List.mem_cons.mp hpart with rfl | hpart
    · exact h.plain hquote hslash
    · obtain ⟨⟨letter, c'⟩, hescape, rfl⟩ := List.mem_map.mp hpart
      obtain ⟨hmem, hc'⟩ := List.mem_filter.mp hescape
      obtain rfl : c' = c := of_decide_eq_true hc'
      have hescaped := h.escaped letter
      rwa [unescape_of_mem_letterEscapes _ hmem] at hescaped

theorem escapes_of_spellings {q : Quote} {text : List Char} {parts : List (List Char)}
    (h : List.Forall₂ (fun c part => part ∈ q.spellings c) text parts) :
    Escapes q.char parts.flatten text := by
  induction h with
  | nil => exact .nil
  | cons hpart _ ih => exact ih.spelling hpart

/-! ## Scans of literals -/

section Scan

variable {quote : Char} {body text cs : List Char}

/-- By induction on what stands between the quotes. -/
theorem scanText_of_escapes (hquote : quote ≠ '\\') (h : Escapes quote body text)
    (rest : List Char) : scanText quote (body ++ quote :: rest) = .ok (text, body.length + 1) := by
  induction h with
  | nil => exact scanText_quote quote rest
  | plain hc hslash _ ih =>
    rw [List.cons_append, scanText_other (not_or.mpr ⟨hc, hslash⟩) (by simp), ih]
    rfl
  | escaped c _ ih =>
    rw [List.cons_append, List.cons_append, scanText, if_neg hquote.symm, if_pos rfl, ih]
    rfl

/-- A scan that succeeds has come to a closing quote. -/
theorem scanText_eq_ok_iff (hquote : quote ≠ '\\') {length : Nat} :
    scanText quote cs = .ok (text, length) ↔ ∃ body rest, cs = body ++ quote :: rest ∧
      length = body.length + 1 ∧ Escapes quote body text := by
  refine ⟨exists_of_scanText, ?_⟩
  rintro ⟨body, rest, rfl, rfl, h⟩
  exact scanText_of_escapes hquote h rest

/-- And one that fails has come to none. -/
theorem eq_of_scanText_eq_error {e : FormulaError} (h : scanText quote cs = .error e) :
    e = .syntactic .unterminatedText := by
  fun_induction scanText quote cs with
  | case1 | case3 => exact (Except.error.inj h).symm
  | case2 | case4 => cases h
  | case5 d cs hc ih => exact ih (eq_error_of_map h)
  | case6 c d cs hc hslash ih => exact ih (eq_error_of_map h)

/-- What stands before the closing quote is no literal, and neither is any start of it: a
quote in there would have ended the whole. -/
theorem scanText_start (hquote : quote ≠ '\\') (h : Escapes quote body text)
    (hcs : cs <+: body) : scanText quote cs = .error (.syntactic .unterminatedText) := by
  cases hscan : scanText quote cs with
  | error e => rw [eq_of_scanText_eq_error hscan]
  | ok answer =>
    obtain ⟨before, rest, rfl, -, hbefore⟩ := (scanText_eq_ok_iff hquote).mp hscan
    obtain ⟨more, rfl⟩ := hcs
    have hwhole := scanText_of_escapes hquote h []
    have hstart := scanText_of_escapes hquote hbefore (rest ++ more ++ [quote])
    have hsame : before ++ quote :: rest ++ more ++ [quote] =
        before ++ quote :: (rest ++ more ++ [quote]) := by simp
    rw [hsame, hstart] at hwhole
    have hlength : before.length + 1 = (before ++ quote :: rest ++ more).length + 1 :=
      congrArg Prod.snd (Except.ok.inj hwhole)
    rw [List.length_append, List.length_append, List.length_cons] at hlength
    omega

end Scan

/-! ## Formulas -/

section Formula

variable {q : Quote} {names : List String} {cs : List Char}

theorem scan_of_scanText {s : String} (h : scanText q.char cs = .ok (s.toList, cs.length)) :
    scan names (q.char :: cs) = .ok [.text s] := by
  have hnil : scanFrom (columnKeys names) (q.char :: cs).getLast? [] = .ok [] := by rw [scanFrom]
  have hscan : scanFrom (columnKeys names) none (q.char :: cs ++ []) = .ok [.text s] :=
    scanFrom_quote (by rwa [List.append_nil]) hnil
  rwa [List.append_nil] at hscan

theorem scan_of_scanText_eq_error {e : FormulaError} (h : scanText q.char cs = .error e) :
    scan names (q.char :: cs) = .error e := by
  obtain ⟨hspace, hquote, -, -⟩ := q.class_char
  rw [scan, scanFrom, if_neg (Bool.eq_false_iff.mp hspace), scanToken, if_pos hquote, h]
  rfl

end Formula

/-- However a text is written as a literal, over columns of any names the literal is the
formula of the text, if it is not too long. What is left of it when it breaks off anywhere
after its first character has no end. -/
theorem compile_textLiteral (names : List String) {q : Quote} {s : String} {source : List Char}
    (hsource : q.IsLiteral s source) (hlength : byteLength source ≤ 4096) :
    compile (.ofList source) names = .ok (.literal (.text s)) ∧
      ∀ cut, cut <+: source → cut ≠ [] → cut ≠ source →
        compile (.ofList cut) names = .error (.syntactic .unterminatedText) := by
  obtain ⟨parts, hparts, rfl⟩ := hsource
  have hbody := escapes_of_spellings hparts
  have hslash := q.class_char.2.2.1
  constructor
  · have hscan := scanText_of_escapes hslash hbody []
    have hwhole : parts.flatten.length + 1 = (parts.flatten ++ [q.char]).length := by
      rw [List.length_append, List.length_singleton]
    rw [hwhole] at hscan
    exact compile_of_derives hlength (scan_of_scanText hscan) (Derives.text s).whole (by decide)
  · intro cut hcut hne hproper
    obtain hnil | ⟨cs, rfl, hcs⟩ := List.prefix_cons_iff.mp hcut
    · exact absurd hnil hne
    · obtain rfl | hcs := List.prefix_concat_iff.mp hcs
      · exact absurd rfl hproper
      · obtain ⟨rest, hrest⟩ := hcut
        rw [← hrest, byteLength_append] at hlength
        have hfits : byteLength (q.char :: cs) ≤ maxLength :=
          Nat.le_trans (Nat.le_add_right _ _) hlength
        rw [compile, String.toList_ofList, if_neg (Nat.not_lt.mpr hfits),
          scan_of_scanText_eq_error (scanText_start hslash hbody hcs)]

/-- Columns whose names start with a quote or are in the text. -/
def quoteNames : List String := ["'", "'it\\'s", "s", "\\", "n"]

/-- A literal with a tab as it is, a line break as a letter and the other quote, which breaks
off after a backslash or after the quote behind it. -/
theorem compile_amongQuoteNames :
    Quote.single.IsLiteral "it's \\n\t\n\"" "'it\\'s \\\\n\t\\n\"'".toList ∧
      byteLength "'it\\'s \\\\n\t\\n\"'".toList ≤ 4096 ∧
      compile "'it\\'s \\\\n\t\\n\"'" quoteNames = .ok (.literal (.text "it's \\n\t\n\"")) ∧
      compile "'it\\" quoteNames = .error (.syntactic .unterminatedText) ∧
      compile "'it\\'" quoteNames = .error (.syntactic .unterminatedText) := by
  have hsource : Quote.single.IsLiteral "it's \\n\t\n\"" "'it\\'s \\\\n\t\\n\"'".toList :=
    ⟨[['i'], ['t'], ['\\', '\''], ['s'], [' '], ['\\', '\\'], ['n'], ['\t'], ['\\', 'n'], ['"']],
      by decide +kernel, by decide +kernel⟩
  have hlength : byteLength "'it\\'s \\\\n\t\\n\"'".toList ≤ 4096 := by decide +kernel
  obtain ⟨hwhole, hcut⟩ := compile_textLiteral quoteNames hsource hlength
  refine ⟨hsource, hlength, hwhole, ?_, ?_⟩
  · exact hcut "'it\\".toList (by decide +kernel) (by decide +kernel) (by decide +kernel)
  · exact hcut "'it\\'".toList (by decide +kernel) (by decide +kernel) (by decide +kernel)

end Datasheet.Formula
