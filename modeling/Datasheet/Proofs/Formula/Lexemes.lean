import Datasheet.Proofs.Binary64.Literal
import Datasheet.Proofs.Formula.Scanning
import Datasheet.Proofs.Formula.Spellings
import Datasheet.Proofs.Formula.Tokens

/-!
# What a formula is made of

Nothing in a formula is passed over: the text is white space and, one after another, the
spellings of its tokens with white space behind them (`Decomposes`). How a token may be
spelled does not depend on what stands around it (`Token.SpelledAs`). Each scanner takes a
spelling of the token it answers:

* `exists_of_scanText`, `spelledAs_of_wordToken`, `mem_spellings_of_scanSymbol?`: literal
  texts, words and symbols;
* `scanToken_spelledAs`: all tokens;
* `scan_decomposes`: so a whole text decomposes, or it does up to a character at which no
  token starts.
-/

namespace Datasheet.Formula

/-! ## Spellings -/

/-- What stands between quotes, and the text that it stands for: a character is itself, unless
it is the quote or a backslash, or what it stands for after a backslash. -/
inductive Escapes (quote : Char) : List Char → List Char → Prop where
  | nil : Escapes quote [] []
  | plain {c : Char} {body text : List Char} (hquote : c ≠ quote) (hslash : c ≠ '\\')
      (h : Escapes quote body text) : Escapes quote (c :: body) (c :: text)
  | escaped (c : Char) {body text : List Char} (h : Escapes quote body text) :
      Escapes quote ('\\' :: c :: body) (unescape c :: text)

/-- How a symbol may be written. -/
def Symbol.spellings : Symbol → List String
  | and => ["and", "&&"]
  | or => ["or", "||"]
  | not => ["not", "!"]
  | equal => ["==", "="]
  | other => [other.text]

/-- How a truth value may be written. -/
def truthWords (b : Bool) : List String := if b then ["True", "true"] else ["False", "false"]

/-- The characters spell the token, over columns of these names. -/
def Token.SpelledAs (names : List String) (cs : List Char) : Token → Prop
  | number x => IsNumeral cs ∧ Binary64.parse? cs = some x
  | text s => ∃ (q : Quote) (body : List Char),
      cs = q.char :: (body ++ [q.char]) ∧ Escapes q.char body s.toList
  | bool b => .ofList cs ∈ truthWords b
  | column index => Spells names ⟨cs, index⟩
  | symbol s => .ofList cs ∈ s.spellings

/-- The text is white space, and then the spelling of each token with white space behind. -/
def Decomposes (names : List String) (ts : List Token) (text : List Char) : Prop :=
  ∃ (start : List Char) (parts : List (List Char × List Char)),
    text = start ++ parts.flatMap (fun (lexeme, space) => lexeme ++ space) ∧ isBlank start ∧
      List.Forall₂ (fun t (lexeme, space) =>
        lexeme ≠ [] ∧ t.SpelledAs names lexeme ∧ isBlank space) ts parts

/-! ## Scanners -/

/-- By induction on the scan, which takes one character of the text at a time, or two. -/
theorem exists_of_scanText {quote : Char} {cs text : List Char} {length : Nat}
    (h : scanText quote cs = .ok (text, length)) :
    ∃ body rest, cs = body ++ quote :: rest ∧ length = body.length + 1 ∧
      Escapes quote body text := by
  fun_induction scanText quote cs generalizing text length with
  | case1 => cases h
  | case2 =>
    cases h
    exact ⟨[], [], rfl, rfl, .nil⟩
  | case3 => cases h
  | case4 d cs =>
    cases h
    exact ⟨[], d :: cs, rfl, rfl, .nil⟩
  | case5 d cs hquote ih =>
    obtain ⟨⟨text', length'⟩, hscan, heq⟩ := exists_of_map_eq_ok h
    obtain ⟨body, rest, rfl, rfl, hbody⟩ := ih hscan
    cases heq
    exact ⟨'\\' :: d :: body, rest, rfl, rfl, .escaped d hbody⟩
  | case6 c d cs hquote hslash ih =>
    obtain ⟨⟨text', length'⟩, hscan, heq⟩ := exists_of_map_eq_ok h
    obtain ⟨body, rest, hcs, rfl, hbody⟩ := ih hscan
    cases heq
    exact ⟨c :: body, rest, by rw [hcs]; rfl, rfl, .plain hquote hslash hbody⟩

theorem spelledAs_of_wordToken {names : List String} {word : String} {t : Token}
    (h : wordToken word = .ok t) : t.SpelledAs names word.toList := by
  have hword := mem_keywords_of_wordToken h
  simp only [keywords, List.mem_cons, List.not_mem_nil, or_false] at hword
  rcases hword with rfl | rfl | rfl | rfl | rfl | rfl | rfl
  all_goals
    cases h
    show String.ofList _ ∈ _
    decide

theorem mem_spellings_of_scanSymbol? {c : Char} {next : Option Char} {s : Symbol} {length : Nat}
    (h : scanSymbol? c next = some (s, length)) :
    length ≤ 1 ∧ .ofList (c :: next.toList.take length) ∈ s.spellings := by
  rw [scanSymbol?.eq_def] at h
  split at h
  all_goals cases h
  all_goals
    refine ⟨by decide, ?_⟩
    first | decide | (rw [List.take_zero]; decide)

theorem cases_of_startsNumber {c : Char} {cs : List Char} (h : startsNumber c cs) :
    c.isDigit ∨ c = '.' ∧ ∃ d ds, cs = d :: ds ∧ d.isDigit := by
  rw [startsNumber, Bool.or_eq_true, Bool.and_eq_true, decide_eq_true_eq] at h
  refine h.imp_right (And.imp_right fun hnext => ?_)
  cases cs with
  | nil => cases hnext
  | cons d ds => exact ⟨d, ds, rfl, hnext⟩

/-- A number that starts has a digit before its exponent. -/
theorem digits_ne_nil_of_startsNumber {c : Char} {cs : List Char} (h : startsNumber c cs) :
    (Numeral.read (c :: cs)).1.digits ≠ [] := by
  rcases cases_of_startsNumber h with hc | ⟨rfl, d, ds, rfl, hd⟩
  · simp [Numeral.digits, Numeral.read, hc]
  · have hpoint : Char.isDigit '.' = false := rfl
    simp [Numeral.digits, Numeral.read, Numeral.fractionPart, hpoint, hd]

/-- A key of the columns is a spelling of its column. -/
theorem spells_of_mem_columnKeys {names : List String} {key : ColumnKey}
    (h : key ∈ columnKeys names) : Spells names key := by
  rcases mem_columnKeys_cases.mp h with ⟨hname, hne⟩ | htrimmed
  · exact ⟨hne, _, mem_nameKeys.mp hname, .inl String.toList_ofList.symm⟩
  · have htexts : ∀ k ∈ nameKeys names, k.text ∈ (nameKeys names).map (·.text) :=
      fun k hk => List.mem_map_of_mem hk
    obtain ⟨hne, -, -, hindex⟩ := (mem_trimmedKeys_iff htexts).mp htrimmed
    rw [find?_nameKeys] at hindex
    obtain ⟨hlt, htext, -⟩ := List.findIdx?_eq_some_iff_getElem.mp hindex
    exact ⟨hne, _, List.getElem?_eq_getElem hlt, .inr (of_decide_eq_true htext).symm⟩

section Token

variable {names : List String} {before : Option Char} {c : Char} {cs : List Char}

theorem spelledAs_of_startsNumber (h : startsNumber c cs) {n : Numeral} {rest : List Char}
    (hread : Numeral.read (c :: cs) = (n, rest)) :
    (Token.number (n.value false)).SpelledAs names (c :: cs.take (cs.length - rest.length)) := by
  have hdigits : n.digits ≠ [] := by
    have hne := digits_ne_nil_of_startsNumber h
    rwa [hread] at hne
  obtain ⟨literal, hcs, hliteral, halone⟩ := Numeral.exists_of_read hread hdigits
  have hne : literal ≠ [] := by
    rintro rfl
    cases halone
    exact hdigits rfl
  obtain ⟨d, ds, rfl⟩ := List.exists_cons_of_ne_nil hne
  rw [List.cons_append] at hcs
  obtain ⟨rfl, rfl⟩ := List.cons.inj hcs
  rw [List.length_append, Nat.add_sub_cancel, List.take_left]
  have hfirst : c.isDigit ∨ c = '.' := (cases_of_startsNumber h).imp_right And.left
  have hsign : signPart (c :: ds) = (false, c :: ds) := by
    rcases hfirst with hdigit | rfl
    · exact signPart_of_isDigit hdigit ds
    · rfl
  exact ⟨hliteral, Binary64.parse?_of_read hsign hfirst halone hdigits⟩

/-- What a scan takes spells the token that it answers. -/
theorem scanToken_spelledAs {t : Token} {length : Nat}
    (h : scanToken (columnKeys names) before c cs = .ok (t, length)) :
    t.SpelledAs names (c :: cs.take length) := by
  rw [scanToken] at h
  split at h
  · rename_i hquote
    obtain ⟨⟨text, length'⟩, hscan, heq⟩ := exists_of_map_eq_ok h
    obtain ⟨body, rest, rfl, rfl, hbody⟩ := exists_of_scanText hscan
    cases heq
    have htake : (body ++ c :: rest).take (body.length + 1) = body ++ [c] :=
      List.take_length_add_append 1
    rw [htake]
    rcases Bool.or_eq_true_iff.mp hquote with hc | hc
    · obtain rfl := of_decide_eq_true hc
      exact ⟨.double, body, rfl, by rwa [String.toList_ofList]⟩
    · obtain rfl := of_decide_eq_true hc
      exact ⟨.single, body, rfl, by rwa [String.toList_ofList]⟩
  · split at h
    · rename_i key hfound
      cases h
      have hkey := spells_of_mem_columnKeys (List.mem_of_find?_eq_some hfound)
      obtain ⟨rest, hrest⟩ := prefix_of_fits (List.find?_some hfound)
      obtain ⟨d, ds, htext⟩ := List.exists_cons_of_ne_nil hkey.1
      rw [htext, List.cons_append] at hrest
      obtain ⟨rfl, rfl⟩ := List.cons.inj hrest
      rw [htext, List.length_cons, Nat.add_sub_cancel, List.take_left, ← htext]
      exact hkey
    · split at h
      · rename_i hstart
        cases h
        exact spelledAs_of_startsNumber hstart rfl
      · split at h
        · obtain ⟨t', hword, heq⟩ := exists_of_map_eq_ok h
          cases heq
          have hspelled : Token.SpelledAs names _ t := spelledAs_of_wordToken hword
          rw [String.toList_ofList] at hspelled
          have htake := List.prefix_iff_eq_take.mp (cs.takeWhile_prefix isNameChar)
          rwa [← htake]
        · split at h <;> cases h
          rename_i hsymbol
          obtain ⟨hle, hspelling⟩ := mem_spellings_of_scanSymbol? hsymbol
          have htake : cs.take length = cs.head?.toList.take length := by
            have hlength : length = 0 ∨ length = 1 := by omega
            rcases hlength with rfl | rfl
            · simp
            · cases cs <;> rfl
          show String.ofList _ ∈ _
          rwa [htake]

end Token

/-! ## Whole texts -/

section Text

variable {names : List String} {ts : List Token} {text : List Char}

theorem decomposes_nil : Decomposes names [] [] :=
  ⟨[], [], rfl, rfl, .nil⟩

theorem Decomposes.space {c : Char} (hspace : isSpace c) (h : Decomposes names ts text) :
    Decomposes names ts (c :: text) := by
  obtain ⟨start, parts, rfl, hstart, hparts⟩ := h
  exact ⟨c :: start, parts, rfl, Bool.and_eq_true_iff.mpr ⟨hspace, hstart⟩, hparts⟩

theorem Decomposes.token {t : Token} {lexeme : List Char} (hne : lexeme ≠ [])
    (ht : t.SpelledAs names lexeme) (h : Decomposes names ts text) :
    Decomposes names (t :: ts) (lexeme ++ text) := by
  obtain ⟨start, parts, rfl, hstart, hparts⟩ := h
  refine ⟨[], (lexeme, start) :: parts, ?_, rfl, .cons ⟨hne, ht, hstart⟩ hparts⟩
  rw [List.flatMap_cons, List.nil_append, List.append_assoc]

theorem Decomposes.length_le (h : Decomposes names ts text) : ts.length ≤ text.length := by
  obtain ⟨start, parts, rfl, -, hparts⟩ := h
  rw [List.length_append]
  refine Nat.le_add_left_of_le ?_
  induction hparts with
  | nil => exact Nat.le_refl _
  | @cons _ part _ _ hpart _ ih =>
    have hlexeme := List.length_pos_of_ne_nil hpart.1
    rw [List.flatMap_cons, List.length_cons, List.length_append, List.length_append]
    omega

theorem decomposes_of_scans {before : Option Char}
    (h : Scans (columnKeys names) before text ts) : Decomposes names ts text := by
  induction h with
  | nil => exact decomposes_nil
  | space hspace _ ih => exact ih.space hspace
  | @token _ c cs _ length _ _ htoken _ ih =>
    have hdecomposes := ih.token (List.cons_ne_nil _ _) (scanToken_spelledAs htoken)
    rwa [List.cons_append, List.take_append_drop] at hdecomposes

/-- A scan that fails does so at a character up to which the text decomposes. By induction on
how many characters there are. -/
theorem exists_of_scanFrom_eq_error {before : Option Char} {e : FormulaError}
    (h : scanFrom (columnKeys names) before text = .error e) :
    ∃ ts seen c rest, text = seen ++ c :: rest ∧ Decomposes names ts seen ∧ isSpace c = false ∧
      scanToken (columnKeys names) (seen.getLast?.or before) c rest = .error e := by
  induction text using (measure List.length).wf.induction generalizing before with
  | _ text ih =>
    cases text with
    | nil =>
      rw [scanFrom] at h
      cases h
    | cons c cs =>
      rw [scanFrom] at h
      split at h
      · rename_i hspace
        obtain ⟨ts, seen, d, rest, rfl, hseen, hd, hfail⟩ := ih cs (Nat.lt_succ_self _) h
        refine ⟨ts, c :: seen, d, rest, rfl, hseen.space hspace, hd, ?_⟩
        rwa [List.getLast?_cons, Option.some_or, ← Option.or_some]
      · rename_i hspace
        rcases cases_of_bind_eq_error h with hfail | ⟨⟨t, length⟩, htoken, h⟩
        · exact ⟨[], [], c, cs, rfl, decomposes_nil, Bool.eq_false_iff.mpr hspace, hfail⟩
        · rcases cases_of_bind_eq_error h with hrest | ⟨ts, -, h⟩
          · have hshorter : (cs.drop length).length < (c :: cs).length :=
              Nat.lt_succ_of_le (cs.drop_sublist length).length_le
            obtain ⟨ts, seen, d, rest, hcs, hseen, hd, hfail⟩ := ih _ hshorter hrest
            refine ⟨t :: ts, c :: cs.take length ++ seen, d, rest, ?_,
              hseen.token (List.cons_ne_nil _ _) (scanToken_spelledAs htoken), hd, ?_⟩
            · rw [List.append_assoc, ← hcs, List.cons_append, List.take_append_drop]
            · rw [List.getLast?_append, Option.or_assoc,
                List.getLast?_eq_some_getLast (List.cons_ne_nil _ _), Option.some_or]
              rwa [List.getLast?_eq_some_getLast (List.cons_ne_nil _ _)] at hfail
          · cases h

end Text

/-- A formula that is scanned is white space and the spellings of its tokens, each of which
takes a character at least. Otherwise the scan fails where no token starts, and nothing before
that place is passed over. -/
theorem scan_decomposes (names : List String) (source : List Char) :
    (∀ ts, scan names source = .ok ts →
        Decomposes names ts source ∧ ts.length ≤ source.length) ∧
      ∀ e, scan names source = .error e →
        ∃ ts seen c rest, source = seen ++ c :: rest ∧ Decomposes names ts seen ∧
          isSpace c = false ∧ scanToken (columnKeys names) seen.getLast? c rest = .error e := by
  refine ⟨fun ts h => ?_, fun e h => ?_⟩
  · have hdecomposes := decomposes_of_scans (scans_of_scanFrom h)
    exact ⟨hdecomposes, hdecomposes.length_le⟩
  · obtain ⟨ts, seen, c, rest, hsource, hseen, hc, hfail⟩ := exists_of_scanFrom_eq_error h
    rw [Option.or_none] at hfail
    exact ⟨ts, seen, c, rest, hsource, hseen, hc, hfail⟩

/-- A column whose name is a difference itself, in a formula with every kind of token. -/
theorem scan_differenceName :
    scan ["2 - a"] "2 - a*.5e1 = '\\'' && True".toList =
        .ok [.column 0, .symbol .times, .number (.ofNat 5), .symbol .equal, .text "'",
          .symbol .and, .bool true] ∧
      Decomposes ["2 - a"] [.column 0, .symbol .times, .number (.ofNat 5), .symbol .equal,
        .text "'", .symbol .and, .bool true] "2 - a*.5e1 = '\\'' && True".toList := by
  have hkeys : columnKeys ["2 - a"] = [⟨"2 - a".toList, 0⟩] := by decide +kernel
  have hscan : scan ["2 - a"] "2 - a*.5e1 = '\\'' && True".toList =
      .ok [.column 0, .symbol .times, .number (.ofNat 5), .symbol .equal, .text "'",
        .symbol .and, .bool true] := by
    rw [scan, hkeys]
    decide +kernel
  exact ⟨hscan, ((scan_decomposes _ _).1 _ hscan).1⟩

end Datasheet.Formula
