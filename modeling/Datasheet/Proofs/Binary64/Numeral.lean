import Datasheet.Binary64.Text
import Datasheet.Proofs.Binary64.Finite
import Datasheet.Proofs.Text.Classes

/-!
# Numerals as they are written

The spelling of a numeral that starts with a digit (`NumeralText`): digits, then a
point with any number of digits, then an exponent, both of which may be missing.

* `NumeralText.read_text`: the spelling is read to its end, wherever a text goes on
  with a character that cannot continue a numeral;
* `NumeralText.parse?_text`: alone, it is read as the number that it denotes;
* `exists_parse?_of_parseInt64?`: what is read as an integer of 64 bits is spelled like
  that after its sign, and is read as a finite number.
-/

namespace Datasheet

/-- At least one decimal digit. -/
abbrev Digits := { cs : List Char // cs ≠ [] ∧ cs.all Char.isDigit }

theorem Digits.isDigit_of_mem (ds : Digits) : ∀ c ∈ ds.val, c.isDigit :=
  List.all_eq_true.mp ds.property.2

theorem Digits.exists_cons (ds : Digits) : ∃ c cs, ds.val = c :: cs ∧ c.isDigit := by
  obtain ⟨c, cs, hds⟩ := List.exists_cons_of_ne_nil ds.property.1
  exact ⟨c, cs, hds, ds.isDigit_of_mem c (by simp [hds])⟩

/-- The spelling of an exponent: the letter, a sign or none, and digits. -/
structure ExponentText where
  capital : Bool
  negative? : Option Bool
  digits : Digits
deriving DecidableEq

namespace ExponentText

/-- The sign as it is written. -/
def signChars : Option Bool → List Char
  | none => []
  | some negative => [if negative then '-' else '+']

theorem mem_signChars {negative? : Option Bool} {c : Char} (h : c ∈ signChars negative?) :
    c = '-' ∨ c = '+' := by
  rcases negative? with _ | _ | _ <;> simp_all [signChars]

def letter (e : ExponentText) : Char := if e.capital then 'E' else 'e'

def text (e : ExponentText) : List Char := e.letter :: signChars e.negative? ++ e.digits.val

/-- The power of ten. -/
def power (e : ExponentText) : Int :=
  let power : Int := Nat.ofDigitChars 10 e.digits.val 0
  if e.negative?.getD false then -power else power

end ExponentText

/-- The spelling of a numeral. The digits after the point may be missing. -/
structure NumeralText where
  whole : Digits
  fraction : Option { cs : List Char // cs.all Char.isDigit }
  exponent : Option ExponentText
deriving DecidableEq

namespace NumeralText

def fractionText (n : NumeralText) : List Char := n.fraction.elim [] fun ds => '.' :: ds.val

def exponentText (n : NumeralText) : List Char := n.exponent.elim [] (·.text)

def text (n : NumeralText) : List Char := n.whole.val ++ (n.fractionText ++ n.exponentText)

/-- What is read of the spelling. -/
def numeral (n : NumeralText) : Numeral where
  whole := n.whole.val
  fraction := n.fraction.elim [] (·.val)
  exponent := n.exponent.elim 0 (·.power)

end NumeralText

/-- A character with which no numeral goes on. -/
def endsNumeral (c : Char) : Bool := !(c.isDigit || c = '.' || c = 'e' || c = 'E')

theorem endsNumeral_iff {c : Char} :
    endsNumeral c ↔ c.isDigit = false ∧ c ≠ '.' ∧ c ≠ 'e' ∧ c ≠ 'E' := by
  simp [endsNumeral, and_assoc]

/-! ## Reading the parts -/

theorem toLower_of_isDigit {c : Char} (h : c.isDigit) : c.toLower = c := by
  have hc : '0'.toNat ≤ c.toNat ∧ c.toNat ≤ '9'.toNat := Char.isDigit_iff_toNat.mp h
  refine dif_neg fun hupper => ?_
  have hA : 'A'.toNat ≤ c.toNat := UInt32.le_iff_toNat_le.mp hupper.1
  have h9 : '9'.toNat < 'A'.toNat := by decide
  omega

theorem signPart_of_isDigit {c : Char} (h : c.isDigit) (cs : List Char) :
    signPart (c :: cs) = (false, c :: cs) := by
  rw [signPart.eq_def]
  split
  · exact absurd h (by simp_all)
  · exact absurd h (by simp_all)
  · rfl

/-- A numeral after a sign that is read to its end is the number that it denotes, with the
sign. -/
theorem Binary64.parse?_of_read {cs ds : List Char} {c : Char} {negative : Bool} {n : Numeral}
    (hsign : signPart cs = (negative, c :: ds)) (hc : c.isDigit ∨ c = '.')
    (hread : Numeral.read (c :: ds) = (n, [])) (hdigits : n.digits ≠ []) :
    parse? cs = some (n.value negative) := by
  -- No digit and no point starts one of the words for infinity and NaN.
  have hword : ∀ d es, d.isDigit = false → d ≠ '.' → (c :: ds).map Char.toLower ≠ d :: es := by
    intro d es hd hpoint h
    rw [List.map_cons] at h
    have hlower := (List.cons.inj h).1
    rcases hc with hc | rfl
    · rw [toLower_of_isDigit hc] at hlower
      rw [hlower, hd] at hc
      cases hc
    · exact hpoint hlower.symm
  rw [parse?, hsign]
  dsimp only
  have hinfinity : ¬ (decide ((c :: ds).map Char.toLower = ['i', 'n', 'f']) ||
      decide ((c :: ds).map Char.toLower = ['i', 'n', 'f', 'i', 'n', 'i', 't', 'y'])) = true := by
    rw [Bool.or_eq_true, decide_eq_true_eq, decide_eq_true_eq, not_or]
    exact ⟨hword _ _ rfl (by decide), hword _ _ rfl (by decide)⟩
  rw [if_neg hinfinity, if_neg (hword _ _ rfl (by decide)), hread]
  simp [hdigits]

theorem Numeral.exponentPart_cons (c : Char) (cs : List Char) :
    exponentPart (c :: cs) =
      if (c = 'e' || c = 'E') && !((signPart cs).2.takeWhile Char.isDigit).isEmpty then
        let power : Int := Nat.ofDigitChars 10 ((signPart cs).2.takeWhile Char.isDigit) 0
        some (if (signPart cs).1 then -power else power, (signPart cs).2.dropWhile Char.isDigit)
      else none := rfl

namespace ExponentText

theorem signPart_signChars (e : ExponentText) (rest : List Char) :
    signPart (signChars e.negative? ++ (e.digits.val ++ rest)) =
      (e.negative?.getD false, e.digits.val ++ rest) := by
  obtain ⟨c, cs, hds, hc⟩ := e.digits.exists_cons
  rcases e.negative? with _ | _ | _
  · rw [hds]
    exact signPart_of_isDigit hc (cs ++ rest)
  · rfl
  · rfl

theorem exponentPart_text (e : ExponentText) {rest : List Char}
    (hrest : ∀ c ∈ rest.head?, c.isDigit = false) :
    Numeral.exponentPart (e.text ++ rest) = some (e.power, rest) := by
  have hletter : (e.letter = 'e' || e.letter = 'E') = true := by
    rw [letter]
    cases e.capital <;> rfl
  have hdigits := takeWhile_stop e.digits.isDigit_of_mem hrest
  rw [text, List.cons_append, List.cons_append, List.append_assoc, Numeral.exponentPart_cons,
    e.signPart_signChars, hdigits, dropWhile_stop e.digits.isDigit_of_mem hrest, hletter,
    if_pos (by simp [e.digits.property.1])]
  rfl

end ExponentText

namespace NumeralText

theorem exponentPart_exponentText (n : NumeralText) {rest : List Char}
    (hrest : ∀ c ∈ rest.head?, endsNumeral c) :
    (Numeral.exponentPart (n.exponentText ++ rest)).getD (0, n.exponentText ++ rest) =
      (n.numeral.exponent, rest) := by
  rw [exponentText, numeral]
  cases n.exponent with
  | none =>
    cases rest with
    | nil => rfl
    | cons c cs =>
      obtain ⟨-, -, he, hE⟩ := endsNumeral_iff.mp (hrest c rfl)
      rw [Option.elim_none, List.nil_append, Numeral.exponentPart_cons, if_neg (by simp [he, hE])]
      rfl
  | some e =>
    rw [Option.elim_some, e.exponentPart_text fun c hc => (endsNumeral_iff.mp (hrest c hc)).1]
    rfl

/-- No digit and no point follows the digits before an exponent. -/
theorem head?_exponentText (n : NumeralText) {rest : List Char}
    (hrest : ∀ c ∈ rest.head?, endsNumeral c) :
    ∀ c ∈ (n.exponentText ++ rest).head?, c.isDigit = false ∧ c ≠ '.' := by
  rw [exponentText]
  cases n.exponent with
  | none =>
    intro c hc
    obtain ⟨hdigit, hpoint, -⟩ := endsNumeral_iff.mp (hrest c hc)
    exact ⟨hdigit, hpoint⟩
  | some e =>
    intro c hc
    obtain rfl : e.letter = c := Option.some.inj hc
    rw [ExponentText.letter]
    cases e.capital <;> decide

theorem fractionPart_fractionText (n : NumeralText) {rest : List Char}
    (hrest : ∀ c ∈ rest.head?, endsNumeral c) :
    Numeral.fractionPart (n.fractionText ++ (n.exponentText ++ rest)) =
      (n.numeral.fraction, n.exponentText ++ rest) := by
  have hhead := n.head?_exponentText hrest
  rw [fractionText, numeral]
  cases n.fraction with
  | none =>
    rw [Option.elim_none, List.nil_append, Numeral.fractionPart.eq_def]
    split
    · rename_i h
      exact absurd rfl (hhead '.' (by rw [h]; rfl)).2
    · rfl
  | some ds =>
    have hds := List.all_eq_true.mp ds.property
    rw [Option.elim_some, List.cons_append, Numeral.fractionPart,
      takeWhile_stop hds fun c hc => (hhead c hc).1, dropWhile_stop hds fun c hc => (hhead c hc).1]
    rfl

/-- No digit follows the digits before a point or an exponent. -/
theorem head?_fractionText (n : NumeralText) {rest : List Char}
    (hrest : ∀ c ∈ rest.head?, endsNumeral c) :
    ∀ c ∈ (n.fractionText ++ (n.exponentText ++ rest)).head?, c.isDigit = false := by
  rw [fractionText]
  cases n.fraction with
  | none => exact fun c hc => (n.head?_exponentText hrest c hc).1
  | some ds =>
    intro c hc
    obtain rfl : '.' = c := Option.some.inj hc
    rfl

/-- After any digits, the rest of the spelling is read to its end. -/
theorem read_append (n : NumeralText) {ws rest : List Char} (hws : ∀ c ∈ ws, c.isDigit)
    (hrest : ∀ c ∈ rest.head?, endsNumeral c) :
    Numeral.read (ws ++ (n.fractionText ++ (n.exponentText ++ rest))) =
      ({ n.numeral with whole := ws }, rest) := by
  have hhead := n.head?_fractionText hrest
  rw [Numeral.read, takeWhile_stop hws hhead, dropWhile_stop hws hhead,
    n.fractionPart_fractionText hrest]
  dsimp only
  rw [n.exponentPart_exponentText hrest]

/-- The spelling is read to its end. -/
theorem read_text (n : NumeralText) {rest : List Char}
    (hrest : ∀ c ∈ rest.head?, endsNumeral c) :
    Numeral.read (n.text ++ rest) = (n.numeral, rest) := by
  rw [text, List.append_assoc, List.append_assoc]
  exact n.read_append n.whole.isDigit_of_mem hrest

/-- What a numeral is spelled with. -/
theorem isDigit_or_mem_of_mem_text (n : NumeralText) {c : Char} (h : c ∈ n.text) :
    c.isDigit ∨ c ∈ ['.', 'e', 'E', '+', '-'] := by
  rw [text, List.mem_append, List.mem_append] at h
  rcases h with hwhole | hfraction | hexponent
  · exact .inl (n.whole.isDigit_of_mem c hwhole)
  · rw [fractionText] at hfraction
    cases hn : n.fraction with
    | none => simp [hn] at hfraction
    | some ds =>
      rw [hn, Option.elim_some, List.mem_cons] at hfraction
      rcases hfraction with rfl | hds
      · exact .inr (by decide)
      · exact .inl (List.all_eq_true.mp ds.property c hds)
  · rw [exponentText] at hexponent
    cases hn : n.exponent with
    | none => simp [hn] at hexponent
    | some e =>
      rw [hn, Option.elim_some, ExponentText.text, List.mem_append, List.mem_cons] at hexponent
      rcases hexponent with (rfl | hsign) | hdigits
      · rw [ExponentText.letter]
        right
        split <;> decide
      · rcases ExponentText.mem_signChars hsign with rfl | rfl <;> exact .inr (by decide)
      · exact .inl (e.digits.isDigit_of_mem c hdigits)

theorem exists_cons_text (n : NumeralText) : ∃ c cs, n.text = c :: cs ∧ c.isDigit := by
  obtain ⟨c, cs, hds, hc⟩ := n.whole.exists_cons
  exact ⟨c, _, by rw [text, hds, List.cons_append], hc⟩

/-- The spelling after a sign is the number that it denotes, with the sign. -/
theorem parse?_of_signPart (n : NumeralText) {cs : List Char} {negative : Bool}
    (hsign : signPart cs = (negative, n.text)) :
    Binary64.parse? cs = some (n.numeral.value negative) := by
  have hread : Numeral.read (n.text ++ []) = (n.numeral, []) := n.read_text nofun
  rw [List.append_nil] at hread
  have hdigits : n.numeral.digits ≠ [] := by
    simp [Numeral.digits, numeral, n.whole.property.1]
  obtain ⟨c, ds, htext, hc⟩ := n.exists_cons_text
  rw [htext] at hread hsign
  exact Binary64.parse?_of_read hsign (.inl hc) hread hdigits

/-- Alone, the spelling is the number that it denotes. -/
theorem parse?_text (n : NumeralText) : Binary64.parse? n.text = some (n.numeral.value false) := by
  obtain ⟨c, cs, htext, hc⟩ := n.exists_cons_text
  refine n.parse?_of_signPart ?_
  rw [htext, signPart_of_isDigit hc]

/-- The number that the spelling denotes. -/
def value (n : NumeralText) : Binary64 :=
  (Binary64.parse? n.text).get (by rw [n.parse?_text]; rfl)

theorem value_eq (n : NumeralText) : n.value = n.numeral.value false := by
  simp only [value, n.parse?_text, Option.get_some]

end NumeralText

/-! ## Integers -/

theorem Word.le_of_signed? {negative : Bool} {n : Nat} {i : Int} (h : signed? negative n = some i) :
    n ≤ signedLimit := by
  rw [signed?] at h
  split at h <;> split at h <;> first | omega | cases h

theorem Word.eq_of_signed? {negative : Bool} {n : Nat} {i : Int} (h : signed? negative n = some i) :
    i = if negative then -(n : Int) else n := by
  rw [signed?] at h
  cases negative <;> simp_all

/-- An integer of 64 bits is read as the number nearest it. -/
theorem exists_ofDecimal_of_parseInt64? {cs : List Char} {i : Int} (h : parseInt64? cs = some i) :
    ∃ (negative : Bool) (n : Nat), n ≤ Word.signedLimit ∧
      (i = if negative then -(n : Int) else n) ∧
      Binary64.parse? cs = some (.ofDecimal negative n 0) := by
  rw [parseInt64?] at h
  cases hsign : signPart cs with | mk negative digits =>
  rw [hsign] at h
  dsimp only at h
  split at h
  · cases h
  · rename_i hdigits
    rw [Bool.or_eq_true, not_or, Bool.not_eq_true', Bool.not_eq_false] at hdigits
    let n : NumeralText := ⟨⟨digits, by simpa using hdigits.1, hdigits.2⟩, none, none⟩
    have htext : n.text = digits := List.append_nil digits
    refine ⟨negative, _, Word.le_of_signed? h, Word.eq_of_signed? h, ?_⟩
    have hvalue : n.numeral.value negative =
        .ofDecimal negative (Nat.ofDigitChars 10 (digits ++ []) 0) 0 := rfl
    rw [n.parse?_of_signPart (htext ▸ hsign), hvalue, List.append_nil]

theorem exists_parse?_of_parseInt64? {cs : List Char} {i : Int} (h : parseInt64? cs = some i) :
    ∃ x, Binary64.parse? cs = some x ∧ x.isFinite := by
  obtain ⟨_, _, hn, -, hparse⟩ := exists_ofDecimal_of_parseInt64? h
  exact ⟨_, hparse, Binary64.isFinite_ofDecimal hn⟩

end Datasheet
