import Datasheet.Proofs.Binary64.Numeral
import Datasheet.Proofs.Binary64.Shortest

/-!
# Numbers are read back from their texts

A decimal without exponent is spelled as a numeral (`Decimal.exists_plain`) that denotes
it, and a decimal that a number covers is read as that number (`ofDecimal_eq_of_covers`).

* `parse?_display`, `parse?_compact`: so a finite number is read back from its shortest
  text, and from its text with whole numbers as integers, but for the sign of zero;
* `parseInt64?_compact`: that text spells an integer of 64 bits if the number is whole
  and its magnitude less than `2 ^ 63`.
-/

namespace Datasheet

/-! ## Decimals as numerals -/

namespace NumeralText

/-- A numeral without exponent. -/
def plain (whole : Digits) (fraction : Option { cs : List Char // cs.all Char.isDigit }) :
    NumeralText := ⟨whole, fraction, none⟩

variable (whole : Digits) (fraction : { cs : List Char // cs.all Char.isDigit })

theorem text_plain_none : (plain whole none).text = whole.val := List.append_nil _

theorem text_plain_some : (plain whole (some fraction)).text = whole.val ++ '.' :: fraction.val :=
  congrArg (whole.val ++ '.' :: ·) (List.append_nil fraction.val)

theorem digits_plain_none : (plain whole none).numeral.digits = whole.val := List.append_nil _

theorem digits_plain_some :
    (plain whole (some fraction)).numeral.digits = whole.val ++ fraction.val := rfl

/-- Without exponent, the places behind the point say what the digits count. -/
theorem value_plain (fraction : Option { cs : List Char // cs.all Char.isDigit })
    (negative : Bool) :
    (plain whole fraction).numeral.value negative =
      .ofDecimal negative (Nat.ofDigitChars 10 (plain whole fraction).numeral.digits 0)
        (-((plain whole fraction).numeral.fraction.length : Int)) := by
  rw [Numeral.value]
  exact congrArg _ (Int.zero_sub _)

end NumeralText

theorem all_isDigit_toDigits (n : Nat) : (Nat.toDigits 10 n).all Char.isDigit :=
  List.all_eq_true.mpr fun _ hc => Nat.isDigit_of_mem_toDigits (by decide) (by decide) hc

theorem all_isDigit_replicate (k : Nat) : (List.replicate k '0').all Char.isDigit := by
  rw [List.all_replicate]
  split <;> rfl

/-- The spelling of a decimal: its digits, with zeros that fill up to the point on either
side. -/
theorem Decimal.exists_plain (d : Decimal) :
    ∃ whole fraction, (NumeralText.plain whole fraction).text = Binary64.positional d ∧
      (fraction = none ↔ 0 ≤ d.exponent) ∧
      Nat.ofDigitChars 10 (NumeralText.plain whole fraction).numeral.digits 0 =
        d.digits * 10 ^ d.exponent.toNat ∧
      (NumeralText.plain whole fraction).numeral.fraction.length = (-d.exponent).toNat := by
  have hdigits := all_isDigit_toDigits d.digits
  rw [Binary64.positional]
  split
  · -- Zeros follow the digits.
    rename_i hexponent
    refine ⟨⟨Nat.toDigits 10 d.digits ++ List.replicate d.exponent.toNat '0', by simp, ?_⟩, none,
      NumeralText.text_plain_none _, iff_of_true rfl hexponent, ?_, ?_⟩
    · rw [List.all_append, hdigits, all_isDigit_replicate]
      rfl
    · rw [NumeralText.digits_plain_none, Nat.ofDigitChars_append, Nat.ofDigitChars_ten_toDigits,
        Nat.ofDigitChars_replicate_zero, Nat.mul_comm]
    · show 0 = _
      omega
  · rename_i hexponent
    have hpower : d.exponent.toNat = 0 := by omega
    rw [hpower, Nat.pow_zero, Nat.mul_one]
    split
    · -- The point stands between the digits.
      rename_i hlong
      generalize hk : (Nat.toDigits 10 d.digits).length - (-d.exponent).toNat = k
      have hsplit := List.take_append_drop k (Nat.toDigits 10 d.digits)
      rw [← hsplit, List.all_append, Bool.and_eq_true] at hdigits
      have hwhole : (Nat.toDigits 10 d.digits).take k ≠ [] := by
        rw [Ne, List.take_eq_nil_iff, not_or]
        exact ⟨by omega, Nat.toDigits_ne_nil⟩
      refine ⟨⟨_, hwhole, hdigits.1⟩, some ⟨_, hdigits.2⟩, NumeralText.text_plain_some _ _,
        iff_of_false nofun hexponent, ?_, ?_⟩
      · rw [NumeralText.digits_plain_some, hsplit, Nat.ofDigitChars_ten_toDigits]
      · show ((Nat.toDigits 10 d.digits).drop k).length = _
        rw [List.length_drop]
        omega
    · -- A zero stands before the point, and zeros between it and the digits.
      rename_i hshort
      generalize hk : (-d.exponent).toNat - (Nat.toDigits 10 d.digits).length = k
      have hfraction : (List.replicate k '0' ++ Nat.toDigits 10 d.digits).all Char.isDigit := by
        rw [List.all_append, hdigits, all_isDigit_replicate]
        rfl
      refine ⟨⟨['0'], by decide, by decide⟩, some ⟨_, hfraction⟩, NumeralText.text_plain_some _ _,
        iff_of_false nofun hexponent, ?_, ?_⟩
      · rw [NumeralText.digits_plain_some, Nat.ofDigitChars_append, Nat.ofDigitChars_append,
          show Nat.ofDigitChars 10 ['0'] 0 = 0 from rfl, Nat.ofDigitChars_replicate_zero,
          Nat.mul_zero, Nat.ofDigitChars_ten_toDigits]
      · show (List.replicate k '0' ++ Nat.toDigits 10 d.digits).length = _
        rw [List.length_append, List.length_replicate]
        omega

/-! ## Decimals that a number covers -/

namespace Binary64

/-- Finite numbers are less than `2 ^ 1024`, which is `2 ^ 2098` units. -/
theorem units_lt {x : Binary64} (hx : x.isFinite) : x.units < 2 ^ 2098 := by
  rw [isFinite, decide_eq_true_eq] at hx
  have hscale : x.scale ≤ 2045 := by
    have hword : x.magnitude / leadingBit < 2047 :=
      (Nat.div_lt_iff_lt_mul (by decide)).mpr hx
    rw [scale]
    omega
  have hunits : x.units < 2 ^ (53 + x.scale) := by
    rw [units_eq, Nat.pow_add]
    exact Nat.mul_lt_mul_of_pos_right x.significand_lt x.gap_pos
  exact Nat.lt_of_lt_of_le hunits (Nat.pow_le_pow_right (by decide) (by omega))

theorem digits_ne_zero_of_covers {x : Binary64} (hunits : x.units ≠ 0) {d : Decimal}
    (h : x.Covers (d.grains * one) oneInGrains) : d.digits ≠ 0 := by
  intro hzero
  have hpos : 0 < oneInGrains * x.gap := Nat.mul_pos oneInGrains_pos x.gap_pos
  have hlow := h.halves.1
  rw [Decimal.grains, hzero, Nat.zero_mul, Nat.zero_mul] at hlow
  have hsignificand : x.significand ≠ 0 := fun hs => hunits (by rw [units_eq, hs, Nat.zero_mul])
  have hmul := Nat.le_mul_of_pos_left (oneInGrains * x.gap) (Nat.pos_of_ne_zero hsignificand)
  omega

/-- What a finite number covers is far from the decimals that are settled by their length. -/
theorem length_le_of_covers {x : Binary64} (hx : x.isFinite) {d : Decimal} (hd : d.digits ≠ 0)
    (h : x.Covers (d.grains * one) oneInGrains) :
    ((Nat.toDigits 10 d.digits).length : Int) + d.exponent ≤ 400 := by
  by_contra hlong
  have hgrains : 10 ^ 745 ≤ d.grains := by
    calc 10 ^ 745
      _ ≤ 10 ^ ((Nat.toDigits 10 d.digits).length - 1 + (d.exponent + grainPlaces).toNat) :=
        Nat.pow_le_pow_right (by decide) (by rw [grainPlaces]; omega)
      _ = 10 ^ ((Nat.toDigits 10 d.digits).length - 1) *
          10 ^ (d.exponent + grainPlaces).toNat := Nat.pow_add _ _ _
      _ ≤ d.grains := Nat.mul_le_mul_right _ (pow_length_toDigits_le hd)
  have hhigh := h.lt_two_pow oneInGrains_pos (units_lt hx)
  have hrange : 2 ^ 2098 * oneInGrains ≤ 10 ^ 745 * one := by decide +kernel
  have hmul : 10 ^ 745 * one ≤ d.grains * one := Nat.mul_le_mul_right _ hgrains
  omega

/-- A decimal that a finite number covers is read as that number. -/
theorem ofDecimal_eq_of_covers {x : Binary64} (hx : x.isFinite) (hunits : x.units ≠ 0)
    {d : Decimal} (hplaces : -(grainPlaces : Int) ≤ d.exponent)
    (h : x.Covers (d.grains * one) oneInGrains) :
    ofDecimal x.negative d.digits d.exponent = x := by
  have hdigits := digits_ne_zero_of_covers hunits h
  have hlength := length_le_of_covers hx hdigits h
  have hlow : -400 ≤ ((Nat.toDigits 10 d.digits).length : Int) + d.exponent := by
    rw [grainPlaces] at hplaces
    omega
  rw [ofDecimal, if_neg hdigits, if_neg (by omega), if_neg (by omega)]
  split
  · rename_i hexponent
    exact ofUnits_eq_of_covers hx Nat.one_pos (covers_whole_of_exponent hexponent h)
  · rename_i hexponent
    refine ofUnits_eq_of_covers hx (Nat.pow_pos (by decide)) ?_
    have hpos : 0 < 10 ^ (d.exponent + grainPlaces).toNat := Nat.pow_pos (by decide)
    have hpoint : d.grains * one = d.digits * one * 10 ^ (d.exponent + grainPlaces).toNat := by
      rw [Decimal.grains, Nat.mul_right_comm]
    have hgrains : oneInGrains =
        10 ^ (-d.exponent).toNat * 10 ^ (d.exponent + grainPlaces).toNat := by
      rw [oneInGrains_eq, ← Nat.pow_add]
      congr 1
      omega
    rw [hpoint, hgrains] at h
    exact (covers_mul_iff hpos).mp h

/-! ## Texts of finite numbers -/

theorem eq_zero_of_units {x : Binary64} (h : x.units = 0) : x = zero x.negative := by
  have hsignificand : x.significand = 0 :=
    (Nat.mul_eq_zero.mp (x.units_eq ▸ h)).resolve_right (Nat.ne_of_gt x.gap_pos)
  have hscale : x.scale = 0 := by
    by_contra hne
    have hle := leadingBit_le_significand hne
    rw [hsignificand] at hle
    exact absurd hle (by decide)
  refine ext_magnitude rfl ?_
  rw [magnitude_eq, hsignificand, hscale, Nat.zero_mul]
  rfl

theorem isZero_iff {x : Binary64} : x.isZero ↔ x.units = 0 := by
  constructor
  · intro h
    rw [isZero, decide_eq_true_eq, magnitude_eq] at h
    rw [units_eq, (Nat.add_eq_zero_iff.mp h).2, Nat.zero_mul]
  · intro h
    rw [eq_zero_of_units h]
    rfl

theorem isInfinite_eq_false {x : Binary64} (hx : x.isFinite) : x.isInfinite = false := by
  rw [isFinite, decide_eq_true_eq] at hx
  rw [isInfinite, decide_eq_false_iff_not]
  omega

/-- Only a sign is taken away. -/
theorem mem_of_signPart {cs rest : List Char} {negative : Bool}
    (h : signPart cs = (negative, rest)) {c : Char} (hc : c ∈ cs) :
    c ∈ rest ∨ (c = '+' ∨ c = '-') := by
  rw [signPart.eq_def] at h
  split at h <;> cases h
  · exact (List.mem_cons.mp hc).symm.imp_right .inl
  · exact (List.mem_cons.mp hc).symm.imp_right .inr
  · exact .inl hc

/-- A sign that is written, and what follows it. -/
theorem signPart_append (negative : Bool) (n : NumeralText) :
    signPart ((if negative then ['-'] else []) ++ n.text) = (negative, n.text) := by
  cases negative with
  | true => rfl
  | false =>
    obtain ⟨c, cs, htext, hc⟩ := n.exists_cons_text
    rw [htext]
    exact signPart_of_isDigit hc cs

/-- The shortest text of a finite number other than zero: its sign, and a numeral that
denotes the number with it. The numeral is an integer exactly if the number is whole. -/
theorem exists_display {x : Binary64} (hx : x.isFinite) (hunits : x.units ≠ 0) :
    ∃ whole fraction, signPart x.display = (x.negative, (NumeralText.plain whole fraction).text) ∧
      (NumeralText.plain whole fraction).numeral.value x.negative = x ∧
      (fraction = none ↔ x.units % one = 0) ∧
      Nat.ofDigitChars 10 (NumeralText.plain whole fraction).numeral.digits 0 =
        (x.shortest .up).digits * 10 ^ (x.shortest .up).exponent.toNat := by
  obtain ⟨whole, fraction, htext, hfraction, hdigits, hlength⟩ :=
    (x.shortest .up).exists_plain
  obtain ⟨hplaces, hcovers⟩ := covers_shortest hunits .up
  refine ⟨whole, fraction, ?_, ?_, hfraction.trans (exponent_shortest_iff hunits .up), hdigits⟩
  · have hdisplay : x.display = x.signText ++ positional (x.shortest .up) := by
      have hzero : x.isZero = false := by
        rw [Bool.eq_false_iff, Ne, isZero_iff]
        exact hunits
      rw [display, not_isNaN_of_isFinite hx, isInfinite_eq_false hx, hzero]
      rfl
    rw [hdisplay, ← htext, signText]
    exact signPart_append x.negative _
  · rw [NumeralText.value_plain, hdigits, hlength]
    have hgrains : (Decimal.mk ((x.shortest .up).digits * 10 ^ (x.shortest .up).exponent.toNat)
        (-((-(x.shortest .up).exponent).toNat : Int))).grains = (x.shortest .up).grains := by
      rw [Decimal.grains, Decimal.grains, Nat.mul_assoc, ← Nat.pow_add]
      congr 2
      dsimp only
      omega
    refine ofDecimal_eq_of_covers (d := ⟨_, _⟩) hx hunits ?_ (hgrains ▸ hcovers)
    dsimp only
    omega

/-- A finite number is read back from its shortest text. -/
theorem parse?_display {x : Binary64} (hx : x.isFinite) : parse? x.display = some x := by
  by_cases hunits : x.units = 0
  · rw [eq_zero_of_units hunits]
    cases x.negative <;> rfl
  · obtain ⟨whole, fraction, hsign, hvalue, -, -⟩ := exists_display hx hunits
    rw [(NumeralText.plain whole fraction).parse?_of_signPart hsign, hvalue]

end Binary64

/-! ## Integers of 64 bits -/

/-- Every numeral less than the limit fits, with either sign; none greater does. -/
theorem Word.isSome_signed? {negative : Bool} {n : Nat} :
    (signed? negative n).isSome ↔ n < signedLimit ∨ negative ∧ n = signedLimit := by
  rw [signed?]
  cases negative <;> simp
  omega

/-- A numeral after a sign spells an integer if it has no point and fits. -/
theorem isSome_parseInt64?_plain {cs : List Char} {negative : Bool} {whole : Digits}
    {fraction : Option { cs : List Char // cs.all Char.isDigit }}
    (hsign : signPart cs = (negative, (NumeralText.plain whole fraction).text)) :
    (parseInt64? cs).isSome ↔ fraction = none ∧ (Word.signed? negative
      (Nat.ofDigitChars 10 (NumeralText.plain whole fraction).numeral.digits 0)).isSome := by
  rw [parseInt64?, hsign]
  cases fraction with
  | none =>
    have hdigits : (whole.val.isEmpty || !whole.val.all Char.isDigit) = false := by
      simp [whole.property.1, whole.property.2]
    rw [NumeralText.text_plain_none, NumeralText.digits_plain_none]
    dsimp only
    rw [hdigits]
    simp
  | some ds =>
    have hpoint : (whole.val ++ '.' :: ds.val).all Char.isDigit = false :=
      List.all_eq_false.mpr ⟨'.', by simp, by decide⟩
    rw [NumeralText.text_plain_some]
    dsimp only
    rw [hpoint, Bool.not_false, Bool.or_true]
    simp

theorem signPart_intText (i : Int) :
    signPart (Binary64.intText i) = (decide (i < 0), (NumeralText.plain
      ⟨Nat.toDigits 10 i.natAbs, Nat.toDigits_ne_nil, all_isDigit_toDigits _⟩ none).text) := by
  rw [← Binary64.signPart_append, NumeralText.text_plain_none, Binary64.intText]
  by_cases hi : i < 0 <;> simp [hi]

namespace Binary64

/-- What a text spells if it is a text of `x`: after a sign, a numeral that with it
denotes the number without the sign of zero. It is an integer exactly if the number is
whole, and then one of 64 bits if the magnitude is less than `2 ^ 63`. -/
def SpelledBy (x : Binary64) (cs : List Char) : Prop :=
  ∃ negative whole fraction,
    signPart cs = (negative, (NumeralText.plain whole fraction).text) ∧
    (NumeralText.plain whole fraction).numeral.value negative =
      (if x.isZero then zero false else x) ∧
    (fraction = none ↔ x.units % one = 0) ∧
    (x.units % one = 0 → ((Word.signed? negative
      (Nat.ofDigitChars 10 (NumeralText.plain whole fraction).numeral.digits 0)).isSome ↔
        x.units < Word.signedLimit * one))

/-- The integer of a whole number. -/
theorem spelledBy_intText {x : Binary64} (hx : x.isFinite) (hwhole : x.units % one = 0)
    (hsmall : x.units < Word.signedLimit * one) : x.SpelledBy (intText x.truncate) := by
  have hunits := Nat.div_add_mod' x.units one
  rw [hwhole, Nat.add_zero] at hunits
  have hfits : x.units / one < Word.signedLimit := (Nat.div_lt_iff_lt_mul one_pos).mpr hsmall
  have habs : x.truncate.natAbs = x.units / one := by
    rw [truncate]
    split
    · rw [Int.natAbs_neg, Int.natAbs_natCast]
    · exact Int.natAbs_natCast _
  have hdigits : Nat.ofDigitChars 10 (NumeralText.plain ⟨Nat.toDigits 10 x.truncate.natAbs,
      Nat.toDigits_ne_nil, all_isDigit_toDigits _⟩ none).numeral.digits 0 = x.units / one := by
    rw [NumeralText.digits_plain_none, Nat.ofDigitChars_ten_toDigits, habs]
  refine ⟨_, _, none, signPart_intText x.truncate, ?_, iff_of_true rfl hwhole, fun _ => ?_⟩
  · rw [NumeralText.value_plain, hdigits]
    by_cases hzero : x.units = 0
    · rw [if_pos (isZero_iff.mpr hzero), hzero, Nat.zero_div]
      have htruncate : x.truncate = 0 := by
        rw [← Int.natAbs_eq_zero, habs, hzero, Nat.zero_div]
      rw [htruncate]
      rfl
    · have hquotient : x.units / one ≠ 0 := fun hq => hzero <| by rw [← hunits, hq, Nat.zero_mul]
      have hsign : decide (x.truncate < 0) = x.negative := by
        rw [truncate]
        cases x.negative <;> simp <;> omega
      rw [if_neg (isZero_iff.not.mpr hzero), hsign]
      have hplaces : -(grainPlaces : Int) ≤ 0 := by decide
      refine ofDecimal_eq_of_covers (d := ⟨x.units / one, 0⟩) hx hzero hplaces ?_
      have hpoint : (Decimal.mk (x.units / one) 0).grains * one = x.units * oneInGrains := by
        show x.units / one * 10 ^ grainPlaces * one = _
        rw [← oneInGrains_eq, Nat.mul_right_comm, hunits]
      have hself := (covers_mul_iff oneInGrains_pos).mpr x.covers_self
      rwa [hpoint, ← Nat.one_mul oneInGrains, ← Nat.mul_assoc, Nat.mul_one]
  · rw [hdigits, Word.isSome_signed?]
    exact iff_of_true (.inl hfits) hsmall

/-- The least number beyond the range of 64-bit integers on either side has a shortest
decimal that is greater. -/
theorem shortest_signedLimit (negative : Bool) :
    (ofUnits negative (Word.signedLimit * one) 1).shortest .up = ⟨9223372036854776, 3⟩ := by
  cases negative <;> decide +kernel

theorem signedLimit_mul_one : Word.signedLimit * one = 2 ^ 1137 := by decide +kernel

/-- The integer that a whole number is displayed as is less than the limit if the number
is, and greater if it is not. -/
theorem lt_signedLimit_iff {x : Binary64} (hx : x.isFinite) (hunits : x.units ≠ 0)
    (hwhole : x.units % one = 0) {n : Nat}
    (hn : n = (x.shortest .up).digits * 10 ^ (x.shortest .up).exponent.toNat) :
    (n < Word.signedLimit ↔ x.units < Word.signedLimit * one) ∧ n ≠ Word.signedLimit := by
  have hcovers := covers_whole_of_exponent ((exponent_shortest_iff hunits .up).mpr hwhole)
    (covers_shortest hunits .up).2
  rw [← hn] at hcovers
  rcases Nat.lt_trichotomy x.units (Word.signedLimit * one) with hlt | heq | hgt
  · have hn := hcovers.lt_two_pow Nat.one_pos (signedLimit_mul_one ▸ hlt)
    rw [Nat.mul_one, ← signedLimit_mul_one] at hn
    have hn := Nat.lt_of_mul_lt_mul_right hn
    exact ⟨iff_of_true hn hlt, Nat.ne_of_lt hn⟩
  · have hself := ofUnits_units hx
    rw [heq] at hself
    rw [← hself, shortest_signedLimit] at hn
    have hn : n = 9223372036854776000 := hn
    rw [hn, heq]
    exact ⟨iff_of_false (by decide) (Nat.lt_irrefl _), by decide⟩
  · have hn := hcovers.two_pow_lt Nat.one_pos (signedLimit_mul_one ▸ hgt)
    rw [Nat.mul_one, ← signedLimit_mul_one] at hn
    have hn := Nat.lt_of_mul_lt_mul_right hn
    exact ⟨iff_of_false (Nat.lt_asymm hn) (Nat.lt_asymm hgt), Nat.ne_of_gt hn⟩

/-- The text of a finite number spells it. -/
theorem spelledBy_compact {x : Binary64} (hx : x.isFinite) : x.SpelledBy x.compact := by
  rw [compact]
  split
  · rename_i hcompact
    rw [isCompact, isIntegral, Bool.and_eq_true, Bool.and_eq_true, decide_eq_true_eq,
      decide_eq_true_eq] at hcompact
    refine spelledBy_intText hx hcompact.1.2 (Nat.lt_trans hcompact.2 ?_)
    exact Nat.mul_lt_mul_of_pos_right (by decide) one_pos
  · rename_i hcompact
    have hunits : x.units ≠ 0 := fun hzero => hcompact <| by
      rw [eq_zero_of_units hzero]
      cases x.negative <;> decide +kernel
    obtain ⟨whole, fraction, hsign, hvalue, hfraction, hdigits⟩ := exists_display hx hunits
    refine ⟨x.negative, whole, fraction, hsign, ?_, hfraction, fun hwhole => ?_⟩
    · rw [hvalue, if_neg (isZero_iff.not.mpr hunits)]
    · obtain ⟨hlt, hne⟩ := lt_signedLimit_iff hx hunits hwhole hdigits
      rw [Word.isSome_signed?, hlt, or_iff_left fun h => hne h.2]

/-! ## Reading the text of a number -/

theorem SpelledBy.parse? {x : Binary64} {cs : List Char} (h : x.SpelledBy cs) :
    Binary64.parse? cs = some (if x.isZero then zero false else x) := by
  obtain ⟨negative, whole, fraction, hsign, hvalue, -⟩ := h
  rw [(NumeralText.plain whole fraction).parse?_of_signPart hsign, hvalue]

/-- A finite number is read back from its text, but for the sign of zero. -/
theorem parse?_compact {x : Binary64} (hx : x.isFinite) :
    parse? x.compact = some (if x.isZero then zero false else x) :=
  (spelledBy_compact hx).parse?

/-- The text of a finite number spells an integer of 64 bits if the number is whole and
its magnitude is less than `2 ^ 63`. -/
theorem parseInt64?_compact {x : Binary64} (hx : x.isFinite) :
    (parseInt64? x.compact).isSome ↔ x.isIntegral ∧ x.units < Word.signedLimit * one := by
  obtain ⟨negative, whole, fraction, hsign, -, hfraction, hfits⟩ := spelledBy_compact hx
  rw [isSome_parseInt64?_plain hsign, hfraction, isIntegral, hx, Bool.true_and, decide_eq_true_eq]
  exact and_congr_right hfits

/-- There is no white space in the text of a finite number. -/
theorem trim_compact {x : Binary64} (hx : x.isFinite) : trim x.compact = x.compact := by
  obtain ⟨negative, whole, fraction, hsign, -⟩ := spelledBy_compact hx
  refine trim_eq_self fun c hc => ?_
  have hall : ['.', 'e', 'E', '+', '-'].all fun d => !isSpace d := by decide
  have hsigns : ∀ d ∈ ['.', 'e', 'E', '+', '-'], isSpace d = false := fun d hd =>
    (Bool.not_eq_true' _).mp (List.all_eq_true.mp hall d hd)
  rcases mem_of_signPart hsign hc with htext | hsign
  · rcases (NumeralText.plain whole fraction).isDigit_or_mem_of_mem_text htext with hdigit | hmem
    · exact not_isSpace_of_isLetterOrNumber (isLetterOrNumber_of_isDigit hdigit)
    · exact hsigns c hmem
  · exact hsigns c (by simp [hsign])

/-- A word that begins with one of these letters is no number. -/
theorem parse?_eq_none_of_letter {c : Char} {cs : List Char}
    (hc : c.toLower = 't' ∨ c.toLower = 'f') : parse? (c :: cs) = none := by
  have hdigit : c.isDigit = false := by
    rw [Bool.eq_false_iff]
    intro hdigit
    rw [toLower_of_isDigit hdigit] at hc
    rcases hc with rfl | rfl <;> cases hdigit
  have hother : c ≠ '+' ∧ c ≠ '-' ∧ c ≠ '.' := by
    refine ⟨?_, ?_, ?_⟩ <;> rintro rfl <;> revert hc <;> decide
  have hsign : signPart (c :: cs) = (false, c :: cs) := by
    rw [signPart.eq_def]
    split <;> simp_all
  have hread : (Numeral.read (c :: cs)).1.digits = [] := by
    have hfraction : Numeral.fractionPart (c :: cs) = ([], c :: cs) := by
      rw [Numeral.fractionPart.eq_def]
      split <;> simp_all
    rw [Numeral.read, List.takeWhile_cons_of_neg (by simp [hdigit]),
      List.dropWhile_cons_of_neg (by simp [hdigit]), hfraction]
    rfl
  have hi : c.toLower ≠ 'i' := by rcases hc with hc | hc <;> rw [hc] <;> decide
  have hn : c.toLower ≠ 'n' := by rcases hc with hc | hc <;> rw [hc] <;> decide
  rw [parse?, hsign]
  dsimp only
  rw [if_neg (by simp [hi]), if_neg (by simp [hn]), hread]
  simp

end Binary64

end Datasheet
