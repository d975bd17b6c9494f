import Datasheet.Proofs.Binary64.Numeral

/-!
# What is read of a numeral

`Numeral.read` takes as much of a text as forms a numeral, in which digits may be missing on
one side of the point (`IsNumeral`). What it takes is, alone, the same number:

* `Numeral.exists_of_exponentPart`, `Numeral.exists_of_fractionPart`: what each part of a
  numeral takes;
* `Numeral.exists_of_read`: what all of them take.
-/

namespace Datasheet

/-- The spelling of a numeral: digits, a point with any number of digits and an exponent, with
at least one digit before the exponent. -/
def IsNumeral (cs : List Char) : Prop :=
  ∃ (whole : List Char) (fraction : Option { cs : List Char // cs.all Char.isDigit })
    (exponent : Option ExponentText),
    whole.all Char.isDigit ∧ whole ++ fraction.elim [] (·.val) ≠ [] ∧
      cs = whole ++ (fraction.elim [] (fun ds => '.' :: ds.val) ++ exponent.elim [] (·.text))

/-- What follows a sign, if there is one. -/
theorem exists_signChars (cs : List Char) :
    ∃ negative?, cs = ExponentText.signChars negative? ++ (signPart cs).2 ∧
      (signPart cs).1 = negative?.getD false := by
  rw [signPart.eq_def]
  split
  · exact ⟨some false, rfl, rfl⟩
  · exact ⟨some true, rfl, rfl⟩
  · exact ⟨none, rfl, rfl⟩

namespace Numeral

theorem exists_of_exponentPart {cs rest : List Char} {power : Int}
    (h : exponentPart cs = some (power, rest)) :
    ∃ e : ExponentText, cs = e.text ++ rest ∧ power = e.power := by
  cases cs with
  | nil => cases h
  | cons c cs =>
    rw [exponentPart_cons] at h
    split at h
    · rename_i hexponent
      obtain ⟨hletter, hdigits⟩ := Bool.and_eq_true_iff.mp hexponent
      obtain ⟨negative?, hcs, hsign⟩ := exists_signChars cs
      let e : ExponentText :=
        ⟨c = 'E', negative?, (signPart cs).2.takeWhile Char.isDigit, by simpa using hdigits,
          List.all_takeWhile⟩
      have hc : e.letter = c := by
        rw [ExponentText.letter]
        rcases Bool.or_eq_true_iff.mp hletter with hc | hc <;>
          obtain rfl := of_decide_eq_true hc <;> rfl
      rw [hsign] at h
      cases h
      refine ⟨e, ?_, rfl⟩
      rw [ExponentText.text, hc, List.cons_append, List.cons_append, List.append_assoc,
        List.takeWhile_append_dropWhile, ← hcs]
    · cases h

theorem exists_of_fractionPart (cs : List Char) :
    ∃ fraction : Option { cs : List Char // cs.all Char.isDigit },
      cs = fraction.elim [] (fun ds => '.' :: ds.val) ++ (fractionPart cs).2 ∧
        (fractionPart cs).1 = fraction.elim [] (·.val) := by
  rw [fractionPart.eq_def]
  split
  · rename_i rest
    refine ⟨some ⟨rest.takeWhile Char.isDigit, List.all_takeWhile⟩, ?_, rfl⟩
    exact congrArg ('.' :: ·) List.takeWhile_append_dropWhile.symm
  · exact ⟨none, rfl, rfl⟩

/-- What is read of a text is spelled before the rest, and alone it is read to its end. -/
theorem exists_of_read {cs rest : List Char} {n : Numeral} (h : read cs = (n, rest))
    (hdigits : n.digits ≠ []) :
    ∃ literal, cs = literal ++ rest ∧ IsNumeral literal ∧ read literal = (n, []) := by
  obtain ⟨fraction, hcs, hfraction⟩ := exists_of_fractionPart (cs.dropWhile Char.isDigit)
  have hexponent : ∃ exponent : Option ExponentText,
      (fractionPart (cs.dropWhile Char.isDigit)).2 = exponent.elim [] (·.text) ++ rest ∧
        n = ⟨cs.takeWhile Char.isDigit, fraction.elim [] (·.val), exponent.elim 0 (·.power)⟩ := by
    rw [read] at h
    dsimp only at h
    rw [hfraction] at h
    cases hpart : exponentPart (fractionPart (cs.dropWhile Char.isDigit)).2 with
    | none =>
      rw [hpart] at h
      cases h
      exact ⟨none, rfl, rfl⟩
    | some part =>
      obtain ⟨power, rest'⟩ := part
      obtain ⟨e, he, rfl⟩ := exists_of_exponentPart hpart
      rw [hpart] at h
      cases h
      exact ⟨some e, he, rfl⟩
  obtain ⟨exponent, hrest, rfl⟩ := hexponent
  -- the rest of the spelling is that of a numeral with any digit before the point
  let zero : NumeralText := ⟨⟨['0'], by decide⟩, fraction, exponent⟩
  have hwhole : ∀ c ∈ cs.takeWhile Char.isDigit, c.isDigit := fun c hc =>
    List.all_eq_true.mp List.all_takeWhile c hc
  have hends : ∀ c ∈ ([] : List Char).head?, endsNumeral c := by simp
  have hread := zero.read_append hwhole hends
  rw [List.append_nil] at hread
  refine ⟨_, ?_, ⟨_, fraction, exponent, List.all_takeWhile, hdigits, rfl⟩, hread⟩
  rw [List.append_assoc, List.append_assoc, ← hrest, ← hcs, List.takeWhile_append_dropWhile]

end Numeral

end Datasheet
