import Datasheet.Email.Basic

/-!
# Accepted addresses

An address is accepted if it obeys both rules, which an empty one does not
(`Email.toOption_read`). It then has one at sign between words, points and hyphens
(`Email.isSimple_of_accepted`).
-/

namespace Datasheet.Email

/-- The address in a text, if both rules accept it. -/
def accepted? (text : Option String) : Option String :=
  let address := trim (text.getD "").toList
  if isDeliverable address && isPlain address then some (.ofList address) else none

theorem toOption_read (text : Option String) : (read text).toOption = accepted? text := by
  rw [read, accepted?]
  by_cases hempty : trim (text.getD "").toList = []
  · have hplain : isPlain [] = false := by decide
    rw [if_pos hempty, hempty, hplain, Bool.and_false]
    rfl
  · rw [if_neg hempty]
    split <;> rfl

/-- One at sign, and beside it words, points and hyphens only. -/
def IsSimple (address : String) : Prop :=
  address.toList.count '@' = 1 ∧ ∀ c ∈ address.toList, c ≠ '@' → isPlainChar c

theorem not_isPlainChar_at : isPlainChar '@' = false := by decide +kernel

theorem isSimple_of_isPlain {address : List Char} (h : isPlain address) :
    IsSimple (.ofList address) := by
  rw [isPlain] at h
  split at h
  · rename_i user domain hsplit
    simp only [Bool.and_eq_true, List.all_eq_true] at h
    obtain ⟨⟨⟨-, huser⟩, hdomain⟩, -⟩ := h
    have hjoined : ['@'].intercalate (address.splitOn '@') = address := List.intercalate_splitOn '@'
    have haddress : address = user ++ '@' :: domain := by
      rw [← hjoined, hsplit]
      simp [List.intercalate]
    have hcount : ∀ cs : List Char, (∀ c ∈ cs, isPlainChar c) → cs.count '@' = 0 := by
      intro cs hcs
      refine List.count_eq_zero.mpr fun hat => ?_
      have hplain := hcs '@' hat
      rw [not_isPlainChar_at] at hplain
      cases hplain
    rw [IsSimple, String.toList_ofList, haddress]
    refine ⟨?_, fun c hc hat => ?_⟩
    · rw [List.count_append, List.count_cons_self, hcount user huser, hcount domain hdomain]
    · rcases List.mem_append.mp hc with hc | hc
      · exact huser c hc
      · exact hdomain c ((List.mem_cons.mp hc).resolve_left hat)
  · cases h

theorem isSimple_of_accepted {text : Option String} {address : String}
    (h : accepted? text = some address) : IsSimple address := by
  rw [accepted?] at h
  split at h
  · rename_i hrules
    cases h
    rw [Bool.and_eq_true] at hrules
    exact isSimple_of_isPlain hrules.2
  · cases h

end Datasheet.Email
