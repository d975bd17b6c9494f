import Datasheet.Formula.Scan
import Datasheet.Proofs.Results

/-!
# What a scan goes through

A text that has tokens is white space and, one after another, the characters of each
token (`Scans`, `scans_of_scanFrom`). What a token can be is said once (`scanToken_cases`), and
what all tokens of a text have in common is proved by induction on `Scans`
(`forall_of_scanFrom`).
-/

namespace Datasheet.Formula

variable {keys : List ColumnKey}

/-- The steps of a scan, given the character before the text. -/
inductive Scans (keys : List ColumnKey) : Option Char → List Char → List Token → Prop where
  | nil {before : Option Char} : Scans keys before [] []
  | space {before : Option Char} {c : Char} {cs : List Char} {ts : List Token}
      (hspace : isSpace c) (hrest : Scans keys (some c) cs ts) : Scans keys before (c :: cs) ts
  | token {before : Option Char} {c : Char} {cs : List Char} {t : Token} {length : Nat}
      {ts : List Token} (hspace : isSpace c = false)
      (htoken : scanToken keys before c cs = .ok (t, length))
      (hrest : Scans keys (c :: cs.take length).getLast? (cs.drop length) ts) :
      Scans keys before (c :: cs) (t :: ts)

theorem scanFrom_of_scans {before : Option Char} {text : List Char} {ts : List Token}
    (h : Scans keys before text ts) : scanFrom keys before text = .ok ts := by
  induction h with
  | nil => rw [scanFrom]
  | space hspace _ ih => rw [scanFrom, if_pos hspace, ih]
  | token hspace htoken _ ih =>
    rw [scanFrom, if_neg (Bool.eq_false_iff.mp hspace), htoken]
    dsimp only [bind, Except.bind]
    rw [ih]
    rfl

/-- By induction on how many characters there are, of which each token takes some. -/
theorem scans_of_scanFrom {before : Option Char} {text : List Char} {ts : List Token}
    (h : scanFrom keys before text = .ok ts) : Scans keys before text ts := by
  induction text using (measure List.length).wf.induction generalizing before ts with
  | _ text ih =>
    cases text with
    | nil =>
      rw [scanFrom] at h
      cases h
      exact .nil
    | cons c cs =>
      rw [scanFrom] at h
      split at h
      · exact .space ‹_› (ih cs (Nat.lt_succ_self _) h)
      · rename_i hspace
        obtain ⟨⟨t, length⟩, htoken, h⟩ := exists_of_bind_eq_ok h
        obtain ⟨us, hrest, h⟩ := exists_of_bind_eq_ok h
        cases h
        have hshorter : (cs.drop length).length < (c :: cs).length :=
          Nat.lt_succ_of_le (cs.drop_sublist length).length_le
        exact .token (Bool.eq_false_iff.mpr hspace) htoken (ih _ hshorter hrest)

/-! ## Single tokens -/

section Token

variable {before : Option Char} {c : Char} {cs : List Char}

/-- Where no text starts, a column that is found is the token. -/
theorem scanToken_of_find? {key : ColumnKey} (hquote : ¬ (c = '"' || c = '\'') = true)
    (hfound : keys.find? (·.fits before (c :: cs)) = some key) :
    scanToken keys before c cs = .ok (.column key.index, key.text.length - 1) := by
  rw [scanToken, if_neg hquote, hfound]

theorem wordToken_cases {word : String} {t : Token} (h : wordToken word = .ok t) :
    (∃ s, t = .symbol s) ∨ ∃ b, t = .bool b := by
  rw [wordToken] at h
  repeat' split at h
  all_goals cases h
  all_goals first | exact .inl ⟨_, rfl⟩ | exact .inr ⟨_, rfl⟩

/-- A token is a text, the column of a key, a numeral, a symbol or a truth value. -/
theorem scanToken_cases {t : Token} {length : Nat}
    (h : scanToken keys before c cs = .ok (t, length)) :
    (∃ s, t = .text s) ∨ (∃ key ∈ keys, t = .column key.index) ∨
      (∃ n : Numeral, t = .number (n.value false)) ∨ (∃ s, t = .symbol s) ∨ ∃ b, t = .bool b := by
  rw [scanToken] at h
  split at h
  · obtain ⟨_, -, heq⟩ := exists_of_map_eq_ok h
    cases heq
    exact .inl ⟨_, rfl⟩
  · split at h
    · cases h
      exact .inr (.inl ⟨_, List.mem_of_find?_eq_some ‹_›, rfl⟩)
    · split at h
      · cases h
        exact .inr (.inr (.inl ⟨_, rfl⟩))
      · split at h
        · obtain ⟨_, hword, heq⟩ := exists_of_map_eq_ok h
          cases heq
          exact .inr (.inr (.inr (wordToken_cases hword)))
        · split at h <;> cases h
          exact .inr (.inr (.inr (.inl ⟨_, rfl⟩)))

end Token

/-- What holds of each token that can be scanned holds of all tokens of a text. -/
theorem forall_of_scanFrom {P : Token → Prop}
    (hP : ∀ before c cs t length, scanToken keys before c cs = .ok (t, length) → P t)
    {before : Option Char} {text : List Char} {ts : List Token}
    (h : scanFrom keys before text = .ok ts) : ∀ t ∈ ts, P t := by
  induction scans_of_scanFrom h with
  | nil => exact List.forall_mem_nil _
  | space _ hrest ih => exact ih (scanFrom_of_scans hrest)
  | token _ htoken hrest ih =>
    exact List.forall_mem_cons.mpr ⟨hP _ _ _ _ _ htoken, ih (scanFrom_of_scans hrest)⟩

end Datasheet.Formula
