import Datasheet.Proofs.Formula.Parsing
import Datasheet.Proofs.Formula.Renumbering
import Datasheet.Proofs.Formula.Tokens

/-!
# The literals and columns of a formula

What is no operator in a formula are its atoms (`Expr.atoms`, `tokenAtoms`). Reading
tokens loses none of them, adds none and keeps their order (`parse_atoms`), so they are
what the scanner can give (`mem_atoms_of_compile`).
-/

namespace Datasheet.Formula

/-- The literal or the column that a token is. -/
def Token.atom? : Token → Option Expr
  | number x => some (.literal (.number x))
  | text s => some (.literal (.text s))
  | bool b => some (.literal (.bool b))
  | column index => some (.column index)
  | symbol _ => none

/-- The literals and columns of some tokens. -/
def tokenAtoms (ts : List Token) : List Expr := ts.filterMap Token.atom?

@[simp] theorem tokenAtoms_symbol (s : Symbol) (ts : List Token) :
    tokenAtoms (.symbol s :: ts) = tokenAtoms ts := rfl

theorem column_mem_tokenAtoms {ts : List Token} {i : Nat} (h : .column i ∈ ts) :
    .column i ∈ tokenAtoms ts :=
  List.mem_filterMap.mpr ⟨_, h, rfl⟩

theorem tokenAtoms_append (ts us : List Token) :
    tokenAtoms (ts ++ us) = tokenAtoms ts ++ tokenAtoms us :=
  List.filterMap_append

/-! ## Reading -/

theorem atoms_eq_tokenAtoms (e : Expr) : e.atoms = tokenAtoms e.tokens := by
  induction e with
  | literal v => cases v <;> rfl
  | column index => rfl
  | unary op operand ih => exact ih
  | binary op left right ihl ihr =>
    rw [Expr.atoms, Expr.tokens, tokenAtoms_append, tokenAtoms_symbol, ihl, ihr]

/-- No parenthesis is an atom. -/
theorem tokenAtoms_filter (ts : List Token) :
    tokenAtoms (ts.filter (!·.isParen)) = tokenAtoms ts := by
  have hatom : ∀ t : Token, (if (!t.isParen) = true then t.atom? else none) = t.atom? := by
    intro t
    cases t <;> simp [Token.isParen, Token.atom?]
  rw [tokenAtoms, List.filterMap_filter]
  exact congrArg (List.filterMap · ts) (funext hatom)

/-- The expression has the literals and columns of its tokens, in their order. -/
theorem parse_atoms {ts : List Token} {e : Expr} (h : parse ts = .ok e) :
    e.atoms = tokenAtoms ts := by
  obtain ⟨n, -, hforms⟩ := parse_eq_ok_iff.mp h
  rw [atoms_eq_tokenAtoms, hforms.tokens_eq, tokenAtoms_filter]

/-! ## Compiling -/

theorem compile_eq_ok_iff {source : String} {names : List String} {e : Expr} :
    compile source names = .ok e ↔ byteLength source.toList ≤ maxLength ∧
      ∃ ts, scan names source.toList = .ok ts ∧ parse ts = .ok e := by
  rw [compile]
  split
  · rename_i hlong
    refine ⟨fun h => ?_, fun h => absurd h.1 (Nat.not_le.mpr hlong)⟩
    cases h
  · rename_i hshort
    cases scan names source.toList with
    | error e => simp
    | ok ts => simp [Nat.not_lt.mp hshort]

/-- What the literals and columns of a formula can be. -/
theorem mem_atoms_of_compile {source : String} {names : List String} {e a : Expr}
    (h : compile source names = .ok e) (ha : a ∈ e.atoms) :
    (∃ s, a = .literal (.text s)) ∨ (∃ key ∈ columnKeys names, a = .column key.index) ∨
      (∃ n : Numeral, a = .literal (.number (n.value false))) ∨ ∃ b, a = .literal (.bool b) := by
  obtain ⟨-, ts, hscan, hparse⟩ := compile_eq_ok_iff.mp h
  rw [parse_atoms hparse, tokenAtoms, List.mem_filterMap] at ha
  obtain ⟨t, ht, hatom⟩ := ha
  revert t
  refine forall_of_scanFrom (fun before c cs t length htoken hatom => ?_) hscan
  rcases scanToken_cases htoken with ⟨s, rfl⟩ | ⟨key, hkey, rfl⟩ | ⟨n, rfl⟩ | ⟨s, rfl⟩ | ⟨b, rfl⟩ <;>
    cases hatom
  · exact .inl ⟨s, rfl⟩
  · exact .inr (.inl ⟨key, hkey, rfl⟩)
  · exact .inr (.inr (.inl ⟨n, rfl⟩))
  · exact .inr (.inr (.inr ⟨b, rfl⟩))

end Datasheet.Formula
