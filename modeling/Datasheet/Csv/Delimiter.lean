import Datasheet.Csv.Records

/-!
# The delimiter of a text

`Delimiter.sniff` takes the first candidate that splits the header record. If
none does, it takes the one that the first lines use most evenly
(`Delimiter.mostRegular`), provided it stands outside quotes in the header line;
a text of one column counts as comma-separated.
-/

namespace Datasheet.Csv

inductive Delimiter where
  | comma
  | semicolon
  | tab
  | pipe
deriving DecidableEq

namespace Delimiter

def char : Delimiter → Char
  | comma => ','
  | semicolon => ';'
  | tab => '\t'
  | pipe => '|'

/-- The delimiters in the order of preference. -/
def candidates : List Delimiter := [comma, semicolon, tab, pipe]

end Delimiter

/-- How many fields the first record has; zero if there is none. -/
def headerWidth (text : List Char) (d : Delimiter) : Nat :=
  ((records d.char text).head?.map List.length).getD 0

/-- The lines of a text; a final line feed starts no further line. -/
def lines (text : List Char) : List (List Char) :=
  match text with
  | [] => []
  | c :: cs =>
    (c :: cs).takeWhile (· ≠ '\n') :: lines ((c :: cs).dropWhile (· ≠ '\n')).tail
termination_by text.length
decreasing_by
  have := (List.dropWhile_sublist (· ≠ '\n') (l := c :: cs)).length_le
  simp only [List.length_tail, List.length_cons] at *
  omega

/-- How many lines count for the frequency of a delimiter. -/
def sampleLines : Nat := 10

/-- How often and how evenly a delimiter is used: its mean number in a line,
over one plus the standard deviation of that number. -/
def regularity (sample : List (List Char)) (d : Delimiter) : Float32 :=
  let counts := sample.map (·.count d.char)
  let size := Float32.ofNat counts.length
  let mean := Float32.ofNat (counts.foldl (· + ·) 0) / size
  let squares := counts.map fun n => (Float32.ofNat n - mean) * (Float32.ofNat n - mean)
  let variance := squares.foldl (· + ·) 0 / size
  mean / (1 + variance.sqrt)

/-- The candidate of the greatest regularity in the first lines, the first of
several; the comma if none occurs. -/
def mostRegular (text : List Char) : Delimiter :=
  let sample := (lines text).take sampleLines
  if sample.isEmpty then .comma
  else
    (Delimiter.candidates.foldl
      (fun (best : Delimiter × Float32) d =>
        let score := regularity sample d
        if best.2 < score then (d, score) else best)
      (.comma, 0)).1

/-- Whether a delimiter occurs in a line with an even number of quotes before
it. -/
def occursUnquoted (d : Delimiter) (quoted : Bool) : List Char → Bool
  | [] => false
  | c :: cs =>
    let quoted := if c = '"' then !quoted else quoted
    !quoted && c = d.char || occursUnquoted d quoted cs

def sniff (text : List Char) : Delimiter :=
  match Delimiter.candidates.find? (1 < headerWidth text ·) with
  | some d => d
  | none =>
    let guess := mostRegular text
    if occursUnquoted guess false ((lines text).head?.getD []) then guess else .comma

end Datasheet.Csv
