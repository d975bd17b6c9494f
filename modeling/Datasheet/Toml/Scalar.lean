import Datasheet.Json.Tree
import Datasheet.Toml.Basic

/-!
# Words and quoted texts in TOML

What the lines of a document are made of, apart from brackets: names, quoted
texts, and bare words for numbers, truth values and times. A reader of quoted
text answers how many characters it takes.
-/

namespace Datasheet.Toml

def isBlankChar (c : Char) : Bool := c = ' ' || c = '\t'

/-- Characters that may stand in comments and, but for quotes, in texts. -/
def isTextChar (c : Char) : Bool := c = '\t' || (' ' ≤ c && c ≠ '\x7f')

/-- How many blanks a text starts with. -/
def blanks (text : List Char) : Nat := (text.takeWhile isBlankChar).length

/-- How many characters at the start of a text are blanks, line ends and comments. -/
def gap (inComment : Bool) : List Char → Nat
  | '\n' :: cs => gap false cs + 1
  | '\r' :: '\n' :: cs => gap false cs + 2
  | c :: cs =>
    if (if inComment then isTextChar c else isBlankChar c) then gap inComment cs + 1
    else if c = '#' then gap true cs + 1
    else 0
  | [] => 0

/-! ## Quoted texts -/

/-- The character of a code point in hexadecimal digits. -/
def codePoint? (digits : List Char) : Option Char := do
  let values ← digits.mapM JsonToken.hexValue?
  let n := values.foldl (fun n v => n * 16 + v) 0
  if n.isValidChar then some (Char.ofNat n) else none

/-- What follows a backslash: the character that it stands for, and how many it
takes. -/
def escape? : List Char → Option (Char × Nat)
  | 'b' :: _ => some ('\x08', 1)
  | 't' :: _ => some ('\t', 1)
  | 'n' :: _ => some ('\n', 1)
  | 'f' :: _ => some ('\x0c', 1)
  | 'r' :: _ => some ('\r', 1)
  | '"' :: _ => some ('"', 1)
  | '\\' :: _ => some ('\\', 1)
  | 'u' :: cs => if cs.length < 4 then none else (codePoint? (cs.take 4)).map (·, 5)
  | 'U' :: cs => if cs.length < 8 then none else (codePoint? (cs.take 8)).map (·, 9)
  | _ => none

/-- A text on one line after its opening quote, with the closing one; a backslash
escapes within double quotes. -/
def line? (quote : Char) : List Char → Option (List Char × Nat)
  | [] => none
  | c :: cs =>
    if c = quote then some ([], 1)
    else if c = '\\' && quote = '"' then do
      let (e, taken) ← escape? cs
      let (s, length) ← line? quote (cs.drop taken)
      return (e :: s, length + taken + 1)
    else if isTextChar c then (line? quote cs).map fun (s, length) => (c :: s, length + 1)
    else none
termination_by text => text.length
decreasing_by all_goals simp only [List.length_cons, List.length_drop]; omega

/-- How many blanks and line ends a text starts with. -/
def lineGap : List Char → Nat
  | '\n' :: cs => lineGap cs + 1
  | '\r' :: '\n' :: cs => lineGap cs + 2
  | c :: cs => if isBlankChar c then lineGap cs + 1 else 0
  | [] => 0

/-- A text on several lines after its opening quotes, with the closing ones, of
which there may be two more that belong to the text. Within double quotes a
backslash escapes, and at the end of a line it hides the gap up to the next word. -/
def lines? (quote : Char) : List Char → Option (List Char × Nat)
  | [] => none
  | c :: cs =>
    if c = quote && cs.take 2 = [quote, quote] then
      let more := ((cs.drop 2).take 2).takeWhile (· = quote)
      some (more, more.length + 3)
    else if c = '\\' && quote = '"' then
      let skipped := lineGap cs
      if skipped ≠ 0 && (cs.take skipped).contains '\n' then do
        let (s, length) ← lines? quote (cs.drop skipped)
        return (s, length + skipped + 1)
      else do
        let (e, taken) ← escape? cs
        let (s, length) ← lines? quote (cs.drop taken)
        return (e :: s, length + taken + 1)
    else if c = '\r' && cs.head? = some '\n' then
      (lines? quote (cs.drop 1)).map fun (s, length) => ('\n' :: s, length + 2)
    else if isTextChar c || c = '\n' then
      (lines? quote cs).map fun (s, length) => (c :: s, length + 1)
    else none
termination_by text => text.length
decreasing_by all_goals simp only [List.length_cons, List.length_drop]; omega

/-- A text in quotes, on one line or on several. A line end right after the opening
quotes of several lines is not part of it. -/
def quoted? (text : List Char) : Option (List Char × Nat) :=
  match text with
  | [] => none
  | quote :: cs =>
    if quote ≠ '"' && quote ≠ '\'' then none
    else if cs.take 2 = [quote, quote] then
      let body := cs.drop 2
      let start := match body with
        | '\n' :: _ => 1
        | '\r' :: '\n' :: _ => 2
        | _ => 0
      (lines? quote (body.drop start)).map fun (s, length) => (s, length + start + 3)
    else (line? quote cs).map fun (s, length) => (s, length + 1)

/-! ## Names -/

def isNameChar (c : Char) : Bool := c.isAlphanum || c = '_' || c = '-'

/-- One part of a name, bare or in quotes on one line. -/
def namePart? (text : List Char) : Option (String × Nat) :=
  match text with
  | '"' :: cs => (line? '"' cs).map fun (s, length) => (.ofList s, length + 1)
  | '\'' :: cs => (line? '\'' cs).map fun (s, length) => (.ofList s, length + 1)
  | cs =>
    let bare := cs.takeWhile isNameChar
    if bare.isEmpty then none else some (.ofList bare, bare.length)

/-- How many parts a name may have. -/
def maxNameParts : Nat := 79

/-- The parts of a dotted name, at most so many, and what stands before the last;
blanks may surround each part. -/
def name? : Nat → List Char → Option ((List String × String) × Nat)
  | 0, _ => none
  | parts + 1, cs => do
    let before := blanks cs
    let (part, length) ← namePart? (cs.drop before)
    let after := blanks (cs.drop (before + length))
    let taken := before + length + after
    match cs.drop taken with
    | '.' :: rest =>
      let ((path, last), more) ← name? parts rest
      return ((part :: path, last), taken + 1 + more)
    | _ => return (([], part), taken)

/-! ## Bare words -/

/-- Digits of a base, with single underscores between them. -/
def digits? (base : Nat) (word : List Char) : Option (List Nat) :=
  let groups := word.splitOn '_'
  if groups.any List.isEmpty then none
  else groups.flatten.mapM fun c => (JsonToken.hexValue? c).filter (· < base)

def ofDigits (base : Nat) (digits : List Nat) : Nat := digits.foldl (fun n d => n * base + d) 0

/-- Decimal digits without a needless zero at the start. -/
def decimal? (word : List Char) : Option (List Nat) :=
  if word.head? = some '0' && 1 < word.length then none else digits? 10 word

/-- A whole number of 64 bits. -/
def int? (word : List Char) : Option Int :=
  match word with
  | '0' :: 'x' :: rest => (digits? 16 rest).bind fun ds => Word.signed? false (ofDigits 16 ds)
  | '0' :: 'o' :: rest => (digits? 8 rest).bind fun ds => Word.signed? false (ofDigits 8 ds)
  | '0' :: 'b' :: rest => (digits? 2 rest).bind fun ds => Word.signed? false (ofDigits 2 ds)
  | word =>
    let (negative, body) := signPart word
    (decimal? body).bind fun ds => Word.signed? negative (ofDigits 10 ds)

/-- A number with a fraction, an exponent or both, which is less than infinity. -/
def float? (word : List Char) : Option Binary64 := do
  let (negative, body) := signPart word
  if body = "inf".toList then some (.infinity negative)
  else if body = "nan".toList then some { Binary64.nan with negative }
  else
    let mantissa := body.takeWhile fun c => c ≠ 'e' && c ≠ 'E'
    let whole := mantissa.takeWhile (· ≠ '.')
    let _ ← decimal? whole
    if whole.length < mantissa.length then
      let _ ← digits? 10 (mantissa.drop (whole.length + 1))
    if mantissa.length < body.length then
      let _ ← digits? 10 (signPart (body.drop (mantissa.length + 1))).2
    if whole = body then none
    let x ← Binary64.parse? (word.filter (· ≠ '_'))
    if x.isInfinite && !x.negative then none else some x

/-! ### Times -/

/-- A number of exactly `width` digits from `least` to `greatest`. -/
def field? (width least greatest : Nat) (word : List Char) : Option Nat := do
  if word.length ≠ width || !word.all Char.isDigit then none
  let n := Nat.ofDigitChars 10 word 0
  if least ≤ n && n ≤ greatest then some n else none

def daysIn (year month : Nat) : Nat :=
  if month = 2 then
    if year % 4 = 0 && (year % 100 ≠ 0 || year % 400 = 0) then 29 else 28
  else if month = 4 || month = 6 || month = 9 || month = 11 then 30
  else 31

/-- Whether a word is a date: year, month and day. -/
def isDate (word : List Char) : Bool :=
  match word.splitOn '-' with
  | [year, month, day] =>
    match field? 4 0 9999 year, field? 2 1 12 month with
    | some y, some m => (field? 2 1 (daysIn y m) day).isSome
    | _, _ => false
  | _ => false

/-- Whether a word is a time of day: hour, minute, second and perhaps a fraction. -/
def isTime (word : List Char) : Bool :=
  match word.splitOn ':' with
  | [hour, minute, second] =>
    let whole := second.takeWhile (· ≠ '.')
    let fraction := second.drop (whole.length + 1)
    (field? 2 0 23 hour).isSome && (field? 2 0 59 minute).isSome && (field? 2 0 60 whole).isSome
      && fraction.all Char.isDigit && (whole.length = second.length || !fraction.isEmpty)
  | _ => false

/-- Whether a word is a distance from universal time. -/
def isOffset (word : List Char) : Bool :=
  match word with
  | ['Z'] | ['z'] => true
  | c :: rest =>
    match rest.splitOn ':' with
    | [hour, minute] =>
      (c = '+' || c = '-') && (field? 2 0 23 hour).isSome && (field? 2 0 59 minute).isSome
    | _ => false
  | [] => false

/-- Whether a word is a time of day, perhaps with an offset. -/
def isZonedTime (word : List Char) : Bool :=
  let time := word.takeWhile fun c => c.isDigit || c = ':' || c = '.'
  let offset := word.drop time.length
  isTime time && (offset.isEmpty || isOffset offset)

/-- Whether a word is a date and a time with a letter between them. -/
def isDateTime (word : List Char) : Bool :=
  match word.drop 10 with
  | c :: rest => (c = 'T' || c = 't') && isDate (word.take 10) && isZonedTime rest
  | [] => false

/-! ### Values -/

def isWordPart (c : Char) : Bool := isNameChar c || c = '+' || c = '.' || c = ':'

/-- The value of a bare word. -/
def ofWord? (word : List Char) : Option Toml :=
  if word = "true".toList then some (bool true)
  else if word = "false".toList then some (bool false)
  else if isDate word || isTime word || isDateTime word then some (time (.ofList word))
  else ((int? word).map int).or ((float? word).map float)

/-- A bare word at the start of a text, and how many characters it takes. A date may
be followed by a time after a space. -/
def word? (text : List Char) : Option (Toml × Nat) :=
  let word := text.takeWhile isWordPart
  let next := (text.drop (word.length + 1)).takeWhile isWordPart
  if isDate word && (text.drop word.length).head? = some ' ' && isZonedTime next then
    some (time (.ofList (word ++ ' ' :: next)), word.length + 1 + next.length)
  else (ofWord? word).map (·, word.length)

end Datasheet.Toml
