/-!
# Records of delimited text

A record ends at a line break: a line feed, a carriage return or both. A field
may stand in quotes, within which delimiters and line breaks are text and a
quote is written twice. Lines with nothing on them hold no record.

The reader takes one character at a time (`Reader.step`). A quote opens a quoted
field only as the first character of the field; after its closing quote a field
goes on as an unquoted one. Text that ends inside a record ends the record.
-/

namespace Datasheet.Csv

/-- Line feed and carriage return. -/
def isBreak (c : Char) : Bool := c = '\n' || c = '\r'

/-- Where in a record the reader stands. -/
inductive Place where
  /-- Before a record, or on an empty line. -/
  | recordStart
  /-- After a delimiter. -/
  | fieldStart
  /-- In the unquoted part of a field. -/
  | bare
  /-- Between quotes. -/
  | quoted
  /-- After a quote that closes the field unless another quote follows. -/
  | quoteSeen
deriving DecidableEq

/-- What has been read: the open field, the fields before it in its record, and
the records before that, each of them last part first. -/
structure Reader where
  place : Place
  field : List Char
  fields : List (List Char)
  records : List (List (List Char))
deriving DecidableEq

namespace Reader

def start : Reader := ⟨.recordStart, [], [], []⟩

def push (r : Reader) (place : Place) (c : Char) : Reader :=
  { r with place, field := c :: r.field }

def endField (r : Reader) : Reader :=
  { r with place := .fieldStart, field := [], fields := r.field.reverse :: r.fields }

def endRecord (r : Reader) : Reader :=
  ⟨.recordStart, [], [], (r.field.reverse :: r.fields).reverse :: r.records⟩

/-- A character outside quotes: it ends the field or the record, or belongs to
the field. -/
def stepBare (delimiter : Char) (r : Reader) (c : Char) : Reader :=
  if c = delimiter then r.endField
  else if isBreak c then r.endRecord
  else r.push .bare c

def step (delimiter : Char) (r : Reader) (c : Char) : Reader :=
  match r.place with
  | .recordStart =>
    if isBreak c then r
    else if c = '"' then { r with place := .quoted }
    else r.stepBare delimiter c
  | .fieldStart => if c = '"' then { r with place := .quoted } else r.stepBare delimiter c
  | .bare => r.stepBare delimiter c
  | .quoted => if c = '"' then { r with place := .quoteSeen } else r.push .quoted c
  | .quoteSeen => if c = '"' then r.push .quoted c else r.stepBare delimiter c

/-- The records, once the text has ended. -/
def finish (r : Reader) : List (List (List Char)) :=
  (if r.place = .recordStart then r else r.endRecord).records.reverse

end Reader

/-- The text without a byte-order mark at its start. -/
def dropMark : List Char → List Char
  | '\uFEFF' :: cs => cs
  | cs => cs

/-- The records of a text, after its byte-order mark if it has one. -/
def records (delimiter : Char) (text : List Char) : List (List (List Char)) :=
  ((dropMark text).foldl (Reader.step delimiter) .start).finish

end Datasheet.Csv
