import Datasheet.Binary64.Text

/-!
# TOML values

A document is a table: names with values, some of them tables again. A table
keeps how it came to be (`Toml.Origin`), because that decides what may be added
to it later. A name is set once (`Toml.set?`).
-/

namespace Datasheet

namespace Toml

/-- How a table came to be. -/
inductive Origin where
  /-- As part of a longer header. -/
  | implied
  /-- By a dotted name. -/
  | dotted
  /-- By a header of its own. -/
  | header
  /-- As a value in braces, which is complete. -/
  | closed
deriving DecidableEq

/-- Whether a table may still be set out under a header or by dotted names. -/
def Origin.isOpen : Origin → Bool
  | implied | dotted => true
  | header | closed => false

end Toml

inductive Toml where
  | text (s : String)
  | int (n : Int)
  | bool (b : Bool)
  | float (x : Binary64)
  /-- A date, a time of day, or both, as written. -/
  | time (written : String)
  | list (items : List Toml)
  | table (origin : Toml.Origin) (entries : List (String × Toml))
  /-- Tables under headers of one name, the last one first. -/
  | tables (last : List (String × Toml)) (earlier : List (List (String × Toml)))

namespace Toml

/-- The names of a table with their values. -/
abbrev Entries := List (String × Toml)

/-- Gives a name another value, in its place. -/
def replaceEntry (name : String) (value : Toml) (entries : Entries) : Entries :=
  entries.map fun (n, v) => if n = name then (n, value) else (n, v)

/-- Changes the table at the end of a path, of which what is missing is made. A path
of dotted names may not lead into a table that has a header. -/
def changeAt? (ofNames : Bool) (change : Origin → Entries → Option Entries) :
    List String → Origin → Entries → Option Entries
  | [], origin, entries => change origin entries
  | name :: path, _, entries =>
    match entries.lookup name with
    | none =>
      let origin := if ofNames then .dotted else .implied
      (changeAt? ofNames change path origin []).map fun sub =>
        entries ++ [(name, table origin sub)]
    | some (table origin sub) =>
      if origin = .closed || ofNames && !origin.isOpen then none
      else (changeAt? ofNames change path origin sub).map fun sub =>
        replaceEntry name (table origin sub) entries
    | some (tables last earlier) =>
      (changeAt? ofNames change path .header last).map fun last =>
        replaceEntry name (tables last earlier) entries
    | some _ => none

/-- Adds a value under a name that is new. -/
def addEntry? (name : String) (value : Toml) (entries : Entries) : Option Entries :=
  match entries.lookup name with
  | none => some (entries ++ [(name, value)])
  | some _ => none

/-- Sets a dotted name in a table. The table that its last part belongs to has to
be one made by dotted names, if there are several parts. -/
def set? (path : List String) (name : String) (value : Toml) (origin : Origin)
    (entries : Entries) : Option Entries :=
  changeAt? true (fun origin entries =>
      if (origin == .dotted) == path.isEmpty then none else addEntry? name value entries)
    path origin entries

/-- Starts a table under a header. -/
def startTable? (path : List String) (name : String) (entries : Entries) : Option Entries :=
  changeAt? false (fun _ entries =>
      match entries.lookup name with
      | none => some (entries ++ [(name, table .header [])])
      | some (table .implied sub) => some (replaceEntry name (table .header sub) entries)
      | some _ => none)
    path .header entries

/-- Starts the next of several tables under a header. -/
def startNextTable? (path : List String) (name : String) (entries : Entries) : Option Entries :=
  changeAt? false (fun _ entries =>
      match entries.lookup name with
      | none => some (entries ++ [(name, tables [] [])])
      | some (tables last earlier) =>
        some (replaceEntry name (tables [] (last :: earlier)) entries)
      | some _ => none)
    path .header entries

end Toml

end Datasheet
