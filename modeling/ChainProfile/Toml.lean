/-!
# TOML documents

A document is a table of named values.  Tables come about in several ways, and
the way decides how they may be extended: a table that was opened by a header is
closed to dotted keys from elsewhere, one that a dotted key made cannot be opened
by a header, and one that only appeared on the way to another may still be opened
once.  `assemble` replays the statements of a document on an empty root.
-/

namespace ChainProfile

/-- How a table came about. -/
inductive TableOrigin where
  /-- On the way to a table opened by a header. -/
  | implied
  /-- On the way to the last part of a dotted key. -/
  | dotted
  /-- By its own header, or as the root. -/
  | header
deriving DecidableEq

/-- A TOML value.  Numbers with a fraction and moments of time keep their literals. -/
inductive Toml where
  | boolean (value : Bool)
  | string (text : String)
  | integer (value : Int)
  | float (literal : List Char)
  | moment (literal : List Char)
  | array (items : List Toml)
  /-- A table between braces, which cannot be extended. -/
  | inlineTable (entries : List (String × Toml))
  /-- A table that headers and dotted keys build up. -/
  | table (origin : TableOrigin) (entries : List (String × Toml))
  /-- An array of tables built up by double headers; the last element is the open one. -/
  | tables (elements : List (List (String × Toml)))
deriving Inhabited

namespace Toml

/-- The named values of a table. -/
abbrev Entries := List (String × Toml)

/-- Gives the entry of a name a new value, which depends on the old one if there is any. -/
def updateEntry (change : Option Toml → Option Toml) (name : String) : Entries → Option Entries
  | [] => (change none).map fun value => [(name, value)]
  | (other, value) :: rest =>
      if other = name then (change (some value)).map fun changed => (other, changed) :: rest
      else (updateEntry change name rest).map fun changed => (other, value) :: changed

/-- Changes the table at the end of a path.  Tables missing on the way are made; an array of
tables leads on to its last element.  The path of a dotted key does not lead through a table that
has a header. -/
def changeAt (isDotted : Bool) (change : TableOrigin → Entries → Option Entries) :
    List String → TableOrigin → Entries → Option Entries
  | [], origin, entries => change origin entries
  | name :: path, _, entries =>
      updateEntry (fun
        | none =>
            let origin := if isDotted then .dotted else .implied
            (changeAt isDotted change path origin []).map (.table origin)
        | some (.table origin inner) =>
            if isDotted && origin = .header then none
            else (changeAt isDotted change path origin inner).map (.table origin)
        | some (.tables elements) =>
            elements.getLast?.bind fun last =>
              (changeAt isDotted change path .header last).map fun changed =>
                .tables (elements.dropLast ++ [changed])
        | some _ => none) name entries

/-- Adds a value under a dotted key, given as the path in front of its last part.  A table made by
dotted keys is extended only by dotted keys, and no other table is. -/
def addValue (path : List String) (name : String) (value : Toml) (origin : TableOrigin)
    (entries : Entries) : Option Entries :=
  changeAt true (fun origin entries =>
    if (origin = .dotted) = path.isEmpty then none
    else updateEntry (fun old => if old.isSome then none else some value) name entries)
    path origin entries

/-- Opens a table by its header; only a table that was implied may be there already. -/
def openTable (path : List String) (name : String) (root : Entries) : Option Entries :=
  changeAt false (fun _ entries =>
    updateEntry (fun
      | none => some (.table .header [])
      | some (.table .implied inner) => some (.table .header inner)
      | some _ => none) name entries)
    path .header root

/-- Opens a new element of an array of tables by its double header. -/
def openElement (path : List String) (name : String) (root : Entries) : Option Entries :=
  changeAt false (fun _ entries =>
    updateEntry (fun
      | none => some (.tables [[]])
      | some (.tables elements) => some (.tables (elements ++ [[]]))
      | some _ => none) name entries)
    path .header root

/-- A statement of a document.  A dotted key is given as the path in front of its last part and
that part. -/
inductive Statement where
  | assign (path : List String) (name : String) (value : Toml)
  | header (path : List String) (name : String)
  | elementHeader (path : List String) (name : String)

/-- A document on the way: the root, and the path of the open table. -/
structure Draft where
  root : Entries
  opened : List String

/-- Carries out a statement, unless it defines something twice. -/
def Draft.apply (draft : Draft) : Statement → Option Draft
  | .assign path name value =>
      (changeAt false (addValue path name value) draft.opened .header draft.root).map
        fun root => { draft with root }
  | .header path name =>
      (openTable path name draft.root).map fun root => { root, opened := path ++ [name] }
  | .elementHeader path name =>
      (openElement path name draft.root).map fun root => { root, opened := path ++ [name] }

/-- The entries that the statements of a document build up. -/
def assemble (statements : List Statement) : Option Entries :=
  (statements.foldlM Draft.apply { root := [], opened := [] }).map Draft.root

/-- The entries of a table between braces, given as dotted keys with values. -/
def assembleInline (pairs : List (List String × String × Toml)) : Option Entries :=
  pairs.foldlM (fun entries (path, name, value) => addValue path name value .header entries) []

end Toml

end ChainProfile
