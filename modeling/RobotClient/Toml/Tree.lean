import RobotClient.Json.Basic

set_option autoImplicit false

/-! # The tables of a TOML document

A document defines each table once: by a heading, by dotted keys, or in passing as part of a longer
heading, in which case a heading of its own may still follow. The tree of a document keeps how its
tables came about, so that a second definition can be refused. -/

namespace RobotClient.Toml

/-- How a table came about. -/
inductive Origin where
  /-- By a heading. -/
  | heading
  /-- As part of a longer heading. -/
  | passing
  /-- By dotted keys. -/
  | dotted
deriving DecidableEq, Repr

/-- What a key of a document holds. -/
inductive Entry where
  | value (value : Json)
  | table (origin : Origin) (entries : List (String × Entry))
  /-- Tables under one repeated heading, the latest first. -/
  | tables (latest : List (String × Entry)) (earlier : List (List (String × Entry)))
deriving Inhabited

/-- The keys of a table with what they hold. -/
abbrev Entries := List (String × Entry)

namespace Entries

/-- Changes what a key holds, which may be nothing yet; `none` if the change is refused. -/
def change (key : String) (f : Option Entry → Option Entry) : Entries → Option Entries
  | [] => (f none).map fun entry => [(key, entry)]
  | (k, entry) :: rest =>
    if k = key then (f (some entry)).map fun entry => (k, entry) :: rest
    else (change key f rest).map ((k, entry) :: ·)

/-- Changes the table at the end of a path of headings, making the tables on the way. -/
def within (path : List String) (f : Entries → Option Entries) (entries : Entries) :
    Option Entries :=
  match path with
  | [] => f entries
  | key :: path =>
    entries.change key fun
      | none => (within path f []).map (.table .passing)
      | some (.table origin inner) => (within path f inner).map (.table origin)
      | some (.tables latest earlier) => (within path f latest).map (.tables · earlier)
      | some (.value _) => none

/-- Opens a table by its heading. -/
def openTable (key : String) (entries : Entries) : Option Entries :=
  entries.change key fun
    | none => some (.table .heading [])
    | some (.table .passing inner) => some (.table .heading inner)
    | some _ => none

/-- Opens one more table under a repeated heading. -/
def openRepeated (key : String) (entries : Entries) : Option Entries :=
  entries.change key fun
    | none => some (.tables [] [])
    | some (.tables latest earlier) => some (.tables [] (latest :: earlier))
    | some _ => none

/-- Gives a value to a key of a table. A key with dots defines tables on its way, and its last table
    must be one that came about so. -/
def insert (value : Json) : List String → Entries → Option Entries
  | [], _ => none
  | [key], entries =>
    entries.change key fun
      | none => some (.value value)
      | some _ => none
  | key :: path, entries =>
    entries.change key fun
      | none => (insert value path []).map (.table .dotted)
      | some (.table .dotted inner) => (insert value path inner).map (.table .dotted)
      | some (.table .passing inner) =>
        if path.length = 1 then none else (insert value path inner).map (.table .passing)
      | some (.tables latest earlier) =>
        if path.length = 1 then none else (insert value path latest).map (.tables · earlier)
      | some (.table .heading _) | some (.value _) => none

end Entries

/-! ## Values -/

mutual

/-- What an entry holds, as a value. -/
def Entry.toJson : Entry → Json
  | .value value => value
  | .table _ entries => .object (entriesToJson entries)
  | .tables latest earlier =>
    .list (tablesToJson earlier [.object (entriesToJson latest)])

/-- The members of a table. -/
def entriesToJson : List (String × Entry) → List (String × Json)
  | [] => []
  | (key, entry) :: rest => (key, entry.toJson) :: entriesToJson rest

/-- The tables under a repeated heading in their order, the latest of them first in the list, put in
    front of others. -/
def tablesToJson : List (List (String × Entry)) → List Json → List Json
  | [], others => others
  | table :: rest, others => tablesToJson rest (.object (entriesToJson table) :: others)

end

end RobotClient.Toml
