import Scrutineer.Settings.Tree

/-! Tables of settings files. Each table of a file is made in one place: by its
header, or by dotted names that lead through it. A header may be added to a table that
only other headers have led through. Names may not be used twice. -/

namespace Scrutineer

/-- How a table has been made: by its own header, by the header of a table
inside of it, or by dotted names. -/
inductive TableMaking where
  | header
  | innerHeader
  | dots
deriving DecidableEq

/-- What a name in a table stands for. Of tables under one header in double
brackets, the latest one comes first. -/
inductive TableEntry where
  | value (setting : Setting)
  | table (making : TableMaking) (entries : List (String × TableEntry))
  | tables (latestFirst : List TableEntry)

abbrev TableEntries := List (String × TableEntry)

namespace TableEntry

mutual

def setting : TableEntry → Setting
  | .value setting => setting
  | .table _ entries => .group (settings entries)
  | .tables latestFirst => .list (itemSettings latestFirst).reverse

def itemSettings : List TableEntry → List Setting
  | [] => []
  | item :: rest => setting item :: itemSettings rest

def settings : List (String × TableEntry) → List (String × Setting)
  | [] => []
  | (name, entry) :: rest => (name, setting entry) :: settings rest

end

def change? (change : TableEntries → Option TableEntries) : TableEntry → Option TableEntry
  | .table making entries => (change entries).map (.table making)
  | .tables (.table making entries :: earlier) =>
      (change entries).map fun changed => .tables (.table making changed :: earlier)
  | _ => none

end TableEntry

namespace TableEntries

def within (change : TableEntries → Option TableEntries) :
    List String → TableEntries → Option TableEntries
  | [], entries => change entries
  | name :: rest, entries => do
      let changed ← (← Entries.find? name entries).change? (within change rest)
      return Entries.insert name changed entries

def reach (make : Option TableEntry → Option TableEntry) :
    List String → TableEntries → Option TableEntries
  | [], _ => none
  | [name], entries =>
      (make (Entries.find? name entries)).map fun made => Entries.insert name made entries
  | name :: rest, entries => do
      let held := (Entries.find? name entries).getD (.table .innerHeader [])
      let changed ← held.change? (reach make rest)
      return Entries.insert name changed entries

def openTable : List String → TableEntries → Option TableEntries :=
  reach fun
    | none => some (.table .header [])
    | some (.table .innerHeader entries) => some (.table .header entries)
    | some _ => none

def appendTable : List String → TableEntries → Option TableEntries :=
  reach fun
    | none => some (.tables [.table .header []])
    | some (.tables earlier) => some (.tables (.table .header [] :: earlier))
    | some _ => none

def add (value : Setting) : List String → TableEntries → Option TableEntries
  | [], _ => none
  | [name], entries =>
      if (Entries.find? name entries).isSome then none
      else some (Entries.insert name (.value value) entries)
  | name :: rest, entries => do
      let (making, held) ←
        match Entries.find? name entries with
        | none => some (.dots, [])
        | some (.table .dots held) => some (.dots, held)
        | some (.table .innerHeader held) =>
            if rest.length = 1 then none else some (.innerHeader, held)
        | some _ => none
      return Entries.insert name (.table making (← add value rest held)) entries

end TableEntries
end Scrutineer
