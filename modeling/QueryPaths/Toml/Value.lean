import QueryPaths.Toml.Moment
import QueryPaths.Toml.Numeral

/-! # TOML values

    A document is a table: keys with values, which may be tables again. Tables
    are put together from several places, and where a table comes from decides
    who may add to it.

    * **`Value`**, **`Entries`**: a value, and the entries of a table.
    * **`Entries.assign`** adds the value of a dotted key.
    * **`Entries.openTable`**, **`Entries.openElement`** find or make the table
      that a header names, and add to it.
    * **`Value.isReadable`**: can a value be read, whatever it is wanted for?
-/

namespace QueryPaths.Toml

/-- Where a table comes from. -/
inductive Origin where
  /-- From a header of its own. -/
  | header
  /-- From a header that goes through it. -/
  | implied
  /-- From a dotted key that goes through it. -/
  | dotted
  /-- From braces. Nothing can be added to it. -/
  | inline
  deriving DecidableEq, Repr, Inhabited

/-- A value. -/
inductive Value where
  | string (text : String)
  | boolean (value : Bool)
  | whole (value : Int)
  /-- A whole number with characters that are no digits. -/
  | misspelt
  | real (value : Real)
  | moment (value : Moment)
  | array (elements : List Value)
  | table (origin : Origin) (entries : List (String × Value))
  /-- Tables that were given one by one, each under a header. -/
  | tables (elements : List (List (String × Value)))
  deriving Repr, Inhabited

/-- The entries of a table. -/
abbrev Entries := List (String × Value)

/-- The keys on the way to an entry, outermost first. -/
abbrev KeyPath := List String

namespace Entries

/-- Puts a value under a key, in place of an older one if there is. -/
def put (key : String) (value : Value) : Entries → Entries
  | [] => [(key, value)]
  | (k, v) :: rest => if k = key then (k, value) :: rest else (k, v) :: put key value rest

/-- Adds a value under a key that is still free. -/
def add? (key : String) (value : Value) (entries : Entries) : Option Entries :=
  match entries.lookup key with
  | none => some (entries ++ [(key, value)])
  | some _ => none

/-! ## Dotted keys -/

/-- Changes the last one of some tables. -/
def changeLast? (change : Entries → Option Entries) : List Entries → Option (List Entries)
  | [] => none
  | [last] => (change last).map ([·])
  | first :: rest => (changeLast? change rest).map (first :: ·)

/-- May a dotted key add to a table? -/
def Origin.extendsByKey : Origin → Bool
  | .implied | .dotted => true
  | .header | .inline => false

/-- **Adds the value of a dotted key.** Tables on the way are made unless they are
    there and take additions by dotted keys; from then on they come from a dotted
    key. Of several tables the last one is meant, but the value goes into a table
    further in. -/
def assign : KeyPath → Value → Entries → Option Entries
  | [], _, _ => none
  | [key], value, entries => entries.add? key value
  | key :: path, value, entries =>
    match entries.lookup key with
    | none => (assign path value []).map fun inner => entries.put key (.table .dotted inner)
    | some (.table origin inner) =>
      if Origin.extendsByKey origin then
        (assign path value inner).map fun inner => entries.put key (.table .dotted inner)
      else none
    | some (.tables elements) =>
      if path.length = 1 then none
      else
        (changeLast? (assign path value) elements).map fun elements =>
          entries.put key (.tables elements)
    | some _ => none

/-- Adds the values of dotted keys, one after the other. -/
def assignAll (entries : Entries) : List (KeyPath × Value) → Option Entries
  | [] => some entries
  | (path, value) :: rest => do (← assign path value entries).assignAll rest

/-! ## Headers -/

/-- **Goes along the keys of a header**, and makes a change at the end. Tables on
    the way are made if need be; of several tables, the last one is meant. -/
def within (change : Entries → Option Entries) : KeyPath → Entries → Option Entries
  | [], entries => change entries
  | key :: path, entries =>
    match entries.lookup key with
    | none => (within change path []).map fun inner => entries.put key (.table .implied inner)
    | some (.table .inline _) => none
    | some (.table origin inner) =>
      (within change path inner).map fun inner => entries.put key (.table origin inner)
    | some (.tables elements) =>
      (changeLast? (within change path) elements).map fun elements =>
        entries.put key (.tables elements)
    | some _ => none

/-- **The table under a key gets its header**, and these entries. It must be new or
    implied only. -/
def openTable (key : String) (given : List (KeyPath × Value)) (entries : Entries) :
    Option Entries :=
  match entries.lookup key with
  | none => (assignAll [] given).map fun inner => entries.put key (.table .header inner)
  | some (.table .implied inner) =>
    (assignAll inner given).map fun inner => entries.put key (.table .header inner)
  | some _ => none

/-- **One more table under a key**, with these entries. -/
def openElement (key : String) (given : List (KeyPath × Value)) (entries : Entries) :
    Option Entries :=
  match entries.lookup key with
  | none => (assignAll [] given).map fun inner => entries.put key (.tables [inner])
  | some (.tables elements) =>
    (assignAll [] given).map fun inner => entries.put key (.tables (elements ++ [inner]))
  | some _ => none

end Entries

/-! ## Values that can be read

    A document is kept even if some of its values cannot be read, as long as
    nobody asks for them.
-/

/-- The only key of a moment that is told as a table. -/
def momentKey : String := "$__toml_private_datetime"

/-- Is the key the first one of a table in the order of keys? -/
def Entries.leads (key : String) (entries : Entries) : Bool :=
  entries.any (·.1 == key) && entries.all (key ≤ ·.1)

/-- Does a table tell a moment, under the key for it? -/
def Entries.tellsMoment (entries : Entries) : Bool :=
  match entries.lookup momentKey with
  | some (.string text) => (Moment.ofChars? text.toList).isSome
  | _ => false

mutual

/-- **Can a value be read, whatever it is wanted for?** Its numbers must be spelt well
    and fit into sixty-four bits. A table with the key of a moment in front is taken
    for one, and nothing else in it is looked at. -/
def Value.isReadable : Value → Bool
  | .whole n => isWord n
  | .misspelt => false
  | .real r => r.isRepresentable
  | .array elements => allReadable elements
  | .table _ entries =>
    if Entries.leads momentKey entries then Entries.tellsMoment entries
    else entriesReadable entries
  | .tables elements => tablesReadable elements
  | .string _ | .boolean _ | .moment _ => true

/-- Can these values be read? -/
def allReadable : List Value → Bool
  | [] => true
  | value :: rest => value.isReadable && allReadable rest

/-- Can the values of these entries be read? -/
def entriesReadable : List (String × Value) → Bool
  | [] => true
  | (_, value) :: rest => value.isReadable && entriesReadable rest

/-- Can these tables be read? -/
def tablesReadable : List (List (String × Value)) → Bool
  | [] => true
  | entries :: rest =>
    (if Entries.leads momentKey entries then Entries.tellsMoment entries
      else entriesReadable entries) &&
      tablesReadable rest

end

end QueryPaths.Toml
