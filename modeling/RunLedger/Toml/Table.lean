import RunLedger.Value.Basic

/-!
# Tables in TOML

A table is an ordered mapping.  A key of several parts leads through tables, which are made where
they are missing, and through the last table of a list of tables.  Values written in one piece are
frozen: nothing is put into them later.  A table that has been declared is not declared again, and
one that a key made on its way is declared by that.
-/

namespace RunLedger.Toml

/-- A key and its parts. -/
abbrev Key := List String

/-- The entries of a table. -/
abbrev Table := List (String × Value)

/-- The table with the one behind a key changed.  Keys lead into the last table of a list only
where that is allowed. -/
def alterAt (intoLists : Bool) (change : Table → Option Table) : Key → Table → Option Table
  | [], t => change t
  | k :: path, t =>
    match t.lookup k with
    | none => (alterAt intoLists change path []).map fun inner => putEntry k (.map inner) t
    | some (.map inner) =>
      (alterAt intoLists change path inner).map fun inner => putEntry k (.map inner) t
    | some (.list items) =>
      match intoLists, items.getLast? with
      | true, some (.map inner) =>
        (alterAt intoLists change path inner).map fun inner =>
          putEntry k (.list (items.dropLast ++ [.map inner])) t
      | _, _ => none
    | some _ => none

def insertNew (key : String) (v : Value) (t : Table) : Option Table :=
  match t.lookup key with
  | none => some (putEntry key v t)
  | some _ => none

/-- The table with one more table in the list behind a name. -/
def appendItem (key : String) (t : Table) : Option Table :=
  match t.lookup key with
  | none => some (putEntry key (.list [.map []]) t)
  | some (.list items) => some (putEntry key (.list (items ++ [.map []])) t)
  | some _ => none

/-- Whether a value written in one piece is a table or a list. -/
def isNested : Value → Bool
  | .map _ | .list _ => true
  | _ => false

/-- Whether a key leads to or into one of the given places. -/
def leadsInto (places : List Key) (key : Key) : Bool := places.any fun p => p.isPrefixOf key

/-- A table with a value put behind a key, all of it written in one piece. -/
def insertInline (frozen : List Key) (key : Key) (v : Value) (t : Table) : Option Table :=
  match key.getLast? with
  | some last =>
    if leadsInto frozen key then none else alterAt false (insertNew last v) key.dropLast t
  | none => none

/-- A document as far as it has been read: its entries, the places that are frozen, the tables that
are declared, those that keys have made since the last heading, and the heading. -/
structure Document where
  entries : Table
  frozen : List Key
  declared : List Key
  onTheWay : List Key
  heading : Key

namespace Document

def empty : Document := ⟨[], [], [], [], []⟩

/-- The keys on the way to a key of several parts, under a heading. -/
def waysTo (heading key : Key) : List Key :=
  (List.range' 1 (key.length - 1)).map fun n => heading ++ key.take n

/-- The document with a value put behind a key under its heading. -/
def insert (d : Document) (key : Key) (v : Value) : Option Document :=
  let ways := waysTo d.heading key
  let place := d.heading ++ key
  match key.getLast? with
  | none => none
  | some last =>
    if ways.any d.declared.contains || leadsInto d.frozen place.dropLast then none
    else
      (alterAt true (insertNew last v) place.dropLast d.entries).map fun entries =>
        { d with
          entries := entries
          frozen := if isNested v then place :: d.frozen else d.frozen
          onTheWay := ways ++ d.onTheWay }

/-- The document at the end of the statements under a heading. -/
def finishHeading (d : Document) : Document :=
  { d with declared := d.onTheWay ++ d.declared, onTheWay := [] }

def openTable (d : Document) (key : Key) : Option Document :=
  let d := d.finishHeading
  if d.declared.contains key || leadsInto d.frozen key then none
  else
    (alterAt true some key d.entries).map fun entries =>
      { d with entries := entries, declared := key :: d.declared, heading := key }

def openItem (d : Document) (key : Key) : Option Document :=
  let d := d.finishHeading
  match key.getLast? with
  | none => none
  | some last =>
    if leadsInto d.frozen key then none
    else
      (alterAt true (appendItem last) key.dropLast d.entries).map fun entries =>
        { d with
          entries := entries
          frozen := d.frozen.filter fun p => !key.isPrefixOf p
          declared := key :: d.declared.filter fun p => !key.isPrefixOf p
          heading := key }

end Document

end RunLedger.Toml
