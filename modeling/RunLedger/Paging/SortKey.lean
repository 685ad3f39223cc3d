import RunLedger.Misconfiguration

/-!
# Sort keys

A page query orders its rows by columns, the first one first.  An order is given as such or by a
word for it; the columns are trimmed and none may be blank.
-/

namespace RunLedger

/-- The direction of a sort key. -/
inductive SortOrder where
  | ascending
  | descending
deriving Repr, DecidableEq, Inhabited

namespace SortOrder

def keyword : SortOrder → String
  | ascending => "ASC"
  | descending => "DESC"

def name : SortOrder → String
  | ascending => "ASCENDING"
  | descending => "DESCENDING"

/-- The direction that a word means, when trimmed and in upper case. -/
def ofWord? (s : String) : Option SortOrder :=
  let word := Text.uppered (Text.trimmed s)
  if word = "ASC" || word = "ASCENDING" then some ascending
  else if word = "DESC" || word = "DESCENDING" then some descending
  else none

end SortOrder

/-- A direction as the caller gives it. -/
inductive OrderChoice where
  | order (o : SortOrder)
  | value (v : Value)
deriving Repr, Inhabited

/-- A column to sort by, and its direction. -/
structure SortKey where
  column : String
  order : SortOrder
deriving Repr, DecidableEq, Inhabited

def OrderChoice.resolve (column : String) : OrderChoice → Except Misconfiguration SortOrder
  | order o => .ok o
  | value v =>
    match SortOrder.ofWord? v.display with
    | some o => .ok o
    | none => .error (.sortOrderInvalid v column)

namespace SortKey

/-- A sort key from a column and a choice of direction. -/
def ofChoice (key : String × OrderChoice) : Except Misconfiguration SortKey :=
  let column := Text.trimmed key.1
  if column = "" then .error .sortColumnBlank
  else (key.2.resolve column).map fun order => ⟨column, order⟩

/-- Sort keys from what the caller gives, in the same order. -/
def ofChoices (keys : List (String × OrderChoice)) : Except Misconfiguration (List SortKey) :=
  keys.mapM ofChoice

/-- The key as written in an ordering. -/
def toSql (k : SortKey) : String := k.column ++ " " ++ k.order.keyword

def orderingSql (keys : List SortKey) : String := String.intercalate ", " (keys.map toSql)

end SortKey

end RunLedger
