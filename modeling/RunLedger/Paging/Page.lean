/-!
# Pages

One page of an ordered result, with the size of the whole.  The page count is the quotient of total
and page size, rounded up.
-/

namespace RunLedger

/-- A page of items: which page it is, how large pages are, and how many items there are in all. -/
structure Page (α : Type) where
  items : List α
  total : Int
  index : Int
  size : Int
deriving Repr

namespace Page

variable {α : Type}

/-- How many pages there are; none if pages have no room. -/
def totalPages (p : Page α) : Int := if p.size ≤ 0 then 0 else -(Int.fdiv (-p.total) p.size)

def hasNext (p : Page α) : Bool := p.index + 1 < p.totalPages

/-- The same page with each item replaced. -/
def map {β : Type} (f : α → β) (p : Page α) : Page β :=
  ⟨p.items.map f, p.total, p.index, p.size⟩

end Page

end RunLedger
