/-!
# Item lists

Lists in the order of insertion. Adding to a list gives another list; the list itself stays as
it is.
-/

namespace GuardedParsing

/-- A list of items in the order of insertion. -/
structure ItemList (α : Type) where
  items : List α
  deriving DecidableEq, Repr

/-- An index with no item at it. -/
structure IndexError where
  size : Nat
  index : Nat
  deriving DecidableEq, Repr

/-- The wording of an index error. -/
def IndexError.message (e : IndexError) : String :=
  "index out of bounds: the len is " ++ toString e.size ++ " but the index is " ++
    toString e.index

namespace ItemList

variable {α : Type}

/-- The list without items. -/
def empty : ItemList α := ⟨[]⟩

/-- The list of one item. -/
def of (a : α) : ItemList α := ⟨[a]⟩

/-- A list with an item after the others. -/
def add (l : ItemList α) (a : α) : ItemList α := ⟨l.items ++ [a]⟩

/-- A list with the items of another after its own. -/
def concat (l m : ItemList α) : ItemList α := ⟨l.items ++ m.items⟩

/-- The number of items. -/
def size (l : ItemList α) : Nat := l.items.length

/-- Are there no items? -/
def isEmpty (l : ItemList α) : Bool := l.items.isEmpty

/-- The item at an index. -/
def get? (l : ItemList α) (i : Nat) : Option α := l.items[i]?

/-- The item at an index that has to be one of the list. -/
def get (l : ItemList α) (i : Nat) : Except IndexError α :=
  match l.items[i]? with
  | some a => .ok a
  | none => .error ⟨l.size, i⟩

/-- The first item. -/
def first? (l : ItemList α) : Option α := l.items.head?

/-- The last item. -/
def last? (l : ItemList α) : Option α := l.items.getLast?

/-- The items from the last to the first. -/
def reversed (l : ItemList α) : List α := l.items.reverse

/-- A list with the name of its part, where `shown` says how an item is shown. -/
def described (shown : α → String) (l : ItemList α) : String :=
  "IList \x7b items: [" ++ ", ".intercalate (l.items.map shown) ++ "] \x7d"

@[simp] theorem items_add (l : ItemList α) (a : α) : (l.add a).items = l.items ++ [a] := rfl

@[simp] theorem items_concat (l m : ItemList α) : (l.concat m).items = l.items ++ m.items := rfl

end ItemList

end GuardedParsing
