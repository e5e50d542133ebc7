import KhawasuPc.Lib.Decimal

/-!
# TOML documents

A document is a table, and a table is a list of keys with their nodes in the order in
which a loop meets them.  A *view* is a node that may not be there.  It is what indexing
gives, and indexing a view that is no table gives nothing.

Reading a number is permissive: values of other types are read where nothing is lost.
Which these are is the parameter `lossless`.
-/

namespace Lib.Toml

/-- A node.  `V` is the type of the values that are neither text nor integers. -/
inductive Node (V : Type*) where
  | string (text : String)
  | integer (n : Int)
  | other (v : V)
  | array (items : List (Node V))
  | table (entries : List (String × Node V))

/-- The entries of a table, in the order of iteration. -/
abbrev Table (V : Type*) := List (String × Node V)

/-- A node, or nothing. -/
abbrev View (V : Type*) := Option (Node V)

variable {V : Type*}

/-- A pointer to the table a node is, or null. -/
def Node.asTable : Node V → Option (Table V)
  | .table entries => some entries
  | _ => none

/-- The node under a key. -/
def Table.get (t : Table V) (key : String) : View V := t.lookup key

namespace View

/-- A pointer to the table a view is of, or null. -/
def asTable (view : View V) : Option (Table V) := view.bind Node.asTable

/-- The node under a key. -/
def get (view : View V) (key : String) : View V := view.asTable.bind fun t => t.lookup key

/-- The text of a view. -/
def text : View V → Option String
  | some (.string text) => some text
  | _ => none

/-- The number of a view, where an `int` holds it. -/
def int (lossless : V → Option Int) : View V → Option Int
  | some (.integer n) => if FitsInt n then some n else none
  | some (.other v) => lossless v
  | _ => none

end View

end Lib.Toml
