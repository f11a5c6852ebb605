import Provision.Keyed
import Provision.Toml.Value

/-! A document grows statement by statement: headers open tables, and assignments add keys
to the open table. How a table came to be decides what may still be added to it: a header
may complete a table that earlier headers only passed through, dotted keys may extend only
what dotted keys made, and nothing extends an inline table. -/

set_option autoImplicit false

namespace Provision.Toml

/-- How a table came to be: by its own header, by a header that passes through it,
by a dotted key that passes through it, or inline. -/
inductive Origin where
  | header
  | passedByHeader
  | passedByKey
  | inline
deriving DecidableEq, Repr

inductive Node where
  | scalar (value : Scalar)
  | array (items : List Node)
  | sequence (tables : List (List (String × Node)))
  | table (origin : Origin) (members : List (String × Node))

abbrev Members := List (String × Node)

/-- Goes down from a table along a path, making the tables that are missing, and
changes the table at its end with `change`, which may also hand back a result. A
dotted key does not pass through a table that has its own header; no path passes
through an inline table. Of a sequence of tables the last one is entered. -/
def descend {β : Type} (dotted : Bool) (change : Origin → Members → Option (β × Members)) :
    List String → Origin → Members → Option (β × Members)
  | [], origin, members => change origin members
  | key :: path, _, members =>
    match members.lookup key with
    | none => do
      let origin := if dotted then .passedByKey else .passedByHeader
      let (result, inner) ← descend dotted change path origin []
      return (result, Keyed.set key (.table origin inner) members)
    | some (.table origin inner) =>
      if origin = .inline ∨ (dotted ∧ origin = .header) then none
      else do
        let (result, inner) ← descend dotted change path origin inner
        return (result, Keyed.set key (.table origin inner) members)
    | some (.sequence tables) =>
      match tables.getLast? with
      | none => none
      | some last => do
        let (result, last) ← descend dotted change path .header last
        return (result, Keyed.set key (.sequence (tables.dropLast ++ [last])) members)
    | some _ => none

/-- Gives a value to a key, which is dotted if `path` is not empty. The key must be
new, and a dotted key must end in a table that dotted keys made. -/
def assign (path : List String) (key : String) (value : Node) (members : Members) :
    Option Members :=
  let change (origin : Origin) (inner : Members) : Option (Unit × Members) :=
    if (path.isEmpty || origin == .passedByKey) && (inner.lookup key).isNone then
      some ((), Keyed.set key value inner)
    else none
  (descend true change path .header members).map (·.2)

/-- The header of the open table: where it goes, and whether it is one of a sequence. -/
structure Header where
  path : List String
  key : String
  inSequence : Bool

/-- A document being read: the tables that are closed, and the open one. Before the
first header the open table is the document itself. -/
structure Draft where
  closed : Members
  header : Option Header
  members : Members

namespace Draft

def empty : Draft := ⟨[], none, []⟩

/-- Puts the open table into its place. -/
def close (draft : Draft) : Option Members :=
  match draft.header with
  | none => some draft.members
  | some header =>
    let change (_ : Origin) (parent : Members) : Option (Unit × Members) :=
      let node :=
        if header.inSequence then
          match parent.lookup header.key with
          | some (.sequence tables) => .sequence (tables ++ [draft.members])
          | _ => .sequence [draft.members]
        else .table .header draft.members
      some ((), Keyed.set header.key node parent)
    (descend false change header.path .header draft.closed).map (·.2)

/-- Closes the open table and opens the one that a header names. A header that is
not of a sequence may name a new table or one that headers only passed through,
which keeps what it has. -/
def openTable (header : Header) (draft : Draft) : Option Draft := do
  let closed ← draft.close
  let change (_ : Origin) (parent : Members) : Option (Members × Members) :=
    match parent.lookup header.key with
    | none => some ([], parent)
    | some (.sequence _) => if header.inSequence then some ([], parent) else none
    | some (.table .passedByHeader inner) =>
      if header.inSequence then none else some (inner, parent)
    | some _ => none
  let (members, closed) ← descend false change header.path .header closed
  return { closed, header := some header, members }

/-- Adds an assignment to the open table. -/
def put (path : List String) (key : String) (value : Node) (draft : Draft) : Option Draft :=
  (assign path key value draft.members).map fun members => { draft with members }

end Draft

mutual

/-- The value that a node stands for once the document is complete. -/
def Node.value : Node → Value
  | .scalar value => .scalar value
  | .array items => .array (nodeValues items)
  | .sequence tables => .array (tableValues tables)
  | .table _ members => .table (memberValues members)

def nodeValues : List Node → List Value
  | [] => []
  | node :: rest => node.value :: nodeValues rest

def tableValues : List (List (String × Node)) → List Value
  | [] => []
  | members :: rest => .table (memberValues members) :: tableValues rest

def memberValues : List (String × Node) → List (String × Value)
  | [] => []
  | (key, node) :: rest => (key, node.value) :: memberValues rest

end

end Provision.Toml
