import RemoteSearch.Text.Pattern.Manner

set_option autoImplicit false

/-! # Patterns that are being read

What is known of a pattern up to some place: how the next sign is taken, what stands in the
innermost group, and which groups and classes are open. Of what has been read only the height is
kept, which is how deep things stand in each other.
-/

namespace RemoteSearch.Text.Pattern

/-- The height of things put next to each other. A single one is as high as it is by itself. -/
def heightOf : List Nat → Nat
  | [] => 0
  | [h] => h
  | hs => 1 + hs.foldl max 0

/-- An open class: the heights of its items after the last operator, the height of all before that
operator, and whether only dashes have been read. -/
structure Class where
  items : List Nat := []
  before : Option Nat := none
  atStart : Bool := true
deriving DecidableEq

namespace Class

/-- The class with one more item. -/
def add (k : Class) (height : Nat) : Class :=
  { k with items := height :: k.items, atStart := false }

/-- The height of what is in the class. -/
def height (k : Class) : Nat :=
  match k.before with
  | none => heightOf k.items
  | some h => 1 + max h (heightOf k.items)

/-- The class after an operator. -/
def operate (k : Class) : Class := ⟨[], some k.height, false⟩

end Class

/-- What is read in a group: the parts of the branch, the newest first, each with its height if it
can be repeated, and the heights of the branches before it. -/
structure Group where
  parts : List (Option Nat) := []
  branches : List Nat := []
deriving DecidableEq

namespace Group

/-- The group with one more part. -/
def add (g : Group) (height : Nat) : Group := { g with parts := some height :: g.parts }

/-- The height of the branch. -/
def branchHeight (g : Group) : Nat := heightOf (g.parts.map (·.getD 0))

/-- The height of what is in the group. -/
def height (g : Group) : Nat := heightOf (g.branchHeight :: g.branches)

/-- The group after the end of a branch. -/
def alternate (g : Group) : Group := ⟨[], g.branchHeight :: g.branches⟩

/-- The group with its last part repeated. Flags cannot be repeated. -/
def repeat? (g : Group) : Option Group :=
  match g.parts with
  | some h :: rest => some { g with parts := some (h + 1) :: rest }
  | _ => none

end Group

/-- A pattern up to some place: the manner there, the innermost group, the groups around it with the
manners there, the open classes, and the names given to groups. -/
structure State where
  manner : Manner := {}
  group : Group := {}
  around : List (Manner × Group) := []
  classes : List Class := []
  names : List (List Char) := []
deriving DecidableEq

namespace State

/-- The state after one more part. -/
def add (p : State) (height : Nat) : State := { p with group := p.group.add height }

/-- The state inside a new group. -/
def open_ (p : State) (manner : Manner) : State :=
  { p with manner, group := {}, around := (p.manner, p.group) :: p.around }

/-- The state after the end of a group. -/
def close? (p : State) : Option State :=
  match p.around with
  | [] => none
  | (manner, group) :: around =>
    some { p with manner, group := group.add (1 + p.group.height), around }

/-- The largest height. -/
def heightLimit : Nat := 250

/-- True when a pattern may end here. -/
def isFinal (p : State) : Bool :=
  p.around.isEmpty && p.classes.isEmpty && p.group.height ≤ heightLimit

end State

end RemoteSearch.Text.Pattern
