/-
Looking into free values, and reading them as values of other types as if they had been read from a
document.
-/
import ServiceBroker.Json.Shape

namespace ServiceBroker.Json

namespace Free

/-- The member of an object with a name. -/
def member? (j : Free) (name : String) : Option Free :=
  match j with
  | ⟨.object members, h⟩ => find members h.2
  | _ => none
where
  /-- The first of some members with the name. -/
  find : (members : List (String × Json)) → CanonicalMembers members → Option Free
    | [], _ => none
    | (n, v) :: rest, h => if n = name then some ⟨v, h.1⟩ else find rest h.2

/-- The items of an array. -/
def items? (j : Free) : Option (List Free) :=
  match j with
  | ⟨.array items, h⟩ => some (collect items h)
  | _ => none
where
  /-- Every item with its canonicity. -/
  collect : (items : List Json) → CanonicalItems items → List Free
    | [], _ => []
    | v :: rest, h => ⟨v, h.1⟩ :: collect rest h.2

/-- An object as a dictionary. -/
def dictionary? (j : Free) : Option Dictionary :=
  match j with
  | ⟨.object members, h⟩ => some ⟨members, h.1, h.2⟩
  | _ => none

/-- The contents of a text. -/
def text? (j : Free) : Option String :=
  match j.json with
  | .text s => some s
  | _ => none

/-- A truth value. -/
def bool? (j : Free) : Option Bool :=
  match j.json with
  | .bool b => some b
  | _ => none

/-- A whole number that is not negative. -/
def natural? (j : Free) : Option Nat :=
  match j.json with
  | .number (.integer i _) => i.toNat?
  | _ => none

end Free

/-! ## Trees as documents -/

mutual

/-- A document that holds a tree. Its places mean nothing. -/
def Node.ofJson : Json → Node
  | .null => .null 0
  | .bool b => .bool b 0
  | .number n => .number (.ok n) 0
  | .text s => .text (.ok s) 0
  | .array items => .array 0 (Items.ofJson items)
  | .object members => .object 0 (Members.ofJson members)

/-- The items of an array as they stand in a document. -/
def Items.ofJson : List Json → Items
  | [] => .close 0
  | j :: rest => .item 0 (Node.ofJson j) (Items.ofJson rest)

/-- The members of an object as they stand in a document. -/
def Members.ofJson : List (String × Json) → Members
  | [] => .close 0
  | (n, j) :: rest => .member (.ok n) 0 (Node.ofJson j) 0 (Members.ofJson rest)

end

/-- Reads a tree as a value of the shape's type. -/
def Shape.ofJson? (shape : Shape α) (j : Json) : Option α :=
  (shape.read maxDepth (Node.ofJson j)).toOption

end ServiceBroker.Json
