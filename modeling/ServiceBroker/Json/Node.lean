/-
A document as it was read: a tree that remembers places, and that may break off. Whether a break is a
fault of one kind or another can depend on how its surroundings are looked at: a value that is skipped
is held to fewer rules than one that is kept, so a break states one fault for each way of looking.
-/
import ServiceBroker.Json.Fault

namespace ServiceBroker.Json

mutual

/-- A value in a document. `stop` is the offset behind it, `start` the offset of its bracket. The
contents of a text or a number can be faulty where its extent is not. -/
inductive Node
  | null (stop : Nat)
  | bool (value : Bool) (stop : Nat)
  | number (value : Except Fault Number) (stop : Nat)
  | text (value : Except Fault String) (stop : Nat)
  | array (start : Nat) (items : Items)
  | object (start : Nat) (members : Members)
  | broken (kept skipped : Fault)

/-- The items of an array. `next` is the offset behind the first byte of an item. A break behind an
item states what is wrong if no further item was wanted: that is `surplus`. -/
inductive Items
  | close (stop : Nat)
  | item (next : Nat) (value : Node) (rest : Items)
  | broken (kept skipped surplus : Fault)

/-- The members of an object. `stop` is where reading stands behind a name and the blanks after it,
`behind` the same for the value; a closing brace that follows is included. -/
inductive Members
  | close (stop : Nat)
  | member (name : Except Fault String) (stop : Nat) (value : Node) (behind : Nat) (rest : Members)
  | broken (kept skipped : Fault)

end

instance : Inhabited Node := ⟨.null 0⟩
instance : Inhabited Items := ⟨.close 0⟩
instance : Inhabited Members := ⟨.close 0⟩

/-! ## Looking without keeping -/

mutual

/-- The fault met when a value is skipped. -/
def Node.skipFault? : Node → Option Fault
  | .null _ | .bool _ _ | .number _ _ | .text _ _ => none
  | .array _ items => items.skipFault?
  | .object _ members => members.skipFault?
  | .broken _ skipped => some skipped

/-- The fault met when items are skipped. -/
def Items.skipFault? : Items → Option Fault
  | .close _ => none
  | .item _ value rest => value.skipFault?.or rest.skipFault?
  | .broken _ skipped _ => some skipped

/-- The fault met when members are skipped. -/
def Members.skipFault? : Members → Option Fault
  | .close _ => none
  | .member _ _ value _ rest => value.skipFault?.or rest.skipFault?
  | .broken _ skipped => some skipped

end

/-! ## Looking for a type -/

/-- The fault of a value that is not of the expected type. The contents of a scalar are read first;
a list or an object is left unopened. -/
def Node.mistyped (expected : String) : Node → Fault
  | .null stop => ⟨.wrongType .null expected, stop⟩
  | .bool b stop => ⟨.wrongType (.bool b) expected, stop⟩
  | .number (.ok n) stop => ⟨.wrongType (.number n) expected, stop⟩
  | .number (.error f) _ => f
  | .text (.ok s) stop => ⟨.wrongType (.text s) expected, stop⟩
  | .text (.error f) _ => f
  | .array start _ => ⟨.wrongType .sequence expected, start⟩
  | .object start _ => ⟨.wrongType .map expected, start⟩
  | .broken kept _ => kept

/-- How many lists and objects may stand inside each other. -/
def maxDepth : Nat := 127

/-- The budget inside a list or an object that opens at `start`. -/
def enter (budget start : Nat) : Except Fault Nat :=
  match budget with
  | 0 => .error ⟨.tooDeep, start + 1⟩
  | n + 1 => .ok n

/-! ## Free values -/

mutual

/-- The tree of a value, with objects as dictionaries. -/
def Node.toFree (budget : Nat) : Node → Except Fault Free
  | .null _ => .ok ⟨.null, trivial⟩
  | .bool b _ => .ok ⟨.bool b, trivial⟩
  | .number (.ok n) _ => .ok ⟨.number n, trivial⟩
  | .number (.error f) _ => .error f
  | .text (.ok s) _ => .ok ⟨.text s, trivial⟩
  | .text (.error f) _ => .error f
  | .array start items => do
    let budget ← enter budget start
    let items ← items.toFree budget
    return ⟨.array items.val, items.property⟩
  | .object start members => do
    let budget ← enter budget start
    let d ← members.toDictionary budget .empty
    return d.toFree
  | .broken kept _ => .error kept

/-- The trees of the items of an array. -/
def Items.toFree (budget : Nat) : Items → Except Fault { items : List Json // CanonicalItems items }
  | .close _ => .ok ⟨[], trivial⟩
  | .item _ value rest => do
    let j ← value.toFree budget
    let more ← rest.toFree budget
    return ⟨j.json :: more.val, j.canonical, more.property⟩
  | .broken kept _ _ => .error kept

/-- Enters the members of an object into a dictionary, so that of two members with one name the later
one counts. -/
def Members.toDictionary (budget : Nat) : Members → Dictionary → Except Fault Dictionary
  | .close _, d => .ok d
  | .member (.ok name) _ value _ rest, d => do
    let j ← value.toFree budget
    rest.toDictionary budget (d.insert name j)
  | .member (.error f) _ _ _ _, _ => .error f
  | .broken kept _, _ => .error kept

end

end ServiceBroker.Json
