/-
Shapes: the form a JSON document must have to be a value of some type. One description serves both
ways. `Shape.read` reads a document as the type, `Shape.write` gives the tree that is printed. A record
is read from an object, its members in any order and unknown ones skipped, or from an array that lists
its fields in the order of declaration.
-/
import ServiceBroker.Json.Reader

namespace ServiceBroker.Json

/-- When a field may be missing: never, in an object only, or in an array too. -/
inductive Presence (α : Type)
  | required
  | byName (default : α)
  | optional (default : α)

/-- What a field is when an object does not name it. -/
def Presence.named? : Presence α → Option α
  | .required => none
  | .byName a | .optional a => some a

/-- What a field is when an array ends before it. -/
def Presence.placed? : Presence α → Option α
  | .required | .byName _ => none
  | .optional a => some a

mutual

/-- The form of a JSON document that holds an `α`. -/
inductive Shape : Type → Type 1
  | text : Shape String
  | bool : Shape Bool
  /-- A natural number of so many bits. -/
  | count (width : Nat) : Shape (BitVec width)
  | free : Shape Free
  | dictionary : Shape Dictionary
  | list (item : Shape α) : Shape (List α)
  /-- A value or `null`. -/
  | option (some : Shape α) : Shape (Option α)
  | record (name : String) (fields : Fields ρ σ) : Shape ρ
  /-- The same documents, seen as another type. -/
  | view (shape : Shape α) (build : α → β) (parts : β → α) : Shape β

/-- The fields of a record. `ρ` holds the field values, `σ` what is known of them while reading. -/
inductive Fields : Type → Type → Type 1
  | nil : Fields Unit Unit
  /-- A field, and which of its values are left out when printing. -/
  | cons (name : String) (shape : Shape α) (presence : Presence α) (hidden : α → Bool)
      (rest : Fields ρ σ) : Fields (α × ρ) (Option α × σ)

end

/-! ## Reading parts -/

/-- The items of an array, each read by `f`. -/
def Items.collect (f : Node → Except Fault α) : Items → Except Fault (List α)
  | .close _ => .ok []
  | .item _ value rest => do
    let a ← f value
    let more ← rest.collect f
    return a :: more
  | .broken kept _ _ => .error kept

/-- Passes over the members of an object. A member that `take` has no use for is skipped. Gives the
offset behind the closing brace too. -/
def Members.foldFields (take : σ → String → Nat → Node → Option (Except Fault σ)) :
    Members → σ → Except Fault (σ × Nat)
  | .close stop, s => .ok (s, stop)
  | .member (.ok name) stop value _ rest, s =>
    match take s name stop value with
    | some result => result.bind (rest.foldFields take ·)
    | none =>
      match value.skipFault? with
      | some f => .error f
      | none => rest.foldFields take s
  | .member (.error f) _ _ _ _, _ => .error f
  | .broken kept _, _ => .error kept

/-- A natural number below `2 ^ width`. -/
def readCount (width : Nat) : Node → Except Fault (BitVec width)
  | .number (.ok (.integer i fits)) stop =>
    if 0 ≤ i ∧ i < Nat.pow 2 width then .ok (BitVec.ofInt width i)
    else .error ⟨.wrongValue (.number (.integer i fits)) s!"u{width}", stop⟩
  | node => .error (node.mistyped s!"u{width}")

/-- The number of fields. -/
def Fields.count : Fields ρ σ → Nat
  | .nil => 0
  | .cons _ _ _ _ rest => rest.count + 1

/-- Nothing is known of any field. -/
def Fields.unknown : Fields ρ σ → σ
  | .nil => ()
  | .cons _ _ _ _ rest => (none, rest.unknown)

/-- The record, once all members have been passed. A required field that no member named is missed. -/
def Fields.finish : Fields ρ σ → σ → Except String ρ
  | .nil, () => .ok ()
  | .cons name _ presence _ rest, (slot, slots) => do
    let a ← match slot.or presence.named? with
      | some a => pure a
      | none => throw name
    let more ← rest.finish slots
    return (a, more)

/-- How a message counts the fields of a record. -/
def elements (n : Nat) : String :=
  if n = 1 then "1 element" else s!"{n} elements"

/-! ## Reading -/

mutual

/-- Reads a value in a document as a value of the shape's type. -/
def Shape.read (budget : Nat) : Shape α → Node → Except Fault α
  | .text, .text (.ok s) _ => .ok s
  | .text, node => .error (node.mistyped "a string")
  | .bool, .bool b _ => .ok b
  | .bool, node => .error (node.mistyped "a boolean")
  | .count width, node => readCount width node
  | .free, node => node.toFree budget
  | .dictionary, .object start members => do
    let budget ← enter budget start
    members.toDictionary budget .empty
  | .dictionary, node => .error (node.mistyped "a map")
  | .list item, .array start items => do
    let budget ← enter budget start
    items.collect (item.read budget)
  | .list _, node => .error (node.mistyped "a sequence")
  | .option _, .null _ => .ok none
  | .option shape, node => (shape.read budget node).map some
  | .record _ fields, .object start members => do
    let budget ← enter budget start
    let (slots, stop) ← members.foldFields (fields.take budget) fields.unknown
    (fields.finish slots).mapError fun missing => ⟨.missingField missing, stop⟩
  | .record name fields, .array start items => do
    let budget ← enter budget start
    fields.readItems budget s!"struct {name} with {elements fields.count}" 0 items
  | .record name _, node => .error (node.mistyped s!"struct {name}")
  | .view shape build _, node => (shape.read budget node).map build

/-- Reads a member into the field it names. A field that is named twice is refused before its second
value is looked at. -/
def Fields.take (budget : Nat) :
    Fields ρ σ → σ → String → Nat → Node → Option (Except Fault σ)
  | .nil, _, _, _, _ => none
  | .cons field shape _ _ rest, (slot, slots), name, stop, node =>
    if field = name then
      match slot with
      | some _ => some (.error ⟨.duplicateField field, stop⟩)
      | none => some ((shape.read budget node).map fun a => (some a, slots))
    else (rest.take budget slots name stop node).map (·.map fun slots => (slot, slots))

/-- Reads the fields of a record from the items of an array. `wanted` describes the whole record. -/
def Fields.readItems (budget : Nat) (wanted : String) (index : Nat) :
    Fields ρ σ → Items → Except Fault ρ
  | .nil, .close _ => .ok ()
  | .nil, .item next _ _ => .error ⟨.trailingCharacters, next⟩
  | .nil, .broken _ _ surplus => .error surplus
  | .cons _ shape _ _ rest, .item _ value items => do
    let a ← shape.read budget value
    let more ← rest.readItems budget wanted (index + 1) items
    return (a, more)
  | .cons _ _ presence _ rest, .close stop =>
    match presence.placed? with
    | none => .error ⟨.wrongLength index wanted, stop⟩
    | some a => do
      let more ← rest.readItems budget wanted (index + 1) (.close stop)
      return (a, more)
  | .cons .., .broken kept _ _ => .error kept

end

/-- Reads a document as a value of the shape's type. -/
def Shape.decode (shape : Shape α) (bytes : List UInt8) : Except Error α :=
  decodeWith (shape.read maxDepth) bytes

/-! ## Writing -/

/-- The number that a word is. -/
def countNumber (n : BitVec width) : Number :=
  if h : Number.Fits n.toNat then .integer n.toNat h else .double 0

mutual

/-- The tree of a value. -/
def Shape.write : Shape α → α → Json
  | .text, s => .text s
  | .bool, b => .bool b
  | .count _, n => .number (countNumber n)
  | .free, j => j.json
  | .dictionary, d => d.toJson
  | .list item, as => .array (as.map item.write)
  | .option _, none => .null
  | .option shape, some a => shape.write a
  | .record _ fields, r => .object (fields.write r)
  | .view shape _ parts, b => shape.write (parts b)

/-- The members of a record in the order of declaration. -/
def Fields.write : Fields ρ σ → ρ → List (String × Json)
  | .nil, () => []
  | .cons name shape _ hidden rest, (a, r) =>
    if hidden a then rest.write r else (name, shape.write a) :: rest.write r

end

/-- The compact text of a value. -/
def Shape.encode (shape : Shape α) (a : α) : String :=
  (shape.write a).render

/-! ## Fields of the usual kinds -/

/-- A field that is always there. -/
def Fields.required (name : String) (shape : Shape α) (rest : Fields ρ σ) :
    Fields (α × ρ) (Option α × σ) :=
  .cons name shape .required (fun _ => false) rest

/-- A field that may be absent, and is left out when it is. -/
def Fields.optional (name : String) (shape : Shape α) (rest : Fields ρ σ) :
    Fields (Option α × ρ) (Option (Option α) × σ) :=
  .cons name (.option shape) (.optional none) Option.isNone rest

/-- A list that is empty when absent, and is printed always. -/
def Fields.listed (name : String) (shape : Shape α) (rest : Fields ρ σ) :
    Fields (List α × ρ) (Option (List α) × σ) :=
  .cons name (.list shape) (.optional []) (fun _ => false) rest

/-- A list that is empty when absent, and is left out when empty. -/
def Fields.listedUnlessEmpty (name : String) (shape : Shape α) (rest : Fields ρ σ) :
    Fields (List α × ρ) (Option (List α) × σ) :=
  .cons name (.list shape) (.optional []) List.isEmpty rest

end ServiceBroker.Json
