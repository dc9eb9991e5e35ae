/-
JSON values. `Json` is the bare tree, as it is printed; its objects may hold their members in any
order. A value whose contents are not fixed in advance is a `Json.Free`, in which every object is a
dictionary: names rise strictly, so equal contents are equal values and no name occurs twice.
-/

namespace ServiceBroker

-- Powers are those of the integers, also beside a library that has a power for every monoid.
local instance (priority := high) Number.powers : Pow Int Nat := instPowNat

/-- An integer of at most 64 bits, with a sign or without. -/
abbrev Number.Fits (value : Int) : Prop :=
  -2 ^ (63 : Nat) ≤ value ∧ value < 2 ^ (64 : Nat)

/-- A number: an integer of at most 64 bits, or a double. -/
inductive Number
  | integer (value : Int) (fits : Number.Fits value)
  | double (value : Float)
deriving DecidableEq

/-- A JSON tree. -/
inductive Json
  | null
  | bool (value : Bool)
  | number (value : Number)
  | text (value : String)
  | array (items : List Json)
  | object (members : List (String × Json))

instance : Inhabited Json := ⟨.null⟩

namespace Json

/-! ## Equality -/

mutual

/-- Equality of trees is decided member by member. -/
def decEq : (a b : Json) → Decidable (a = b)
  | .null, .null => isTrue rfl
  | .bool a, .bool b => decidable_of_iff (a = b) (by simp)
  | .number a, .number b => decidable_of_iff (a = b) (by simp)
  | .text a, .text b => decidable_of_iff (a = b) (by simp)
  | .array a, .array b =>
    match decEqItems a b with
    | isTrue h => isTrue (by rw [h])
    | isFalse h => isFalse (by simpa using h)
  | .object a, .object b =>
    match decEqMembers a b with
    | isTrue h => isTrue (by rw [h])
    | isFalse h => isFalse (by simpa using h)
  | .null, .bool _ | .null, .number _ | .null, .text _ | .null, .array _ | .null, .object _
  | .bool _, .null | .bool _, .number _ | .bool _, .text _ | .bool _, .array _ | .bool _, .object _
  | .number _, .null | .number _, .bool _ | .number _, .text _ | .number _, .array _ | .number _, .object _
  | .text _, .null | .text _, .bool _ | .text _, .number _ | .text _, .array _ | .text _, .object _
  | .array _, .null | .array _, .bool _ | .array _, .number _ | .array _, .text _ | .array _, .object _
  | .object _, .null | .object _, .bool _ | .object _, .number _ | .object _, .text _ | .object _, .array _ =>
    isFalse (by simp)

/-- Equality of item lists. -/
def decEqItems : (a b : List Json) → Decidable (a = b)
  | [], [] => isTrue rfl
  | [], _ :: _ | _ :: _, [] => isFalse (by simp)
  | a :: as, b :: bs =>
    match decEq a b, decEqItems as bs with
    | isTrue h, isTrue hs => isTrue (by rw [h, hs])
    | isFalse h, _ => isFalse (by simp [h])
    | _, isFalse hs => isFalse (by simp [hs])

/-- Equality of member lists. -/
def decEqMembers : (a b : List (String × Json)) → Decidable (a = b)
  | [], [] => isTrue rfl
  | [], _ :: _ | _ :: _, [] => isFalse (by simp)
  | (k, a) :: as, (l, b) :: bs =>
    match decEq a b, decEqMembers as bs with
    | isTrue h, isTrue hs => if e : k = l then isTrue (by rw [h, hs, e]) else isFalse (by simp [e])
    | isFalse h, _ => isFalse (by simp [h])
    | _, isFalse hs => isFalse (by simp [hs])

end

instance : DecidableEq Json := decEq

/-! ## Dictionaries -/

/-- Names rise strictly. -/
def Rising (members : List (String × Json)) : Prop :=
  members.Pairwise (·.1 < ·.1)

mutual

/-- Every object of the tree is a dictionary. -/
def Canonical : Json → Prop
  | .null | .bool _ | .number _ | .text _ => True
  | .array items => CanonicalItems items
  | .object members => Rising members ∧ CanonicalMembers members

/-- Every object in a list of items is a dictionary. -/
def CanonicalItems : List Json → Prop
  | [] => True
  | j :: rest => j.Canonical ∧ CanonicalItems rest

/-- Every object in a list of members is a dictionary. -/
def CanonicalMembers : List (String × Json) → Prop
  | [] => True
  | (_, j) :: rest => j.Canonical ∧ CanonicalMembers rest

end

/-- Enters a member into a dictionary; a member of the same name is replaced. -/
def insertMember (name : String) (value : Json) : List (String × Json) → List (String × Json)
  | [] => [(name, value)]
  | (n, v) :: rest =>
    if name = n then (name, value) :: rest
    else if name < n then (name, value) :: (n, v) :: rest
    else (n, v) :: insertMember name value rest

theorem fst_mem_insertMember {name : String} {value : Json} {members : List (String × Json)}
    {m : String × Json} (h : m ∈ insertMember name value members) : m.1 = name ∨ m ∈ members := by
  induction members with
  | nil => simp_all [insertMember]
  | cons head rest ih => grind [insertMember]

theorem rising_insertMember (name : String) (value : Json) {members : List (String × Json)}
    (h : Rising members) : Rising (insertMember name value members) := by
  unfold Rising at *
  induction members with
  | nil => simp [insertMember]
  | cons head rest ih =>
    obtain ⟨n, v⟩ := head
    have hr := List.pairwise_cons.1 h
    rw [insertMember]
    split
    · next e => subst e; exact List.pairwise_cons.2 hr
    · split
      · next lt =>
        refine List.pairwise_cons.2 ⟨fun m hm => ?_, h⟩
        rcases List.mem_cons.1 hm with rfl | hm
        · exact lt
        · exact String.lt_trans lt (hr.1 m hm)
      · next ne nlt =>
        refine List.pairwise_cons.2 ⟨fun m hm => ?_, ih hr.2⟩
        rcases fst_mem_insertMember hm with e | hm
        · simp only [e]; grind
        · exact hr.1 m hm

theorem canonicalMembers_insertMember (name : String) {value : Json} {members : List (String × Json)}
    (hv : value.Canonical) (h : CanonicalMembers members) :
    CanonicalMembers (insertMember name value members) := by
  induction members with
  | nil => exact ⟨hv, trivial⟩
  | cons head rest ih =>
    obtain ⟨n, v⟩ := head
    rw [insertMember]
    split
    · exact ⟨hv, h.2⟩
    · split
      · exact ⟨hv, h⟩
      · exact ⟨h.1, ih h.2⟩

/-- A value with free contents. -/
structure Free where
  json : Json
  canonical : json.Canonical
deriving DecidableEq

/-- A dictionary with free contents. -/
structure Dictionary where
  members : List (String × Json)
  rising : Rising members
  canonical : CanonicalMembers members
deriving DecidableEq

namespace Dictionary

/-- The dictionary without members. -/
def empty : Dictionary := ⟨[], .nil, trivial⟩

instance : Inhabited Dictionary := ⟨empty⟩

/-- Enters a member; a member of the same name is replaced. -/
def insert (d : Dictionary) (name : String) (value : Free) : Dictionary :=
  ⟨insertMember name value.json d.members, rising_insertMember name value.json d.rising,
    canonicalMembers_insertMember name value.canonical d.canonical⟩

/-- A dictionary as a value. -/
def toFree (d : Dictionary) : Free := ⟨.object d.members, d.rising, d.canonical⟩

/-- A dictionary as a tree. -/
def toJson (d : Dictionary) : Json := .object d.members

end Dictionary

end Json

end ServiceBroker
