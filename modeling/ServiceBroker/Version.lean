/-
The versions of the broker API. They are ordered by age, never by label: "2.9" would come after "2.14"
as a text.
-/
import ServiceBroker.Text.Blank

namespace ServiceBroker

/-- A released version of the API. -/
inductive Version
  | v2_11
  | v2_12
  | v2_13
  | v2_14
deriving DecidableEq, Repr, Inhabited

namespace Version

/-- Every version, oldest first. -/
def all : List Version := [v2_11, v2_12, v2_13, v2_14]

/-- The newest version. -/
def latest : Version := v2_14

/-- The place among all versions. -/
def ordinal : Version → Nat
  | v2_11 => 0
  | v2_12 => 1
  | v2_13 => 2
  | v2_14 => 3

/-- The label, as the version header carries it. -/
def label : Version → String
  | v2_11 => "2.11"
  | v2_12 => "2.12"
  | v2_13 => "2.13"
  | v2_14 => "2.14"

instance : ToString Version := ⟨label⟩

instance : LE Version := ⟨fun a b => a.ordinal ≤ b.ordinal⟩
instance : LT Version := ⟨fun a b => a.ordinal < b.ordinal⟩
instance (a b : Version) : Decidable (a ≤ b) := inferInstanceAs (Decidable (a.ordinal ≤ b.ordinal))
instance (a b : Version) : Decidable (a < b) := inferInstanceAs (Decidable (a.ordinal < b.ordinal))
instance : Min Version := ⟨fun a b => if a ≤ b then a else b⟩
instance : Ord Version := ⟨fun a b => compare a.ordinal b.ordinal⟩

/-- The version with a label, blanks around it set aside. -/
def parse? (text : String) : Option Version :=
  all.find? fun v => v.label == trimBlank text

/-- The version with its place among all versions. -/
def describe (v : Version) : String :=
  "APIVersion \x7b " ++ s!"ordinal: {v.ordinal}, label: \"{v.label}\" " ++ "\x7d"

end Version

end ServiceBroker
