/-
Catalogs that clients keep. An entry stays until it is replaced or the cache is cleared. Reading and
writing may fail at any time, and a read may find nothing although something was stored.
-/
import ServiceBroker.Catalog

namespace ServiceBroker

/-- Catalogs by key. -/
structure Cache where
  entries : List (String × Catalog)
deriving DecidableEq, Inhabited

/-- Why a cache cannot be read or written. -/
structure CacheFault where
  reason : String
deriving DecidableEq, Repr

/-- The wording of a fault. -/
def CacheFault.message (f : CacheFault) : String :=
  s!"catalog cache error: {f.reason}"

namespace Cache

/-- The cache without entries. -/
def empty : Cache := ⟨[]⟩

/-- The catalog under a key. -/
def get? (c : Cache) (key : String) : Option Catalog :=
  c.entries.lookup key

/-- Stores a catalog. What was under the key is replaced. -/
def set (c : Cache) (key : String) (catalog : Catalog) : Cache :=
  ⟨(key, catalog) :: c.entries.filter (·.1 != key)⟩

/-- The key under which clients keep the catalog of their broker. -/
def catalogKey : String := "catalog"

/-- How a read goes. -/
inductive Read
  | sound
  | forgetful
  | failing
deriving DecidableEq, Repr

/-- What a read finds. A failed read finds nothing. -/
def Read.find (r : Read) (c : Cache) : Option Catalog :=
  match r with
  | .sound => c.get? catalogKey
  | .forgetful | .failing => none

/-- The cache after a catalog was to be stored. A failed write changes nothing. -/
def keep (c : Cache) (works : Bool) (catalog : Catalog) : Cache :=
  if works then c.set catalogKey catalog else c

/-- How reads and writes go during a call. -/
structure Health where
  read : Read := .sound
  writable : Bool := true
deriving DecidableEq, Repr

theorem get?_empty (key : String) : empty.get? key = none := rfl

theorem get?_set_self (c : Cache) (key : String) (catalog : Catalog) :
    (c.set key catalog).get? key = some catalog := by
  simp [get?, set]

theorem lookup_filter_ne {key other : String} (h : other ≠ key) (entries : List (String × Catalog)) :
    (entries.filter (·.1 != key)).lookup other = entries.lookup other := by
  induction entries with
  | nil => rfl
  | cons e rest ih =>
    obtain ⟨k, v⟩ := e
    by_cases hk : k = key
    · subst hk; simp [List.lookup_cons, ih, beq_eq_false_iff_ne.2 h]
    · simp [List.lookup_cons, hk, ih]

theorem get?_set_of_ne (c : Cache) {key other : String} (catalog : Catalog) (h : other ≠ key) :
    (c.set key catalog).get? other = c.get? other := by
  simp [get?, set, List.lookup_cons, beq_eq_false_iff_ne.2 h, lookup_filter_ne h]

end Cache

end ServiceBroker
