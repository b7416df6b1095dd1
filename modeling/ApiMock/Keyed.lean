/-!
# Keyed lists

Finite maps as lists of pairs in ascending order of their keys. The order is that of code points,
which is also the order of the UTF-8 bytes. Insertion keeps the order and replaces an entry of the
same key; look-up is `List.lookup`.
-/

set_option autoImplicit false

namespace ApiMock.Keyed

variable {α : Type}

def Ascending (entries : List (String × α)) : Prop :=
  (entries.map Prod.fst).Pairwise (· < ·)

def insert (key : String) (value : α) : List (String × α) → List (String × α)
  | [] => [(key, value)]
  | (k, v) :: rest =>
    if key = k then (key, value) :: rest
    else if key < k then (key, value) :: (k, v) :: rest
    else (k, v) :: insert key value rest

/-- The map of a list of entries, of which the last one with a key counts. -/
def ofEntries (entries : List (String × α)) : List (String × α) :=
  entries.foldl (fun map entry => insert entry.1 entry.2 map) []

def addTo (groups : List (String × List α)) (entry : String × α) : List (String × List α) :=
  insert entry.1 ((groups.lookup entry.1).getD [] ++ [entry.2]) groups

def collect (entries : List (String × α)) : List (String × List α) := entries.foldl addTo []

def modify (key : String) (f : α → α) : List (String × α) → List (String × α)
  | [] => []
  | (k, v) :: rest => if k = key then (k, f v) :: rest else (k, v) :: modify key f rest

/-- The keys in ascending order. -/
def keys (entries : List (String × α)) : List String := entries.map Prod.fst

theorem sizeOf_lt_of_lookup [SizeOf α] {entries : List (String × α)} {key : String} {value : α}
    (h : entries.lookup key = some value) : sizeOf value < sizeOf entries := by
  induction entries with
  | nil => simp at h
  | cons entry rest ih =>
    obtain ⟨name, other⟩ := entry
    rw [List.lookup_cons] at h
    split at h
    · simp only [Option.some.injEq] at h
      subst h
      simp only [List.cons.sizeOf_spec, Prod.mk.sizeOf_spec]
      omega
    · have := ih h
      simp only [List.cons.sizeOf_spec]
      omega

end ApiMock.Keyed
