/-! Lists of named entries in the order of their names. Names compare character by character, which
is also the order of their UTF-8 bytes. -/

namespace ExchangeTap.Keyed

/-- The entry replaces an earlier one of the same name. -/
def insert (name : String) (value : α) : List (String × α) → List (String × α)
  | [] => [(name, value)]
  | (other, kept) :: rest =>
    if name < other then (name, value) :: (other, kept) :: rest
    else if name = other then (name, value) :: rest
    else (other, kept) :: insert name value rest

def ofList (entries : List (String × α)) : List (String × α) :=
  entries.foldl (fun sorted entry => insert entry.1 entry.2 sorted) []

def lookup (name : String) (entries : List (String × α)) : Option α :=
  (entries.find? (·.1 = name)).map (·.2)

/-- Names strictly ascend, so none occurs twice. -/
def Sorted (entries : List (String × α)) : Prop :=
  entries.Pairwise (·.1 < ·.1)

end ExchangeTap.Keyed
