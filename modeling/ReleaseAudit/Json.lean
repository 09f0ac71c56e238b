/-! JSON values. The objects of a document keep their fields in the strict order of their keys,
those of a report in the order in which the report lists them. -/
namespace ReleaseAudit

/-- A JSON value. Numbers written without a fraction or an exponent are integers. -/
inductive Json where
  | null
  | bool (b : Bool)
  | int (i : Int)
  | float (x : Float)
  | str (s : String)
  | arr (items : List Json)
  | obj (fields : List (String × Json))
  deriving Inhabited

namespace Json

/-- Fields with `key` bound to `value`, in place of an earlier binding if there is one. -/
def insertField (key : String) (value : Json) : List (String × Json) → List (String × Json)
  | [] => [(key, value)]
  | (k, v) :: fields =>
    if key < k then (key, value) :: (k, v) :: fields
    else if key = k then (key, value) :: fields
    else (k, v) :: insertField key value fields

/-- The object with the given fields; of two with one key the later one counts. -/
def ofFields (fields : List (String × Json)) : Json :=
  .obj (fields.foldl (fun sorted f => insertField f.1 f.2 sorted) [])

def lookup (key : String) (fields : List (String × Json)) : Option Json :=
  (fields.find? fun f => f.1 = key).map (·.2)

@[simp] theorem lookup_nil (key : String) : lookup key [] = none := rfl

theorem lookup_cons (key : String) (f : String × Json) (fields : List (String × Json)) :
    lookup key (f :: fields) = if f.1 = key then some f.2 else lookup key fields := by
  by_cases h : f.1 = key <;> simp [lookup, h]

theorem lookup_insertField_self (key : String) (value : Json) (fields : List (String × Json)) :
    lookup key (insertField key value fields) = some value := by
  induction fields with
  | nil => simp [insertField, lookup_cons]
  | cons f fields ih =>
    simp only [insertField]
    split
    · simp [lookup_cons]
    · split
      · simp [lookup_cons]
      · next h => simp [lookup_cons, ih, Ne.symm h]

theorem lookup_insertField_ne {key other : String} (h : key ≠ other) (value : Json)
    (fields : List (String × Json)) :
    lookup other (insertField key value fields) = lookup other fields := by
  induction fields with
  | nil => simp [insertField, lookup_cons, h]
  | cons f fields ih =>
    simp only [insertField]
    split
    · simp [lookup_cons, h]
    · split
      · next e => simp [lookup_cons, h, ← e]
      · simp [lookup_cons, ih]

def field? (key : String) : Json → Option Json
  | .obj fields => lookup key fields
  | _ => none

def isObject : Json → Bool
  | .obj _ => true
  | _ => false

mutual

def size : Json → Nat
  | .arr items => sizeItems items + 1
  | .obj fields => sizeFields fields + 1
  | _ => 1

def sizeItems : List Json → Nat
  | [] => 0
  | v :: vs => v.size + sizeItems vs

def sizeFields : List (String × Json) → Nat
  | [] => 0
  | f :: fs => f.2.size + sizeFields fs

end

mutual

/-- The number of values on the longest way into a value. -/
def depth : Json → Nat
  | .arr items => depthItems items + 1
  | .obj fields => depthFields fields + 1
  | _ => 1

def depthItems : List Json → Nat
  | [] => 0
  | v :: vs => max v.depth (depthItems vs)

def depthFields : List (String × Json) → Nat
  | [] => 0
  | f :: fs => max f.2.depth (depthFields fs)

end

end Json
end ReleaseAudit
