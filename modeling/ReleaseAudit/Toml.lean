/-! TOML values and the tables that the lines of a document build up. -/
namespace ReleaseAudit
namespace Toml

inductive Flaw where
  | badLine | badKey | badString | badEscape | badNumber | badDate | badValue | controlCharacter
  | unclosed | tooDeep | duplicateKey (key : String)
  deriving DecidableEq, Repr

def Flaw.message : Flaw → String
  | .badLine => "unexpected key or value, expected newline"
  | .badKey => "invalid key"
  | .badString => "invalid string"
  | .badEscape => "invalid escape sequence"
  | .badNumber => "invalid number"
  | .badDate => "invalid date or time"
  | .badValue => "invalid value"
  | .controlCharacter => "invalid control character"
  | .unclosed => "unclosed bracket or quote"
  | .tooDeep => "cannot recurse further"
  | .duplicateKey key => "duplicate key " ++ key

/-- How a table came to be: by its own header, on the way to the header of another one, by a key
with dots, or between braces. -/
inductive Origin where
  | header | implied | dotted | inline
  deriving DecidableEq, Repr

inductive Value where
  | string (s : String) | integer (i : Int) | float (x : Float) | boolean (b : Bool)
  /-- A date, a time or both. -/
  | moment
  /-- An array; `ofTables` if headers in double brackets built it. -/
  | array (ofTables : Bool) (items : List Value)
  | table (origin : Origin) (fields : List (String × Value))
  deriving Inhabited

abbrev Fields := List (String × Value)

namespace Fields

def without (key : String) (fields : Fields) : Fields := fields.filter (·.1 ≠ key)

def replace (key : String) (v : Value) (fields : Fields) : Fields :=
  fields.map fun f => if f.1 = key then (key, v) else f

/-- Puts a value at a key with dots. The last table on the way is new or was made in the same way;
those before it may also be implied by a header, and of an array of tables the last one is meant. -/
def assign (key : String) (v : Value) : List String → Fields → Except Flaw Fields
  | [], fields =>
    if (fields.lookup key).isSome then .error (.duplicateKey key) else .ok (fields ++ [(key, v)])
  | outer :: path, fields =>
    match fields.lookup outer with
    | none => do return fields ++ [(outer, .table .dotted (← assign key v path []))]
    | some (.table .dotted inner) => do
      return fields.replace outer (.table .dotted (← assign key v path inner))
    | some (.table .implied inner) =>
      if path = [] then .error (.duplicateKey outer)
      else do return fields.replace outer (.table .implied (← assign key v path inner))
    | some (.array true items) =>
      match items.getLast?, path with
      | some (.table origin inner), _ :: _ => do
        let last := Value.table origin (← assign key v path inner)
        return fields.replace outer (.array true (items.dropLast ++ [last]))
      | _, _ => .error (.duplicateKey outer)
    | some _ => .error (.duplicateKey outer)

/-- Changes the table that a header names. Tables on the way that are missing are implied; of an
array of tables the last one is meant. -/
def within (change : Fields → Except Flaw Fields) : List String → Fields → Except Flaw Fields
  | [], fields => change fields
  | outer :: path, fields =>
    match fields.lookup outer with
    | none => do return fields ++ [(outer, .table .implied (← within change path []))]
    | some (.table .inline _) => .error (.duplicateKey outer)
    | some (.table origin inner) => do
      return fields.replace outer (.table origin (← within change path inner))
    | some (.array true items) =>
      match items.getLast? with
      | some (.table origin inner) => do
        let last := Value.table origin (← within change path inner)
        return fields.replace outer (.array true (items.dropLast ++ [last]))
      | _ => .error (.duplicateKey outer)
    | some _ => .error (.duplicateKey outer)

/-- Opens the table of a header and fills it. A table that was implied moves to the end. -/
def openTable (fill : Fields → Except Flaw Fields) (key : String) (fields : Fields) :
    Except Flaw Fields :=
  match fields.lookup key with
  | none => do return fields ++ [(key, .table .header (← fill []))]
  | some (.table .implied inner) => do
    return fields.without key ++ [(key, .table .header (← fill inner))]
  | some _ => .error (.duplicateKey key)

def appendTable (fill : Fields → Except Flaw Fields) (key : String) (fields : Fields) :
    Except Flaw Fields := do
  let v := Value.table .header (← fill [])
  match fields.lookup key with
  | none => return fields ++ [(key, .array true [v])]
  | some (.array true items) => return fields.replace key (.array true (items ++ [v]))
  | some _ => .error (.duplicateKey key)

end Fields
end Toml
end ReleaseAudit
