/-!
# Values — data as it is exchanged

A value is what a data format can say: nothing, a truth value, a number, a text, a list, or an
object with named entries. Numbers that are not written as integers are kept apart, because no type
of this library is read from one.
-/

namespace JavaSyntax

inductive Value where
  | null
  | bool (b : Bool)
  | integer (n : Int)
  /-- A number written with a fraction, an exponent, or as minus zero. -/
  | decimal
  | string (s : String)
  | list (items : List Value)
  /-- Entries by name; no two have the same name. -/
  | object (entries : List (String × Value))

namespace Value

/-- The entry of that name in an object. -/
def entry? (v : Value) (name : String) : Option Value :=
  match v with
  | object entries => (entries.find? fun e => e.1 == name).map Prod.snd
  | _ => none

def string? : Value → Option String
  | string s => some s
  | _ => none

def bool? : Value → Option Bool
  | bool b => some b
  | _ => none

/-- A natural number that is at most `limit`. -/
def natural? (limit : Nat) : Value → Option Nat
  | integer n => if 0 ≤ n && n ≤ limit then some n.toNat else none
  | _ => none

/-- The values of a record's fields, by name from an object or by place from a list that is no
longer than the record. A field that is not given is absent. -/
def fields? (names : List String) (v : Value) : Option (List (Option Value)) :=
  match v with
  | object _ => some (names.map v.entry?)
  | list items =>
    if items.length ≤ names.length then
      some (items.map some ++ List.replicate (names.length - items.length) none)
    else none
  | _ => none

/-- Whether an object has only entries of the given names. Other values have none. -/
def hasOnly (names : List String) : Value → Bool
  | object entries => entries.all fun e => names.contains e.1
  | _ => true

/-- The name that stands for an alternative: the text itself, or the only entry of an object, which
holds nothing. -/
def alternative? : Value → Option String
  | string s => some s
  | object [(name, null)] => some name
  | _ => none

end Value

end JavaSyntax
