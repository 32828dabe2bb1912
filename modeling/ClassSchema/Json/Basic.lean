import ClassSchema.Assoc
import ClassSchema.Number.Basic

/-!
# JSON values

The values of the JSON format, with the entries of an object in order. Numbers keep the difference
between an integer and a double.
-/

namespace ClassSchema

/-- A JSON value. -/
inductive Json
  | null
  | bool (value : Bool)
  | number (value : Number)
  | text (value : String)
  | list (items : List Json)
  | table (entries : List (String × Json))

namespace Json

/-- An integer as a JSON value. -/
def int (n : Int) : Json := number (.int n)

/-- A list of texts as a JSON value. -/
def texts (items : List String) : Json := list (items.map text)

/-- An entry of an object that is left out when there is no value. -/
def optional {α : Type} (key : String) (form : α → Json) : Option α → List (String × Json)
  | some value => [(key, form value)]
  | none => []

mutual

/-- The value with other texts; the keys stay. -/
def mapTexts (f : String → String) : Json → Json
  | null => null
  | bool b => bool b
  | number n => number n
  | text s => text (f s)
  | list items => list (mapItems f items)
  | table entries => table (mapEntries f entries)

/-- The items of a list, with other texts. -/
def mapItems (f : String → String) : List Json → List Json
  | [] => []
  | item :: items => mapTexts f item :: mapItems f items

/-- The entries of an object, with other texts. -/
def mapEntries (f : String → String) : List (String × Json) → List (String × Json)
  | [] => []
  | (key, value) :: entries => (key, mapTexts f value) :: mapEntries f entries

end

/-- The value under a key of an object. -/
def get? (key : String) : Json → Option Json
  | table entries => Assoc.get? entries key
  | _ => none

/-- The items of a list. -/
def items? : Json → Option (List Json)
  | list items => some items
  | _ => none

/-- The text of a text value. -/
def text? : Json → Option String
  | text s => some s
  | _ => none

/-- The truth value of a boolean. -/
def bool? : Json → Option Bool
  | bool b => some b
  | _ => none

/-- The integer of an integral number. -/
def int? : Json → Option Int
  | number (.int n) => some n
  | _ => none

end Json

end ClassSchema
