import Metrology.Number.Layout
import Metrology.Text.Quoted

/-!
# JSON values

The values of a JSON text, with whole and real numbers kept apart and the members of an object in
their order, and the notation that reports show them in.
-/

namespace Metrology

/-- A JSON value. -/
inductive Json where
  | null
  | bool (b : Bool)
  | whole (n : Int)
  | real (x : Float)
  | text (s : String)
  | list (items : List Json)
  | object (members : List (String × Json))
deriving Inhabited

namespace Json

def member? (members : List (String × Json)) (name : String) : Option Json :=
  (members.find? fun m => m.1 = name).map Prod.snd

/-- The members with one more: a name that they have keeps its place and takes the new value. -/
def insert (members : List (String × Json)) (name : String) (value : Json) :
    List (String × Json) :=
  if members.any fun m => m.1 = name then
    members.map fun m => if m.1 = name then (name, value) else m
  else members ++ [(name, value)]

/-- The kind of a value in a report. -/
def kind : Json → String
  | .null => "NoneType"
  | .bool _ => "bool"
  | .whole _ => "int"
  | .real _ => "float"
  | .text _ => "str"
  | .list _ => "list"
  | .object _ => "dict"

/-- The value in a report: texts are quoted, and the constants are spelled `None`, `True` and
`False`. -/
def describe : Json → String
  | .null => "None"
  | .bool b => if b then "True" else "False"
  | .whole n => toString n
  | .real x => Binary64.shortest x
  | .text s => Text.quoted s
  | .list items => "[" ++ ", ".intercalate (items.map describe) ++ "]"
  | .object members =>
    "\x7b" ++ ", ".intercalate
      (members.attach.map fun ⟨m, _⟩ => Text.quoted m.1 ++ ": " ++ m.2.describe) ++ "\x7d"
decreasing_by
  · decreasing_tactic
  · rename_i h
    have := List.sizeOf_lt_of_mem h
    cases m
    simp_all
    omega

end Json

end Metrology
