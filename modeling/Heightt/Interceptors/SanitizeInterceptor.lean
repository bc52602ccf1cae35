import Heightt.Schema.Json
import Heightt.Schema.Text

/-!
# SanitizeInterceptor

`sanitize.interceptor.ts`: the body, the query and the parameters of a request are copied, and
the strings that are fields of an object are sanitised on the way. A string that stands in an
array is handed to the function for objects, which returns it as it is.
-/

namespace Heightt.SanitizeInterceptor

open Text

/-- `/<[a-z][\s\S]*>/i`. -/
def html : Pattern UInt16 :=
  literal "<" ++ .one (fun u => 65 ≤ canonicalize u ∧ canonicalize u ≤ 90) :: .greedy (fun _ => true) :: literal ">"

def containsHtml (text : Text) : Bool := (html.search text).isSome

/-- The field `__proto__` is the prototype and no key of the object. -/
def assign (key : String) (value : Json Text) (fields : List (String × Json Text)) :
    List (String × Json Text) :=
  if key = "__proto__" then fields else (key, value) :: fields

section

variable (sanitizeHtml : Text → Text)

def sanitizeString (s : Text) : Text := if containsHtml s then sanitizeHtml s else s

mutual

/-- A date is an object without keys. -/
def sanitizeObject : Json Text → Json Text
  | .array items => .array (sanitizeItems items)
  | .object fields => .object (sanitizeFields fields)
  | .date _ => .object []
  | .string s => .string s
  | .null => .null
  | .bool b => .bool b
  | .number x => .number x
termination_by structural v => v

def sanitizeItems : List (Json Text) → List (Json Text)
  | [] => []
  | v :: items => sanitizeObject v :: sanitizeItems items
termination_by structural items => items

def sanitizeFields : List (String × Json Text) → List (String × Json Text)
  | [] => []
  | (key, .string s) :: fields =>
    assign key (.string (sanitizeString sanitizeHtml s)) (sanitizeFields fields)
  | (key, v) :: fields => assign key (sanitizeObject v) (sanitizeFields fields)
termination_by structural fields => fields

end

end

end Heightt.SanitizeInterceptor
