import Heightt.Schema.Json
import Heightt.Schema.Text

/-!
# XssGuard

`xss.guard.ts`: the patterns that no string of a request may match. The patterns are global and
belong to the guard, so every one keeps the place where its last match ended, and looks for its
next match from there, in whatever string and request comes next.
-/

namespace Heightt.XssGuard

open Pattern Text

/-! ## The patterns -/

/-- `.`: no line terminator. -/
def dot (u : UInt16) : Bool := u ∉ [0x0A, 0x0D, 0x2028, 0x2029]

/-- `\w`. -/
def word (u : UInt16) : Bool :=
  (48 ≤ u ∧ u ≤ 57) ∨ (65 ≤ u ∧ u ≤ 90) ∨ u = 95 ∨ (97 ≤ u ∧ u ≤ 122)

/-- `\s`. -/
def space (u : UInt16) : Bool :=
  (9 ≤ u ∧ u ≤ 13) ∨ (0x2000 ≤ u ∧ u ≤ 0x200A) ∨
    u ∈ [0x20, 0xA0, 0x1680, 0x2028, 0x2029, 0x202F, 0x205F, 0x3000, 0xFEFF]

/-- `<tag.*?>`. -/
def opening (tag : String) : Pattern UInt16 := literal ("<" ++ tag) ++ .lazy dot :: literal ">"

/-- `<tag.*?>.*?<\/tag>`. -/
def element (tag : String) : Pattern UInt16 :=
  opening tag ++ .lazy dot :: literal ("</" ++ tag ++ ">")

/-- `on\w+\s*=`. -/
def handler : Pattern UInt16 := literal "on" ++ .one word :: .greedy word :: .greedy space :: literal "="

def dangerousPatterns : List (Pattern UInt16) :=
  [element "script", literal "javascript:", handler, element "iframe", element "object", opening "embed",
    element "applet", opening "meta", opening "link", opening "base"]

/-! ## The guard -/

/-- The patterns, each with its `lastIndex`. -/
abbrev Patterns := List (Pattern UInt16 × Nat)

def fresh : Patterns := dangerousPatterns.map fun q => (q, 0)

/-- Test the patterns in turn until one matches: a match moves the place of its pattern, a
failure sets it back. -/
def test : Patterns → Text → Patterns × Bool
  | [], _ => ([], false)
  | (q, lastIndex) :: σ, s => match q.exec lastIndex s with
    | some e => ((q, e) :: σ, true)
    | none => ((q, 0) :: (test σ s).1, (test σ s).2)

/-- The guard after a part of a request, and the field at which it has thrown. -/
abbrev Screened := Patterns × Option String

/-- The first part, and the next one unless the first has thrown. -/
def Screened.next (r : Screened) (k : Patterns → Screened) : Screened :=
  match r with
  | (σ, none) => k σ
  | (σ, some field) => (σ, some field)

def checkString (σ : Patterns) (key : String) (s : Text) : Screened :=
  match test σ s with
  | (σ', true) => (σ', some key)
  | (σ', false) => (σ', none)

/-- The keys of a string are the places of its characters. -/
def checkCharacters (σ : Patterns) (i : Nat) : Text → Screened
  | [] => (σ, none)
  | u :: s => (checkString σ (toString i) [u]).next fun σ => checkCharacters σ (i + 1) s

mutual

def checkForXSS (σ : Patterns) : Json Text → Screened
  | .array items => checkItems σ 0 items
  | .object fields => checkFields σ fields
  | .string s => checkCharacters σ 0 s
  | .null | .bool _ | .number _ | .date _ => (σ, none)
termination_by structural v => v

def checkItems (σ : Patterns) (i : Nat) : List (Json Text) → Screened
  | [] => (σ, none)
  | .string s :: items => (checkString σ (toString i) s).next fun σ => checkItems σ (i + 1) items
  | v :: items => (checkForXSS σ v).next fun σ => checkItems σ (i + 1) items
termination_by structural items => items

def checkFields (σ : Patterns) : List (String × Json Text) → Screened
  | [] => (σ, none)
  | (key, .string s) :: fields => (checkString σ key s).next fun σ => checkFields σ fields
  | (_, v) :: fields => (checkForXSS σ v).next fun σ => checkFields σ fields
termination_by structural fields => fields

end

/-- What is missing is null. -/
structure Request where
  body : Json Text
  query : Json Text
  params : Json Text

def canActivate (σ : Patterns) (request : Request) : Screened :=
  (checkForXSS σ request.body).next fun σ =>
    (checkForXSS σ request.query).next fun σ => checkForXSS σ request.params

/-- The guard after the requests, whatever became of them. -/
def after (requests : List Request) : Patterns :=
  requests.foldl (fun σ request => (canActivate σ request).1) fresh

end Heightt.XssGuard
