import Heightt.Patterns

/-!
# Texts

A JavaScript string is a list of UTF-16 code units, and the patterns of the source are matched
against these, without regard to the case of ASCII letters.
-/

namespace Heightt

abbrev Text := List UInt16

namespace Text

def codeUnit (c : Char) : UInt16 := c.toNat.toUInt16

def units (text : String) : Text := text.toList.map codeUnit

/-- Letters are compared as capital letters; no other character becomes an ASCII letter. -/
def canonicalize (u : UInt16) : UInt16 := if 97 ≤ u ∧ u ≤ 122 then u - 32 else u

/-- The characters themselves. -/
def literal (text : String) : Pattern UInt16 :=
  text.toList.map fun c => .one fun u => canonicalize u == canonicalize (codeUnit c)

/-- Only letters are changed, and only into capital letters. -/
theorem canonicalize_eq_iff {u v : UInt16} (h : ¬((65 ≤ v ∧ v ≤ 90) ∨ (97 ≤ v ∧ v ≤ 122))) :
    canonicalize u = v ↔ u = v := by
  unfold canonicalize
  grind

theorem mem_language_literal {text : String} {w : Text} :
    w ∈ (literal text).language ↔ w.map canonicalize = (units text).map canonicalize := by
  unfold literal units
  induction text.toList generalizing w with
  | nil =>
    rw [List.map_nil, List.map_nil, List.map_nil, List.map_eq_nil_iff]
    exact Iff.rfl
  | cons c cs ih =>
    constructor
    · rintro ⟨-, ⟨u, hu, rfl⟩, v, hv, rfl⟩
      exact congrArg₂ List.cons (beq_iff_eq.1 hu) (ih.1 hv)
    · intro same
      obtain ⟨u, v, rfl, hu, hv⟩ := List.map_eq_cons_iff.1 same
      exact ⟨[u], ⟨u, beq_iff_eq.2 hu, rfl⟩, v, ih.2 hv, rfl⟩

end Text

end Heightt
