import CodeGauge.Text.Utf8

/-!
# Code points

A text as its code points. Half of a surrogate pair may stand among them, which no character is, so
that not every such text has an encoding.
-/

namespace CodeGauge.Text

/-- A text by its code points. -/
abbrev Points := List Nat

/-- Code points of characters. -/
def points (s : List Char) : Points := s.map Char.toNat

/-- A code point that is a character. -/
def isScalar (n : Nat) : Bool := n < 0xD800 || (0xDFFF < n && n ≤ 0x10FFFF)

/-- The characters of a text, if all its code points are characters. -/
def scalars? (p : Points) : Option (List Char) :=
  if p.all isScalar then some (p.map Char.ofNat) else none

/-- The UTF-8 bytes of a text that has an encoding. -/
def encodePoints? (p : Points) : Option Bytes := (scalars? p).map encodeUtf8

theorem isScalar_toNat (c : Char) : isScalar c.toNat = true := by
  have hvalid : c.toNat < 0xD800 ∨ 0xDFFF < c.toNat ∧ c.toNat < 0x110000 := c.valid
  simp only [isScalar, Bool.or_eq_true, Bool.and_eq_true, decide_eq_true_eq]
  omega

theorem scalars?_points (s : List Char) : scalars? (points s) = some s := by
  have hall : (points s).all isScalar = true := by
    simp only [points, List.all_map, List.all_eq_true, Function.comp_apply, isScalar_toNat,
      implies_true]
  rw [scalars?, if_pos hall, points, List.map_map]
  exact congrArg some ((List.map_congr_left fun c _ => Char.ofNat_toNat c).trans (List.map_id s))

theorem encodePoints?_points (s : List Char) : encodePoints? (points s) = some (encodeUtf8 s) := by
  rw [encodePoints?, scalars?_points, Option.map_some]

end CodeGauge.Text
