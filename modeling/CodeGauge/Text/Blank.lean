/-!
# Blank characters

The twenty-nine characters that count as white space when a line is judged, and
the removal of such characters from both ends of a text.
-/

namespace CodeGauge.Text

/-- White space: the ASCII controls 9–13 and 28–31, the space, and the Unicode
separators. -/
def isBlank (c : Char) : Bool :=
  let n := c.toNat
  (9 ≤ n && n ≤ 13) || (28 ≤ n && n ≤ 32) || n == 0x85 || n == 0xA0 || n == 0x1680 ||
    (0x2000 ≤ n && n ≤ 0x200A) || n == 0x2028 || n == 0x2029 || n == 0x202F ||
    n == 0x205F || n == 0x3000

/-- Drop every leading character of the class. -/
def trimStart (p : Char → Bool) (s : List Char) : List Char :=
  s.dropWhile p

/-- Drop every trailing character of the class. -/
def trimEnd (p : Char → Bool) (s : List Char) : List Char :=
  (s.reverse.dropWhile p).reverse

/-- Drop the characters of the class at both ends. -/
def trim (p : Char → Bool) (s : List Char) : List Char :=
  trimEnd p (trimStart p s)

/-- The pieces of a text between occurrences of a separator; there is always at
least one. -/
def pieces (sep : Char) : List Char → List (List Char)
  | [] => [[]]
  | c :: rest =>
      if c = sep then [] :: pieces sep rest
      else match pieces sep rest with
        | [] => [[c]]
        | p :: ps => (c :: p) :: ps

/-- The words of a text: its longest runs without blanks. -/
def words (s : List Char) : List (List Char) :=
  (s.splitBy fun a b => isBlank a == isBlank b).filter fun run => !run.all isBlank

/-- The text starts with `lead`. -/
def startsWith (lead s : List Char) : Bool :=
  lead.isPrefixOf s

/-- Texts joined with a separator between neighbours. -/
def joinWith (sep : String) : List String → String
  | [] => ""
  | [s] => s
  | s :: rest => s ++ sep ++ joinWith sep rest

theorem mem_joinWith {sep : String} {names : List String} {c : Char}
    (h : c ∈ (joinWith sep names).toList) : c ∈ sep.toList ∨ ∃ name ∈ names, c ∈ name.toList := by
  fun_induction joinWith sep names with
  | case1 => cases h
  | case2 name => exact Or.inr ⟨name, List.mem_singleton.mpr rfl, h⟩
  | case3 name rest hrest ih =>
      rw [String.toList_append, String.toList_append, List.mem_append, List.mem_append] at h
      rcases h with (h | h) | h
      · exact Or.inr ⟨name, List.mem_cons_self, h⟩
      · exact Or.inl h
      · rcases ih h with h | ⟨other, hname, h⟩
        · exact Or.inl h
        · exact Or.inr ⟨other, List.mem_cons_of_mem _ hname, h⟩

end CodeGauge.Text
