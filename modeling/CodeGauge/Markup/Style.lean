import CodeGauge.Markup.Colour

/-!
# Styles

Tags that name the same style in different words close each other: short names of
attributes, upper case, and another order of the words. Words that name neither an
attribute nor a colour leave the name as it is, in lower case.
-/

namespace CodeGauge.Markup

open Text

/-- Attributes in the order in which a style names them, each with its short names. -/
def attributes : List (String × List String) :=
  [("bold", ["b"]), ("dim", ["d"]), ("italic", ["i"]), ("underline", ["u"]), ("blink", []),
   ("blink2", []), ("reverse", ["r"]), ("conceal", ["c"]), ("strike", ["s"]),
   ("underline2", ["uu"]), ("frame", []), ("encircle", []), ("overline", ["o"])]

/-- The full name of an attribute. -/
def attribute? (word : String) : Option String :=
  (attributes.find? fun (name, short) => name == word || short.contains word).map (·.1)

/-- What a style name asks for. Of several wishes for one attribute the first counts. -/
structure Style where
  set : List (String × Bool)
  ink : Option String
  ground : Option String
  link : Option String

namespace Style

def plain : Style := ⟨[], none, none, none⟩

/-- Wish for an attribute or for its absence. -/
def want (s : Style) (mark : String) (on : Bool) : Style :=
  { s with set := (mark, on) :: s.set }

/-- Read the words of a style. A word that changes the meaning of the next one needs it, and
what follows `not` is in lower case. -/
def read (s : Style) : List (List Char) → Except ColourFault Style
  | [] => .ok s
  | word :: rest =>
      let key := String.ofList (lower word)
      if key == "on" then
        match rest with
        | [] => .error .unknown
        | next :: rest =>
            (colourOf next).bind fun colour => { s with ground := some colour }.read rest
      else if key == "not" then
        match rest with
        | [] => .error .unknown
        | next :: rest =>
            match attribute? (String.ofList next) with
            | none => .error .unknown
            | some mark => (s.want mark false).read rest
      else if key == "link" then
        match rest with
        | [] => .error .unknown
        | next :: rest => { s with link := some (String.ofList next) }.read rest
      else
        match attribute? key with
        | some mark => (s.want mark true).read rest
        | none => (colourOf word).bind fun colour => { s with ink := some colour }.read rest

/-- Read the text of a style. -/
def ofText (text : List Char) : Except ColourFault Style :=
  match words text with
  | [['n', 'o', 'n', 'e']] => .ok plain
  | ws => plain.read ws

/-- The name of a style: attributes in their order, colours, and the link. -/
def name (s : Style) : String :=
  let marks := attributes.filterMap fun (name, _) =>
    (s.set.find? fun (n, _) => n == name).map fun (n, on) => if on then n else "not " ++ n
  let all := marks ++ s.ink.toList ++ (s.ground.map ("on " ++ ·)).toList ++
    (s.link.map ("link " ++ ·)).toList
  if all.isEmpty then "none" else joinWith " " all

end Style

/-! ## Names -/

/-- One name for all spellings of a style. -/
def styleName (text : List Char) : Except PartFault String :=
  match Style.ofText text with
  | .ok style => .ok style.name
  | .error .unknown => .ok (String.ofList (trim isBlank (lower text)))
  | .error (.part fault) => .error fault

end CodeGauge.Markup
