import CodeGauge.Markup.Handler.Token

/-!
# Templates

A text with fields in curly brackets. A field holds an expression, then perhaps an equals
sign, a conversion after an exclamation mark, and a layout after a colon. The layout may hold
fields too, whose layouts may not. Outside fields a bracket is written twice.
-/

namespace CodeGauge.Markup.Handler

open Text

/-- What a template is made of, in order: the text between fields, the expression of a field
with the number of line breaks before it, and what is wrong at its place. -/
inductive Part where
  | literal (text : List Char)
  | field (expression : List Char) (breaks : Nat)
  | wrong (message : String)
deriving Repr, DecidableEq

/-- What is said about a template that something is wrong with. -/
def templateFault (message : String) : String := "f-string: " ++ message

def expectingBracket : String := templateFault "expecting '\x7d'"

/-! ## Text between fields -/

/-- How the text before a field ends: at a field or at the end of a layout, at the end of all,
at a bracket that is written twice, or at a closing bracket that stands alone. -/
inductive LiteralEnd where
  | bracket
  | finish
  | doubled
  | alone
deriving Repr, DecidableEq

/-- What the character before means for the next one: nothing, an escape that starts, one that
is to be followed by a name, or that a name in curly brackets goes on. -/
inductive EscapeState where
  | none
  | started
  | beforeName
  | inName
deriving Repr, DecidableEq

/-- The text before a field, and what follows it. In a layout no bracket is written twice. -/
def literalFrom (raw inLayout : Bool) (state : EscapeState) (seen : List Char) :
    List Char → List Char × LiteralEnd × List Char
  | [] => (seen.reverse, .finish, [])
  | c :: rest =>
      let goOn := fun state => literalFrom raw inLayout state (c :: seen) rest
      if state == .inName then goOn (if c == '\x7d' then .none else .inName)
      else if state == .beforeName then goOn (if c == '\x7b' then .inName else .none)
      else if state == .started && c == 'N' then goOn .beforeName
      else if state == .none && !raw && c == '\\' && !rest.isEmpty then goOn .started
      else if c == '\x7b' || c == '\x7d' then
        if inLayout then (seen.reverse, .bracket, c :: rest)
        else if rest.head? == some c then ((c :: seen).reverse, .doubled, rest.drop 1)
        else if c == '\x7b' then (seen.reverse, .bracket, c :: rest)
        else (seen.reverse, .alone, c :: rest)
      else goOn .none

/-! ## Fields -/

/-- A quoted text inside an expression that goes on: its quote, and whether there are three. -/
structure OpenQuote where
  quote : Char
  three : Bool
deriving Repr, DecidableEq

/-- What is wrong where a template ends inside an expression. -/
def cutOff (brackets : List Char) (quote : Option OpenQuote) : String :=
  match quote, brackets with
  | some _, _ => templateFault "unterminated string"
  | none, c :: _ => templateFault ("unmatched '" ++ String.ofList [c] ++ "'")
  | none, [] => expectingBracket

/-- A closing bracket, with these brackets open, innermost first. -/
def closeBracket (c : Char) : List Char → Except String (List Char)
  | [] => .error (templateFault ("unmatched '" ++ String.ofList [c] ++ "'"))
  | lead :: outer =>
      if closing lead == c then .ok outer
      else .error (templateFault ("closing parenthesis '" ++ String.ofList [c] ++
        "' does not match opening parenthesis '" ++ String.ofList [lead] ++ "'"))

/-- The expression that a field starts with, and what follows it. Of the characters after a
mark of several, `skip` are still part of that. -/
def expressionFrom (brackets : List Char) (quote : Option OpenQuote) (skip : Nat)
    (seen : List Char) : List Char → Except String (List Char × List Char)
  | [] => .error (cutOff brackets quote)
  | c :: rest =>
      let goOn := fun brackets quote skip => expressionFrom brackets quote skip (c :: seen) rest
      let twoMore := startsWith [c, c] rest
      if 0 < skip then goOn brackets quote (skip - 1)
      else if c == '\\' then .error "f-string expression part cannot include a backslash"
      else match quote with
        | some q =>
            if c == q.quote && q.three && twoMore then goOn brackets none 2
            else if c == q.quote && !q.three then goOn brackets none 0
            else goOn brackets quote 0
        | none =>
            if c == '"' || c == '\'' then
              goOn brackets (some ⟨c, twoMore⟩) (if twoMore then 2 else 0)
            else if isOpening c then
              if depthLimit ≤ brackets.length then
                .error (templateFault "too many nested parenthesis")
              else goOn (c :: brackets) none 0
            else if c == '#' then .error "f-string expression part cannot include '#'"
            else if brackets.isEmpty && "!=<>".toList.contains c && rest.head? == some '=' then
              goOn brackets none 1
            else if brackets.isEmpty && "!:=\x7d".toList.contains c then
              .ok (seen.reverse, c :: rest)
            else if isClosing c then
              match closeBracket c brackets with
              | .error message => .error message
              | .ok outer => goOn outer none 0
            else goOn brackets none 0

/-- What an expression must not consist of alone. -/
def isGapInField (c : Char) : Bool := c == ' ' || c == '\t' || c == '\n' || c == '\x0c'

/-- What is said about a field without an expression, by what follows. -/
def emptyField (rest : List Char) : String :=
  match rest.head? with
  | some c =>
      templateFault (if c == '\x7d' then "empty expression not allowed"
        else "expression required before '" ++ String.ofList [c] ++ "'")
  | none => expectingBracket

/-- What follows an equals sign and blanks after it, if there is one. -/
def afterEquals : List Char → List Char
  | '=' :: rest => rest.dropWhile fun c => isGapInField c || c == '\x0b' || c == '\r'
  | s => s

/-- What follows a conversion, if there is one. -/
def afterConversion : List Char → Except String (List Char)
  | '!' :: rest =>
      match rest with
      | [] => .error expectingBracket
      | c :: after =>
          if !"sra".toList.contains c then
            .error (templateFault "invalid conversion character: expected 's', 'r', or 'a'")
          else if after.head? == some ':' || after.head? == some '\x7d' then .ok after
          else .error expectingBracket
  | s => .ok s

/-- Layouts inside layouts have no fields. -/
def layoutLimit : Nat := 2

/-! ## Parts -/

/-- Parts in order, and what is left of the text unless something is wrong. -/
abbrev Cut := List Part × Option (List Char)

/-- The number of line breaks in a text before the rest of it. -/
def breaksBefore (body rest : List Char) : Nat :=
  (body.take (body.length - rest.length)).count '\n'

mutual

/-- The parts of a template, or of a layout on some level. -/
def partsFrom (body : List Char) (raw : Bool) (level : Nat) : Nat → List Char → Cut
  | 0, _ => ([], none)
  | n + 1, s =>
      let (text, stop, rest) := literalFrom raw (level != 0) .none [] s
      let before := if text.isEmpty then [] else [Part.literal text]
      match stop with
      | .alone => ([.wrong (templateFault "single '\x7d' is not allowed")], none)
      | .finish => (before, some [])
      | .doubled =>
          let (more, left) := partsFrom body raw level n rest
          (before ++ more, left)
      | .bracket =>
          if rest.head? == some '\x7d' then (before, some rest)
          else match fieldFrom body raw level n (rest.drop 1) with
            | (field, none) => (before ++ field, none)
            | (field, some rest) =>
                let (more, left) := partsFrom body raw level n rest
                (before ++ field ++ more, left)

/-- The parts of a field after its opening bracket. -/
def fieldFrom (body : List Char) (raw : Bool) (level : Nat) : Nat → List Char → Cut
  | 0, _ => ([], none)
  | n + 1, s =>
      if layoutLimit ≤ level then
        ([.wrong (templateFault "expressions nested too deeply")], none)
      else match expressionFrom [] none 0 [] s with
        | .error message => ([.wrong message], none)
        | .ok (expression, rest) =>
            if expression.all isGapInField then ([.wrong (emptyField rest)], none)
            else
              let field := Part.field expression (breaksBefore body s)
              let rest := afterEquals rest
              match afterConversion rest with
              | .error message => ([field, .wrong message], none)
              | .ok (':' :: layout) =>
                  if layout.isEmpty then ([field, .wrong expectingBracket], none)
                  else match partsFrom body raw (level + 1) n layout with
                    | (parts, none) => (field :: parts, none)
                    | (parts, some ('\x7d' :: rest)) => (field :: parts, some rest)
                    | (parts, some _) => (field :: parts ++ [.wrong expectingBracket], none)
              | .ok ('\x7d' :: rest) => ([field], some rest)
              | .ok _ => ([field, .wrong expectingBracket], none)

end

/-- The parts of a template, the last of which is the first that is wrong. -/
def partsOf (raw : Bool) (body : List Char) : List Part :=
  (partsFrom body raw 0 (2 * body.length + 2) body).1

end CodeGauge.Markup.Handler
