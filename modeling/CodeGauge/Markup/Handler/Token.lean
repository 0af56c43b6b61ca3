import CodeGauge.Markup.Handler.Numeral
import CodeGauge.Text.Name
import CodeGauge.Text.Printable

/-!
# Tokens of a literal

The parameters of a handler are a literal in a notation for expressions. Its tokens are
names, numerals, quoted texts and marks, which are brackets, operators and words of the
notation itself. Where no token fits, the tokens end with the reason.
-/

namespace CodeGauge.Markup.Handler

open Text

/-- What is quoted: a text, bytes, or a text with fields to be filled in. -/
inductive Content where
  | text
  | bytes
  | template
deriving Repr, DecidableEq

/-- A quoted text. In a raw one a backslash stands for itself. -/
structure Quotation where
  content : Content
  raw : Bool
  body : List Char
deriving Repr, DecidableEq

/-- An open bracket, and the line that it stands on. -/
structure Bracket where
  mark : Char
  line : Nat
deriving Repr, DecidableEq

/-- Kinds of tokens. Of a number it is kept how many digits it has if it is a decimal whole
number. A broken text is at fault wherever a reader gives up before it; one that is cut short,
with a bracket open or not, is only if a reader comes to its end. -/
inductive Kind where
  | name (word : String)
  | number (imaginary : Bool) (digits : Nat)
  | quoted (q : Quotation)
  | mark (word : String)
  | lineEnd
  | indent
  | finish
  | broken (message : String)
  | cutShort (message : String) (unclosed : Option Bracket)
deriving Repr, DecidableEq

/-- A token, how many brackets are open after it, the line on which it starts, and whether the
end of the text had to be seen to know where it ends. -/
structure Token where
  kind : Kind
  depth : Nat
  line : Nat
  seesEnd : Bool
deriving Repr, DecidableEq

/-- Words of the notation itself. -/
def ownWords : List String :=
  ["False", "None", "True", "and", "as", "assert", "async", "await", "break", "class",
   "continue", "def", "del", "elif", "else", "except", "finally", "for", "from", "global", "if",
   "import", "in", "is", "lambda", "nonlocal", "not", "or", "pass", "raise", "return", "try",
   "while", "with", "yield"]

/-- Marks of more than one character, longer ones first. -/
def longMarks : List String :=
  ["**=", "//=", ">>=", "<<=", "...", "**", "//", ">>", "<<", "<=", ">=", "==", "!=", "<>",
   "->", "+=", "-=", "*=", "/=", "%=", "&=", "|=", "^=", "@=", ":="]

/-! ## Steps -/

/-- What happens at a character: nothing, tokens, or the end. The number counts what is used
besides the character itself. -/
inductive Step where
  | skip (used : Nat)
  | take (kinds : List Kind) (used : Nat)
  | stop (kind : Kind)

/-- A character in no place. -/
def strange (c : Char) : Kind :=
  let code := String.ofList ((hexDigits 4 c.toNat).toList.map Char.toUpper)
  if isPrintable c.toNat then
    .broken ("invalid character '" ++ String.ofList [c] ++ "' (U+" ++ code ++ ")")
  else .broken ("invalid non-printable character U+" ++ code)

/-- The first character that cannot be in a name. -/
def strangeIn? : List Char → Option Char
  | [] => none
  | c :: rest => if startsName c then rest.find? (!continuesName ·) else some c

/-! ### Quoted texts -/

/-- What is left after a quoted text on one line, or the line where its end is missing. -/
def afterQuote (quote : Char) (line : Nat) : List Char → Except Nat (List Char)
  | [] => .error line
  | ['\\'] => .error line
  | '\\' :: c :: rest => afterQuote quote (if c == '\n' then line + 1 else line) rest
  | c :: rest =>
      if c == quote then .ok rest
      else if c == '\n' then .error line
      else afterQuote quote line rest

/-- What is left after a quoted text that three quotes end, on any number of lines. -/
def afterThreeQuotes (quote : Char) (line : Nat) : List Char → Except Nat (List Char)
  | [] => .error line
  | ['\\'] => .error line
  | '\\' :: c :: rest => afterThreeQuotes quote (if c == '\n' then line + 1 else line) rest
  | c :: rest =>
      if c == quote && startsWith [quote, quote] rest then .ok (rest.drop 2)
      else afterThreeQuotes quote (if c == '\n' then line + 1 else line) rest

/-- A quoted text, after its opening quote and `before` characters in front of that. -/
def quotedStep (content : Content) (raw : Bool) (before line : Nat) (quote : Char)
    (s : List Char) : Step :=
  let three := startsWith [quote, quote] s
  let ended := if three then afterThreeQuotes quote line (s.drop 2) else afterQuote quote line s
  match ended with
  | .error line =>
      let kind := if three then "triple-quoted string literal" else "string literal"
      .stop (.broken ("unterminated " ++ kind ++ " (detected at line " ++ Nat.repr line ++ ")"))
  | .ok rest =>
      let used := s.length - rest.length
      let body := if three then (s.drop 2).take (used - 5) else s.take (used - 1)
      .take [.quoted ⟨content, raw, body⟩] (before + used)

/-- What letters before a quote say about the text: its content, and whether it is raw. -/
def contentOf? (lead : List Char) : Option (Content × Bool) :=
  match String.ofList (lead.map Char.toLower) with
  | "u" => some (.text, false)
  | "r" => some (.text, true)
  | "b" => some (.bytes, false)
  | "br" => some (.bytes, true)
  | "rb" => some (.bytes, true)
  | "f" => some (.template, false)
  | "fr" => some (.template, true)
  | "rf" => some (.template, true)
  | _ => none

/-! ### Names, numerals and marks -/

/-- A name, a word of the notation, or a quoted text with letters before it. -/
def nameStep (line : Nat) (s : List Char) : Step :=
  let word := s.takeWhile joinsName
  let named := fun (_ : Unit) =>
    match if word.all (·.toNat < 128) then none else strangeIn? word with
    | some c => Step.stop (strange c)
    | none =>
        let text := String.ofList word
        .take [if ownWords.contains text then .mark text else .name text] (word.length - 1)
  match s.drop word.length with
  | quote :: rest =>
      match if quote == '"' || quote == '\'' then contentOf? word else none with
      | some (content, raw) => quotedStep content raw word.length line quote rest
      | none => named ()
  | [] => named ()

/-- How many digits a decimal whole number other than zero has. -/
def digitsIn (written : List Char) : Nat :=
  if written.head? != some '0' && written.all fun c => c.isDigit || c == '_' then
    (written.filter Char.isDigit).length
  else 0

def numeralStep (s : List Char) : Step :=
  match numeral s with
  | .error message => .stop (.broken message)
  | .ok (imaginary, rest) =>
      let used := s.length - rest.length
      .take [.number imaginary (digitsIn (s.take used))] (used - 1)

def isOpening (c : Char) : Bool := c == '(' || c == '\x7b'

def isClosing (c : Char) : Bool := c == ')' || c == '\x7d'

/-- The bracket that an opening one needs. -/
def closing (c : Char) : Char := if c == '(' then ')' else '\x7d'

/-- A closing bracket, given the open ones, innermost first. -/
def closeStep (line : Nat) (opened : List Bracket) (c : Char) : Step :=
  match opened with
  | [] => .stop (.broken ("unmatched '" ++ String.ofList [c] ++ "'"))
  | b :: _ =>
      if closing b.mark == c then .take [.mark (String.ofList [c])] 0
      else
        .stop (.broken ("closing parenthesis '" ++ String.ofList [c] ++
          "' does not match opening parenthesis '" ++ String.ofList [b.mark] ++ "'" ++
          if b.line == line then "" else " on line " ++ Nat.repr b.line))

/-- The greatest number of brackets inside each other. -/
def depthLimit : Nat := 200

/-- A mark, with a number of brackets open before it. -/
def markStep (depth : Nat) (c : Char) (rest : List Char) : Step :=
  if isOpening c && depthLimit ≤ depth then .stop (.broken "too many nested parentheses")
  else match longMarks.find? fun m => startsWith m.toList (c :: rest) with
    | some m => .take [.mark m] (m.length - 1)
    | none =>
        if isPrintable c.toNat then .take [.mark (String.ofList [c])] 0 else .stop (strange c)

/-! ### Lines -/

/-- Blanks between tokens. -/
def isGap (c : Char) : Bool := c == ' ' || c == '\t' || c == '\x0c'

/-- The length of blank lines and of the blanks before the next token, `used` of which are
known, and whether that is indented. A line that a backslash continues is indented if it is so
before its first backslash, or all of its parts together are. -/
def lineLeadFrom (indented continued : Bool) (used : Nat) : List Char → Nat × Bool
  | [] => (used, false)
  | '\\' :: rest =>
      match rest with
      | '\n' :: more => lineLeadFrom indented (continued || indented) (used + 2) more
      | _ => (used, false)
  | '#' :: rest =>
      let comment := rest.takeWhile (· != '\n')
      lineLeadFrom false false (used + 1 + comment.length) (rest.drop comment.length)
  | c :: rest =>
      if c == '\n' then lineLeadFrom false false (used + 1) rest
      else if c == '\x0c' then lineLeadFrom false continued (used + 1) rest
      else if isGap c then lineLeadFrom true continued (used + 1) rest
      else (used, continued || indented)
termination_by s => s.length
decreasing_by all_goals simp only [List.length_drop, List.length_cons]; omega

def lineLead (s : List Char) : Nat × Bool := lineLeadFrom false false 0 s

/-- The end of a line outside brackets, with the blank lines after it. -/
def lineEndStep (rest : List Char) : Step :=
  let (used, indented) := lineLead rest
  .take (if indented then [.lineEnd, .indent] else [.lineEnd]) used

/-! ## Tokens -/

/-- What happens at a character. -/
def stepAt (line : Nat) (opened : List Bracket) (c : Char) (rest : List Char) : Step :=
  if isGap c then .skip 0
  else if c == '\n' then if opened.isEmpty then lineEndStep rest else .skip 0
  else if c == '#' then .skip (rest.takeWhile (· != '\n')).length
  else if c == '\\' then
    if rest.head? == some '\n' then .skip 1
    else .stop (.cutShort "unexpected character after line continuation character" opened.head?)
  else if c.isDigit || (c == '.' && (rest.head?.map Char.isDigit).getD false) then
    numeralStep (c :: rest)
  else if joinsName c then nameStep line (c :: rest)
  else if c == '"' || c == '\'' then quotedStep .text false 0 line c rest
  else if isClosing c then closeStep line opened c
  else markStep opened.length c rest

/-- The brackets that are open after tokens at a character. -/
def openedAfter (line : Nat) (c : Char) (opened : List Bracket) : List Bracket :=
  if isOpening c then ⟨c, line⟩ :: opened
  else if isClosing c then opened.drop 1
  else opened

/-- What is said about a bracket that is open at the end. -/
def Bracket.unclosed (b : Bracket) : String :=
  "'" ++ String.ofList [b.mark] ++ "' was never closed"

/-- Words that may follow a number at once, but only as whole words. -/
def wordsAfterNumber : List String := ["and", "else", "for", "not", "or"]

/-- The end of the text has to be seen to know where a token before `more` ends. Marks of three
characters and closing quotes need no look at what follows, but two quotes alone, and two
points, may be the first of three. -/
def Kind.seesEnd (written more : List Char) : Kind → Bool
  | .quoted q => more.isEmpty && q.body.isEmpty && written.count '"' + written.count '\'' == 2
  | .number _ _ => more.isEmpty || wordsAfterNumber.contains (String.ofList more)
  | .mark "." => more.isEmpty || more == ['.']
  | .mark word => more.isEmpty && (word.length < 3 || ownWords.contains word)
  | _ => more.isEmpty

/-- The end of the text. -/
def ending (opened : List Bracket) : Kind :=
  match opened with
  | [] => .finish
  | b :: _ => .cutShort b.unclosed (some b)

def tokensFrom (line : Nat) (opened : List Bracket) : List Char → List Token
  | [] => [⟨ending opened, opened.length, line, true⟩]
  | c :: rest =>
      match stepAt line opened c rest with
      | .stop kind => [⟨kind, opened.length, line, false⟩]
      | .skip used =>
          tokensFrom (line + (c :: rest.take used).count '\n') opened (rest.drop used)
      | .take kinds used =>
          let after := openedAfter line c opened
          let written := c :: rest.take used
          let more := rest.drop used
          kinds.map (fun kind => ⟨kind, after.length, line, kind.seesEnd written more⟩) ++
            tokensFrom (line + written.count '\n') after more
termination_by s => s.length
decreasing_by all_goals simp only [List.length_drop, List.length_cons]; omega

/-- One line end for all ways to end a line. -/
def plainLines : List Char → List Char
  | '\r' :: '\n' :: rest => '\n' :: plainLines rest
  | '\r' :: rest => '\n' :: plainLines rest
  | c :: rest => c :: plainLines rest
  | [] => []

/-- The tokens of a text, the last of which says how it ends. -/
def tokensOf (text : List Char) : List Token :=
  let s := plainLines text
  let (used, indented) := lineLead s
  let line := 1 + (s.take used).count '\n'
  (if indented then [⟨.indent, 0, line, false⟩] else []) ++ tokensFrom line [] (s.drop used)

end CodeGauge.Markup.Handler
