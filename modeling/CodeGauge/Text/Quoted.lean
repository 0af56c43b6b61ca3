import CodeGauge.Text.Digit
import CodeGauge.Text.Printable

/-!
# Quoted text

A text between quotes on one line. The quote is the single one unless the text
holds single quotes and no double ones. Backslash, the quote in use and every
character that is not printable are escaped.
-/

namespace CodeGauge.Text

/-- The quote that a text is written in. -/
def quoteFor (s : List Char) : Char :=
  if s.contains '\'' && !s.contains '"' then '"' else '\''

/-- One character inside quotes. -/
def quoteChar (quote c : Char) : String :=
  if c == quote || c == '\\' then String.ofList ['\\', c]
  else if c == '\t' then "\\t"
  else if c == '\n' then "\\n"
  else if c == '\r' then "\\r"
  else if isPrintable c.toNat then String.ofList [c]
  else if c.toNat < 0x100 then "\\x" ++ hexDigits 2 c.toNat
  else if c.toNat < 0x10000 then "\\u" ++ hexDigits 4 c.toNat
  else "\\U" ++ hexDigits 8 c.toNat

/-- The text in quotes. -/
def quoted (s : String) : String :=
  let cs := s.toList
  let quote := quoteFor cs
  let body := cs.foldl (fun acc c => acc ++ quoteChar quote c) ""
  String.ofList [quote] ++ body ++ String.ofList [quote]

end CodeGauge.Text
