import CodeGauge.Path
import CodeGauge.Table

/-!
# Environment

Variables that surround a run, and the accounts of the system. Both say where homes are: that of
the account that runs the program is named by a variable, and by the system if the variable is
not set.
-/

namespace CodeGauge

open Text

/-- The homes that a system names for its accounts: for the one that runs the program, and for
others by their names. -/
structure Accounts where
  own : Option String
  named : String → Option String

structure Environment where
  vars : Table String
  accounts : Accounts

namespace Environment

def get? (env : Environment) (name : String) : Option String := Table.get? name env.vars

/-- The directory that is named as a home. Slashes at its end do not count, so that only they name
the top. A name that stands for a home itself leads nowhere. -/
def homeOfText (text : String) : Option Path :=
  let name := trimEnd (· == '/') text.toList
  if name.isEmpty then some ⟨.top, []⟩
  else if startsWith ['~'] name then none
  else some (Path.ofText (String.ofList name))

/-- The home directory. -/
def home? (env : Environment) : Option Path :=
  ((env.get? "HOME").or env.accounts.own).bind homeOfText

/-- The home that a name with `~` in front stands for; without a name it is one's own. -/
def homeOf? (env : Environment) (name : String) : Option Path :=
  if name = "" then env.home? else (env.accounts.named name).bind homeOfText

/-- Replace a leading `~` and the name behind it by the home that they stand for, if that is
known. -/
def expandHome? (env : Environment) (p : Path) : Option Path :=
  match p.root, p.parts with
  | .here, first :: rest =>
      match first.toList with
      | '~' :: name =>
          (env.homeOf? (String.ofList name)).map fun h => { h with parts := h.parts ++ rest }
      | _ => some p
  | _, _ => some p

end Environment

end CodeGauge
