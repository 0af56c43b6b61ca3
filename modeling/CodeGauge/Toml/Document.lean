import CodeGauge.Table
import CodeGauge.Toml.Scalar

/-!
# TOML documents

A document is built statement by statement. Beside its tables it keeps which names may
no longer be opened as tables and which hold finished values that nothing may be added
to.
-/

namespace CodeGauge.Toml

structure Document where
  data : Table Value
  /-- Names that a heading or a dotted key has opened. -/
  opened : List Name
  /-- Names of arrays and tables that were given as values. -/
  finished : List Name
  /-- Names that dotted keys have opened under the current heading. -/
  pending : List Name

namespace Document

def empty : Document := ⟨[], [], [], []⟩

/-- Nothing may be added at or below a finished name. -/
def isFinished (d : Document) (name : Name) : Bool := d.finished.any fun f => f.isPrefixOf name

/-- Change the table at a name, making tables on the way. Of an array of tables the last
one is meant. -/
def within (f : Table Value → Option (Table Value)) : Name → Table Value → Option (Table Value)
  | [], t => f t
  | part :: rest, t =>
      match Table.get? part t with
      | none => (within f rest []).map fun inner => t.put part (.table inner)
      | some (.table inner) => (within f rest inner).map fun inner => t.put part (.table inner)
      | some (.list items) =>
          match items.getLast? with
          | some (.table inner) =>
              (within f rest inner).map fun inner =>
                t.put part (.list (items.dropLast ++ [.table inner]))
          | _ => none
      | some _ => none

/-- A new heading ends what was pending. -/
def settle (d : Document) : Document :=
  { d with opened := d.opened ++ d.pending, pending := [] }

/-- Open a table by a heading. -/
def openTable (d : Document) (name : Name) : Option Document :=
  let d := d.settle
  if d.opened.contains name || d.isFinished name then none
  else (within some name d.data).map fun data =>
    { d with data := data, opened := name :: d.opened }

/-- Add a table to the array under the last part of a name. -/
def addItem (last : String) (t : Table Value) : Option (Table Value) :=
  match Table.get? last t with
  | none => some (t.put last (.list [.table []]))
  | some (.list items) => some (t.put last (.list (items ++ [.table []])))
  | some _ => none

/-- Open another table of an array. What was opened in the one before is free again. -/
def openItem (d : Document) (name : Name) : Option Document :=
  let d := d.settle
  if d.isFinished name then none
  else match name.getLast? with
    | none => none
    | some last =>
        (within (addItem last) name.dropLast d.data).map fun data =>
          { d with
            data := data
            opened := name :: d.opened.filter fun n => !name.isPrefixOf n
            finished := d.finished.filter fun n => !name.isPrefixOf n }

/-- The names on the way to a dotted key, below a heading. -/
def between (heading key : Name) : List Name :=
  (List.range key.length).filterMap fun i => if i == 0 then none else some (heading ++ key.take i)

def isNested : Value → Bool
  | .list _ => true
  | .table _ => true
  | _ => false

/-- Put a value at a free name. -/
def addValue (last : String) (v : Value) (t : Table Value) : Option (Table Value) :=
  if Table.has t last then none else some (t.put last v)

/-- Give a key below a heading its value. -/
def insert (d : Document) (heading key : Name) (v : Value) : Option Document :=
  let ways := between heading key
  if ways.any d.opened.contains then none
  else if d.isFinished (heading ++ key.dropLast) then none
  else match key.getLast? with
    | none => none
    | some last =>
        (within (addValue last v) (heading ++ key.dropLast) d.data).map fun data =>
          { d with
            data := data
            pending := d.pending ++ ways
            finished := if isNested v then (heading ++ key) :: d.finished else d.finished }

end Document

/-! ## Values -/

/-- Skip white space and comments between the items of an array. -/
def skipGaps : Nat → List Char → Option (List Char)
  | 0, s => some s
  | fuel + 1, s =>
      let s := s.dropWhile isGap
      match s with
      | '#' :: _ => (skipComment s).bind (skipGaps fuel)
      | _ => some s

def skipAllGaps (s : List Char) : Option (List Char) := skipGaps (s.length + 1) s

/-- The equals sign after a key. -/
def skipEquals : List Char → Option (List Char)
  | '=' :: rest => some (skipSpaces rest)
  | _ => none

mutual

/-- A value. Every value that holds others takes a character before them, so `fuel`
characters are enough. -/
def readValue : Nat → Reader Value
  | 0, _ => none
  | fuel + 1, s =>
      match s with
      | '[' :: rest =>
          match skipAllGaps rest with
          | some (']' :: left) => some (.list [], left)
          | some first => (readItems fuel first).map fun (items, left) => (.list items, left)
          | none => none
      | '\x7b' :: rest =>
          match skipSpaces rest with
          | '\x7d' :: left => some (.table [], left)
          | first => (readPairs fuel .empty first).map fun (d, left) => (.table d.data, left)
      | _ => readScalar s

/-- The items of an array, up to its closing bracket. -/
def readItems : Nat → Reader (List Value)
  | 0, _ => none
  | fuel + 1, s =>
      match readValue fuel s with
      | none => none
      | some (item, left) =>
          match skipAllGaps left with
          | some (']' :: left) => some ([item], left)
          | some (',' :: rest) =>
              match skipAllGaps rest with
              | some (']' :: left) => some ([item], left)
              | some next => (readItems fuel next).map fun (items, left) => (item :: items, left)
              | none => none
          | _ => none

/-- The pairs of an inline table, up to its closing brace. -/
def readPairs : Nat → Document → Reader Document
  | 0, _, _ => none
  | fuel + 1, d, s =>
      match readName s with
      | none => none
      | some (key, left) =>
          match (skipEquals left).bind (readValue fuel) with
          | none => none
          | some (v, left) =>
              match d.insert [] key v with
              | none => none
              | some d =>
                  match skipSpaces left with
                  | '\x7d' :: left => some (d, left)
                  | ',' :: rest => readPairs fuel d (skipSpaces rest)
                  | _ => none

end

/-! ## Statements -/

/-- What a line says. -/
inductive Statement where
  | nothing
  | heading (name : Name)
  | item (name : Name)
  | pair (key : Name) (value : Value)

/-- A closing of a heading after its name. -/
def closeHeading (closing : List Char) (found : Option (Name × List Char))
    (make : Name → Statement) : Option (Statement × List Char) :=
  match found with
  | some (name, left) =>
      if closing.isPrefixOf left then some (make name, left.drop closing.length) else none
  | none => none

/-- The statement that a line starts with, after white space. -/
def readStatement (s : List Char) : Option (Statement × List Char) :=
  match s with
  | '[' :: '[' :: rest => closeHeading [']', ']'] (readName (skipSpaces rest)) .item
  | '[' :: rest => closeHeading [']'] (readName (skipSpaces rest)) .heading
  | [] => some (.nothing, [])
  | c :: _ =>
      if c == '\n' || c == '#' then some (.nothing, s)
      else match readName s with
        | none => none
        | some (key, left) =>
            ((skipEquals left).bind (readValue (left.length + 1))).map fun (v, left) =>
              (.pair key v, left)

/-- Apply a statement below the current heading; the result has the heading too. -/
def Document.apply (d : Document) (heading : Name) : Statement → Option (Document × Name)
  | .nothing => some (d, heading)
  | .heading name => (d.openTable name).map fun d => (d, name)
  | .item name => (d.openItem name).map fun d => (d, name)
  | .pair key v => (d.insert heading key v).map fun d => (d, heading)

/-- Read statements to the end. Every line but the last takes a character, so `fuel`
characters are enough. -/
def readDocument : Nat → Document → Name → List Char → Option Document
  | 0, _, _, _ => none
  | fuel + 1, d, heading, s =>
      match readStatement (skipSpaces s) with
      | none => none
      | some (statement, left) =>
          match d.apply heading statement with
          | none => none
          | some (d, heading) =>
              match skipComment (skipSpaces left) with
              | some ('\n' :: rest) => readDocument fuel d heading rest
              | some [] => some d
              | _ => none

/-- A carriage return before a line feed does not count. -/
def dropReturns : List Char → List Char
  | '\r' :: '\n' :: rest => '\n' :: dropReturns rest
  | c :: rest => c :: dropReturns rest
  | [] => []

/-- The table of a document, if it is well formed. -/
def parse (text : List Char) : Option (Table Value) :=
  let s := dropReturns text
  (readDocument (s.length + 1) .empty [] s).map (·.data)

end CodeGauge.Toml
