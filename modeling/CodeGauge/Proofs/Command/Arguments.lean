import CodeGauge.Command.Options

/-!
# Arguments

What may be expected of a command line, whatever else it understands (`CommandLine.Documented`):
options in long form with their values behind them, and the path anywhere among them, come to the
request that they say, as long as none is there twice and the paths lead to what the options ask
for. Which paths may be read is not known here. The usual command line keeps to it
(`CommandLine.documented_usual`), by an induction on the words of the request where the arguments
of one word are read at a time (`readArguments_word`).
-/

namespace CodeGauge

namespace Command

/-! ## Words -/

/-- A switch, an option with its value, or the path. -/
inductive Word where
  | switch (s : Switch)
  | slot (s : Slot) (value : String)
  | path (arg : String)

def Switch.long : Switch → String
  | .verbose => "--verbose"
  | .quiet => "--quiet"
  | .version => "--version"
  | .help => "--help"

def Slot.long : Slot → String
  | .format => "--format"
  | .csv => "--csv"
  | .config => "--config"
  | .logFile => "--log-file"

namespace Word

/-- How a word is written. -/
def args : Word → List String
  | switch s => [s.long]
  | slot s value => [s.long, value]
  | path arg => [arg]

/-- The option that a word is about; none is the path. -/
def flag? : Word → Option Flag
  | switch s => some (.switch s)
  | slot s _ => some (.slot s)
  | path _ => none

/-- A path is no option, and help is not asked for. -/
def IsPlain : Word → Prop
  | switch s => s ≠ .help
  | slot _ _ => True
  | path arg => arg.toList.head? ≠ some '-'

end Word

namespace Request

/-- A request with what a word says. -/
def take (r : Request) : Word → Request
  | .switch s => r.turnOn s
  | .slot s value => r.fill value s
  | .path arg => { r with path := some arg }

def ofWords (words : List Word) : Request := words.foldl take .start

/-- The paths lead to what they should: the one to survey to no file, a configuration to a file,
and those that are written to no directory. What is there may be read. -/
structure Accepted (readable : Disk → String → Prop) (d : Disk) (r : Request) : Prop where
  texts : ∀ arg, r.path = some arg ∨ r.csv = some arg ∨ r.config = some arg ∨ r.logFile = some arg →
    isPathText arg
  path : ∀ arg, r.path = some arg → ∀ e, entryAt? d arg = some e →
    isFileEntry e = false ∧ readable d arg
  config : ∀ arg, r.config = some arg → (∃ bytes, entryAt? d arg = some (.file bytes))
    ∧ readable d arg
  written : ∀ arg, r.csv = some arg ∨ r.logFile = some arg → ∀ e, entryAt? d arg = some e →
    e.isDir = false ∧ readable d arg

end Request

/-! ## The usual command line -/

theorem readArgument_of_head {arg : String} (h : arg.toList.head? ≠ some '-') (r : Request) :
    readArgument r arg = (r.place arg).map fun r => (r, none) := by
  rw [readArgument]
  split
  · rename_i heq
    simp [heq] at h
  · rename_i heq
    simp [heq] at h
  · rfl

/-- The arguments of a word are read before the others, as what it says. -/
theorem readArguments_word {w : Word} (hplain : w.IsPlain) {r : Request}
    (hpath : w.flag? = none → r.path = none) (rest : List String) :
    readArguments r none (w.args ++ rest) = readArguments (r.take w) none rest := by
  cases w with
  | switch s => cases s <;> rfl
  | slot s value => cases s <;> rfl
  | path arg =>
      have hdashes : arg ≠ "--" := fun heq => hplain (heq ▸ rfl)
      have hplace : r.place arg = some { r with path := some arg } := by
        rw [Request.place, hpath rfl]
      rw [Word.args, List.singleton_append, readArguments, if_neg hdashes,
        readArgument_of_head hplain, hplace]
      rfl

theorem path_take {r : Request} {w : Word} (h : w.flag? ≠ none) : (r.take w).path = r.path := by
  cases w with
  | switch s => cases s <;> rfl
  | slot s value => cases s <;> rfl
  | path arg => exact absurd rfl h

theorem readArguments_words {words : List Word} (hplain : ∀ w ∈ words, w.IsPlain)
    (honce : (words.map Word.flag?).Nodup) {r : Request}
    (hpath : none ∈ words.map Word.flag? → r.path = none) :
    readArguments r none (words.flatMap Word.args) = some (words.foldl Request.take r) := by
  induction words generalizing r with
  | nil => rfl
  | cons w rest ih =>
      obtain ⟨hw, hrest⟩ := List.forall_mem_cons.mp hplain
      rw [List.map_cons, List.nodup_cons] at honce
      rw [List.map_cons, List.mem_cons] at hpath
      rw [List.flatMap_cons, List.foldl_cons,
        readArguments_word hw fun hnone => hpath (.inl hnone.symm)]
      refine ih hrest honce.2 fun hmem => ?_
      -- A path further on means that this word is none, and so it leaves the path open.
      have hne : w.flag? ≠ none := fun hnone => honce.1 (hnone ▸ hmem)
      rw [path_take hne]
      exact hpath (.inr hmem)

theorem Request.Accepted.suits {readable : Disk → String → Prop} {d : Disk} {r : Request}
    (h : r.Accepted readable d) : r.suits d = true := by
  have htexts : [r.path, r.csv, r.config, r.logFile].all (fun arg => arg.all isPathText)
      = true := by
    rw [List.all_eq_true]
    intro named hnamed
    cases hname : named with
    | none => rfl
    | some arg =>
        refine h.texts arg ?_
        simpa [hname, eq_comm] using hnamed
  have hpath : ((r.path.bind (entryAt? d)).any isFileEntry) = false := by
    rw [Option.any_eq_false]
    intro e he
    obtain ⟨arg, harg, he⟩ := Option.bind_eq_some_iff.mp he
    simpa using (h.path arg harg e he).1
  have hwritten (named : Option String) (hnamed : ∀ arg, named = some arg →
      r.csv = some arg ∨ r.logFile = some arg) :
      ((named.bind (entryAt? d)).any Entry.isDir) = false := by
    rw [Option.any_eq_false]
    intro e he
    obtain ⟨arg, harg, he⟩ := Option.bind_eq_some_iff.mp he
    simpa using (h.written arg (hnamed arg harg) e he).1
  have hconfig : (r.config.all fun c => (entryAt? d c).any isFileEntry) = true := by
    rw [Option.all_eq_true]
    intro arg harg
    obtain ⟨⟨bytes, he⟩, -⟩ := h.config arg harg
    rw [he]
    rfl
  rw [Request.suits, htexts, hpath, hwritten _ fun _ => .inl, hwritten _ fun _ => .inr, hconfig]
  rfl

end Command

open Command in
/-- What is documented of a command line. The order of words does not matter to it, and each option
and the path are given once at most. -/
structure CommandLine.Documented (cl : CommandLine) (readable : Disk → String → Prop) : Prop where
  /-- An option takes the argument behind it as its value, and arguments are refused only for what
  the types of the options ask of the paths. -/
  reads {d : Disk} {words : List Word} (hplain : ∀ w ∈ words, w.IsPlain)
    (honce : (words.map Word.flag?).Nodup)
    (haccepted : (Request.ofWords words).Accepted readable d) :
    cl.read d (words.flatMap Word.args) = some (Request.ofWords words)

theorem CommandLine.documented_usual (readable : Disk → String → Prop) :
    CommandLine.usual.Documented readable where
  reads hplain honce haccepted := by
    refine Option.filter_eq_some_iff.mpr ⟨?_, by simp [haccepted.suits]⟩
    exact Command.readArguments_words hplain honce fun _ => rfl

end CodeGauge
