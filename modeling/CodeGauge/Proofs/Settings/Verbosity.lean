import CodeGauge.Proofs.Settings.Layers

/-!
# The flags for verbosity

Of all settings the flags for quiet and verbose decide the verbosity only. Where settings
load without them they load with them, and differ in the verbosity (`load_flags`); where
they do not, the flags make no difference either, unless what is refused is the verbosity
itself (`load_flags_error`), which is checked last.
-/

namespace CodeGauge

namespace Settings

/-- Both flags as overrides. -/
def flagTable (verbose quiet : Bool) : Table Value :=
  [("verbose", .flag verbose), ("quiet", .flag quiet)]

/-- The verbosity that the flags ask for; quiet wins. -/
def flagged? (verbose quiet : Bool) : Option String :=
  if quiet then some "quiet" else if verbose then some "verbose" else none

/-- Settings with a verbosity, if there is one. -/
def speaking (s : Settings) : Option String → Settings
  | none => s
  | some word => s.set (.text word) .verbosity

theorem turnFlags_flagTable (verbose quiet : Bool) :
    turnFlags (flagTable verbose quiet)
      = (flagged? verbose quiet).toList.map fun word => (Key.verbosity.name, .text word) := by
  cases verbose <;> cases quiet <;> rfl

theorem mem_verbosities_of_flagged? {verbose quiet : Bool} {word : String}
    (h : flagged? verbose quiet = some word) : word ∈ verbosities := by
  cases verbose <;> cases quiet <;> cases h <;> decide

/-! ## Merging -/

variable {d : Disk} {env : Environment} {file : Option Path} {verbose quiet : Bool}

theorem nodup_mergeFile {t t' : Table Value} {source : Source} (ht : t.keys.Nodup)
    (h : mergeFile d t source = .ok t') : t'.keys.Nodup := by
  rw [mergeFile] at h
  split at h
  · cases h
    exact Table.nodup_merge ht _
  · cases h

theorem nodup_mergeIfPresent {t t' : Table Value} {source : Source} (ht : t.keys.Nodup)
    (h : mergeIfPresent d t source = .ok t') : t'.keys.Nodup := by
  rw [mergeIfPresent] at h
  split at h
  · cases h
  · cases h
    exact ht
  · exact nodup_mergeFile ht h

theorem nodup_mergeNamed {t t' : Table Value} (ht : t.keys.Nodup)
    (h : mergeNamed d t file = .ok t') : t'.keys.Nodup := by
  rw [mergeNamed.eq_def] at h
  split at h
  · cases h
    exact ht
  · split at h
    · cases h
    · cases h
    · exact nodup_mergeFile ht h

theorem bind_eq_ok {ε α β : Type} {x : Except ε α} {f : α → Except ε β} {b : β}
    (h : x >>= f = .ok b) : ∃ a, x = .ok a ∧ f a = .ok b := by
  cases x with
  | error e => cases h
  | ok a => exact ⟨a, rfl, h⟩

theorem nodup_merged {overrides t : Table Value} (h : merged d env file overrides = .ok t) :
    t.keys.Nodup := by
  rw [merged] at h
  cases hhome : env.home? with
  | none =>
      rw [hhome] at h
      cases h
  | some home =>
      simp only [hhome] at h
      obtain ⟨t₁, h₁, h⟩ := bind_eq_ok h
      obtain ⟨t₂, h₂, h⟩ := bind_eq_ok h
      obtain ⟨t₃, h₃, h⟩ := bind_eq_ok h
      have hempty : (Table.keys ([] : Table Value)).Nodup := List.nodup_nil
      have ht₃ : t₃.keys.Nodup :=
        nodup_mergeNamed (nodup_mergeIfPresent (nodup_mergeIfPresent hempty h₁) h₂) h₃
      cases henv : fromEnvironment env Key.all with
      | error c =>
          rw [henv] at h
          cases h
      | ok news =>
          rw [henv] at h
          cases h
          exact Table.nodup_merge (Table.nodup_merge ht₃ _) _

/-- Overrides come last, on top of what the other sources say. -/
theorem merged_eq_map (overrides : Table Value) :
    merged d env file overrides
      = (merged d env file []).map fun t => t.merge (turnFlags overrides) := by
  rw [merged, merged]
  cases env.home? with
  | none => rfl
  | some home =>
      simp only [bind, Except.bind]
      cases mergeIfPresent d [] (homeSource home) with
      | error e => rfl
      | ok t₁ =>
          cases h₂ : mergeIfPresent d t₁ (workSource d) with
          | error e => simp only [h₂]; rfl
          | ok t₂ =>
              cases h₃ : mergeNamed d t₂ file with
              | error e => simp only [h₂, h₃]; rfl
              | ok t₃ =>
                  simp only [h₂, h₃]
                  cases fromEnvironment env Key.all <;> rfl

/-! ## Checking -/

/-- All checks but the last one. -/
def checkOthers (s : Settings) : Finding := do
  withResult s.extensions.elements (checkAll checkExtension)
  withResult s.scriptLanguages.elements (checkAll (checkScript s.extensions))
  checkSize s.maxFileSize
  checkScore s.score
  checkPlaces s.decimalPlaces

theorem check_eq (s : Settings) :
    s.check = s.checkOthers >>= fun _ => checkVerbosity s.verbosity := by
  simp only [check, checkOthers, bind_assoc]

theorem checkOthers_set_verbosity (s : Settings) (v : Value) :
    (s.set v .verbosity).checkOthers = s.checkOthers := rfl

theorem checkVerbosity_text {word : String} (h : word ∈ verbosities) :
    checkVerbosity (.text word) = .ok () := by
  rw [checkVerbosity, if_pos]
  exact List.any_eq_true.mpr ⟨word, h, by simp [Value.isText]⟩

theorem ofLookup_put (t : Table Value) (v : Value) :
    (ofLookup fun name => (t.put Key.verbosity.name v).get? name)
      = (ofLookup fun name => t.get? name).set v .verbosity := by
  refine ext_get fun k => ?_
  rw [get_ofLookup, get_set, get_ofLookup, Table.get?_put]
  cases k <;> rfl

theorem find?_put_verbosity (t : Table Value) (v : Value) :
    (t.put Key.verbosity.name v).keys.find? isUnknown = t.keys.find? isUnknown := by
  have hknown : isUnknown Key.verbosity.name = false := by decide
  have hmerge := Table.find?_merge t [(Key.verbosity.name, v)] isUnknown
  simpa [Table.merge, Table.keys, hknown] using hmerge

/-! ## Loading -/

theorem load_flagTable_none (h : flagged? verbose quiet = none) :
    load d env file (flagTable verbose quiet) = load d env file [] := by
  rw [load, load, merged_eq_map, turnFlags_flagTable, h]
  cases merged d env file [] <;> rfl

/-- The sources give the same settings with the flags, but for the verbosity. -/
theorem ofTable_put {t : Table Value} (ht : t.keys.Nodup) {word : String}
    (hword : word ∈ verbosities) :
    (∀ s, ofTable t = .ok s →
        ofTable (t.put Key.verbosity.name (.text word)) = .ok (s.set (.text word) .verbosity))
      ∧ ∀ e, ofTable t = .error e → (∀ v reason, refuse .verbosity v reason ≠ .error e) →
        ofTable (t.put Key.verbosity.name (.text word)) = .error e := by
  rw [ofTable_eq ht, ofTable_eq (Table.nodup_put ht _ _), find?_put_verbosity, ofLookup_put]
  cases t.keys.find? isUnknown with
  | some name => exact ⟨fun s hs => (by cases hs), fun e he _ => he⟩
  | none =>
      generalize (ofLookup fun name => t.get? name) = s₀
      simp only [checked, check_eq, checkOthers_set_verbosity]
      cases s₀.checkOthers with
      | error e' => exact ⟨fun s hs => (by cases hs), fun e he _ => he⟩
      | ok _ =>
          have hgood : checkVerbosity (s₀.set (.text word) .verbosity).verbosity = .ok () :=
            checkVerbosity_text hword
          simp only [bind, Except.bind, hgood]
          cases hown : checkVerbosity s₀.verbosity with
          | ok _ =>
              refine ⟨fun s hs => ?_, fun e he => by cases he⟩
              cases hs
              rfl
          | error e' =>
              refine ⟨fun s hs => (by cases hs), fun e he hrefuse => ?_⟩
              cases he
              rw [checkVerbosity] at hown
              split at hown
              · cases hown
              · exact absurd hown (hrefuse _ _)

theorem load_flagTable {word : String} (h : flagged? verbose quiet = some word) :
    load d env file (flagTable verbose quiet) = match merged d env file [] with
      | .error e => .error e
      | .ok t => match ofTable (t.put Key.verbosity.name (.text word)) with
          | .ok s => .ok s
          | .error e => .error (complainOfMismatch e) := by
  rw [load, merged_eq_map, turnFlags_flagTable, h]
  cases merged d env file [] <;> rfl

theorem complainOfMismatch_of_refuse {key : Key} {v : Value} {reason : String} {e : Fault}
    (h : refuse key v reason = .error e) : complainOfMismatch e = e := by
  rw [refuse] at h
  split at h <;> cases h <;> rfl

theorem load_flags {s : Settings} (h : load d env file [] = .ok s) (verbose quiet : Bool) :
    load d env file (flagTable verbose quiet) = .ok (s.speaking (flagged? verbose quiet)) := by
  cases hflag : flagged? verbose quiet with
  | none => exact (load_flagTable_none hflag).trans h
  | some word =>
      rw [load_flagTable hflag]
      rw [load] at h
      cases hmerged : merged d env file [] with
      | error e =>
          rw [hmerged] at h
          cases h
      | ok t =>
          simp only [hmerged] at h ⊢
          cases hown : ofTable t with
          | error e =>
              rw [hown] at h
              cases h
          | ok s' =>
              rw [hown] at h
              cases h
              have hput := ofTable_put (nodup_merged hmerged) (mem_verbosities_of_flagged? hflag)
              rw [hput.1 s hown]
              rfl

theorem load_flags_error {e : Fault} (h : load d env file [] = .error e) (verbose quiet : Bool)
    (he : (flagged? verbose quiet).isSome → ∀ v reason, refuse .verbosity v reason ≠ .error e) :
    load d env file (flagTable verbose quiet) = .error e := by
  cases hflag : flagged? verbose quiet with
  | none => exact (load_flagTable_none hflag).trans h
  | some word =>
      rw [load_flagTable hflag]
      rw [load] at h
      cases hmerged : merged d env file [] with
      | error e' =>
          rw [hmerged] at h
          exact h
      | ok t =>
          simp only [hmerged] at h ⊢
          cases hown : ofTable t with
          | ok s' =>
              rw [hown] at h
              cases h
          | error e' =>
              rw [hown] at h
              cases h
              have hput := ofTable_put (nodup_merged hmerged) (mem_verbosities_of_flagged? hflag)
              rw [hput.2 e' hown]
              intro v reason hrefuse
              refine he (hflag ▸ rfl) v reason ?_
              rw [complainOfMismatch_of_refuse hrefuse]
              exact hrefuse

end Settings

end CodeGauge
