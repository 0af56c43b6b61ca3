import CodeGauge.Proofs.Settings.Layers

/-!
# How loading settings fails

Loading should fail with a complaint about the configuration and with nothing else, so that
whoever asked for the settings can be told. `Escapes` lists what it fails with beyond that:
there is no home, the path of a file is too long to look for it, an extension is no text, or a
value that is refused is too long to be named in the complaint. `load_escapes` says that the
list is complete and that everything on it happens.

A check ends in one of a few ways (`Orderly`), whatever kinds the values have, and only the
loop over the extensions can end in another one.
-/

namespace CodeGauge

open Text Number

/-- The complaint is about the configuration, or of a family inside that one. -/
def Complaint.AboutConfiguration (c : Complaint) : Prop :=
  c.family = .configuration ∨ c.family.parent? = some .configuration

namespace Settings

/-! ## Checks -/

/-- The check of a key meets this value: it is the one of the key, or a loop over that one
comes to it. -/
def Meets (s : Settings) (key : Key) (v : Value) : Prop :=
  v = s.get key ∨ ∃ vs, (s.get key).elements = .ok vs ∧ v ∈ vs

/-- The loop over the extensions comes to a value that is no text. -/
def OddExtension (s : Settings) (v : Value) : Prop :=
  ∃ before after, s.extensions.elements = .ok (before ++ v :: after)
    ∧ (∀ w ∈ before, ∃ name, w = .text name ∧ startsWith ['.'] name.toList)
    ∧ ∀ name, v ≠ .text name

/-- How a check may end: with nothing found, at a value of the wrong kind, or at a value that
it refuses. -/
inductive Orderly (s : Settings) : Finding → Prop
  | nothing : Orderly s (.ok ())
  | mismatch {m : Mismatch} (h : m.isMissingMember = false) : Orderly s (.error (.mismatch m))
  | refusal {key : Key} {v : Value} (h : s.Meets key v) (reason : String) :
      Orderly s (refuse key v reason)

theorem isMissingMember_elements {v : Value} {m : Mismatch} (h : v.elements = .error m) :
    m.isMissingMember = false := by
  cases v <;> cases h <;> rfl

theorem isMissingMember_holdsElement {container v : Value} {m : Mismatch}
    (h : container.holdsElement v = .error m) : m.isMissingMember = false := by
  cases container <;> cases v <;> cases h <;> rfl

theorem isMissingMember_between {low high : Int} {boundKind : String} {v : Value} {m : Mismatch}
    (h : v.between low high boundKind = .error m) : m.isMissingMember = false := by
  cases v <;> cases h <;> rfl

theorem isMissingMember_notPositive {v : Value} {m : Mismatch} (h : v.notPositive = .error m) :
    m.isMissingMember = false := by
  cases v <;> cases h <;> rfl

/-- A walk over values fails at the first one that does. -/
theorem checkAll_eq_error_iff {check : Value → Finding} {vs : List Value} {e : Fault} :
    checkAll check vs = .error e ↔ ∃ before v after, vs = before ++ v :: after
      ∧ (∀ w ∈ before, check w = .ok ()) ∧ check v = .error e := by
  induction vs with
  | nil => simp [checkAll]
  | cons first rest ih =>
      rw [checkAll]
      cases hfirst : check first with
      | error e' =>
          constructor
          · intro h
            cases h
            exact ⟨[], first, rest, rfl, nofun, hfirst⟩
          · rintro ⟨before, v, after, hsplit, hbefore, hv⟩
            cases before with
            | nil =>
                cases hsplit
                exact hfirst.symm.trans hv
            | cons w before =>
                cases hsplit
                have hw := hbefore _ List.mem_cons_self
                rw [hfirst] at hw
                cases hw
      | ok _ =>
          simp only [ih]
          constructor
          · rintro ⟨before, v, after, rfl, hbefore, hv⟩
            exact ⟨first :: before, v, after, rfl, List.forall_mem_cons.mpr ⟨hfirst, hbefore⟩, hv⟩
          · rintro ⟨before, v, after, hsplit, hbefore, hv⟩
            cases before with
            | nil =>
                cases hsplit
                rw [hfirst] at hv
                cases hv
            | cons w before =>
                cases hsplit
                exact ⟨before, v, after, rfl, (List.forall_mem_cons.mp hbefore).2, hv⟩

namespace Orderly

variable {s : Settings}

theorem withResult {α : Type} {r : Except Mismatch α} {f : α → Finding}
    (hr : ∀ m, r = .error m → m.isMissingMember = false) (hf : ∀ a, r = .ok a → Orderly s (f a)) :
    Orderly s (withResult r f) := by
  cases r with
  | error m => exact mismatch (hr m rfl)
  | ok a => exact hf a rfl

theorem ifGood {key : Key} {v : Value} (h : s.Meets key v) (reason : String) (good : Bool) :
    Orderly s (if good then .ok () else refuse key v reason) := by
  cases good with
  | true => exact nothing
  | false => exact refusal h reason

theorem checkAll {check : Value → Finding} {vs : List Value}
    (h : ∀ v ∈ vs, Orderly s (check v)) : Orderly s (checkAll check vs) := by
  induction vs with
  | nil => exact nothing
  | cons v rest ih =>
      have hv := h v List.mem_cons_self
      rw [Settings.checkAll]
      cases hcheck : check v with
      | ok _ => exact ih fun w hw => h w (List.mem_cons_of_mem _ hw)
      | error e =>
          rw [hcheck] at hv
          exact hv

theorem andThen {r r' : Finding} (h : Orderly s r) (h' : Orderly s r') :
    Orderly s (r >>= fun _ => r') := by
  cases hr : r with
  | ok _ => exact h'
  | error e =>
      rw [hr] at h
      exact h

end Orderly

theorem orderly_checkScripts (s : Settings) :
    Orderly s (withResult s.scriptLanguages.elements (checkAll (checkScript s.extensions))) := by
  refine .withResult (fun _ => isMissingMember_elements) fun vs hvs => .checkAll fun v hv => ?_
  have hmeets : s.Meets .scriptLanguages v := .inr ⟨vs, hvs, hv⟩
  exact .withResult (fun _ => isMissingMember_holdsElement) fun held _ => .ifGood hmeets _ held

theorem orderly_checkSize (s : Settings) : Orderly s (checkSize s.maxFileSize) := by
  rw [checkSize.eq_def]
  split
  · exact .nothing
  · refine .withResult (fun _ => isMissingMember_notPositive) fun bad _ => ?_
    have hmeets : s.Meets .maxFileSize s.maxFileSize := .inl rfl
    cases bad with
    | true => exact .refusal hmeets _
    | false => exact .nothing

theorem orderly_checkScore (s : Settings) : Orderly s (checkScore s.score) :=
  .withResult (fun _ => isMissingMember_between) fun good _ => .ifGood (.inl rfl) _ good

theorem orderly_checkPlaces (s : Settings) : Orderly s (checkPlaces s.decimalPlaces) :=
  .withResult (fun _ => isMissingMember_between) fun good _ => .ifGood (.inl rfl) _ good

theorem orderly_checkVerbosity (s : Settings) : Orderly s (checkVerbosity s.verbosity) :=
  .ifGood (.inl rfl) _ _

theorem checkExtension_eq_ok_iff {v : Value} :
    checkExtension v = .ok () ↔ ∃ name, v = .text name ∧ startsWith ['.'] name.toList := by
  cases v with
  | text name =>
      rw [checkExtension]
      by_cases hdot : startsWith ['.'] name.toList <;> simp [hdot, refuse]
  | _ => simp [checkExtension]

/-- The loop over the extensions ends in the order of things, unless it comes to a value that
is no text. -/
theorem checkExtensions_cases (s : Settings) :
    Orderly s (withResult s.extensions.elements (checkAll checkExtension))
      ∨ ∃ v, s.OddExtension v ∧ withResult s.extensions.elements (checkAll checkExtension)
          = .error (.mismatch (.noMember v.kind "startswith")) := by
  cases hvs : s.extensions.elements with
  | error m => exact .inl (.mismatch (isMissingMember_elements hvs))
  | ok vs =>
      rw [withResult]
      cases hcheck : checkAll checkExtension vs with
      | ok _ => exact .inl .nothing
      | error e =>
          obtain ⟨before, v, after, hsplit, hbefore, hv⟩ := checkAll_eq_error_iff.mp hcheck
          by_cases htext : ∃ name, v = .text name
          · obtain ⟨name, rfl⟩ := htext
            have hmeets : s.Meets .extensions (.text name) := .inr ⟨vs, hvs, by simp [hsplit]⟩
            rw [← hv, checkExtension]
            exact .inl (.ifGood hmeets _ _)
          · have hodd : ∀ name, v ≠ .text name := not_exists.mp htext
            rw [← hv, checkExtension.eq_2 v hodd]
            exact .inr ⟨v, ⟨before, after, hsplit ▸ hvs,
              fun w hw => checkExtension_eq_ok_iff.mp (hbefore w hw), hodd⟩, rfl⟩

theorem check_cases (s : Settings) :
    Orderly s s.check
      ∨ ∃ v, s.OddExtension v ∧ s.check = .error (.mismatch (.noMember v.kind "startswith")) := by
  rw [check]
  obtain h | ⟨v, hv, h⟩ := checkExtensions_cases s
  · exact .inl (h.andThen ((orderly_checkScripts s).andThen ((orderly_checkSize s).andThen
      ((orderly_checkScore s).andThen ((orderly_checkPlaces s).andThen
        (orderly_checkVerbosity s))))))
  · rw [h]
    exact .inr ⟨v, hv, rfl⟩

theorem check_of_oddExtension {s : Settings} {v : Value} (h : s.OddExtension v) :
    s.check = .error (.mismatch (.noMember v.kind "startswith")) := by
  obtain ⟨before, after, hvs, hbefore, hv⟩ := h
  have hcheck : checkAll checkExtension (before ++ v :: after)
      = .error (.mismatch (.noMember v.kind "startswith")) :=
    checkAll_eq_error_iff.mpr ⟨before, v, after, rfl,
      fun w hw => checkExtension_eq_ok_iff.mpr (hbefore w hw), checkExtension.eq_2 v hv⟩
  rw [check, hvs, withResult, hcheck]
  rfl

/-! ## Merging -/

/-- The files that are looked for, in order. -/
def filePaths (d : Disk) (home : Path) (file : Option Path) : List Path :=
  [(homeSource home).path, (workSource d).path] ++ file.toList

theorem mergeFile_cases (d : Disk) (t : Table Value) (source : Source) :
    (∃ news, readFile d source.path = .ok news ∧ mergeFile d t source = .ok (t.merge news))
      ∨ ∃ c, c.AboutConfiguration ∧ mergeFile d t source = .error (.complaint c) := by
  rw [mergeFile]
  cases h : readFile d source.path with
  | ok news => exact .inl ⟨news, rfl, rfl⟩
  | error e => exact .inr ⟨_, .inl rfl, rfl⟩

theorem gives_of_mergeIfPresent {d : Disk} {t t' : Table Value} {source : Source}
    (h : mergeIfPresent d t source = .ok t') : ∃ news, Gives d source.path news := by
  rw [mergeIfPresent] at h
  cases hhas : d.has source.path with
  | error f =>
      rw [hhas] at h
      cases h
  | ok found =>
      cases found with
      | false => exact ⟨[], .absent hhas⟩
      | true =>
          obtain ⟨news, hread, -⟩ | ⟨c, -, hmerge⟩ := mergeFile_cases d t source
          · exact ⟨news, .present hhas hread⟩
          · rw [hhas] at h
            cases hmerge.symm.trans h

/-- Merging a file fails with a complaint or because of its path. -/
theorem mergeIfPresent_error {d : Disk} {t : Table Value} {source : Source} {e : Fault}
    (h : mergeIfPresent d t source = .error e) :
    (∃ c, e = .complaint c ∧ c.AboutConfiguration)
      ∨ ∃ f, d.has source.path = .error f ∧ e = .disk f := by
  rw [mergeIfPresent] at h
  cases hhas : d.has source.path with
  | error f =>
      rw [hhas] at h
      cases h
      exact .inr ⟨f, rfl, rfl⟩
  | ok found =>
      rw [hhas] at h
      cases found with
      | false => cases h
      | true =>
          obtain ⟨news, -, hmerge⟩ | ⟨c, hc, hmerge⟩ := mergeFile_cases d t source
          · cases hmerge.symm.trans h
          · cases hmerge.symm.trans h
            exact .inl ⟨c, rfl, hc⟩

theorem mergeNamed_error {d : Disk} {t : Table Value} {file : Option Path} {e : Fault}
    (h : mergeNamed d t file = .error e) :
    (∃ c, e = .complaint c ∧ c.AboutConfiguration)
      ∨ ∃ p f, file = some p ∧ d.has p = .error f ∧ e = .disk f := by
  cases file with
  | none => cases h
  | some p =>
      rw [mergeNamed] at h
      cases hhas : d.has p with
      | error f =>
          rw [hhas] at h
          cases h
          exact .inr ⟨p, f, rfl, hhas, rfl⟩
      | ok found =>
          rw [hhas] at h
          cases found with
          | false =>
              cases h
              exact .inl ⟨_, rfl, .inl rfl⟩
          | true =>
              obtain ⟨news, -, hmerge⟩ | ⟨c, hc, hmerge⟩ := mergeFile_cases d t ⟨"config file", p⟩
              · cases hmerge.symm.trans h
              · cases hmerge.symm.trans h
                exact .inl ⟨c, rfl, hc⟩

theorem fromEnvironment_error {env : Environment} {ks : List Key} {c : Complaint}
    (h : fromEnvironment env ks = .error c) : c.AboutConfiguration := by
  induction ks with
  | nil => cases h
  | cons key rest ih =>
      rw [fromEnvironment] at h
      split at h
      · split at h
        · cases h
          exact .inl rfl
        · cases hrest : fromEnvironment env rest with
          | error c' =>
              rw [hrest] at h
              cases h
              exact ih hrest
          | ok t =>
              rw [hrest] at h
              cases h
      · exact ih h

theorem assign_error {t : Table Value} {s : Settings} {m : Mismatch}
    (h : assign s t = .error m) : m.isMissingMember = false := by
  induction t generalizing s with
  | nil => cases h
  | cons entry rest ih =>
      obtain ⟨name, v⟩ := entry
      rw [assign] at h
      split at h
      · cases h
        rfl
      · exact ih h

/-! ## Loading -/

/-- The settings that the sources give, before they are checked. -/
def Made (d : Disk) (env : Environment) (file : Option Path) (overrides : Table Value)
    (s : Settings) : Prop :=
  ∃ t, merged d env file overrides = .ok t ∧ assign default t = .ok s

/-- What loading fails with besides complaints. -/
inductive Escapes (d : Disk) (env : Environment) (file : Option Path)
    (overrides : Table Value) : Fault → Prop
  /-- Nothing says where the home is. -/
  | home (h : env.home? = none) : Escapes d env file overrides .homeUnknown
  /-- A name in the path of a file is too long to look for it, or the path is. -/
  | path {home p : Path} {before after : List Path} (hhome : env.home? = some home)
      (hpaths : filePaths d home file = before ++ p :: after)
      (hbefore : ∀ q ∈ before, ∃ t, Gives d q t)
      (hp : d.has p = .error (.refused .nameTooLong p.text)) :
      Escapes d env file overrides (.disk (.refused .nameTooLong p.text))
  /-- An extension is no text. -/
  | extension {s : Settings} {v : Value} (hs : Made d env file overrides s)
      (hv : s.OddExtension v) :
      Escapes d env file overrides (.mismatch (.noMember v.kind "startswith"))
  /-- A value that is refused has too many digits. -/
  | digits {s : Settings} {key : Key} {v : Value} {reason : String}
      (hs : Made d env file overrides s) (hv : s.Meets key v)
      (hrefuse : s.check = refuse key v reason) (hlong : v.isWritable = false) :
      Escapes d env file overrides (.number .wholeTooLong)

variable {d : Disk} {env : Environment} {file : Option Path} {overrides : Table Value}

theorem bind_eq_error {ε α β : Type} {x : Except ε α} {f : α → Except ε β} {e : ε}
    (h : x >>= f = .error e) : x = .error e ∨ ∃ a, x = .ok a ∧ f a = .error e := by
  cases x with
  | error e' =>
      cases h
      exact .inl rfl
  | ok a => exact .inr ⟨a, rfl, h⟩

theorem Escapes.of_has {home p : Path} {f : DiskFault} (hhome : env.home? = some home)
    (before after : List Path) (hpaths : filePaths d home file = before ++ p :: after)
    (hbefore : ∀ q ∈ before, ∃ t, Gives d q t) (hf : d.has p = .error f) :
    Escapes d env file overrides (.disk f) := by
  obtain rfl := Disk.fault_of_has hf
  exact .path hhome hpaths hbefore hf

theorem merged_error {e : Fault} (h : merged d env file overrides = .error e) :
    (∃ c, e = .complaint c ∧ c.AboutConfiguration) ∨ Escapes d env file overrides e := by
  rw [merged] at h
  cases hhome : env.home? with
  | none =>
      rw [hhome] at h
      cases h
      exact .inr (.home hhome)
  | some home =>
      simp only [hhome] at h
      obtain h | ⟨t₁, h₁, h⟩ := bind_eq_error h
      · refine (mergeIfPresent_error h).imp_right ?_
        rintro ⟨f, hf, rfl⟩
        exact .of_has hhome [] _ rfl (List.forall_mem_nil _) hf
      have hgives₁ := gives_of_mergeIfPresent h₁
      obtain h | ⟨t₂, h₂, h⟩ := bind_eq_error h
      · refine (mergeIfPresent_error h).imp_right ?_
        rintro ⟨f, hf, rfl⟩
        refine .of_has hhome [(homeSource home).path] _ rfl ?_ hf
        exact List.forall_mem_singleton.mpr hgives₁
      have hgives₂ := gives_of_mergeIfPresent h₂
      obtain h | ⟨t₃, h₃, h⟩ := bind_eq_error h
      · refine (mergeNamed_error h).imp_right ?_
        rintro ⟨p, f, rfl, hf, rfl⟩
        refine .of_has hhome [(homeSource home).path, (workSource d).path] [] rfl ?_ hf
        exact List.forall_mem_cons.mpr ⟨hgives₁, List.forall_mem_singleton.mpr hgives₂⟩
      cases henv : fromEnvironment env Key.all with
      | error c =>
          rw [henv] at h
          cases h
          exact .inl ⟨c, rfl, fromEnvironment_error henv⟩
      | ok news =>
          rw [henv] at h
          cases h

theorem merged_of_path {home p : Path} {before after : List Path} {f : DiskFault}
    (hhome : env.home? = some home) (hpaths : filePaths d home file = before ++ p :: after)
    (hbefore : ∀ q ∈ before, ∃ t, Gives d q t) (hp : d.has p = .error f) :
    merged d env file overrides = .error (.disk f) := by
  have hrefused (t : Table Value) {source : Source} (h : source.path = p) :
      mergeIfPresent d t source = .error (.disk f) := by
    rw [mergeIfPresent, h, hp]
  rw [merged, hhome]
  rw [filePaths] at hpaths
  rcases before with _ | ⟨q₁, _ | ⟨q₂, others⟩⟩
  · obtain ⟨hp₁, -⟩ := List.cons.inj hpaths
    simp only [hrefused [] hp₁, bind, Except.bind]
  · obtain ⟨rfl, hrest⟩ := List.cons.inj hpaths
    obtain ⟨hp₂, -⟩ := List.cons.inj hrest
    obtain ⟨t₁, h₁⟩ := hbefore _ List.mem_cons_self
    simp only [h₁.mergeIfPresent_eq, hrefused _ hp₂, bind, Except.bind]
  · obtain ⟨rfl, hrest⟩ := List.cons.inj hpaths
    obtain ⟨rfl, hfile⟩ := List.cons.inj hrest
    obtain ⟨t₁, h₁⟩ := hbefore _ List.mem_cons_self
    obtain ⟨t₂, h₂⟩ := hbefore _ (List.mem_cons_of_mem _ List.mem_cons_self)
    obtain rfl : file = some p := by
      cases file with
      | none => simp at hfile
      | some p' => cases others <;> simp_all
    simp only [h₁.mergeIfPresent_eq, h₂.mergeIfPresent_eq, mergeNamed, hp, bind, Except.bind]

theorem load_of_made {s : Settings} (h : Made d env file overrides s) :
    load d env file overrides = match s.check with
      | .ok () => .ok s
      | .error e => .error (complainOfMismatch e) := by
  obtain ⟨t, hmerged, hassign⟩ := h
  simp only [load, hmerged, ofTable, hassign]
  cases s.check <;> rfl

/-- A check that ends in the order of things ends in a complaint, unless it cannot write down
the value that it refuses. -/
theorem fault_of_orderly {s : Settings} (hs : Made d env file overrides s)
    (horderly : Orderly s s.check) {e : Fault}
    (h : load d env file overrides = .error e) :
    (∃ c, e = .complaint c ∧ c.AboutConfiguration) ∨ Escapes d env file overrides e := by
  rw [load_of_made hs] at h
  generalize hcheck : s.check = r at horderly h
  cases horderly with
  | nothing => cases h
  | mismatch hm =>
      simp only [complainOfMismatch, hm] at h
      cases h
      exact .inl ⟨_, rfl, .inl rfl⟩
  | @refusal key v hv reason =>
      rw [refuse] at h
      by_cases hlong : v.isWritable
      · rw [if_pos hlong] at h
        cases h
        exact .inl ⟨_, rfl, .inr rfl⟩
      · rw [if_neg hlong] at h
        cases h
        exact .inr (.digits hs hv hcheck (Bool.eq_false_iff.mpr hlong))

/-- **Loading fails with a complaint about the configuration, or in one of the ways listed.**
Each of those happens, whatever the sources are, and is no complaint. -/
theorem load_escapes (d : Disk) (env : Environment) (file : Option Path)
    (overrides : Table Value) :
    (∀ e, load d env file overrides = .error e →
        (∃ c, e = .complaint c ∧ c.AboutConfiguration) ∨ Escapes d env file overrides e)
      ∧ ∀ e, Escapes d env file overrides e →
          load d env file overrides = .error e ∧ ∀ c, e ≠ .complaint c := by
  refine ⟨fun e h => ?_, fun e h => ?_⟩
  · cases hmerged : merged d env file overrides with
    | error e' =>
        rw [load, hmerged] at h
        cases h
        exact merged_error hmerged
    | ok t =>
        cases hassign : assign default t with
        | error m =>
            simp only [load, hmerged, ofTable, hassign, complainOfMismatch,
              assign_error hassign] at h
            cases h
            exact .inl ⟨_, rfl, .inl rfl⟩
        | ok s =>
            have hs : Made d env file overrides s := ⟨t, hmerged, hassign⟩
            obtain horderly | ⟨v, hv, hcheck⟩ := check_cases s
            · exact fault_of_orderly hs horderly h
            · rw [load_of_made hs, hcheck] at h
              cases h
              exact .inr (.extension hs hv)
  · cases h with
    | home hhome =>
        refine ⟨?_, by simp⟩
        rw [load, merged, hhome]
    | path hhome hpaths hbefore hp =>
        refine ⟨?_, by simp⟩
        rw [load, merged_of_path hhome hpaths hbefore hp]
    | extension hs hv =>
        refine ⟨?_, by simp⟩
        rw [load_of_made hs, check_of_oddExtension hv]
        rfl
    | digits hs hv hrefuse hlong =>
        refine ⟨?_, by simp⟩
        rw [load_of_made hs, hrefuse, refuse, hlong]
        rfl

/-- A project file with a number among the extensions: loading fails, and not with a
complaint. -/
theorem load_numberedExtension :
    ∃ e, load (projectDisk "extensions=[1]") bareEnvironment none [] = .error e
      ∧ e.message = "'int' object has no attribute 'startswith'" ∧ ∀ c, e ≠ .complaint c := by
  have hdecode : decodeUtf8? (encodeUtf8 "extensions=[1]".toList)
      = some "extensions=[1]".toList := by decide +kernel
  have hparse : Toml.parse "extensions=[1]".toList = some [("extensions", .list [.whole 1])] := by
    cbv
  have hat := projectGiven_at hdecode hparse (show (Table.keys ([] : Table Value)).Nodup from .nil)
  let s : Settings := { default with extensions := .list [.whole 1] }
  have hmade : Made (projectDisk "extensions=[1]") bareEnvironment none [] s :=
    ⟨_, hat.merged_eq, rfl⟩
  have hodd : s.OddExtension (.whole 1) := ⟨[], [], rfl, List.forall_mem_nil _, by simp⟩
  refine ⟨.mismatch (.noMember "int" "startswith"), ?_, by decide, by simp⟩
  rw [load_of_made hmade, check_of_oddExtension hodd]
  rfl

end Settings

end CodeGauge
