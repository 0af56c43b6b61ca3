import CodeGauge.Proofs.CallGraph.Lexical
import CodeGauge.Proofs.Tally
import CodeGauge.Survey

/-!
# Which files can be measured

Line counts, decision points and variables are there for every text and
every tree, and so is the call graph: its builder never fails on the steps
of a tree. What can fail is the tally, and only over a string whose escapes
have no value. `measure_result_eq_ok_iff` follows this up through the
measurement of a file: it gives the files that cannot be measured, and the
fault that each ends with. A survey gives a report only when every file of
it was measured (`measured_of_addFiles`).
-/

namespace CodeGauge

open Literal Text

/-! ## Trees -/

theorem Flow.exists_ofTree_eq_ok (t : Tree) : ∃ flow, Flow.ofTree t = .ok flow := by
  obtain ⟨b, -, hflow⟩ := Flow.ofTree_passes t
  exact ⟨_, hflow⟩

theorem Survey.measureTree_eq_error_iff {t : Tree} {fault : Fault} :
    measureTree t = .error fault ↔ ∃ e, fault = .literal e ∧ FirstValueless t.preorder e := by
  obtain ⟨flow, hflow⟩ := Flow.exists_ofTree_eq_ok t
  simp only [← Tally.ofTree_eq_error_iff, measureTree, hflow]
  cases Tally.ofTree t with
  | error e => simp [eq_comm]
  | ok tally => simp

/-! ## Files -/

theorem installed?_eq_some_iff {language : Value} {name : String} :
    installed? language = some name ↔ language = .text name ∧ name ∈ installedLanguages := by
  cases language with
  | text s =>
      simp only [installed?, List.contains_iff_mem, Option.ite_none_right_eq_some,
        Option.some.injEq, Value.text.injEq]
      constructor
      · rintro ⟨hs, rfl⟩
        exact ⟨rfl, hs⟩
      · rintro ⟨rfl, hs⟩
        exact ⟨hs, rfl⟩
  | _ => simp [installed?]

theorem parseStrict_eq_ok_iff {parser : Parser} {path : Path} {language : Value}
    {source : Bytes} {t : Tree} :
    parseStrict parser path language source = .ok t
      ↔ ∃ name, installed? language = some name
          ∧ parser path name source = some ⟨t, false⟩ := by
  rw [parseStrict]
  cases hlang : installed? language with
  | none => simp
  | some name =>
      cases hparse : parser path name source with
      | none => simp [hparse]
      | some p =>
          obtain ⟨root, hasError⟩ := p
          cases hasError <;> simp [hparse]

theorem Traced.andThen_result_eq_ok_iff {ε α β : Type} {x : Traced ε α} {f : α → Traced ε β}
    {b : β} : (x.andThen f).result = .ok b
      ↔ ∃ a, x.result = .ok a ∧ (f a).result = .ok b := by
  rw [andThen]
  cases x.result <;> simp

namespace Survey

/-- `Unmeasurable parser file fault`: the file cannot be measured, because
its language is a list or a table, or because it has a tree without errors
and a string literal in there has no value. -/
inductive Unmeasurable (parser : Parser) (file : SourceFile) : Fault → Prop
  | language {l : Value} {m : Mismatch} (hl : file.language = some l)
      (hm : l.hashable = .error m) : Unmeasurable parser file (.mismatch m)
  | literal {name : String} {t : Tree} {e : LiteralFault}
      (hl : file.language = some (.text name)) (hname : name ∈ installedLanguages)
      (ht : parser file.path name (encodeUtf8 file.text.toList) = some ⟨t, false⟩)
      (he : FirstValueless t.preorder e) : Unmeasurable parser file (.literal e)

theorem unmeasurable_of_measure {parser : Parser} {file : SourceFile} {fault : Fault}
    (h : (measure parser file).result = .error fault) : Unmeasurable parser file fault := by
  rw [measure] at h
  cases hl : file.language with
  | none =>
      simp only [hl] at h
      cases h
  | some language =>
      simp only [hl] at h
      cases hm : language.hashable with
      | error m =>
          simp only [hm] at h
          cases h
          exact .language hl hm
      | ok _ =>
          simp only [hm] at h
          cases ht : parseStrict parser file.path language (encodeUtf8 file.text.toList) with
          | error r =>
              simp only [ht] at h
              cases h
          | ok t =>
              simp only [ht, Traced.ofExcept] at h
              obtain ⟨name, hname, hparse⟩ := parseStrict_eq_ok_iff.mp ht
              obtain ⟨rfl, hmem⟩ := installed?_eq_some_iff.mp hname
              cases htree : measureTree t with
              | ok m =>
                  rw [htree] at h
                  cases h
              | error fault' =>
                  rw [htree] at h
                  cases h
                  obtain ⟨e, rfl, he⟩ := measureTree_eq_error_iff.mp htree
                  exact .literal hl hmem hparse he

theorem measure_of_unmeasurable {parser : Parser} {file : SourceFile} {fault : Fault}
    (h : Unmeasurable parser file fault) : (measure parser file).result = .error fault := by
  cases h with
  | language hl hm => simp only [measure, hl, hm, Traced.fail]
  | @literal name t e hl hname hparse he =>
      have hstrict : parseStrict parser file.path (.text name) (encodeUtf8 file.text.toList)
          = .ok t :=
        parseStrict_eq_ok_iff.mpr ⟨name, installed?_eq_some_iff.mpr ⟨rfl, hname⟩, hparse⟩
      have htree : measureTree t = .error (.literal e) :=
        measureTree_eq_error_iff.mpr ⟨e, rfl, he⟩
      simp only [measure, hl, Value.hashable, hstrict, htree, Traced.ofExcept, Except.map]

/-! ## Surveys -/

theorem measured_of_addFile {parser : Parser} {d : Disk} {s : Settings} {r r' : Report}
    {path : Path} (h : (addFile parser d s r path).result = .ok r') :
    ∃ file m, readSource d s path = .ok file ∧ (measure parser file).result = .ok m := by
  obtain ⟨file, hfile, h⟩ := Traced.andThen_result_eq_ok_iff.mp h
  obtain ⟨m, hm, -⟩ := Traced.andThen_result_eq_ok_iff.mp h
  exact ⟨file, m, hfile, hm⟩

/-- A survey without a log file that gives a report has measured every file. -/
theorem measured_of_addFiles {parser : Parser} {d : Disk} {s : Settings} {r r' : Report}
    {files : List Path} (h : (addFiles parser .silent d s r files).result = .ok r') :
    ∀ path ∈ files, ∃ file m, readSource d s path = .ok file
      ∧ (measure parser file).result = .ok m := by
  induction files generalizing r with
  | nil => exact fun path hpath => absurd hpath List.not_mem_nil
  | cons path rest ih =>
      obtain ⟨r₁, hfirst, hrest⟩ := Traced.andThen_result_eq_ok_iff.mp h
      rw [Sink.silent_after] at hrest
      exact List.forall_mem_cons.mpr ⟨measured_of_addFile hfirst, ih hrest⟩

/-- **A file is measured unless a string in it has no value.** The call graph
is there for every tree, and the tally unless the tree has a string literal
with an escape that has no value. So a file cannot be measured exactly when
it has such a literal in a tree without errors, or a list or a table for its
language; and a survey gives a report only if it meets no such file. -/
theorem measure_result_eq_ok_iff (parser : Parser) (file : SourceFile) :
    ((∃ m, (measure parser file).result = .ok m) ↔ ∀ fault, ¬Unmeasurable parser file fault)
      ∧ (∀ fault, (measure parser file).result = .error fault ↔ Unmeasurable parser file fault)
      ∧ (∀ t, ∃ flow, Flow.ofTree t = .ok flow)
      ∧ (∀ t e, Tally.ofTree t = .error e ↔ FirstValueless t.preorder e)
      ∧ ∀ d s r r' files path, (addFiles parser .silent d s r files).result = .ok r' →
          path ∈ files → readSource d s path = .ok file →
            ∀ fault, ¬Unmeasurable parser file fault := by
  have hfault : ∀ fault, (measure parser file).result = .error fault
      ↔ Unmeasurable parser file fault :=
    fun fault => ⟨unmeasurable_of_measure, measure_of_unmeasurable⟩
  have hok : (∃ m, (measure parser file).result = .ok m)
      ↔ ∀ fault, ¬Unmeasurable parser file fault := by
    simp only [← hfault]
    cases (measure parser file).result <;> simp
  refine ⟨hok, hfault, Flow.exists_ofTree_eq_ok, fun t e => Tally.ofTree_eq_error_iff, ?_⟩
  intro d s r r' files path hreport hpath hread
  obtain ⟨file', m, hread', hm⟩ := measured_of_addFiles hreport path hpath
  obtain rfl := Except.ok.inj (hread.symm.trans hread')
  exact hok.mp ⟨m, hm⟩

/-- A path in an attribute of an element. Backslashes are no escapes there,
so the text is without errors. -/
def pathAttribute : SourceFile :=
  ⟨.ofText "app.jsx", "<a b=\"C:\\users\"/>;", some (.text "javascript")⟩

def pathSource : Bytes := encodeUtf8 pathAttribute.text.toList

def pathLiteral : Tree :=
  .spanning pathSource "string" true 5 15 none [
    .spanning pathSource "\"" false 5 6 none [],
    .spanning pathSource "string_fragment" true 6 14 none [],
    .spanning pathSource "\"" false 14 15 none []]

def pathAttributeTree : Tree :=
  .spanning pathSource "program" true 0 18 none [
    .spanning pathSource "expression_statement" true 0 18 none [
      .spanning pathSource "jsx_self_closing_element" true 0 17 none [
        .spanning pathSource "<" false 0 1 none [],
        .spanning pathSource "identifier" true 1 2 none [],
        .spanning pathSource "jsx_attribute" true 3 15 none [
          .spanning pathSource "property_identifier" true 3 4 none [],
          .spanning pathSource "=" false 4 5 none [],
          pathLiteral],
        .spanning pathSource "/>" false 15 17 none []],
      .spanning pathSource ";" false 17 18 none []]]

theorem valueless_pathLiteral : pathLiteral.Valueless .escapeCutShort := by
  have htext : pathLiteral.text.toList = ['"', 'C', ':', '\\', 'u', 's', 'e', 'r', 's', '"'] := by
    decide +kernel
  refine ⟨rfl, rfl, ['C'.toNat, ':'.toNat], ['u', 's', 'e', 'r', 's'], ?_, ?_⟩
  · rw [htext]
    exact .raw (by decide) (.raw (by decide) .here)
  · exact .cutShort (braced?_eq_none_iff.mp (by decide)) (digitsOf?_eq_none_iff.mp (by decide))

theorem firstValueless_pathAttributeTree :
    FirstValueless pathAttributeTree.preorder .escapeCutShort := by
  refine ⟨pathAttributeTree.preorder.take 8, pathLiteral, pathAttributeTree.preorder.drop 9, rfl,
    fun w hw e hv => ?_, valueless_pathLiteral⟩
  have hkinds : ∀ w ∈ pathAttributeTree.preorder.take 8, w.kind ≠ "string" := by
    decide
  exact hkinds w hw hv.1

theorem measure_result_pathAttribute :
    (measure (fun _ _ _ => some ⟨pathAttributeTree, false⟩) pathAttribute).result
      = .error (.literal .escapeCutShort) :=
  measure_of_unmeasurable (.literal rfl (by decide) rfl firstValueless_pathAttributeTree)

end Survey

end CodeGauge
