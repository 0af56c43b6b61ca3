import CodeGauge.Proofs.Table
import CodeGauge.Toml.Document

/-!
# Keys of a document

A document gives every key of its outermost table one value, however its
statements are put: each of them changes that table by putting a value under
a name (`Document.nodup_within`).
-/

namespace CodeGauge.Toml

theorem Document.nodup_within {f : Table Value → Option (Table Value)}
    (hf : ∀ t t', t.keys.Nodup → f t = some t' → t'.keys.Nodup) {name : Name}
    {t t' : Table Value} (ht : t.keys.Nodup) (h : within f name t = some t') :
    t'.keys.Nodup := by
  cases name with
  | nil => exact hf t t' ht h
  | cons part rest =>
      rw [within] at h
      split at h
      · obtain ⟨inner, -, rfl⟩ := Option.map_eq_some_iff.mp h
        exact Table.nodup_put ht _ _
      · obtain ⟨inner, -, rfl⟩ := Option.map_eq_some_iff.mp h
        exact Table.nodup_put ht _ _
      · split at h
        · obtain ⟨inner, -, rfl⟩ := Option.map_eq_some_iff.mp h
          exact Table.nodup_put ht _ _
        · cases h
      · cases h

theorem Document.nodup_addItem {last : String} {t t' : Table Value} (ht : t.keys.Nodup)
    (h : addItem last t = some t') : t'.keys.Nodup := by
  rw [addItem] at h
  split at h
  · cases h
    exact Table.nodup_put ht _ _
  · cases h
    exact Table.nodup_put ht _ _
  · cases h

theorem Document.nodup_addValue {last : String} {v : Value} {t t' : Table Value}
    (ht : t.keys.Nodup) (h : addValue last v t = some t') : t'.keys.Nodup := by
  rw [addValue] at h
  split at h
  · cases h
  · cases h
    exact Table.nodup_put ht _ _

theorem Document.nodup_openTable {d d' : Document} {name : Name} (hd : d.data.keys.Nodup)
    (h : d.openTable name = some d') : d'.data.keys.Nodup := by
  simp only [openTable] at h
  split at h
  · cases h
  · obtain ⟨data, hdata, rfl⟩ := Option.map_eq_some_iff.mp h
    refine nodup_within ?_ hd hdata
    rintro t _ ht ⟨⟩
    exact ht

theorem Document.nodup_openItem {d d' : Document} {name : Name} (hd : d.data.keys.Nodup)
    (h : d.openItem name = some d') : d'.data.keys.Nodup := by
  simp only [openItem] at h
  split at h
  · cases h
  · split at h
    · cases h
    · obtain ⟨data, hdata, rfl⟩ := Option.map_eq_some_iff.mp h
      exact nodup_within (fun _ _ => nodup_addItem) hd hdata

theorem Document.nodup_insert {d d' : Document} {heading key : Name} {v : Value}
    (hd : d.data.keys.Nodup) (h : d.insert heading key v = some d') : d'.data.keys.Nodup := by
  simp only [insert] at h
  split at h
  · cases h
  · split at h
    · cases h
    · split at h
      · cases h
      · obtain ⟨data, hdata, rfl⟩ := Option.map_eq_some_iff.mp h
        exact nodup_within (fun _ _ => nodup_addValue) hd hdata

theorem Document.nodup_apply {d d' : Document} {heading heading' : Name} {statement : Statement}
    (hd : d.data.keys.Nodup) (h : d.apply heading statement = some (d', heading')) :
    d'.data.keys.Nodup := by
  cases statement with
  | nothing =>
      cases h
      exact hd
  | heading name =>
      obtain ⟨d₁, hd₁, heq⟩ := Option.map_eq_some_iff.mp h
      cases heq
      exact nodup_openTable hd hd₁
  | item name =>
      obtain ⟨d₁, hd₁, heq⟩ := Option.map_eq_some_iff.mp h
      cases heq
      exact nodup_openItem hd hd₁
  | pair key v =>
      obtain ⟨d₁, hd₁, heq⟩ := Option.map_eq_some_iff.mp h
      cases heq
      exact nodup_insert hd hd₁

theorem nodup_readDocument {fuel : Nat} {d d' : Document} {heading : Name} {s : List Char}
    (hd : d.data.keys.Nodup) (h : readDocument fuel d heading s = some d') :
    d'.data.keys.Nodup := by
  induction fuel generalizing d heading s with
  | zero => cases h
  | succ fuel ih =>
      rw [readDocument] at h
      split at h
      · cases h
      · split at h
        · cases h
        · rename_i happly
          have hd₁ := Document.nodup_apply hd happly
          split at h
          · exact ih hd₁ h
          · cases h
            exact hd₁
          · cases h

/-- A file gives every key one value. -/
theorem nodup_parse {text : List Char} {t : Table Value} (h : parse text = some t) :
    t.keys.Nodup := by
  obtain ⟨d, hd, rfl⟩ := Option.map_eq_some_iff.mp h
  exact nodup_readDocument (d := .empty) List.nodup_nil hd

end CodeGauge.Toml
