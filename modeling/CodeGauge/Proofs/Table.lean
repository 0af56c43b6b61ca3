import CodeGauge.Table

/-!
# Laws of tables and names

Each operation of a table seen through the two views that everything else
reads it by: the list of its keys and the look-up of one name. A table is
used from here on through these laws only.
-/

namespace CodeGauge

namespace Table

variable {α : Type}

theorem mem_keys_iff {t : Table α} {name : String} :
    name ∈ t.keys ↔ ∃ v, t.get? name = some v := by
  induction t with
  | nil => simp [keys, get?]
  | cons entry rest ih =>
      obtain ⟨k, v⟩ := entry
      simp only [keys, List.map_cons, List.mem_cons, get?] at ih ⊢
      by_cases hk : k = name
      · simp [hk]
      · rw [if_neg hk, ← ih]
        exact ⟨fun h => h.resolve_left fun he => hk he.symm, Or.inr⟩

theorem has_iff {t : Table α} {name : String} : t.has name = true ↔ name ∈ t.keys := by
  rw [mem_keys_iff, has, Option.isSome_iff_exists]

theorem get?_eq_some_iff {t : Table α} (ht : t.keys.Nodup) {name : String} {v : α} :
    t.get? name = some v ↔ (name, v) ∈ t := by
  induction t with
  | nil => simp [get?]
  | cons entry rest ih =>
      obtain ⟨k, w⟩ := entry
      obtain ⟨hk, hrest⟩ : k ∉ keys rest ∧ (keys rest).Nodup := by
        simpa only [keys, List.map_cons, List.nodup_cons] using ht
      rw [get?, List.mem_cons, Prod.mk.injEq]
      by_cases hname : k = name
      · subst hname
        have hv : (k, v) ∉ rest := fun hv => hk (List.mem_map_of_mem hv)
        simp [hv, eq_comm]
      · rw [if_neg hname, ih hrest]
        exact ⟨Or.inr, fun h => h.resolve_left fun he => hname he.1.symm⟩

theorem eq_of_mem {t : Table α} (ht : t.keys.Nodup) {name : String} {v w : α}
    (hv : (name, v) ∈ t) (hw : (name, w) ∈ t) : v = w := by
  rw [← get?_eq_some_iff ht] at hv hw
  exact Option.some.inj (hv.symm.trans hw)

/-! ## Putting a new name -/

theorem put_of_not_mem {t : Table α} {name : String} (v : α) (h : name ∉ t.keys) :
    t.put name v = t ++ [(name, v)] := by
  induction t with
  | nil => rfl
  | cons entry rest ih =>
      obtain ⟨k, w⟩ := entry
      simp only [keys, List.map_cons, List.mem_cons, not_or] at h
      rw [put, if_neg fun hk => h.1 hk.symm, ih h.2, List.cons_append]

theorem keys_append (t u : Table α) : keys (t ++ u) = t.keys ++ u.keys :=
  List.map_append

theorem get?_append (t u : Table α) (name : String) :
    get? name (t ++ u) = (t.get? name).or (u.get? name) := by
  induction t with
  | nil => rfl
  | cons entry rest ih =>
      obtain ⟨k, v⟩ := entry
      rw [List.cons_append, get?, get?]
      by_cases hk : k = name
      · simp [hk]
      · rw [if_neg hk, if_neg hk, ih]

theorem get?_put (t : Table α) (name : String) (v : α) (other : String) :
    (t.put name v).get? other = if name = other then some v else t.get? other := by
  induction t with
  | nil => simp [put, get?]
  | cons entry rest ih =>
      obtain ⟨k, w⟩ := entry
      rw [put]
      by_cases hk : k = name
      · subst hk
        by_cases ho : k = other <;> simp [get?, ho]
      · rw [if_neg hk, get?, ih, get?]
        by_cases ho : k = other
        · have hn : name ≠ other := fun he => hk (ho.trans he.symm)
          simp [ho, hn]
        · simp [ho]

theorem keys_put_of_mem {t : Table α} {name : String} (v : α) (h : name ∈ t.keys) :
    (t.put name v).keys = t.keys := by
  induction t with
  | nil => cases h
  | cons entry rest ih =>
      obtain ⟨k, w⟩ := entry
      rw [put]
      split
      · rfl
      · rename_i hk
        simp only [keys, List.map_cons, List.mem_cons] at h ih ⊢
        rw [ih (h.resolve_left fun he => hk he.symm)]

theorem keys_put (t : Table α) (name : String) (v : α) :
    (t.put name v).keys = Names.add t.keys name := by
  rw [Names.add]
  split
  · rename_i h
    exact keys_put_of_mem v (List.contains_iff_mem.mp h)
  · rename_i h
    rw [put_of_not_mem v fun hm => h (List.contains_iff_mem.mpr hm), keys_append]
    rfl

/-! ## Merging -/

theorem keys_merge (t news : Table α) : (t.merge news).keys = news.keys.foldl Names.add t.keys := by
  induction news generalizing t with
  | nil => rfl
  | cons entry rest ih =>
      obtain ⟨k, v⟩ := entry
      exact (ih (t.put k v)).trans (by rw [keys_put]; rfl)

/-- Entries under new names are put behind the others. -/
theorem merge_eq_append {t news : Table α} (h : (t ++ news).keys.Nodup) :
    t.merge news = t ++ news := by
  induction news generalizing t with
  | nil => exact (List.append_nil t).symm
  | cons entry rest ih =>
      obtain ⟨k, v⟩ := entry
      have hk : k ∉ t.keys := by
        rw [keys_append] at h
        exact fun hmem => (List.nodup_append.mp h).2.2 k hmem k List.mem_cons_self rfl
      have hput : t.merge ((k, v) :: rest) = (t ++ [(k, v)]).merge rest := by
        rw [← put_of_not_mem v hk]
        rfl
      rw [List.append_cons] at h ⊢
      rw [hput, ih h]

/-- What is merged in wins. -/
theorem get?_merge {news : Table α} (hnews : news.keys.Nodup) (t : Table α) (name : String) :
    (t.merge news).get? name = (news.get? name).or (t.get? name) := by
  induction news generalizing t with
  | nil => rfl
  | cons entry rest ih =>
      obtain ⟨k, v⟩ := entry
      obtain ⟨hk, hrest⟩ : k ∉ keys rest ∧ (keys rest).Nodup := by
        simpa only [keys, List.map_cons, List.nodup_cons] using hnews
      have hmerge : (t.merge ((k, v) :: rest)).get? name
          = (get? name rest).or ((t.put k v).get? name) := ih hrest (t.put k v)
      rw [hmerge, get?_put, get?]
      by_cases hname : k = name
      · subst hname
        have hnone : get? k rest = none := by
          rw [Option.eq_none_iff_forall_ne_some]
          exact fun w hw => hk (mem_keys_iff.mpr ⟨w, hw⟩)
        simp [hnone]
      · simp [hname]

theorem get?_drop (t : Table α) (name other : String) :
    (t.drop name).get? other = if name = other then none else t.get? other := by
  induction t with
  | nil => simp [drop, get?]
  | cons entry rest ih =>
      obtain ⟨k, v⟩ := entry
      simp only [drop, List.filter_cons, get?] at ih ⊢
      by_cases hk : k = name
      · subst hk
        simp only [bne_self_eq_false, Bool.false_eq_true, if_false, ih]
        by_cases ho : k = other <;> simp [ho]
      · simp only [bne_iff_ne.mpr hk, if_true, get?, ih]
        by_cases ho : k = other
        · have hn : name ≠ other := fun he => hk (ho.trans he.symm)
          simp [ho, hn]
        · simp [ho]

theorem keys_drop (t : Table α) (name : String) :
    (t.drop name).keys = t.keys.filter (· != name) := by
  rw [drop, keys, keys, List.filter_map]
  rfl

/-! ## Changing a value -/

@[simp] theorem keys_adjust (t : Table α) (name : String) (f : α → α) :
    (t.adjust name f).keys = t.keys := by
  induction t with
  | nil => rfl
  | cons entry rest ih =>
      obtain ⟨k, v⟩ := entry
      rw [adjust]
      split
      · rfl
      · simp only [keys, List.map_cons] at ih ⊢
        rw [ih]

theorem get?_adjust (t : Table α) (name : String) (f : α → α) (other : String) :
    (t.adjust name f).get? other
      = if name = other then (t.get? other).map f else t.get? other := by
  induction t with
  | nil => simp [adjust, get?]
  | cons entry rest ih =>
      obtain ⟨k, v⟩ := entry
      rw [adjust]
      by_cases hk : k = name
      · subst hk
        by_cases ho : k = other
        · simp [get?, ho]
        · simp [get?, ho]
      · rw [if_neg hk, get?, ih, get?]
        by_cases ho : k = other
        · have hn : name ≠ other := fun he => hk (ho.trans he.symm)
          simp [ho, hn]
        · simp [ho]

end Table

namespace Names

theorem mem_add {ns : Names} {n x : String} : x ∈ ns.add n ↔ x ∈ ns ∨ x = n := by
  unfold add
  split
  · rename_i h
    have hn : n ∈ ns := List.contains_iff_mem.mp h
    exact ⟨Or.inl, fun hx => hx.elim id fun he => he ▸ hn⟩
  · simp

theorem mem_ite_add {p : Prop} [Decidable p] {ns : Names} {n x : String} :
    x ∈ (if p then ns.add n else ns) ↔ x ∈ ns ∨ (p ∧ x = n) := by
  by_cases hp : p
  · rw [if_pos hp, mem_add, and_iff_right hp]
  · rw [if_neg hp, or_iff_left fun h => hp h.1]

theorem nodup_add {ns : Names} (h : ns.Nodup) (n : String) : (ns.add n).Nodup := by
  unfold add
  split
  · exact h
  · rename_i hn
    have hn' : n ∉ ns := fun hm => hn (List.contains_iff_mem.mpr hm)
    rw [List.nodup_append]
    refine ⟨h, List.pairwise_singleton .., ?_⟩
    rintro x hx y hy rfl
    exact hn' (List.mem_singleton.mp hy ▸ hx)

theorem nodup_foldl_add {ns : Names} (h : ns.Nodup) (l : List String) : (l.foldl add ns).Nodup := by
  induction l generalizing ns with
  | nil => exact h
  | cons n rest ih => exact ih (nodup_add h n)

/-- The first name of a kind does not depend on repetitions. -/
theorem find?_foldl_add (ns : Names) (l : List String) (p : String → Bool) :
    (l.foldl add ns).find? p = (ns ++ l).find? p := by
  induction l generalizing ns with
  | nil => rw [List.foldl_nil, List.append_nil]
  | cons n rest ih =>
      rw [List.foldl_cons, ih, List.find?_append, List.find?_append, List.find?_cons]
      unfold add
      split
      · rename_i hn
        have hmem : n ∈ ns := List.contains_iff_mem.mp hn
        cases hp : p n with
        | false => rfl
        | true =>
            obtain ⟨m, hm⟩ := Option.isSome_iff_exists.mp (List.find?_isSome.mpr ⟨n, hmem, hp⟩)
            rw [hm, Option.some_or, Option.some_or]
      · rw [List.find?_append, List.find?_cons, List.find?_nil]
        cases hp : p n <;> simp

theorem nodup_ite_add {p : Prop} [Decidable p] {ns : Names} (h : ns.Nodup) (n : String) :
    (if p then ns.add n else ns).Nodup := by
  split
  · exact nodup_add h n
  · exact h

/-- Adding names one by one keeps the first occurrence of each. -/
theorem ofList_eq_eraseDups (l : List String) : ofList l = l.eraseDups := by
  suffices h : ∀ (done rest : List String),
      rest.foldl add done.eraseDups = (done ++ rest).eraseDups from h [] l
  intro done rest
  induction rest generalizing done with
  | nil => rw [List.foldl_nil, List.append_nil]
  | cons n rest ih =>
      have hn : add done.eraseDups n = (done ++ [n]).eraseDups := by
        rw [List.eraseDups_append, add]
        by_cases hm : n ∈ done
        · simp [hm, List.removeAll]
        · simp [hm, List.removeAll, List.eraseDups_cons]
      rw [List.foldl_cons, hn, ih (done ++ [n]), List.append_assoc, List.singleton_append]

end Names

namespace Table

variable {α : Type}

theorem nodup_put {t : Table α} (h : t.keys.Nodup) (name : String) (v : α) :
    (t.put name v).keys.Nodup := by
  rw [keys_put]
  exact Names.nodup_add h name

/-- The first key of a kind is that of the table merged into, if there is one. -/
theorem find?_merge (t news : Table α) (p : String → Bool) :
    (t.merge news).keys.find? p = (t.keys.find? p).or (news.keys.find? p) := by
  rw [keys_merge, Names.find?_foldl_add, List.find?_append]

theorem nodup_merge {t : Table α} (h : t.keys.Nodup) (news : Table α) :
    (t.merge news).keys.Nodup := by
  rw [keys_merge]
  exact Names.nodup_foldl_add h news.keys

end Table

end CodeGauge
