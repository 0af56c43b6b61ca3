import Mathlib
import CodeGauge.Markup.Basic
import CodeGauge.Proofs.Console
import CodeGauge.Proofs.Text.Digit

/-!
# Cutting markup into pieces

A text that holds no tag is one piece, also in front of a tag, unless it ends in a backslash: then
the tag becomes text, or loses the backslash (`piecesFrom_append`). So a text that is cut at its
tags comes in these pieces (`exists_piecesFrom_tagged`).
-/

namespace CodeGauge.Markup

open Console

/-! ## Tags -/

theorem append_drop_takeWhile (p : Char → Bool) (s : List Char) :
    s.takeWhile p ++ s.drop (s.takeWhile p).length = s :=
  List.prefix_iff_eq_append.mp (List.takeWhile_prefix p)

/-- A tag is closed before another one can start. -/
theorem exists_of_tagAt? {s body : List Char} (h : tagAt? s = some body) :
    ∃ first inside after, body = first :: inside ∧ s = '[' :: first :: (inside ++ ']' :: after)
      ∧ startsTag first = true ∧ '[' ∉ inside := by
  rw [tagAt?.eq_def] at h
  split at h
  · rename_i first rest
    dsimp only at h
    split at h
    · rename_i hclosed
      obtain rfl := Option.some.inj h
      rw [Bool.and_eq_true, beq_iff_eq] at hclosed
      have hsplit := append_drop_takeWhile (fun x => x != '[' && x != ']') rest
      have hinside : '[' ∉ rest.takeWhile fun x => x != '[' && x != ']' := by
        intro hmem
        have := List.all_eq_true.mp List.all_takeWhile _ hmem
        simp at this
      generalize rest.takeWhile (fun x => x != '[' && x != ']') = inside at *
      obtain ⟨after, hafter⟩ : ∃ after, rest.drop inside.length = ']' :: after := by
        cases hdrop : rest.drop inside.length with
        | nil => simp [hdrop] at hclosed
        | cons x after =>
            rw [hdrop, List.head?_cons] at hclosed
            exact ⟨after, by rw [Option.some.inj hclosed.2]⟩
      exact ⟨first, inside, after, rfl, by rw [← hafter, hsplit], hclosed.1, hinside⟩
    · cases h
  · cases h

theorem tagAt?_drop {s : List Char} (h : ¬HoldsTag s) (k : Nat) : tagAt? (s.drop k) = none := by
  by_contra hsome
  obtain ⟨body, hbody⟩ := Option.ne_none_iff_exists'.mp hsome
  obtain ⟨first, inside, after, -, heq, htag⟩ := exists_of_tagAt? hbody
  exact h ⟨s.take k, first, inside, after, by rw [← heq, List.take_append_drop], htag⟩

theorem not_holdsTag_of_cons {c : Char} {s : List Char} (h : ¬HoldsTag (c :: s)) :
    ¬HoldsTag s := by
  rintro ⟨before, first, inside, after, heq, htag⟩
  exact h ⟨c :: before, first, inside, after, congrArg (c :: ·) heq, htag⟩

theorem tagAt?_tag {c : Char} {run : List Char} (hc : startsTag c = true)
    (hrun : ∀ x ∈ run, x ≠ '[' ∧ x ≠ ']') (rest : List Char) :
    tagAt? ('[' :: (c :: run ++ ']' :: rest)) = some (c :: run) := by
  have htake : (run ++ ']' :: rest).takeWhile (fun x => x != '[' && x != ']') = run := by
    rw [List.takeWhile_append_of_pos fun x hx => by simpa using hrun x hx]
    simp
  rw [List.cons_append, tagAt?]
  simp only [htake, List.drop_left, hc, List.head?_cons, beq_self_eq_true, Bool.and_self, if_true]

theorem takeWhile_append_of_head? {p : Char → Bool} {tail : List Char}
    (h : ∀ c ∈ tail.head?, p c = false) (s : List Char) :
    (s ++ tail).takeWhile p = s.takeWhile p := by
  induction s with
  | nil =>
      cases tail with
      | nil => rfl
      | cons c tail => exact List.takeWhile_cons_of_neg (by simp [h c rfl])
  | cons c s ih => rw [List.cons_append, List.takeWhile_cons, List.takeWhile_cons, ih]

theorem head?_append_beq {c d : Char} {tail : List Char} (h : ∀ x ∈ tail.head?, x = d)
    (hne : d ≠ c) (s : List Char) : ((s ++ tail).head? == some c) = (s.head? == some c) := by
  cases s with
  | cons x s => rfl
  | nil =>
      cases tail with
      | nil => rfl
      | cons x tail =>
          obtain rfl := h x rfl
          exact beq_false_of_ne fun heq => hne (Option.some.inj heq)

/-- What starts with a bracket does not complete a tag. -/
theorem tagAt?_append {s tail : List Char} (hs : s ≠ []) (htail : ∀ c ∈ tail.head?, c = '[') :
    tagAt? (s ++ tail) = tagAt? s := by
  match s with
  | [] => exact absurd rfl hs
  | [x] =>
      cases tail with
      | nil => rw [List.append_nil]
      | cons c tail =>
          obtain rfl := htail c rfl
          by_cases hx : x = '['
          · subst hx
            simp [tagAt?, startsTag]
          · simp [tagAt?, hx]
  | x :: c :: rest =>
      by_cases hx : x = '['
      · subst hx
        have htake := takeWhile_append_of_head? (p := fun x => x != '[' && x != ']')
          (fun c hc => by rw [htail c hc]; rfl) rest
        have hle : (rest.takeWhile fun x => x != '[' && x != ']').length ≤ rest.length :=
          (List.takeWhile_prefix _).length_le
        rw [List.cons_append, List.cons_append, tagAt?, tagAt?, htake,
          List.drop_append_of_le_length hle, head?_append_beq htail (by decide)]
      · simp [tagAt?, hx]

/-! ## Pieces -/

/-- Behind the backslashes at its start a text without tags has none either. -/
theorem tagAt?_drop_slashes {s tail : List Char} (hs : s ≠ []) (h : ¬HoldsTag s)
    (htail : ∀ c ∈ tail.head?, c = '[') (hlast : s.getLast? ≠ some '\\') :
    tagAt? ((s ++ tail).drop ((s ++ tail).takeWhile (· == '\\')).length) = none := by
  have hlength : (s.takeWhile (· == '\\')).length < s.length := by
    refine Nat.lt_of_le_of_ne (List.takeWhile_prefix _).length_le fun heq => hlast ?_
    have hall := List.takeWhile_eq_self_iff.mp ((List.takeWhile_prefix _).eq_of_length heq)
    rw [List.getLast?_eq_some_getLast hs, beq_iff_eq.mp (hall _ (List.getLast_mem hs))]
  rw [List.takeWhile_append, if_neg hlength.ne, List.drop_append_of_le_length hlength.le,
    tagAt?_append (by simpa using hlength) htail, tagAt?_drop h]

/-- A text without tags goes on in front of one. -/
theorem piecesFrom_append {s tail : List Char} (h : ¬HoldsTag s)
    (htail : ∀ c ∈ tail.head?, c = '[') (hlast : s.getLast? ≠ some '\\') (position : Nat)
    (seen : List Char) :
    piecesFrom position seen (s ++ tail)
      = piecesFrom (position + s.length) (s.reverse ++ seen) tail := by
  induction s generalizing position seen with
  | nil => rfl
  | cons c rest ih =>
      have hnone := tagAt?_drop_slashes (List.cons_ne_nil c rest) h htail hlast
      have hlast' : rest.getLast? ≠ some '\\' := by
        cases rest with
        | nil => exact nofun
        | cons d rest => simpa using hlast
      rw [List.cons_append] at hnone ⊢
      rw [piecesFrom]
      simp only [hnone]
      rw [ih (not_holdsTag_of_cons h) hlast', List.length_cons, List.reverse_cons,
        List.append_assoc, List.singleton_append, Nat.add_assoc, Nat.add_comm 1]

/-- A tag ends the text in front of it. -/
theorem piecesFrom_tag {c : Char} {run : List Char} (hc : startsTag c = true)
    (hrun : ∀ x ∈ run, x ≠ '[' ∧ x ≠ ']') (rest : List Char) (position : Nat) (seen : List Char) :
    piecesFrom position seen ('[' :: (c :: run ++ ']' :: rest))
      = closePlain seen ++ .tag position (c :: run)
        :: piecesFrom (position + (run.length + 3)) [] rest := by
  have htag := tagAt?_tag hc hrun rest
  have hslashes : ('[' :: (c :: run ++ ']' :: rest)).takeWhile (· == '\\') = [] := rfl
  have hdrop : ('[' :: (c :: run ++ ']' :: rest)).drop (0 + (c :: run).length + 2) = rest := by
    rw [show 0 + (c :: run).length + 2 = ('[' :: (c :: run ++ [']'])).length by simp,
      show '[' :: (c :: run ++ ']' :: rest) = ('[' :: (c :: run ++ [']'])) ++ rest by simp,
      List.drop_left]
  rw [piecesFrom]
  simp only [hslashes, List.length_nil, List.drop_zero, htag, hdrop]
  rw [show position + (0 + (c :: run).length + 2) = position + (run.length + 3) by
    rw [List.length_cons]; omega, List.append_assoc]
  rfl

/-! ## Readings -/

/-- What stands between the brackets of a tag. -/
def bodyOf : Tag → List Char
  | .opens style => style.toList
  | .closes style => '/' :: style.toList

theorem exists_bodyOf_eq {tag : Tag} (h : tag.WellFormed) :
    ∃ c run, bodyOf tag = c :: run ∧ startsTag c = true ∧ ∀ x ∈ run, x ≠ '[' ∧ x ≠ ']' := by
  cases tag with
  | opens style =>
      obtain ⟨hstyle, c, hc, hlow, hhigh⟩ := h
      obtain ⟨run, hrun⟩ := List.head?_eq_some_iff.mp hc
      refine ⟨c, run, hrun, by simp [startsTag, hlow, hhigh], fun x hx => ?_⟩
      obtain ⟨hopen, hclose, -⟩ := hstyle x (hrun ▸ List.mem_cons_of_mem c hx)
      exact ⟨hopen, hclose⟩
  | closes style =>
      refine ⟨'/', style.toList, rfl, rfl, fun x hx => ?_⟩
      obtain ⟨hopen, hclose, -⟩ := h.1 x hx
      exact ⟨hopen, hclose⟩

theorem toList_text (tag : Tag) : tag.text.toList = '[' :: (bodyOf tag ++ [']']) := by
  cases tag <;> simp [Tag.text, bodyOf]

/-- Tags with the texts behind them. -/
def charsOf (tagged : List (Tag × String)) : List Char :=
  tagged.flatMap fun (tag, s) => tag.text.toList ++ s.toList

theorem head?_charsOf (tagged : List (Tag × String)) : ∀ c ∈ (charsOf tagged).head?, c = '[' := by
  cases tagged with
  | nil => exact nofun
  | cons p rest => simp [charsOf, toList_text]

theorem piecesFrom_plain {s : List Char} (h : IsPlain s) (tagged : List (Tag × String))
    (position : Nat) (seen : List Char) :
    piecesFrom position seen (s ++ charsOf tagged)
      = piecesFrom (position + s.length) (s.reverse ++ seen) (charsOf tagged) :=
  piecesFrom_append h.tagless (head?_charsOf tagged) h.last position seen

/-- **A text that is cut at its tags comes in pieces there.** -/
theorem exists_piecesFrom_tagged {tag : Tag} (htag : tag.WellFormed) {s : String}
    (hs : IsPlain s.toList) (rest : List (Tag × String)) (position : Nat) (seen : List Char) :
    ∃ p q, piecesFrom position seen (charsOf ((tag, s) :: rest))
      = closePlain seen ++ .tag p (bodyOf tag)
        :: piecesFrom q s.toList.reverse (charsOf rest) := by
  obtain ⟨c, run, hbody, hc, hrun⟩ := exists_bodyOf_eq htag
  have hchars : charsOf ((tag, s) :: rest)
      = '[' :: (c :: run ++ ']' :: (s.toList ++ charsOf rest)) := by
    rw [← hbody]
    simp [charsOf, toList_text]
  rw [hchars, piecesFrom_tag hc hrun, piecesFrom_plain hs, List.append_nil, hbody]
  exact ⟨_, _, rfl⟩

end CodeGauge.Markup
