import CallSignaling.Text.Basic
import Mathlib.Data.List.DropRight

/-!
# Pieces — texts between separators, and texts without the blanks around them

Splitting and joining undo each other (`intercalate_pieces`, `pieces_intercalate`).  Trimming takes
blanks off both ends and nothing else (`exists_padding`, `trimChars_padded`), and what it leaves is
trimmed (`trimmed_trimChars`).
-/

namespace CallSignaling.Text

variable {sep : Char} {cs before after : List Char}

/-! ### Where the kind of character changes -/

theorem dropWhile_of_head {α : Type} {p : α → Bool} {as : List α}
    (h : ∀ a ∈ as.head?, p a = false) : as.dropWhile p = as ∧ as.takeWhile p = [] := by
  cases as with
  | nil => exact ⟨rfl, rfl⟩
  | cons a as =>
    have ha : p a = false := h a rfl
    simp [ha]

/-- A text is taken apart where the first character of the wrong kind stands. -/
theorem span_append {α : Type} {p : α → Bool} {as r : List α} (has : ∀ a ∈ as, p a = true)
    (hr : ∀ a ∈ r.head?, p a = false) :
    (as ++ r).takeWhile p = as ∧ (as ++ r).dropWhile p = r := by
  obtain ⟨hdrop, htake⟩ := dropWhile_of_head hr
  rw [List.takeWhile_append_of_pos has, List.dropWhile_append_of_pos has, hdrop, htake,
    List.append_nil]
  exact ⟨rfl, rfl⟩

/-! ### Splitting and joining -/

theorem pieces_of_not_mem (h : sep ∉ cs) : pieces sep cs = [cs] := by
  induction cs with
  | nil => rfl
  | cons c cs ih =>
    obtain ⟨hc, hcs⟩ := List.ne_and_not_mem_of_not_mem_cons h
    rw [pieces, if_neg (Ne.symm hc), ih hcs]

theorem pieces_append_cons (h : sep ∉ cs) (r : List Char) :
    pieces sep (cs ++ sep :: r) = cs :: pieces sep r := by
  induction cs with
  | nil => rw [List.nil_append, pieces, if_pos rfl]
  | cons c cs ih =>
    obtain ⟨hc, hcs⟩ := List.ne_and_not_mem_of_not_mem_cons h
    rw [List.cons_append, pieces, if_neg (Ne.symm hc), ih hcs]

theorem pieces_ne_nil (sep : Char) (cs : List Char) : pieces sep cs ≠ [] := by
  cases cs with
  | nil => exact List.cons_ne_nil _ _
  | cons c cs =>
    rw [pieces]
    split
    · exact List.cons_ne_nil _ _
    · split <;> exact List.cons_ne_nil _ _

/-- A character that is no separator goes in front of the first piece. -/
theorem pieces_cons_of_ne {c : Char} (h : c ≠ sep) {p : List Char} {ps : List (List Char)}
    (hps : pieces sep cs = p :: ps) : pieces sep (c :: cs) = (c :: p) :: ps := by
  rw [pieces, if_neg h, hps]

theorem not_mem_of_mem_pieces : ∀ p ∈ pieces sep cs, sep ∉ p := by
  induction cs with
  | nil =>
    intro p hp
    rw [List.mem_singleton.mp hp]
    exact List.not_mem_nil
  | cons c cs ih =>
    intro p hp
    by_cases hc : c = sep
    · rw [pieces, if_pos hc] at hp
      rcases List.mem_cons.mp hp with rfl | hp
      · exact List.not_mem_nil
      · exact ih p hp
    · obtain ⟨q, qs, hqs⟩ := List.exists_cons_of_ne_nil (pieces_ne_nil sep cs)
      rw [pieces_cons_of_ne hc hqs] at hp
      rw [hqs] at ih
      rcases List.mem_cons.mp hp with rfl | hp
      · exact List.not_mem_cons_of_ne_of_not_mem (Ne.symm hc) (ih q List.mem_cons_self)
      · exact ih p (List.mem_cons_of_mem q hp)

/-- The pieces of a text, joined again, are the text. -/
theorem intercalate_pieces (sep : Char) (cs : List Char) :
    [sep].intercalate (pieces sep cs) = cs := by
  induction cs with
  | nil => rfl
  | cons c cs ih =>
    obtain ⟨p, ps, hps⟩ := List.exists_cons_of_ne_nil (pieces_ne_nil sep cs)
    by_cases hc : c = sep
    · rw [pieces, if_pos hc, hps, List.intercalate_cons_cons, ← hps, ih, hc]
      rfl
    · rw [hps] at ih
      rw [pieces_cons_of_ne hc hps, ← ih]
      cases ps with
      | nil => rw [List.intercalate_singleton, List.intercalate_singleton]
      | cons q qs => rw [List.intercalate_cons_cons, List.intercalate_cons_cons]; rfl

/-- Texts without separators are the pieces of what they are joined to. -/
theorem pieces_intercalate {ps : List (List Char)} (hne : ps ≠ []) (h : ∀ p ∈ ps, sep ∉ p) :
    pieces sep ([sep].intercalate ps) = ps := by
  induction ps with
  | nil => exact absurd rfl hne
  | cons p ps ih =>
    obtain ⟨hp, hps⟩ := List.forall_mem_cons.mp h
    cases ps with
    | nil => rw [List.intercalate_singleton, pieces_of_not_mem hp]
    | cons q qs =>
      rw [List.intercalate_cons_cons, List.append_assoc, List.singleton_append,
        pieces_append_cons hp, ih (List.cons_ne_nil q qs) hps]

/-! ### Trimming -/

/-- Neither the first character nor the last one is blank. -/
structure Trimmed (cs : List Char) : Prop where
  front : ∀ c ∈ cs.head?, isBlank c = false
  back : ∀ c ∈ cs.getLast?, isBlank c = false

instance (cs : List Char) : Decidable (Trimmed cs) :=
  decidable_of_iff (cs.head?.any isBlank = false ∧ cs.getLast?.any isBlank = false)
    ((and_congr (Option.any_eq_false _ _) (Option.any_eq_false _ _)).trans
      ⟨fun h => ⟨h.1, h.2⟩, fun h => ⟨h.front, h.back⟩⟩)

theorem trimChars_eq (cs : List Char) :
    trimChars cs = (cs.dropWhile isBlank).rdropWhile isBlank := rfl

theorem trimmed_trimChars (cs : List Char) : Trimmed (trimChars cs) := by
  constructor
  · -- what is taken off behind does not change the first character
    intro c hc
    obtain ⟨r, hr⟩ := List.rdropWhile_prefix isBlank (cs.dropWhile isBlank)
    have hhead : c ∈ (cs.dropWhile isBlank).head? := by
      rw [← hr, List.head?_append, ← trimChars_eq, Option.mem_def.mp hc]
      rfl
    have hfront := List.head?_dropWhile_not isBlank cs
    rw [Option.mem_def.mp hhead] at hfront
    exact hfront
  · intro c hc
    obtain ⟨hne, rfl⟩ := List.mem_getLast?_eq_getLast hc
    exact Bool.not_eq_true _ ▸ List.rdropWhile_last_not isBlank (cs.dropWhile isBlank) hne

theorem trimChars_of_trimmed (h : Trimmed cs) : trimChars cs = cs := by
  have hback : ∀ c ∈ cs.reverse.head?, isBlank c = false := by
    rw [List.head?_reverse]
    exact h.back
  rw [trimChars, (dropWhile_of_head h.front).1, (dropWhile_of_head hback).1, List.reverse_reverse]

theorem trimChars_blanks_append (h : ∀ c ∈ before, isBlank c = true) (cs : List Char) :
    trimChars (before ++ cs) = trimChars cs := by
  rw [trimChars, List.dropWhile_append_of_pos h, trimChars]

theorem trimChars_append_blanks (h : ∀ c ∈ after, isBlank c = true) (cs : List Char) :
    trimChars (cs ++ after) = trimChars cs := by
  have hafter : after.dropWhile isBlank = [] := List.dropWhile_eq_nil_iff.mpr h
  rw [trimChars, List.dropWhile_append]
  split
  next hcs => rw [hafter, trimChars, List.isEmpty_iff.mp hcs]
  next =>
    rw [List.reverse_append,
      List.dropWhile_append_of_pos fun c hc => h c (List.mem_reverse.mp hc), trimChars]

/-- Blanks around a trimmed text are all that trimming takes off. -/
theorem trimChars_padded (hbefore : ∀ c ∈ before, isBlank c = true)
    (hafter : ∀ c ∈ after, isBlank c = true) (h : Trimmed cs) :
    trimChars (before ++ cs ++ after) = cs := by
  rw [trimChars_append_blanks hafter, trimChars_blanks_append hbefore, trimChars_of_trimmed h]

/-- Trimming takes off nothing but blanks. -/
theorem exists_padding (cs : List Char) :
    ∃ before after, (∀ c ∈ before, isBlank c = true) ∧ (∀ c ∈ after, isBlank c = true) ∧
      cs = before ++ trimChars cs ++ after := by
  refine ⟨cs.takeWhile isBlank, (cs.dropWhile isBlank).rtakeWhile isBlank,
    fun c hc => List.mem_takeWhile_imp hc, fun c hc => List.mem_rtakeWhile_imp hc, ?_⟩
  rw [trimChars_eq, List.append_assoc, List.rdropWhile_append_rtakeWhile,
    List.takeWhile_append_dropWhile]

theorem mem_of_mem_trimChars {c : Char} (h : c ∈ trimChars cs) : c ∈ cs := by
  obtain ⟨before, after, -, -, hcs⟩ := exists_padding cs
  rw [hcs]
  exact List.mem_append_left after (List.mem_append_right before h)

/-- Nothing is left of blanks, and of blanks only. -/
theorem trimChars_eq_nil_iff : trimChars cs = [] ↔ ∀ c ∈ cs, isBlank c = true := by
  constructor
  · intro h c hc
    obtain ⟨before, after, hbefore, hafter, hcs⟩ := exists_padding cs
    rw [hcs, h, List.append_nil] at hc
    exact (List.mem_append.mp hc).elim (hbefore c) (hafter c)
  · intro h
    exact trimChars_append_blanks h []

end CallSignaling.Text
