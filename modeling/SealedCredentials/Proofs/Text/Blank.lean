import Mathlib.Data.List.TakeWhile
import SealedCredentials.Text.Blank

/-!
# What trimming leaves

Trimming takes blank characters off both ends.  A list of characters that neither begins nor
ends with one is left as it is (`trimmed_eq_self`); in particular a list without any.  In general
what is left is the one such list that the whole is made of, with blank characters around it
(`trimmed_eq_iff`).
-/

set_option autoImplicit false

namespace SealedCredentials.Text

/-- Nothing is dropped from a list that does not begin with a blank character. -/
theorem dropWhile_isBlank_eq_self {characters : List Char}
    (begins : ∀ c ∈ characters.head?, isBlank c = false) :
    characters.dropWhile isBlank = characters := by
  cases characters with
  | nil => rfl
  | cons c rest => rw [List.dropWhile_cons_of_neg (by simp [begins c rfl])]

/-- A list that neither begins nor ends with a blank character is left as it is. -/
theorem trimmed_eq_self {characters : List Char}
    (begins : ∀ c ∈ characters.head?, isBlank c = false)
    (ends : ∀ c ∈ characters.getLast?, isBlank c = false) : trimmed characters = characters := by
  unfold trimmed
  rw [dropWhile_isBlank_eq_self begins]
  have backwards : ∀ c ∈ characters.reverse.head?, isBlank c = false := by
    rw [List.head?_reverse]
    exact ends
  rw [dropWhile_isBlank_eq_self backwards, List.reverse_reverse]

/-- A list without blank characters is left as it is. -/
theorem trimmed_of_forall {characters : List Char}
    (visible : ∀ c ∈ characters, isBlank c = false) : trimmed characters = characters :=
  trimmed_eq_self (fun c first => visible c (List.mem_of_mem_head? first))
    (fun c last => visible c (List.mem_of_getLast? last))

/-! ## Blank characters around a list -/

/-- Blank characters in front are taken off. -/
theorem trimmed_append_left {front : List Char} (blank : ∀ c ∈ front, isBlank c = true)
    (characters : List Char) : trimmed (front ++ characters) = trimmed characters := by
  rw [trimmed, List.dropWhile_append_of_pos blank, trimmed]

/-- Blank characters at the end are taken off. -/
theorem trimmed_append_right {back : List Char} (blank : ∀ c ∈ back, isBlank c = true)
    (characters : List Char) : trimmed (characters ++ back) = trimmed characters := by
  have backwards : ∀ c ∈ back.reverse, isBlank c = true :=
    fun c member => blank c (List.mem_reverse.mp member)
  rw [trimmed, trimmed, List.dropWhile_append]
  split
  next none =>
    rw [List.isEmpty_iff.mp none, List.dropWhile_eq_nil_iff.mpr blank]
  next some =>
    rw [List.reverse_append, List.dropWhile_append_of_pos backwards]

/-- A list is another one with blank characters around it, and the other one neither begins nor ends
with one. -/
def Trims (raw core : List Char) : Prop :=
  ((∀ c ∈ core.head?, isBlank c = false) ∧ ∀ c ∈ core.getLast?, isBlank c = false) ∧
    ∃ front back, raw = front ++ core ++ back ∧ (∀ c ∈ front, isBlank c = true) ∧
      ∀ c ∈ back, isBlank c = true

/-- What is left after dropping does not begin with a blank character. -/
theorem isBlank_of_mem_head?_dropWhile (characters : List Char) :
    ∀ c ∈ (characters.dropWhile isBlank).head?, isBlank c = false := by
  intro c first
  have kept := List.head?_dropWhile_not isBlank characters
  rw [first] at kept
  exact kept

theorem trims_trimmed (raw : List Char) : Trims raw (trimmed raw) := by
  have front := List.takeWhile_append_dropWhile (p := isBlank) (l := raw)
  generalize kept : raw.dropWhile isBlank = rest at front
  have back := List.takeWhile_append_dropWhile (p := isBlank) (l := rest.reverse)
  have split : trimmed raw ++ (rest.reverse.takeWhile isBlank).reverse = rest := by
    rw [trimmed, kept, ← List.reverse_append, back, List.reverse_reverse]
  refine ⟨⟨?_, ?_⟩, raw.takeWhile isBlank, (rest.reverse.takeWhile isBlank).reverse, ?_, ?_, ?_⟩
  · intro c first
    refine isBlank_of_mem_head?_dropWhile raw c ?_
    rw [kept, ← split, List.head?_append, Option.mem_def.mp first]
    rfl
  · intro c last
    rw [trimmed, List.getLast?_reverse] at last
    exact isBlank_of_mem_head?_dropWhile _ c last
  · rw [List.append_assoc, split, front]
  · exact fun c member => List.mem_takeWhile_imp member
  · exact fun c member => List.mem_takeWhile_imp (List.mem_reverse.mp member)

/-- **Trimming leaves the list that has blank characters around it.** -/
theorem trimmed_eq_iff {raw core : List Char} : trimmed raw = core ↔ Trims raw core := by
  constructor
  · rintro rfl
    exact trims_trimmed raw
  · rintro ⟨⟨begins, ends⟩, front, back, rfl, blankFront, blankBack⟩
    rw [trimmed_append_right blankBack, trimmed_append_left blankFront,
      trimmed_eq_self begins ends]

end SealedCredentials.Text
