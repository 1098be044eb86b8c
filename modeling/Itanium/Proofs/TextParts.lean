import Itanium.Text.Blank
import Mathlib

/-!
# Parts of a text

What trimming leaves, where a text is cut, and what stands behind a hexadecimal mark, each described
by where it lies in the text.
-/
namespace Itanium.Text

/-! ### Trimming -/

/-- What lies between the blanks at both ends. -/
def IsTrimmed (core text : List Char) : Prop :=
  ∃ before after, text = before ++ core ++ after ∧ (∀ c ∈ before ++ after, isBlank c = true) ∧
    (∀ c ∈ core.head?, isBlank c = false) ∧ ∀ c ∈ core.getLast?, isBlank c = false

theorem dropWhile_blanks {before core : List Char} (blank : ∀ c ∈ before, isBlank c = true)
    (starts : ∀ c ∈ core.head?, isBlank c = false) : (before ++ core).dropWhile isBlank = core := by
  rw [List.dropWhile_append_of_pos blank]
  cases core with
  | nil => rfl
  | cons c rest => rw [List.dropWhile_cons_of_neg (by simp [starts c rfl])]

theorem trim_of_isTrimmed {core text : List Char} (trimmed : IsTrimmed core text) :
    trim text = core := by
  obtain ⟨before, after, rfl, blank, starts, ends⟩ := trimmed
  obtain ⟨front, back⟩ := List.forall_mem_append.mp blank
  rw [trim]
  cases core with
  -- Nothing but blanks: all of it goes from the front.
  | nil =>
    have none : (before ++ [] ++ after).dropWhile isBlank = [] := by simpa using blank
    rw [none]
    rfl
  | cons c rest =>
    have reversed : ∀ c ∈ after.reverse, isBlank c = true := by simpa using back
    have last : ∀ last ∈ (c :: rest).reverse.head?, isBlank last = false := by
      rwa [List.head?_reverse]
    have solid : ∀ first ∈ (c :: rest ++ after).head?, isBlank first = false := starts
    rw [List.append_assoc, dropWhile_blanks front solid, List.reverse_append,
      dropWhile_blanks reversed last, List.reverse_reverse]

theorem isTrimmed_trim (text : List Char) : IsTrimmed (trim text) text := by
  have shape : trim text = (text.dropWhile isBlank).rdropWhile isBlank := rfl
  refine ⟨text.takeWhile isBlank, (text.dropWhile isBlank).rtakeWhile isBlank, ?_, ?_, ?_, ?_⟩
  · rw [shape, List.append_assoc, List.rdropWhile_append_rtakeWhile,
      List.takeWhile_append_dropWhile]
  · rw [List.forall_mem_append]
    exact ⟨fun c => List.mem_takeWhile_imp, fun c => List.mem_rtakeWhile_imp⟩
  -- The first character is the first that was left by the first pass.
  · intro c first
    obtain ⟨removed, whole⟩ := List.rdropWhile_prefix isBlank (text.dropWhile isBlank)
    obtain ⟨rest, equal⟩ := List.head?_eq_some_iff.mp first
    have left := List.head?_dropWhile_not isBlank text
    rw [← whole, ← shape, equal] at left
    exact left
  · intro c last
    obtain ⟨nonempty, rfl⟩ := List.mem_getLast?_eq_getLast last
    have left := List.rdropWhile_last_not isBlank (text.dropWhile isBlank) nonempty
    exact Bool.eq_false_iff.mpr left

/-! ### Cutting -/

/-- A longest run of characters that are no separators. -/
def IsPiece (isSeparator : Char → Bool) (piece text : List Char) : Prop :=
  ∃ before after, text = before ++ piece ++ after ∧ (∀ c ∈ piece, isSeparator c = false) ∧
    (∀ c ∈ before.getLast?, isSeparator c = true) ∧ ∀ c ∈ after.head?, isSeparator c = true

section Pieces

variable {isSeparator : Char → Bool}

theorem pieces_eq_splitOnP (text : List Char) :
    pieces isSeparator text = text.splitOnP isSeparator := by
  induction text with
  | nil => rfl
  | cons c rest ih =>
    rw [pieces, List.splitOnP_cons_eq_if_modifyHead, ih]
    cases cut : rest.splitOnP isSeparator with
    | nil => exact absurd cut (List.splitOnP_ne_nil _ _)
    | cons piece others => rfl

theorem pieces_of_solid {piece : List Char} (solid : ∀ c ∈ piece, isSeparator c = false) :
    pieces isSeparator piece = [piece] := by
  rw [pieces_eq_splitOnP, List.splitOnP_eq_singleton solid]

theorem pieces_append_cons (before after : List Char) {separator : Char}
    (separates : isSeparator separator = true) :
    pieces isSeparator (before ++ separator :: after) =
      pieces isSeparator before ++ pieces isSeparator after := by
  simp only [pieces_eq_splitOnP, List.splitOnP_append_cons before after separates]

/-- Nothing but separators is lost. -/
theorem flatten_pieces (text : List Char) :
    (pieces isSeparator text).flatten = text.filter (!isSeparator ·) := by
  induction text with
  | nil => rfl
  | cons c rest ih =>
    rw [pieces, List.filter_cons]
    cases isSeparator c with
    | true => exact ih
    | false =>
      rw [← ih]
      cases pieces isSeparator rest <;> rfl

theorem IsPiece.mem_pieces {piece text : List Char} (isPiece : IsPiece isSeparator piece text) :
    piece ∈ pieces isSeparator text := by
  obtain ⟨before, after, rfl, solid, starts, ends⟩ := isPiece
  have front : piece ∈ pieces isSeparator (piece ++ after) := by
    cases after with
    | nil => rw [List.append_nil, pieces_of_solid solid, List.mem_singleton]
    | cons separator after =>
      rw [pieces_append_cons _ _ (ends separator rfl), pieces_of_solid solid]
      exact List.mem_cons_self
  rcases List.eq_nil_or_concat' before with rfl | ⟨before, separator, rfl⟩
  · exact front
  · have separates := starts separator List.getLast?_concat
    rw [List.append_assoc, List.append_assoc, List.singleton_append,
      pieces_append_cons _ _ separates]
    exact List.mem_append_right _ front

theorem isPiece_of_mem_pieces {piece text : List Char} (member : piece ∈ pieces isSeparator text) :
    IsPiece isSeparator piece text := by
  induction size : text.length using Nat.strongRecOn generalizing text with
  | ind size ih =>
    subst size
    cases found : text.find? isSeparator with
    | none =>
      have solid : ∀ c ∈ text, isSeparator c = false := by simpa using found
      rw [pieces_of_solid solid, List.mem_singleton] at member
      subst member
      exact ⟨[], [], by simp, solid, by simp, by simp⟩
    -- The first separator ends the first piece, and the others are pieces of what follows it.
    | some separator =>
      obtain ⟨separates, first, rest, rfl, solid⟩ := List.find?_eq_some_iff_append.mp found
      have clear : ∀ c ∈ first, isSeparator c = false := by simpa using solid
      rw [pieces_append_cons first rest separates, pieces_of_solid clear] at member
      rcases List.mem_cons.mp member with rfl | later
      · exact ⟨[], separator :: rest, rfl, clear, by simp, by simpa using separates⟩
      · obtain ⟨before, after, rfl, within, starts, ends⟩ :=
          ih rest.length (by simp; omega) later rfl
        refine ⟨first ++ separator :: before, after, by simp, within, ?_, ends⟩
        intro c last
        rw [List.getLast?_append_cons, List.getLast?_cons] at last
        cases ending : before.getLast? with
        | none =>
          simp only [ending, Option.getD_none, Option.mem_some_iff] at last
          exact last ▸ separates
        | some other =>
          simp only [ending, Option.getD_some, Option.mem_some_iff] at last
          exact last ▸ starts other ending

theorem mem_pieces_iff {piece text : List Char} :
    piece ∈ pieces isSeparator text ↔ IsPiece isSeparator piece text :=
  ⟨isPiece_of_mem_pieces, IsPiece.mem_pieces⟩

/-- A character that is no separator lies in a piece. -/
theorem mem_iff_exists_piece {text : List Char} {c : Char} (solid : isSeparator c = false) :
    c ∈ text ↔ ∃ piece, IsPiece isSeparator piece text ∧ c ∈ piece := by
  simp only [← mem_pieces_iff, ← List.mem_flatten, flatten_pieces, List.mem_filter, solid,
    Bool.not_false, and_true]

end Pieces

/-! ### Marks -/

/-- The digits that stand behind `0x` or `0X`. -/
def IsMarked (text digits : List Char) : Prop :=
  text = '0' :: 'x' :: digits ∨ text = '0' :: 'X' :: digits

/-- A text without the letters of a mark is not marked. -/
theorem not_isMarked_of_forall_mem {text : List Char} (clear : ∀ c ∈ text, c ≠ 'x' ∧ c ≠ 'X')
    (digits : List Char) : ¬IsMarked text digits := by
  rintro (rfl | rfl)
  · exact (clear 'x' (by simp)).1 rfl
  · exact (clear 'X' (by simp)).2 rfl

theorem IsMarked.forall_mem {p : Char → Prop} (zero : p '0') (lower : p 'x') (upper : p 'X')
    {text digits : List Char} (marked : IsMarked text digits) (behind : ∀ c ∈ digits, p c) :
    ∀ c ∈ text, p c := by
  rcases marked with rfl | rfl
  · exact List.forall_mem_cons.mpr ⟨zero, List.forall_mem_cons.mpr ⟨lower, behind⟩⟩
  · exact List.forall_mem_cons.mpr ⟨zero, List.forall_mem_cons.mpr ⟨upper, behind⟩⟩

theorem splitHexMark_of_isMarked {text digits : List Char} (marked : IsMarked text digits) :
    splitHexMark text = (digits, true) := by
  rcases marked with rfl | rfl <;> rfl

theorem splitHexMark_of_not_isMarked {text : List Char} (plain : ∀ digits, ¬IsMarked text digits) :
    splitHexMark text = (text, false) := by
  unfold splitHexMark
  split
  next digits => exact absurd (.inl rfl) (plain digits)
  next digits => exact absurd (.inr rfl) (plain digits)
  · rfl

end Itanium.Text
