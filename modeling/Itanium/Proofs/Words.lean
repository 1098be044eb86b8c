import Mathlib

/-!
# Words of a text

The words of a text stand between gaps of blanks, commas, equals signs and semicolons. What is joined
with gaps is read back as the words of its parts, so a text determines the solid words that it is
made of, and a stop behind it adds none.
-/
namespace Itanium.Text

def isGap (c : Char) : Bool :=
  c == ' ' || c == ',' || c == '=' || c == ';'

theorem isGap_of_isDigit {c : Char} (digit : c.isDigit = true) : isGap c = false := by
  by_contra gap
  simp only [isGap, Bool.not_eq_false, Bool.or_eq_true, beq_iff_eq] at gap
  rcases gap with ((rfl | rfl) | rfl) | rfl <;> cases digit

def words (text : List Char) : List (List Char) :=
  (text.splitOnP isGap).filter (!·.isEmpty)

/-- A word that no gap interrupts. -/
def IsSolid (word : List Char) : Prop :=
  word ≠ [] ∧ ∀ c ∈ word, isGap c = false

theorem words_nil : words [] = [] :=
  rfl

theorem words_of_isSolid {word : List Char} (solid : IsSolid word) : words word = [word] := by
  obtain ⟨nonempty, within⟩ := solid
  rw [words, List.splitOnP_eq_singleton within]
  simp [nonempty]

theorem words_append_gap (before after : List Char) {gap : Char} (isGap : isGap gap = true) :
    words (before ++ gap :: after) = words before ++ words after := by
  rw [words, List.splitOnP_append_cons before after isGap, List.filter_append]
  rfl

theorem words_cons_gap (after : List Char) {gap : Char} (isGap : isGap gap = true) :
    words (gap :: after) = words after :=
  words_append_gap [] after isGap

theorem words_append_gaps (before : List Char) {gaps : List Char}
    (allGaps : ∀ gap ∈ gaps, isGap gap = true) : words (before ++ gaps) = words before := by
  have none : words gaps = [] := by
    induction gaps with
    | nil => rfl
    | cons gap rest ih =>
      rw [words_cons_gap rest (allGaps gap List.mem_cons_self)]
      exact ih fun other member => allGaps other (List.mem_cons_of_mem gap member)
  cases gaps with
  | nil => rw [List.append_nil]
  | cons gap rest =>
    have first := allGaps gap List.mem_cons_self
    rw [words_cons_gap rest first] at none
    rw [words_append_gap before rest first, none, List.append_nil]

/-- Words joined with commas are read back. -/
theorem words_intercalate {texts : List (List Char)} (solid : ∀ text ∈ texts, IsSolid text) :
    words ([',', ' '].intercalate texts) = texts := by
  induction texts with
  | nil => rfl
  | cons text rest ih =>
    have first := words_of_isSolid (solid text List.mem_cons_self)
    cases rest with
    | nil => rw [List.intercalate_singleton, first]
    | cons next rest =>
      -- The comma is the gap between two words; the blank behind it adds no word.
      rw [List.intercalate_cons_cons, List.append_assoc, List.cons_append, words_append_gap _ _ rfl,
        List.cons_append, words_cons_gap _ rfl, List.nil_append, first]
      rw [ih fun other member => solid other (List.mem_cons_of_mem text member)]
      rfl

end Itanium.Text
