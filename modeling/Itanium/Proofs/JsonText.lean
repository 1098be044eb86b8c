import Itanium.CommandLine.Standard
import Mathlib

/-!
# JSON texts and what they spell

A value can be spelled in many ways: there may be white space around every token, and characters may
stand for themselves or be escaped. The text that is printed for a value is one of its spellings.
-/
namespace Itanium

namespace Json

/-! ### The grammar -/

/-- White space between tokens. -/
def IsGap (text : List Char) : Prop :=
  ∀ c ∈ text, c ∈ [' ', '\t', '\n', '\r']

/-- Characters with the letters that stand for them behind a backslash. -/
def letterEscapes : List (Char × Char) := [
  ('"', '"'), ('\\', '\\'), ('/', '/'), ('\x08', 'b'), ('\x0c', 'f'), ('\n', 'n'), ('\r', 'r'),
  ('\t', 't')]

/-- A character in a quoted text, with lower-case digits where its code is spelled. -/
inductive SpellsChar : Char → List Char → Prop
  | itself {c : Char} (graphic : 32 ≤ c.toNat) (other : c ≠ '"' ∧ c ≠ '\\') : SpellsChar c [c]
  | letter {c letter : Char} (escapes : (c, letter) ∈ letterEscapes) : SpellsChar c ['\\', letter]
  | code {c : Char} (digits : Vector (Fin 16) 4)
      (same : c.toNat = digits.foldl (fun value digit => 16 * value + digit.val) 0) :
      SpellsChar c ('\\' :: 'u' :: digits.toList.map fun digit => Nat.digitChar digit.val)

/-- A quoted text. -/
def SpellsText (value : String) (text : List Char) : Prop :=
  ∃ parts, List.Forall₂ SpellsChar value.toList parts ∧ text = '"' :: parts.flatten ++ ['"']

/-- Texts in a sequence, separated by commas. -/
inductive Separates : List (List Char) → List Char → Prop
  | none {gap : List Char} (isGap : IsGap gap) : Separates [] gap
  | last {before text after : List Char} (isGap : IsGap before) (isGap' : IsGap after) :
      Separates [text] (before ++ text ++ after)
  | more {before text after sequence : List Char} {next : List Char} {rest : List (List Char)}
      (isGap : IsGap before) (isGap' : IsGap after) (separates : Separates (next :: rest) sequence) :
      Separates (text :: next :: rest) (before ++ text ++ after ++ ',' :: sequence)

mutual

/-- The text, without white space around it, is one of the value. -/
inductive Spells : Json → List Char → Prop
  | null : Spells null ['n', 'u', 'l', 'l']
  | number (value : Nat) : Spells (number value) (Nat.toDigits 10 value)
  | text {value : String} {text : List Char} (spells : SpellsText value text) :
      Spells (.text value) text
  | list {items : List Json} {texts : List (List Char)} {sequence : List Char}
      (spells : List.Forall₂ Spells items texts) (separates : Separates texts sequence) :
      Spells (list items) ('[' :: sequence ++ [']'])
  | record {members : List (String × Json)} {texts : List (List Char)} {sequence : List Char}
      (spells : List.Forall₂ SpellsMember members texts) (separates : Separates texts sequence) :
      Spells (record members) ('\x7b' :: sequence ++ ['\x7d'])

/-- A name and a value with a colon between them. -/
inductive SpellsMember : String × Json → List Char → Prop
  | mk {name : String} {value : Json} {label before after text : List Char}
      (spellsName : SpellsText name label) (isGap : IsGap before) (isGap' : IsGap after)
      (spells : Spells value text) :
      SpellsMember (name, value) (label ++ before ++ ':' :: after ++ text)

end

/-! ### Quoted text -/

theorem spellsChar_escape (c : Char) : SpellsChar c (escape c) := by
  have byLetter {d letter : Char} (same : c = d) (escapes : (d, letter) ∈ letterEscapes) :
      SpellsChar c ['\\', letter] := same ▸ .letter escapes
  rw [escape]
  split_ifs with quote backslash backspace formFeed lineFeed carriageReturn tab control
  · exact byLetter quote (by decide)
  · exact byLetter backslash (by decide)
  · exact byLetter backspace (by decide)
  · exact byLetter formFeed (by decide)
  · exact byLetter lineFeed (by decide)
  · exact byLetter carriageReturn (by decide)
  · exact byLetter tab (by decide)
  · refine .code #v[0, 0, ⟨c.toNat / 16, by omega⟩, ⟨c.toNat % 16, by omega⟩] ?_
    change _ = 16 * (16 * (16 * (16 * 0 + 0) + 0) + c.toNat / 16) + c.toNat % 16
    omega
  · exact .itself (Nat.le_of_not_lt control) ⟨quote, backslash⟩

theorem spellsText_quote (value : String) : SpellsText value (quote value) := by
  refine ⟨value.toList.map escape, ?_, ?_⟩
  · rw [List.forall₂_map_right_iff, List.forall₂_same]
    exact fun c _ => spellsChar_escape c
  · rw [quote, List.flatMap_def]

/-! ### Indented text -/

section Indented

variable {newline : List Char} (isGap : IsGap newline)

include isGap

theorem isGap_indent : IsGap (newline ++ [' ', ' ']) := by
  intro c member
  rcases List.mem_append.mp member with before | space
  · exact isGap c before
  · obtain rfl : c = ' ' := by simpa using space
    decide

theorem separates_separated {after : List Char} (isGap' : IsGap after) (texts : List (List Char)) :
    Separates texts (separated newline texts ++ after) := by
  induction texts with
  | nil => exact .none isGap'
  | cons text rest ih =>
    cases rest with
    | nil => exact .last isGap isGap'
    | cons next rest =>
      -- There is no gap between a text and the comma behind it.
      have more : Separates (text :: next :: rest)
          (newline ++ text ++ [] ++ ',' :: (separated newline (next :: rest) ++ after)) :=
        .more isGap nofun ih
      rwa [List.append_nil, ← List.cons_append, ← List.append_assoc] at more

theorem exists_separates_enclose (opening closing : Char) (texts : List (List Char)) :
    ∃ sequence, Separates texts sequence ∧
      enclose opening closing newline texts = opening :: sequence ++ [closing] := by
  rw [enclose]
  split
  -- Brackets around nothing stay together.
  next none =>
    rw [List.isEmpty_iff.mp none]
    exact ⟨[], .none nofun, rfl⟩
  next =>
    refine ⟨_, separates_separated (isGap_indent isGap) isGap texts, ?_⟩
    simp only [List.cons_append, List.append_assoc]

end Indented

/-! Each theorem is by recursion on values, as the printer itself is; the line breaks grow by the
indentation on the way down. -/

mutual

theorem spells_render {newline : List Char} (isGap : IsGap newline) :
    (value : Json) → Spells value (render newline value)
  | null => .null
  | number value => .number value
  | text value => .text (spellsText_quote value)
  | list items => by
    obtain ⟨_, separates, same⟩ := exists_separates_enclose isGap '[' ']' _
    rw [render, same]
    exact .list (spells_renderItems (isGap_indent isGap) items) separates
  | record members => by
    obtain ⟨_, separates, same⟩ := exists_separates_enclose isGap '\x7b' '\x7d' _
    rw [render, same]
    exact .record (spells_renderMembers (isGap_indent isGap) members) separates

theorem spells_renderItems {newline : List Char} (isGap : IsGap newline) :
    (items : List Json) → List.Forall₂ Spells items (renderItems newline items)
  | [] => .nil
  | item :: rest => .cons (spells_render isGap item) (spells_renderItems isGap rest)

theorem spells_renderMembers {newline : List Char} (isGap : IsGap newline) :
    (members : List (String × Json)) →
      List.Forall₂ SpellsMember members (renderMembers newline members)
  | [] => .nil
  | (name, value) :: rest => by
    have space : IsGap [' '] := by simp [IsGap]
    have member : SpellsMember (name, value)
        (quote name ++ [] ++ ':' :: [' '] ++ render newline value) :=
      .mk (spellsText_quote name) nofun space (spells_render isGap value)
    rw [List.append_nil] at member
    exact .cons member (spells_renderMembers isGap rest)

end

/-- What is printed for a value is one of its spellings. -/
theorem spells_print (value : Json) : Spells value value.print.toList := by
  have newline : IsGap ['\n'] := by simp [IsGap]
  rw [print, String.toList_ofList]
  exact spells_render newline value

end Json

namespace CommandLine

/-- The texts that are printed for values are JSON texts of the values. -/
def Formats.PrintsJson (formats : Formats) : Prop :=
  ∀ value, Json.Spells value (formats.printJson value).toList

theorem Formats.standard_printsJson : Formats.standard.PrintsJson :=
  Json.spells_print

end CommandLine

end Itanium
