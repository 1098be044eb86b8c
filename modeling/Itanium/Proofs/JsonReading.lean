import Itanium.Proofs.JsonText
import Itanium.Proofs.Numeral

/-!
# Reading JSON texts

A text is one of one value at most. Where a value ends can be told from the text: a quoted text, a list
and a record end with a mark of their own, and a number ends where no digit follows. So a reader finds
in a text that is printed the value that it was printed for.
-/
namespace Itanium

namespace Json

/-! ### Runs of characters -/

/-- The text is empty, or a character of another kind comes first. -/
def EndsRun (kind : Char → Prop) (text : List Char) : Prop :=
  ∀ c ∈ text.head?, ¬kind c

/-- A run reaches as far as its kind of characters does. -/
theorem run_append_inj {kind : Char → Prop} {run other rest otherRest : List Char}
    (isRun : ∀ c ∈ run, kind c) (isRun' : ∀ c ∈ other, kind c) (ends : EndsRun kind rest)
    (ends' : EndsRun kind otherRest) (same : run ++ rest = other ++ otherRest) :
    run = other ∧ rest = otherRest := by
  induction run generalizing other with
  | nil =>
    cases other with
    | nil => exact ⟨rfl, same⟩
    | cons c other =>
      subst same
      exact absurd (isRun' c List.mem_cons_self) (ends c rfl)
  | cons c run ih =>
    obtain ⟨first, isRun⟩ := List.forall_mem_cons.mp isRun
    cases other with
    | nil =>
      subst same
      exact absurd first (ends' c rfl)
    | cons d other =>
      obtain ⟨rfl, tails⟩ := List.cons.inj same
      obtain ⟨rfl, rests⟩ := ih isRun (List.forall_mem_cons.mp isRun').2 tails
      exact ⟨rfl, rests⟩

/-- No white space comes first. -/
abbrev EndsGap : List Char → Prop :=
  EndsRun (· ∈ [' ', '\t', '\n', '\r'])

/-- No digit comes first. -/
abbrev EndsNumber : List Char → Prop :=
  EndsRun (·.isDigit = true)

/-! ### Quoted text -/

/-- The quotation mark that ends a text is no part of a character. -/
theorem SpellsChar.exists_cons {c : Char} {text : List Char} (spells : SpellsChar c text) :
    ∃ first rest, text = first :: rest ∧ first ≠ '"' := by
  cases spells with
  | itself _ other => exact ⟨_, _, rfl, other.1⟩
  | letter | code => exact ⟨_, _, rfl, by decide⟩

theorem eq_of_letterEscapes {c d letter : Char} (escapes : (c, letter) ∈ letterEscapes)
    (escapes' : (d, letter) ∈ letterEscapes) : c = d := by
  have apart : ∀ first ∈ letterEscapes, ∀ second ∈ letterEscapes, first.2 = second.2 →
      first.1 = second.1 := by decide
  exact apart _ escapes _ escapes' rfl

theorem ne_u_of_letterEscapes {c letter : Char} (escapes : (c, letter) ∈ letterEscapes) :
    letter ≠ 'u' := by
  have checked : ∀ escape ∈ letterEscapes, escape.2 ≠ 'u' := by decide
  exact checked _ escapes

theorem code_append_inj {digits others : Vector (Fin 16) 4} {rest otherRest : List Char}
    (same : (digits.toList.map fun digit => Nat.digitChar digit.val) ++ rest =
      (others.toList.map fun digit => Nat.digitChar digit.val) ++ otherRest) : digits = others := by
  have lengths : (digits.toList.map fun digit => Nat.digitChar digit.val).length =
      (others.toList.map fun digit => Nat.digitChar digit.val).length := by simp
  have spelled := (List.append_inj same lengths).1
  apply Vector.toList_inj.mp
  refine List.map_injective_iff.mpr ?_ spelled
  intro left right digit
  exact Fin.ext (Numeral.digitChar_inj left.isLt right.isLt digit)

theorem SpellsChar.append_inj {c d : Char} {text other rest otherRest : List Char}
    (spells : SpellsChar c text) (spells' : SpellsChar d other)
    (same : text ++ rest = other ++ otherRest) : c = d ∧ text = other := by
  cases spells with
  | itself _ solid =>
    cases spells' with
    | itself =>
      obtain ⟨rfl, -⟩ := List.cons.inj same
      exact ⟨rfl, rfl⟩
    | letter | code => exact absurd (List.cons.inj same).1 solid.2
  | letter escapes =>
    cases spells' with
    | itself _ solid => exact absurd (List.cons.inj same).1.symm solid.2
    | letter escapes' =>
      obtain ⟨-, tails⟩ := List.cons.inj same
      obtain ⟨rfl, -⟩ := List.cons.inj tails
      exact ⟨eq_of_letterEscapes escapes escapes', rfl⟩
    | code =>
      obtain ⟨-, tails⟩ := List.cons.inj same
      exact absurd (List.cons.inj tails).1 (ne_u_of_letterEscapes escapes)
  | code digits value =>
    cases spells' with
    | itself _ solid => exact absurd (List.cons.inj same).1.symm solid.2
    | letter escapes =>
      obtain ⟨-, tails⟩ := List.cons.inj same
      exact absurd (List.cons.inj tails).1.symm (ne_u_of_letterEscapes escapes)
    | code others value' =>
      obtain ⟨-, tails⟩ := List.cons.inj same
      obtain rfl := code_append_inj (List.cons.inj tails).2
      exact ⟨Char.toNat_inj.mp (value.trans value'.symm), rfl⟩

/-- Characters up to the quotation mark behind them. -/
theorem chars_append_inj {characters others : List Char} {parts otherParts : List (List Char)}
    {rest otherRest : List Char} (spells : List.Forall₂ SpellsChar characters parts)
    (spells' : List.Forall₂ SpellsChar others otherParts)
    (same : parts.flatten ++ '"' :: rest = otherParts.flatten ++ '"' :: otherRest) :
    characters = others ∧ parts = otherParts := by
  induction spells generalizing others otherParts with
  | nil =>
    cases spells' with
    | nil => exact ⟨rfl, rfl⟩
    | cons first =>
      obtain ⟨_, _, rfl, other⟩ := first.exists_cons
      exact absurd (List.cons.inj same).1.symm other
  | cons first _ ih =>
    cases spells' with
    | nil =>
      obtain ⟨_, _, rfl, other⟩ := first.exists_cons
      exact absurd (List.cons.inj same).1 other
    | cons first' later' =>
      rw [List.flatten_cons, List.flatten_cons, List.append_assoc, List.append_assoc] at same
      obtain ⟨rfl, rfl⟩ := first.append_inj first' same
      obtain ⟨rfl, rfl⟩ := ih later' (List.append_cancel_left same)
      exact ⟨rfl, rfl⟩

theorem SpellsText.append_inj {value other : String} {text otherText rest otherRest : List Char}
    (spells : SpellsText value text) (spells' : SpellsText other otherText)
    (same : text ++ rest = otherText ++ otherRest) : value = other ∧ text = otherText := by
  obtain ⟨parts, characters, rfl⟩ := spells
  obtain ⟨otherParts, otherCharacters, rfl⟩ := spells'
  have inside : parts.flatten ++ '"' :: rest = otherParts.flatten ++ '"' :: otherRest := by
    simpa using same
  obtain ⟨equal, rfl⟩ := chars_append_inj characters otherCharacters inside
  exact ⟨String.toList_inj.mp equal, rfl⟩

/-! ### Sequences -/

/-- A character that values and members begin with. -/
def Begins (c : Char) : Prop :=
  c ∈ ['n', '"', '[', '\x7b'] ∨ c.isDigit = true

/-- A comma or a closing bracket comes first. -/
def EndsItem (text : List Char) : Prop :=
  ∃ mark rest, text = mark :: rest ∧ mark ∈ [',', ']', '\x7d']

theorem Begins.not_mem {c : Char} (begins : Begins c) :
    c ∉ [' ', '\t', '\n', '\r'] ++ [',', ']', '\x7d'] := by
  have apart : ∀ c ∈ [' ', '\t', '\n', '\r'] ++ [',', ']', '\x7d'],
      c ∉ ['n', '"', '[', '\x7b'] ∧ c.isDigit = false := by simp
  intro member
  obtain ⟨noMark, noDigit⟩ := apart c member
  rcases begins with mark | digit
  · exact noMark mark
  · exact Bool.false_ne_true (noDigit.symm.trans digit)

theorem Begins.endsGap {c : Char} (begins : Begins c) (rest : List Char) : EndsGap (c :: rest) := by
  rintro _ ⟨rfl⟩ blank
  exact begins.not_mem (List.mem_append_left _ blank)

theorem Begins.not_endsItem {c : Char} (begins : Begins c) (rest : List Char) :
    ¬EndsItem (c :: rest) := by
  rintro ⟨_, _, same, isMark⟩
  obtain ⟨rfl, -⟩ := List.cons.inj same
  exact begins.not_mem (List.mem_append_right _ isMark)

namespace EndsItem

variable {rest : List Char} (ends : EndsItem rest)

include ends

theorem endsGap : EndsGap rest := by
  obtain ⟨mark, tail, rfl, isMark⟩ := ends
  have apart : ∀ c ∈ [',', ']', '\x7d'], c ∉ [' ', '\t', '\n', '\r'] := by simp
  rintro _ ⟨rfl⟩
  exact apart _ isMark

/-- White space may come before it. -/
theorem endsNumber_append {gap : List Char} (isGap : IsGap gap) : EndsNumber (gap ++ rest) := by
  cases gap with
  | nil =>
    obtain ⟨mark, tail, rfl, isMark⟩ := ends
    have noDigit : ∀ c ∈ [',', ']', '\x7d'], ¬c.isDigit = true := by simp
    rintro _ ⟨rfl⟩
    exact noDigit _ isMark
  | cons blank gap =>
    have noDigit : ∀ c ∈ [' ', '\t', '\n', '\r'], ¬c.isDigit = true := by simp
    rintro _ ⟨rfl⟩
    exact noDigit _ (isGap _ List.mem_cons_self)

end EndsItem

section Sequences

variable {α : Type} {spells : α → List Char → Prop}

/-- A text of the value is told from what is behind it, as long as this begins with no digit. -/
structure IsReadable (spells : α → List Char → Prop) (value : α) : Prop where
  append_inj : ∀ {other text otherText rest otherRest}, spells value text →
    spells other otherText → EndsNumber rest → EndsNumber otherRest →
    text ++ rest = otherText ++ otherRest → value = other ∧ text = otherText

variable (begins : ∀ value text, spells value text →
  ∃ first rest, text = first :: rest ∧ Begins first)

include begins

theorem endsGap_append {value : α} {text : List Char} (spelled : spells value text)
    (rest : List Char) : EndsGap (text ++ rest) := by
  obtain ⟨first, tail, rfl, isFirst⟩ := begins _ _ spelled
  exact isFirst.endsGap _

/-- White space on its own is no item. -/
theorem gap_append_ne {value : α} {gap before text rest otherRest : List Char} (isGap : IsGap gap)
    (isGap' : IsGap before) (ends : EndsItem rest) (spelled : spells value text) :
    gap ++ rest ≠ before ++ (text ++ otherRest) := by
  intro same
  obtain ⟨first, tail, rfl, isFirst⟩ := begins _ _ spelled
  obtain ⟨-, rfl⟩ := run_append_inj isGap isGap' ends.endsGap (isFirst.endsGap _) same
  exact isFirst.not_endsItem _ ends

/-- An item with white space around it ends where a comma or a bracket follows. -/
theorem item_append_inj {value other : α} {before text after rest : List Char}
    {otherBefore otherText otherAfter otherRest : List Char} (readable : IsReadable spells value)
    (spelled : spells value text) (spelled' : spells other otherText) (isGap : IsGap before)
    (isGap' : IsGap after) (otherGap : IsGap otherBefore) (otherGap' : IsGap otherAfter)
    (ends : EndsItem rest) (ends' : EndsItem otherRest)
    (same : before ++ (text ++ (after ++ rest)) =
      otherBefore ++ (otherText ++ (otherAfter ++ otherRest))) :
    value = other ∧ before ++ text ++ after = otherBefore ++ otherText ++ otherAfter ∧
      rest = otherRest := by
  obtain ⟨rfl, behind⟩ := run_append_inj isGap otherGap (endsGap_append begins spelled _)
    (endsGap_append begins spelled' _) same
  obtain ⟨rfl, rfl⟩ := readable.append_inj spelled spelled' (ends.endsNumber_append isGap')
    (ends'.endsNumber_append otherGap') behind
  obtain ⟨rfl, rfl⟩ := run_append_inj isGap' otherGap' ends.endsGap ends'.endsGap
    (List.append_cancel_left behind)
  exact ⟨rfl, rfl, rfl⟩

/-- A sequence ends where its bracket is closed. By induction on the sequence: both begin with the
same item, and the mark behind that says whether another one follows. -/
theorem Separates.append_inj {closing : Char} (closes : closing ∈ [']', '\x7d'])
    {items others : List α} {texts otherTexts : List (List Char)}
    {sequence otherSequence rest otherRest : List Char}
    (readable : ∀ item ∈ items, IsReadable spells item)
    (spelled : List.Forall₂ spells items texts) (spelled' : List.Forall₂ spells others otherTexts)
    (separates : Separates texts sequence) (separates' : Separates otherTexts otherSequence)
    (same : sequence ++ closing :: rest = otherSequence ++ closing :: otherRest) :
    items = others ∧ sequence = otherSequence := by
  have ends (rest : List Char) : EndsItem (closing :: rest) :=
    ⟨closing, rest, rfl, List.mem_cons_of_mem _ closes⟩
  have comma (rest : List Char) : EndsItem (',' :: rest) := ⟨',', rest, rfl, List.mem_cons_self⟩
  have other : closing ≠ ',' := by
    rintro rfl
    revert closes
    decide
  induction separates generalizing items others otherTexts otherSequence with
  | none isGap =>
    cases spelled
    cases separates' with
    | none isGap' =>
      cases spelled'
      exact ⟨rfl, (run_append_inj isGap isGap' (ends _).endsGap (ends _).endsGap same).1⟩
    | last otherGap | more otherGap =>
      cases spelled' with
      | cons first' =>
        simp only [List.append_assoc] at same
        exact absurd same (gap_append_ne begins isGap otherGap (ends _) first')
  | last isGap isGap' =>
    cases spelled with
    | cons first none =>
      cases none
      cases separates' with
      | none otherGap =>
        simp only [List.append_assoc] at same
        exact absurd same.symm (gap_append_ne begins otherGap isGap (ends _) first)
      | last otherGap otherGap' =>
        cases spelled' with
        | cons first' none' =>
          cases none'
          simp only [List.append_assoc] at same
          obtain ⟨rfl, item, -⟩ := item_append_inj begins (readable _ List.mem_cons_self) first first'
            isGap isGap' otherGap otherGap' (ends _) (ends _) same
          exact ⟨rfl, item⟩
      | more otherGap otherGap' =>
        cases spelled' with
        | cons first' =>
          simp only [List.append_assoc, List.cons_append] at same
          obtain ⟨-, -, marks⟩ := item_append_inj begins (readable _ List.mem_cons_self) first first'
            isGap isGap' otherGap otherGap' (ends _) (comma _) same
          exact absurd (List.cons.inj marks).1 other
  | more isGap isGap' _ ih =>
    cases spelled with
    | cons first later =>
      cases separates' with
      | none otherGap =>
        simp only [List.append_assoc] at same
        exact absurd same.symm (gap_append_ne begins otherGap isGap (ends _) first)
      | last otherGap otherGap' =>
        cases spelled' with
        | cons first' =>
          simp only [List.append_assoc, List.cons_append] at same
          obtain ⟨-, -, marks⟩ := item_append_inj begins (readable _ List.mem_cons_self) first first'
            isGap isGap' otherGap otherGap' (comma _) (ends _) same
          exact absurd (List.cons.inj marks).1.symm other
      | more otherGap otherGap' separates' =>
        cases spelled' with
        | cons first' later' =>
          simp only [List.append_assoc, List.cons_append] at same
          obtain ⟨rfl, item, behind⟩ := item_append_inj begins (readable _ List.mem_cons_self) first
            first' isGap isGap' otherGap otherGap' (comma _) (comma _) same
          obtain ⟨rfl, rfl⟩ := ih (fun item member => readable item (List.mem_cons_of_mem _ member))
            later later' separates' (List.cons.inj behind).2
          exact ⟨rfl, by rw [item]⟩

end Sequences

/-! ### Values -/

/-- The character that texts of the value begin with. -/
def Opens : Json → Char → Prop
  | null, c => c = 'n'
  | number _, c => c.isDigit = true
  | text _, c => c = '"'
  | list _, c => c = '['
  | record _, c => c = '\x7b'

theorem Opens.begins {value : Json} {c : Char} (opens : value.Opens c) : Begins c := by
  cases value with
  | number => exact .inr opens
  | null | text | list | record => exact .inl (by rw [show c = _ from opens]; simp)

theorem SpellsText.exists_cons {value : String} {text : List Char} (spells : SpellsText value text) :
    ∃ rest, text = '"' :: rest := by
  obtain ⟨parts, -, rfl⟩ := spells
  exact ⟨_, rfl⟩

namespace Spells

variable {value other : Json} {text otherText rest otherRest : List Char}

theorem exists_cons (spells : Spells value text) :
    ∃ first rest, text = first :: rest ∧ value.Opens first := by
  cases spells with
  | null => exact ⟨_, _, rfl, rfl⟩
  | number value =>
    obtain ⟨first, rest, digits⟩ :=
      List.exists_cons_of_ne_nil (List.ne_nil_of_length_pos (@Nat.length_toDigits_pos 10 value))
    refine ⟨first, rest, digits, ?_⟩
    exact Nat.isDigit_of_mem_toDigits (by decide) (by decide) (digits ▸ List.mem_cons_self)
  | text spells =>
    obtain ⟨_, rfl⟩ := spells.exists_cons
    exact ⟨_, _, rfl, rfl⟩
  | list | record => exact ⟨_, _, rfl, rfl⟩

theorem begins (value : Json) (text : List Char) (spells : Spells value text) :
    ∃ first rest, text = first :: rest ∧ Begins first := by
  obtain ⟨first, rest, same, opens⟩ := spells.exists_cons
  exact ⟨first, rest, same, opens.begins⟩

theorem append_ne (apart : ∀ c, value.Opens c → ¬other.Opens c) (spells : Spells value text)
    (spells' : Spells other otherText) : text ++ rest ≠ otherText ++ otherRest := by
  intro same
  obtain ⟨first, _, rfl, opens⟩ := spells.exists_cons
  obtain ⟨_, _, rfl, opens'⟩ := spells'.exists_cons
  obtain ⟨rfl, -⟩ := List.cons.inj same
  exact apart first opens opens'

end Spells

theorem SpellsMember.begins (member : String × Json) (text : List Char)
    (spells : SpellsMember member text) : ∃ first rest, text = first :: rest ∧ Begins first := by
  cases spells with
  | mk spellsName =>
    obtain ⟨_, rfl⟩ := spellsName.exists_cons
    exact ⟨_, _, rfl, .inl (by simp)⟩

/-- A number ends where no digit follows. -/
theorem number_append_inj {value other : Nat} {rest otherRest : List Char} (ends : EndsNumber rest)
    (ends' : EndsNumber otherRest)
    (same : Nat.toDigits 10 value ++ rest = Nat.toDigits 10 other ++ otherRest) : value = other := by
  have digits (number : Nat) : ∀ c ∈ Nat.toDigits 10 number, c.isDigit = true := fun _ member =>
    Nat.isDigit_of_mem_toDigits (by decide) (by decide) member
  exact Numeral.toDigits_inj (by decide) (by decide)
    (run_append_inj (digits value) (digits other) ends ends' same).1

theorem isReadable_member {name : String} {value : Json} (readable : IsReadable Spells value) :
    IsReadable SpellsMember (name, value) where
  append_inj := by
    intro other text otherText rest otherRest spelled spelled' ends ends' same
    have colon (rest : List Char) : EndsGap (':' :: rest) := by
      rintro _ ⟨rfl⟩
      simp
    cases spelled with
    | mk spellsName isGap isGap' spells =>
      cases spelled' with
      | mk spellsName' otherGap otherGap' spells' =>
        simp only [List.append_assoc, List.cons_append] at same
        obtain ⟨rfl, rfl⟩ := spellsName.append_inj spellsName' same
        obtain ⟨rfl, behind⟩ := run_append_inj isGap otherGap (colon _) (colon _)
          (List.append_cancel_left same)
        obtain ⟨rfl, values⟩ := run_append_inj isGap' otherGap'
          (endsGap_append Spells.begins spells _) (endsGap_append Spells.begins spells' _)
          (List.cons.inj behind).2
        obtain ⟨rfl, rfl⟩ := readable.append_inj spells spells' ends ends' values
        exact ⟨rfl, rfl⟩

/-! By recursion on values again: items and members are readable before the sequence of them is. -/

mutual

theorem isReadable : (value : Json) → IsReadable Spells value
  | null => ⟨by
    intro other text otherText rest otherRest spelled spelled' _ _ same
    cases other with
    | null =>
      cases spelled
      cases spelled'
      exact ⟨rfl, rfl⟩
    | number | text | list | record =>
      exact absurd same (spelled.append_ne (by simp [Opens]) spelled')⟩
  | number value => ⟨by
    intro other text otherText rest otherRest spelled spelled' ends ends' same
    cases other with
    | number other =>
      cases spelled
      cases spelled'
      obtain rfl := number_append_inj ends ends' same
      exact ⟨rfl, rfl⟩
    | null | text | list | record =>
      refine absurd same.symm (spelled'.append_ne ?_ spelled)
      simp [Opens]⟩
  | text value => ⟨by
    intro other text otherText rest otherRest spelled spelled' _ _ same
    cases other with
    | text other =>
      cases spelled with
      | text spells =>
        cases spelled' with
        | text spells' =>
          obtain ⟨rfl, texts⟩ := spells.append_inj spells' same
          exact ⟨rfl, texts⟩
    | null | number | list | record =>
      exact absurd same (spelled.append_ne (by simp [Opens]) spelled')⟩
  | list items => ⟨by
    intro other text otherText rest otherRest spelled spelled' _ _ same
    cases other with
    | list others =>
      cases spelled with
      | @list _ _ sequence spells separates =>
        cases spelled' with
        | @list _ _ otherSequence spells' separates' =>
          have inside : sequence ++ ']' :: rest = otherSequence ++ ']' :: otherRest := by
            simpa using same
          obtain ⟨rfl, rfl⟩ := separates.append_inj Spells.begins (by simp)
            (isReadable_items items) spells spells' separates' inside
          exact ⟨rfl, rfl⟩
    | null | number | text | record =>
      exact absurd same (spelled.append_ne (by simp [Opens]) spelled')⟩
  | record members => ⟨by
    intro other text otherText rest otherRest spelled spelled' _ _ same
    cases other with
    | record others =>
      cases spelled with
      | @record _ _ sequence spells separates =>
        cases spelled' with
        | @record _ _ otherSequence spells' separates' =>
          have inside : sequence ++ '\x7d' :: rest = otherSequence ++ '\x7d' :: otherRest := by
            simpa using same
          obtain ⟨rfl, rfl⟩ := separates.append_inj SpellsMember.begins (by simp)
            (isReadable_members members) spells spells' separates' inside
          exact ⟨rfl, rfl⟩
    | null | number | text | list =>
      exact absurd same (spelled.append_ne (by simp [Opens]) spelled')⟩

theorem isReadable_items : (items : List Json) → ∀ item ∈ items, IsReadable Spells item
  | [] => nofun
  | item :: rest => List.forall_mem_cons.mpr ⟨isReadable item, isReadable_items rest⟩

theorem isReadable_members : (members : List (String × Json)) →
    ∀ member ∈ members, IsReadable SpellsMember member
  | [] => nofun
  | (_, value) :: rest =>
    List.forall_mem_cons.mpr ⟨isReadable_member (isReadable value), isReadable_members rest⟩

end

/-- A text is one of a single value. -/
theorem Spells.unique {value other : Json} {text : List Char} (spells : Spells value text)
    (spells' : Spells other text) : value = other := by
  have ends : EndsNumber [] := by simp [EndsRun]
  exact ((isReadable value).append_inj spells spells' ends ends rfl).1

end Json

namespace CommandLine

/-- What is printed for a value says that value and no other. -/
theorem Formats.PrintsJson.spells_iff {formats : Formats} (prints : formats.PrintsJson)
    (value other : Json) :
    other.Spells (formats.printJson value).toList ↔ other = value := by
  constructor
  · exact fun spells => spells.unique (prints value)
  · rintro rfl
    exact prints other

end CommandLine

end Itanium
