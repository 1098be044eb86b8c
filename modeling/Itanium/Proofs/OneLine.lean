import Itanium.Listing
import Itanium.Proofs.Names
import Itanium.Proofs.OperandText

/-!
# Texts that stay on their line

Everything that a listing is put together from is printable ASCII: names, numerals, and the marks
and blanks between them. So no line of a listing holds a line break, whatever bundle it lists.
-/
namespace Itanium

open Text

namespace Text

/-- A character that takes one column. -/
def isPrintable (c : Char) : Bool :=
  ' ' ≤ c && c ≤ '~'

def IsOneLine (text : String) : Prop :=
  ∀ c ∈ text.toList, isPrintable c = true

theorem IsOneLine.no_break {text : String} (line : IsOneLine text) :
    '\n' ∉ text.toList ∧ '\r' ∉ text.toList := by
  constructor
  · intro member
    cases line _ member
  · intro member
    cases line _ member

theorem IsOneLine.of_all {text : String} (checked : text.toList.all isPrintable = true) :
    IsOneLine text :=
  List.all_eq_true.mp checked

theorem isOneLine_append {first second : String} :
    IsOneLine (first ++ second) ↔ IsOneLine first ∧ IsOneLine second := by
  rw [IsOneLine, String.toList_append]
  exact List.forall_mem_append

theorem IsOneLine.append {first second : String} (left : IsOneLine first)
    (right : IsOneLine second) : IsOneLine (first ++ second) :=
  isOneLine_append.mpr ⟨left, right⟩

theorem isOneLine_join {texts : List String} (each : ∀ text ∈ texts, IsOneLine text) :
    IsOneLine (String.join texts) := by
  intro c member
  rw [String.toList_join] at member
  obtain ⟨text, listed, within⟩ := List.mem_flatMap.mp member
  exact each text listed c within

theorem isOneLine_intercalate {separator : String} (separates : IsOneLine separator)
    {texts : List String} (each : ∀ text ∈ texts, IsOneLine text) :
    IsOneLine (String.intercalate separator texts) := by
  induction texts with
  | nil =>
    rw [String.intercalate_nil]
    exact .of_all rfl
  | cons text rest ih =>
    have first := each text List.mem_cons_self
    cases rest with
    | nil =>
      rw [String.intercalate_singleton]
      exact first
    | cons next rest =>
      rw [String.intercalate_cons_cons]
      exact (first.append separates).append
        (ih fun other member => each other (List.mem_cons_of_mem text member))

theorem isOneLine_replicate (count : Nat) :
    IsOneLine (String.ofList (List.replicate count ' ')) := by
  intro c member
  rw [String.toList_ofList] at member
  rw [List.eq_of_mem_replicate member]
  rfl

end Text

/-! ### Numerals -/

namespace Numeral

theorem isPrintable_of_mem_padLeft {width : Nat} {digits : List Char}
    (each : ∀ c ∈ digits, isPrintable c = true) :
    ∀ c ∈ padLeft width '0' digits, isPrintable c = true := by
  intro c member
  rcases List.mem_append.mp member with zero | digit
  · rw [List.eq_of_mem_replicate zero]
    rfl
  · exact each c digit

theorem isPrintable_of_mem_toDigits {base : Nat} (large : 1 < base) (bounded : base ≤ 16)
    {n : Nat} {c : Char} (member : c ∈ Nat.toDigits base n) :
    isPrintable c = true ∧ isPrintable c.toUpper = true := by
  obtain ⟨digit, bound, rfl⟩ := exists_digit_of_mem_toDigits large member
  have checked : ∀ digit < 16, isPrintable digit.digitChar = true ∧
      isPrintable digit.digitChar.toUpper = true := by decide
  exact checked digit (by omega)

theorem isOneLine_decimal (n : Nat) : IsOneLine (decimal n) := by
  intro c member
  rw [toList_decimal] at member
  exact (isPrintable_of_mem_toDigits (by decide) (by decide) member).1

theorem isOneLine_hex (width n : Nat) : IsOneLine (hex width n) := by
  rw [IsOneLine, toList_hex]
  apply isPrintable_of_mem_padLeft
  intro c member
  exact (isPrintable_of_mem_toDigits (by decide) (by decide) member).1

theorem isOneLine_upperHex (width n : Nat) : IsOneLine (upperHex width n) := by
  rw [IsOneLine, upperHex, String.toList_ofList]
  apply isPrintable_of_mem_padLeft
  intro c member
  obtain ⟨digit, listed, rfl⟩ := List.mem_map.mp member
  exact (isPrintable_of_mem_toDigits (by decide) (by decide) listed).2

end Numeral

/-! ### Instructions -/

theorem Mnemonic.isOneLine_text (mnemonic : Mnemonic) : IsOneLine mnemonic.text :=
  .of_all (numbering.forall_of_index
    (fun mnemonic => mnemonic.text.toList.all isPrintable = true) (by decide +kernel) mnemonic)

theorem CompleterForm.isOneLine_text (form : CompleterForm) : IsOneLine form.text :=
  .of_all (numbering.forall_of_index (fun form => form.text.toList.all isPrintable = true)
    (by decide +kernel) form)

theorem isOneLine_applicationText (number : Nat) : IsOneLine (applicationText number) := by
  rw [applicationText]
  cases named : applicationRegisterName number with
  | none => exact .append (.of_all rfl) (Numeral.isOneLine_decimal number)
  | some name =>
    unfold applicationRegisterName at named
    split at named <;> cases named <;> exact .of_all rfl

theorem isOneLine_immediateText (value : Word) : IsOneLine (immediateText value) := by
  rw [immediateText]
  split
  · exact .append (.of_all rfl) (Numeral.isOneLine_hex 1 _)
  · exact .append (.of_all rfl) (Numeral.isOneLine_hex 1 _)

theorem Operand.isOneLine_text (operand : Operand) (address : Word) :
    IsOneLine (operand.text address) := by
  -- A kind has one text, or a frame around a number, or is one of four that are written otherwise.
  by_cases unique : operand.kind.isUnique = true
  · rw [text_of_isUnique unique]
    generalize operand.kind = kind at unique
    cases kind <;> cases unique <;> exact .of_all rfl
  · cases framed : operand.kind.frame? with
    | some frame =>
      obtain ⟨before, after⟩ := frame
      have around : IsOneLine before ∧ IsOneLine after := by
        generalize operand.kind = kind at framed
        cases kind <;> cases framed <;> exact ⟨.of_all rfl, .of_all rfl⟩
      have text : operand.text address =
          before ++ (Numeral.decimal operand.value.toNat ++ after) := by
        apply String.toList_inj.mp
        rw [toList_text_of_frame framed, String.toList_append, String.toList_append]
      rw [text]
      exact around.1.append ((Numeral.isOneLine_decimal _).append around.2)
    | none =>
      obtain ⟨kind, value⟩ := operand
      cases kind
      case none => exact .of_all rfl
      case areg => exact isOneLine_applicationText value.toNat
      case imm => exact isOneLine_immediateText value
      case disp => exact .append (.of_all rfl) (Numeral.isOneLine_hex 1 _)
      all_goals first | exact absurd rfl unique | cases framed

namespace Instruction

theorem isOneLine_predicateText (instruction : Instruction) :
    IsOneLine instruction.predicateText := by
  rw [predicateText]
  split
  · exact .append (.append (.of_all rfl) (Numeral.isOneLine_decimal _)) (.of_all rfl)
  · exact .of_all rfl

theorem isOneLine_nameText (instruction : Instruction) : IsOneLine instruction.nameText := by
  apply isOneLine_join
  intro text member
  rcases List.mem_cons.mp member with rfl | later
  · exact instruction.mnemonic.isOneLine_text
  · obtain ⟨completer, -, rfl⟩ := List.mem_map.mp later
    exact .append (.of_all rfl) completer.form.isOneLine_text

theorem isOneLine_operandTexts (operands : List Operand) (address : Word) :
    IsOneLine (operandTexts operands address) := by
  apply isOneLine_intercalate (.of_all rfl)
  intro text member
  obtain ⟨operand, -, rfl⟩ := List.mem_map.mp member
  exact operand.isOneLine_text address

theorem isOneLine_text (instruction : Instruction) (address : Word) :
    IsOneLine (instruction.text address) := by
  have destinations := isOneLine_operandTexts instruction.destinations address
  have sources := isOneLine_operandTexts instruction.sources address
  have space : IsOneLine " " := .of_all rfl
  have equals : IsOneLine " = " := .of_all rfl
  have operands : IsOneLine (instruction.operandsText address) := by
    unfold operandsText
    dsimp only
    split
    · split
      · exact .of_all rfl
      · exact space.append sources
    · split
      · exact space.append destinations
      · exact ((space.append destinations).append equals).append sources
  exact (instruction.isOneLine_predicateText.append instruction.isOneLine_nameText).append operands

end Instruction

/-! ### Listings -/

theorem Template.isOneLine_name (template : Template) : IsOneLine template.name := by
  cases template <;> exact .of_all rfl

theorem Template.isOneLine_letters (template : Template) : IsOneLine template.letters := by
  cases template <;> exact .of_all rfl

namespace Listing

theorem isOneLine_line (flags : Flags) (template : Template) (address : Word) (first : Bool)
    (slot : Nat) (instruction : Instruction) :
    IsOneLine (line flags template address first slot instruction) := by
  have located : IsOneLine (addressColumn flags address first) := by
    rw [addressColumn]
    split
    · exact .of_all rfl
    · split
      · exact (Numeral.isOneLine_hex 16 _).append (.of_all rfl)
      · exact isOneLine_replicate 18
  have units : IsOneLine (templateColumn flags template first) := by
    rw [templateColumn]
    split
    · exact .of_all rfl
    · split
      · exact ((IsOneLine.append (.of_all rfl) template.isOneLine_letters).append
          (.of_all rfl)).append (isOneLine_replicate 7)
      · exact isOneLine_replicate 12
  have stop : IsOneLine (stopMark flags template slot) := by
    rw [stopMark]
    split <;> exact .of_all rfl
  have raw : IsOneLine (rawColumn flags instruction.bits) := by
    rw [rawColumn]
    split
    · exact .append (.of_all rfl) (Numeral.isOneLine_hex 11 _)
    · exact .of_all rfl
  have written := (located.append units).append (instruction.isOneLine_text address)
  exact (written.append stop).append raw

/-- No line of a listing breaks. -/
theorem isOneLine_of_mem_lines {flags : Flags} {bundle : Bundle} {address : Word} {text : String}
    (member : text ∈ lines flags bundle address) : IsOneLine text := by
  obtain ⟨position, inside, rfl⟩ := List.mem_mapIdx.mp member
  obtain ⟨slot, instruction⟩ := bundle.instructions[position]
  exact isOneLine_line flags bundle.template address (position == 0) slot instruction

end Listing

end Itanium
