import Itanium.Listing.Text
import Itanium.Proofs.Numeral
import Itanium.Proofs.Table
import Itanium.Proofs.Words

/-!
# Operands are read in one way

The text of an operand begins with what its kind puts before the first digit, and this tells the
kinds apart. Only immediates and displacements begin alike: at a given address one text can stand
for an immediate and for a displacement. For each kind the rest of the text determines the value.
-/
namespace Itanium

open Text Numeral

namespace OperandKind

/-- The kinds of register of which there is only one. -/
def isUnique : OperandKind → Bool
  | .ip | .pr | .prRot | .psr | .psrL | .psrUm => true
  | _ => false

def isNumber : OperandKind → Bool
  | .imm | .disp => true
  | _ => false

theorem imm_or_disp {kind : OperandKind} (number : kind.isNumber = true) :
    kind = .imm ∨ kind = .disp := by
  cases kind <;> cases number
  · exact .inr rfl
  · exact .inl rfl

/-- What stands around the number of a register, and no number for a register that is unique. -/
def frame? : OperandKind → Option (String × String)
  | .breg => some ("b", "")
  | .creg => some ("cr", "")
  | .freg => some ("f", "")
  | .greg => some ("r", "")
  | .preg => some ("p", "")
  | .mem => some ("[r", "]")
  | .cpuid => some ("cpuid[r", "]")
  | .dbr => some ("dbr[r", "]")
  | .dtr => some ("dtr[r", "]")
  | .ibr => some ("ibr[r", "]")
  | .itr => some ("itr[r", "]")
  | .msr => some ("msr[r", "]")
  | .pkr => some ("pkr[r", "]")
  | .pmc => some ("pmc[r", "]")
  | .pmd => some ("pmd[r", "]")
  | .rr => some ("rr[r", "]")
  | _ => .none

/-- What stands before the first digit, for the kinds where it does not depend on the value. -/
def opening? (kind : OperandKind) : Option (List Char) :=
  if kind.isUnique then some (Operand.text ⟨kind, 0⟩ 0).toList
  else kind.frame?.map (·.1.toList)

def numbering : Numbering OperandKind where
  count := 26
  index := OperandKind.ctorIdx
  member := ofNat
  index_lt kind := by cases kind <;> decide
  member_index := ofNat_ctorIdx

theorem eq_of_opening?_eq {left right : OperandKind} {opening : List Char}
    (leftOpening : left.opening? = some opening) (rightOpening : right.opening? = some opening) :
    left = right := by
  have checked := numbering.forall_of_index (fun left => ∀ index < numbering.count,
    left.opening?.isSome = true → left.opening? = (numbering.member index).opening? →
      left = numbering.member index) (by decide) left
  have same := numbering.forall_of_index
    (fun right => left.opening?.isSome = true → left.opening? = right.opening? → left = right)
    checked right
  exact same (leftOpening ▸ rfl) (leftOpening.trans rightOpening.symm)

/-- An opening has no digit, and begins neither an application register nor a number. -/
theorem plain_of_opening? {kind : OperandKind} {opening : List Char}
    (opens : kind.opening? = some opening) :
    opening.all (!·.isDigit) = true ∧ opening.head? ≠ some 'a' ∧ opening ≠ [] ∧
      opening ≠ ['-'] := by
  have plain := numbering.forall_of_index (fun kind => ∀ opening ∈ kind.opening?,
    opening.all (!·.isDigit) = true ∧ opening.head? ≠ some 'a' ∧ opening ≠ [] ∧
      opening ≠ ['-']) (by decide) kind
  exact plain opening opens

/-- What can stand before the first digit of an operand's text. -/
inductive Leads : OperandKind → List Char → Prop
  | opening {kind : OperandKind} {lead : List Char} (opens : kind.opening? = some lead) :
      Leads kind lead
  | application {lead : List Char} (head : lead.head? = some 'a') : Leads .areg lead
  | number {kind : OperandKind} {lead : List Char} (isNumber : kind.isNumber = true)
      (sign : lead = [] ∨ lead = ['-']) : Leads kind lead

/-- It tells the kinds apart, unless both are numbers. -/
theorem eq_of_leads {left right : OperandKind} {lead : List Char} (leftLeads : left.Leads lead)
    (rightLeads : right.Leads lead) :
    left = right ∨ (left.isNumber = true ∧ right.isNumber = true) := by
  cases leftLeads with
  -- An opening is not empty, is no sign, and does not begin as an application register does.
  | opening opens =>
    obtain ⟨_, application, nonempty, unsigned⟩ := plain_of_opening? opens
    cases rightLeads with
    | opening opens' => exact .inl (eq_of_opening?_eq opens opens')
    | application head => exact absurd head application
    | number _ sign => exact absurd sign (not_or.mpr ⟨nonempty, unsigned⟩)
  | application head =>
    cases rightLeads with
    | opening opens => exact absurd head (plain_of_opening? opens).2.1
    | application => exact .inl rfl
    | number _ sign => rcases sign with rfl | rfl <;> cases head
  | number isNumber sign =>
    cases rightLeads with
    | opening opens =>
      obtain ⟨_, _, nonempty, unsigned⟩ := plain_of_opening? opens
      exact absurd sign (not_or.mpr ⟨nonempty, unsigned⟩)
    | application head => rcases sign with rfl | rfl <;> cases head
    | number isNumber' => exact .inr ⟨isNumber, isNumber'⟩

end OperandKind

/-! ### What stands before the first digit -/

def lead (text : List Char) : List Char :=
  text.takeWhile (!·.isDigit)

theorem lead_append_digits {before digits : List Char} (after : List Char)
    (undigited : before.all (!·.isDigit) = true) (nonempty : digits ≠ [])
    (numeral : ∀ c ∈ digits, c.isDigit = true) : lead (before ++ (digits ++ after)) = before := by
  cases digits with
  | nil => exact absurd rfl nonempty
  | cons first rest =>
    have stops := numeral first List.mem_cons_self
    rw [lead, List.takeWhile_append_of_pos (List.all_eq_true.mp undigited), List.cons_append]
    simp [stops]

namespace Operand

variable {operand : Operand} {address : Word}

/-- The text of a register with a number. -/
theorem toList_text_of_frame {before after : String}
    (framed : operand.kind.frame? = some (before, after)) :
    (operand.text address).toList =
      before.toList ++ ((decimal operand.value.toNat).toList ++ after.toList) := by
  obtain ⟨kind, value⟩ := operand
  cases kind <;> cases framed <;> simp [text, indexed]

theorem text_of_isUnique (unique : operand.kind.isUnique = true) :
    operand.text address = text ⟨operand.kind, 0⟩ 0 := by
  obtain ⟨kind, value⟩ := operand
  cases kind <;> cases unique <;> rfl

theorem lead_text_of_opening {opening : List Char}
    (opens : operand.kind.opening? = some opening) :
    lead (operand.text address).toList = opening := by
  obtain ⟨undigited, _⟩ := OperandKind.plain_of_opening? opens
  unfold OperandKind.opening? at opens
  split at opens
  -- The text of a unique register has no digit, so all of it stands before the first one.
  next unique =>
    rw [text_of_isUnique unique, Option.some.inj opens]
    exact List.takeWhile_eq_self_iff.mpr (List.all_eq_true.mp undigited)
  next =>
    obtain ⟨⟨before, after⟩, framed, rfl⟩ := Option.map_eq_some_iff.mp opens
    rw [toList_text_of_frame framed]
    exact lead_append_digits _ undigited (by simp [toList_decimal, Nat.toDigits_ne_nil])
      fun c member => isDigit_of_mem_decimal member

end Operand

/-! ### Application registers -/

section Application

variable {number : Nat} {name : String}

theorem applicationRegisterName_bound (named : applicationRegisterName number = some name) :
    number < 67 ∧ ∃ rest, name.toList = 'a' :: 'r' :: '.' :: rest := by
  unfold applicationRegisterName at named
  split at named <;> cases named <;> exact ⟨by decide, _, rfl⟩

theorem applicationRegisterName_inj {number' : Nat}
    (named : applicationRegisterName number = some name)
    (named' : applicationRegisterName number' = some name) : number = number' := by
  have distinct : distinctFrom 0 (((List.range 67).filter fun number =>
      (applicationRegisterName number).isSome).map fun number =>
        textNumber ((applicationRegisterName number).getD "").toList) = true := by
    decide
  have listed {number : Nat} (named : applicationRegisterName number = some name) :
      number ∈ (List.range 67).filter fun number => (applicationRegisterName number).isSome := by
    rw [List.mem_filter, List.mem_range, named]
    exact ⟨(applicationRegisterName_bound named).1, rfl⟩
  exact eq_of_distinct distinct (listed named) (listed named') (by rw [named, named'])

/-- The text of an application register. -/
def applicationText (number : Nat) : String :=
  (applicationRegisterName number).getD ("ar" ++ decimal number)

theorem toList_applicationText (number : Nat) :
    ∃ rest, (applicationText number).toList = 'a' :: 'r' :: rest ∧
      ((∃ name, applicationRegisterName number = some name ∧
          applicationText number = name ∧ rest.head? = some '.') ∨
        rest = (decimal number).toList) := by
  unfold applicationText
  cases named : applicationRegisterName number with
  | some name =>
    obtain ⟨rest, spelled⟩ := (applicationRegisterName_bound named).2
    exact ⟨'.' :: rest, spelled, .inl ⟨name, rfl, rfl, rfl⟩⟩
  | none =>
    exact ⟨(decimal number).toList, by simp, .inr rfl⟩

theorem applicationText_inj {left right : Nat}
    (equal : (applicationText left).toList = (applicationText right).toList) : left = right := by
  obtain ⟨leftRest, leftSpelled, leftCases⟩ := toList_applicationText left
  obtain ⟨rightRest, rightSpelled, rightCases⟩ := toList_applicationText right
  have rests : leftRest = rightRest := by
    rw [leftSpelled, rightSpelled] at equal
    simpa using equal
  have undotted (number : Nat) : (decimal number).toList.head? ≠ some '.' := by
    intro head
    cases isDigit_of_mem_decimal (List.mem_of_mem_head? head)
  -- A name goes on with a dot and a number with a digit.
  rcases leftCases with ⟨name, named, text, leftDot⟩ | leftDigits
  · rcases rightCases with ⟨name', named', text', _⟩ | rightDigits
    · have same : name = name' := by
        rw [← text, ← text']
        exact String.toList_inj.mp equal
      exact applicationRegisterName_inj named (same ▸ named')
    · rw [rests, rightDigits] at leftDot
      exact absurd leftDot (undotted right)
  · rcases rightCases with ⟨_, _, _, rightDot⟩ | rightDigits
    · rw [← rests, leftDigits] at rightDot
      exact absurd rightDot (undotted left)
    · exact decimal_inj (by rw [← leftDigits, rests, rightDigits])

end Application

/-! ### Numbers -/

theorem toList_immediateText (value : Word) :
    (value.msb = true ∧ (immediateText value).toList =
        '-' :: '0' :: 'x' :: (hex 1 (-value).toNat).toList) ∨
      (value.msb = false ∧ (immediateText value).toList =
        '0' :: 'x' :: (hex 1 value.toNat).toList) := by
  unfold immediateText
  cases value.msb with
  | true => exact .inl ⟨rfl, by simp⟩
  | false => exact .inr ⟨rfl, by simp⟩

theorem immediateText_inj {left right : Word}
    (equal : (immediateText left).toList = (immediateText right).toList) : left = right := by
  rcases toList_immediateText left with ⟨_, leftText⟩ | ⟨_, leftText⟩
  · rcases toList_immediateText right with ⟨_, rightText⟩ | ⟨_, rightText⟩
    · simp only [leftText, rightText, List.cons.injEq, true_and] at equal
      exact neg_injective (BitVec.eq_of_toNat_eq (hex_one_inj equal))
    · simp [leftText, rightText] at equal
  · rcases toList_immediateText right with ⟨_, rightText⟩ | ⟨_, rightText⟩
    · simp [leftText, rightText] at equal
    · simp only [leftText, rightText, List.cons.injEq, true_and] at equal
      exact BitVec.eq_of_toNat_eq (hex_one_inj equal)

namespace Operand

variable {operand left right : Operand} {address : Word}

/-! ### Kinds and values -/

theorem eq_of_kind_eq (kinds : left.kind = right.kind) (values : left.value = right.value) :
    left = right := by
  cases left
  cases right
  exact congrArg₂ Operand.mk kinds values

theorem lead_text_of_isNumber (number : operand.kind.isNumber = true) :
    lead (operand.text address).toList = [] ∨ lead (operand.text address).toList = ['-'] := by
  obtain ⟨kind, value⟩ := operand
  cases kind <;> cases number
  case imm =>
    rcases toList_immediateText value with ⟨_, spelled⟩ | ⟨_, spelled⟩
    · exact .inr (by rw [text, spelled]; rfl)
    · exact .inl (by rw [text, spelled]; rfl)
  case disp => exact .inl (by simp [text, lead])

theorem leads_text (operand : Operand) (address : Word) (shown : operand.kind ≠ .none) :
    operand.kind.Leads (lead (operand.text address).toList) := by
  obtain ⟨kind, value⟩ := operand
  cases kind
  case none => exact absurd rfl shown
  case areg =>
    obtain ⟨rest, spelled, _⟩ := toList_applicationText value.toNat
    refine .application ?_
    rw [show (Operand.text ⟨.areg, value⟩ address).toList = 'a' :: 'r' :: rest from spelled]
    rfl
  case imm => exact .number rfl (lead_text_of_isNumber rfl)
  case disp => exact .number rfl (lead_text_of_isNumber rfl)
  all_goals exact .opening (by rw [lead_text_of_opening rfl]; rfl)

/-- The text of an operand shows its kind, unless it is a number. -/
theorem kind_eq_of_text_eq (leftShown : left.kind ≠ .none) (rightShown : right.kind ≠ .none)
    (equal : left.text address = right.text address) :
    left.kind = right.kind ∨ (left.kind.isNumber = true ∧ right.kind.isNumber = true) := by
  have leftLeads := left.leads_text address leftShown
  rw [equal] at leftLeads
  exact OperandKind.eq_of_leads leftLeads (right.leads_text address rightShown)

/-- An operand that the listing can show: the value of a unique register is zero. -/
def IsShown (operand : Operand) : Prop :=
  operand.kind ≠ .none ∧ (operand.kind.isUnique = true → operand.value = 0)

/-- Among operands of one kind the text shows the value. -/
theorem value_eq_of_text_eq (leftShown : left.IsShown) (rightShown : right.IsShown)
    (kinds : left.kind = right.kind) (equal : left.text address = right.text address) :
    left.value = right.value := by
  have texts : (left.text address).toList = (right.text address).toList := by rw [equal]
  by_cases unique : left.kind.isUnique = true
  · rw [leftShown.2 unique, rightShown.2 (kinds ▸ unique)]
  · cases framed : left.kind.frame? with
    | some frame =>
      obtain ⟨before, after⟩ := frame
      -- Both numerals stand in the frame of the kind.
      rw [toList_text_of_frame framed, toList_text_of_frame (kinds ▸ framed)] at texts
      have numerals := List.append_cancel_right (List.append_cancel_left texts)
      exact BitVec.eq_of_toNat_eq (decimal_inj numerals)
    | none =>
      obtain ⟨kind, value⟩ := left
      obtain ⟨kind', value'⟩ := right
      obtain rfl : kind = kind' := kinds
      cases kind
      case none => exact absurd rfl leftShown.1
      case areg => exact BitVec.eq_of_toNat_eq (applicationText_inj texts)
      case imm => exact immediateText_inj texts
      case disp =>
        simp only [text, String.toList_append] at texts
        exact add_left_cancel (BitVec.eq_of_toNat_eq
          (hex_one_inj (List.append_cancel_left texts)))
      all_goals first | exact absurd rfl unique | cases framed

/-! ### No gaps -/

theorem isGap_of_mem_hex {n : Nat} {c : Char} (member : c ∈ (hex 1 n).toList) :
    isGap c = false := by
  rw [toList_hex_one] at member
  obtain ⟨digit, bound, rfl⟩ := exists_digit_of_mem_toDigits (by decide) member
  have checked : ∀ digit < 16, isGap digit.digitChar = false := by decide
  exact checked digit bound

theorem isGap_of_mem_number {n : Nat} {c : Char}
    (member : c ∈ '0' :: 'x' :: (hex 1 n).toList) : isGap c = false := by
  rcases List.mem_cons.mp member with rfl | member
  · rfl
  · rcases List.mem_cons.mp member with rfl | member
    · rfl
    · exact isGap_of_mem_hex member

theorem isGap_of_frame {kind : OperandKind} {before after : String}
    (framed : kind.frame? = some (before, after)) :
    (before.toList ++ after.toList).all (!isGap ·) = true := by
  cases kind <;> cases framed <;> decide

theorem isGap_of_isUnique {kind : OperandKind} (unique : kind.isUnique = true) :
    (text ⟨kind, 0⟩ 0).toList.all (!isGap ·) = true := by
  cases kind <;> cases unique <;> decide

theorem isGap_of_applicationName {number : Nat} {name : String}
    (named : applicationRegisterName number = some name) : name.toList.all (!isGap ·) = true := by
  unfold applicationRegisterName at named
  split at named <;> cases named <;> decide

theorem isGap_of_mem_application {number : Nat} {c : Char}
    (member : c ∈ (applicationText number).toList) : isGap c = false := by
  unfold applicationText at member
  cases named : applicationRegisterName number with
  | some name =>
    rw [named] at member
    simpa using List.all_eq_true.mp (isGap_of_applicationName named) c member
  | none =>
    rw [named, Option.getD_none, String.toList_append] at member
    rcases List.mem_append.mp member with letter | digit
    · have letters : ("ar".toList.all (!isGap ·)) = true := by decide
      simpa using List.all_eq_true.mp letters c letter
    · exact isGap_of_isDigit (isDigit_of_mem_decimal digit)

/-- No operand has a gap in its text. -/
theorem isGap_of_mem_text : ∀ c ∈ (operand.text address).toList, isGap c = false := by
  intro c member
  -- A text is one of its kind, or a number in a frame, or it is spelled in a way of its own.
  by_cases unique : operand.kind.isUnique = true
  · rw [text_of_isUnique unique] at member
    simpa using List.all_eq_true.mp (isGap_of_isUnique unique) c member
  · cases framed : operand.kind.frame? with
    | some frame =>
      obtain ⟨before, after⟩ := frame
      have around := isGap_of_frame framed
      simp only [List.all_eq_true, Bool.not_eq_true', List.mem_append] at around
      rw [toList_text_of_frame framed] at member
      rcases List.mem_append.mp member with inBefore | later
      · exact around c (.inl inBefore)
      · rcases List.mem_append.mp later with inNumber | inAfter
        · exact isGap_of_isDigit (isDigit_of_mem_decimal inNumber)
        · exact around c (.inr inAfter)
    | none =>
      obtain ⟨kind, value⟩ := operand
      cases kind
      case none => cases member
      case areg => exact isGap_of_mem_application member
      case imm =>
        rcases toList_immediateText value with ⟨_, spelled⟩ | ⟨_, spelled⟩
        · rw [text, spelled] at member
          rcases List.mem_cons.mp member with rfl | member
          · rfl
          · exact isGap_of_mem_number member
        · rw [text, spelled] at member
          exact isGap_of_mem_number member
      case disp =>
        rw [text, String.toList_append] at member
        exact isGap_of_mem_number member
      all_goals first | exact absurd rfl unique | cases framed

theorem isSolid_text (shown : operand.kind ≠ .none) : IsSolid (operand.text address).toList := by
  refine ⟨?_, isGap_of_mem_text⟩
  obtain ⟨kind, value⟩ := operand
  cases kind
  case none => exact absurd rfl shown
  case areg =>
    obtain ⟨rest, spelled, _⟩ := toList_applicationText value.toNat
    exact fun empty => List.cons_ne_nil _ _ (spelled.symm.trans empty)
  case imm =>
    rcases toList_immediateText value with ⟨_, spelled⟩ | ⟨_, spelled⟩
    · exact fun empty => List.cons_ne_nil _ _ (spelled.symm.trans empty)
    · exact fun empty => List.cons_ne_nil _ _ (spelled.symm.trans empty)
  all_goals simp [text, indexed]

end Operand

end Itanium
