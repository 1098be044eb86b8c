import Itanium.Proofs.FixedFields

/-!
# Base updates

A memory access can add a register or an immediate to its base. The forms have rows of their own,
which give the code `x6` one meaning: the operation of the plain form, in the format with the
update. A store has no form that adds a register, and a load of a floating-point pair has one form
with an update. The rows are compared code by code, and a form is found by its rows alone.
-/
namespace Itanium

open OpcodeSpace

/-! ### Pages that stand alone -/

namespace OpcodeSpace

/-- The guards of all other pages of the unit conflict with those of this one. -/
def Page.IsAlone (unit : ExecutionUnit) (page : Page) : Prop :=
  (pages unit).filter (fun other => !conflict page.guards other.guards) = [page]

/-- Where a page that stands alone admits a syllable, its rows decide. -/
theorem lookup?_eq_rows {unit : ExecutionUnit} {page : Page} (alone : page.IsAlone unit)
    {syllable : Word} (met : Meets page.guards syllable) :
    lookup? unit syllable = page.rows.lookup (page.key.read syllable) := by
  -- The pages that the filter drops admit no syllable that meets the guards.
  have others : (pages unit).filterMap (·.lookup? syllable) =
      ((pages unit).filter fun other => !conflict page.guards other.guards).filterMap
        (·.lookup? syllable) := by
    rw [List.filterMap_filter]
    apply List.filterMap_congr
    intro other _
    cases differ : conflict page.guards other.guards with
    | false => rfl
    | true => exact Page.lookup?_of_conflict differ met
  have own : page.lookup? syllable = page.rows.lookup (page.key.read syllable) := by
    rw [Page.lookup?, if_pos (Page.admits_iff.mpr met)]
  rw [lookup?, ← List.head?_filterMap, others, alone, List.head?_filterMap, List.findSome?_cons,
    own]
  cases page.rows.lookup (page.key.read syllable) <;> rfl

end OpcodeSpace

/-! ### The forms -/

/-- One operation in a pair of formats. -/
def Paired (pairs : List (Format × Format)) (plain updating : Encoding) : Prop :=
  plain.operation = updating.operation ∧ (plain.format, updating.format) ∈ pairs

instance (pairs : List (Format × Format)) (plain updating : Encoding) :
    Decidable (Paired pairs plain updating) :=
  inferInstanceAs (Decidable (_ ∧ _))

instance decidableOptionRel {α β : Type} {r : α → β → Prop} [∀ a b, Decidable (r a b)] :
    ∀ left right, Decidable (Option.Rel r left right)
  | none, none => .isTrue .none
  | some a, some b => decidable_of_iff (r a b) ⟨.some, fun | .some related => related⟩
  | none, some _ => .isFalse nofun
  | some _, none => .isFalse nofun

/-- The field that says what is accessed. -/
def accessCode : BitField := ⟨30, 6⟩

/-- The conditions of a form in major opcodes 4 and 6: the bit `x` chooses a family, and the bit `m`
asks for an update. -/
def accessForm (major x m : Nat) : List (BitField × Nat) :=
  [(Word.majorOpcode, major), (⟨27, 1⟩, x), (⟨36, 1⟩, m)]

/-- The condition of the forms that add an immediate. -/
def immediateForm (major : Nat) : List (BitField × Nat) :=
  [(Word.majorOpcode, major)]

/-- In major opcodes 4 and 6 the code is `x6` with `m` above it. -/
theorem read_access (syllable : Word) : (⟨30, 7⟩ : BitField).read syllable =
    accessCode.read syllable + 0x40 * (⟨36, 1⟩ : BitField).read syllable := by
  simp only [BitField.read, accessCode, Nat.shiftRight_eq_div_pow, Nat.one_shiftLeft]
  omega

section Found

variable {syllable : Word} {m : Nat}

/-- The rows of a page that `x` selects decide, at the code with `m` above it. -/
theorem lookup?_of_accessForm {major x : Nat} {rows : List (Nat × Encoding)}
    (alone : (Page.within major [(⟨27, 1⟩, x)] ⟨30, 7⟩ rows).IsAlone .m)
    (met : Meets (accessForm major x m) syllable) :
    lookup? .m syllable = rows.lookup (accessCode.read syllable + 0x40 * m) := by
  let page := Page.within major [(⟨27, 1⟩, x)] ⟨30, 7⟩ rows
  have form : accessForm major x m = page.guards ++ [(⟨36, 1⟩, m)] := rfl
  have guards : Meets page.guards syllable := fun guard member =>
    met guard (form ▸ List.mem_append_left _ member)
  have update : (⟨36, 1⟩ : BitField).read syllable = m := met (⟨36, 1⟩, m) (by simp [accessForm])
  rw [lookup?_eq_rows alone guards, ← update, ← read_access]
  rfl

theorem lookup?_of_immediateForm {major : Nat} {rows : List (Nat × Encoding)}
    (alone : (Page.within major [] accessCode rows).IsAlone .m)
    (met : Meets (immediateForm major) syllable) :
    lookup? .m syllable = rows.lookup (accessCode.read syllable) :=
  lookup?_eq_rows alone met

end Found

/-! ### Rows compared code by code -/

theorem rows_agree : ∀ code < 0x40,
    (Option.Rel (Paired [(.m1, .m3), (.m4, .m5)])
        (integerAccess.lookup code) (integerAccessByImmediate.lookup code) ∧
      Option.Rel (Paired [(.m1, .m2)])
        ((integerAccess.lookup code).filter (·.format ∈ [.m1]))
        (integerAccess.lookup (code + 0x40))) ∧
    (Option.Rel (Paired [(.m6, .m8), (.m9, .m10), (.m13, .m15)])
        (floatAccess.lookup code) (floatAccessByImmediate.lookup code) ∧
      Option.Rel (Paired [(.m6, .m7), (.m13, .m14)])
        ((floatAccess.lookup code).filter (·.format ∈ [.m6, .m13]))
        (floatAccess.lookup (code + 0x40))) ∧
    Option.Rel (Paired [(.m11, .m12)])
      ((floatPairAccess.lookup code).filter (·.format ∈ [.m11]))
      (floatPairAccess.lookup (code + 0x40)) := by
  decide +kernel

/-- The forms with an update have the encodings of the plain form with the same code, in the formats
paired with those of the plain form, and no others. -/
theorem base_updates_agree {plain updating : Word}
    (same : accessCode.read plain = accessCode.read updating) :
    (Meets (accessForm 4 0 0) plain → Meets (immediateForm 5) updating →
      Option.Rel (Paired [(.m1, .m3), (.m4, .m5)]) (lookup? .m plain) (lookup? .m updating)) ∧
    (Meets (accessForm 4 0 0) plain → Meets (accessForm 4 0 1) updating →
      Option.Rel (Paired [(.m1, .m2)])
        ((lookup? .m plain).filter (·.format ∈ [.m1])) (lookup? .m updating)) ∧
    (Meets (accessForm 6 0 0) plain → Meets (immediateForm 7) updating →
      Option.Rel (Paired [(.m6, .m8), (.m9, .m10), (.m13, .m15)])
        (lookup? .m plain) (lookup? .m updating)) ∧
    (Meets (accessForm 6 0 0) plain → Meets (accessForm 6 0 1) updating →
      Option.Rel (Paired [(.m6, .m7), (.m13, .m14)])
        ((lookup? .m plain).filter (·.format ∈ [.m6, .m13])) (lookup? .m updating)) ∧
    (Meets (accessForm 6 1 0) plain → Meets (accessForm 6 1 1) updating →
      Option.Rel (Paired [(.m11, .m12)])
        ((lookup? .m plain).filter (·.format ∈ [.m11])) (lookup? .m updating)) := by
  obtain ⟨integersAgree, floatsAgree, pairsAgree⟩ := rows_agree _ (accessCode.read_lt updating)
  have integers : (Page.within 4 [(⟨27, 1⟩, 0)] ⟨30, 7⟩ integerAccess).IsAlone .m := rfl
  have floats : (Page.within 6 [(⟨27, 1⟩, 0)] ⟨30, 7⟩ floatAccess).IsAlone .m := rfl
  have pairs : (Page.within 6 [(⟨27, 1⟩, 1)] ⟨30, 7⟩ floatPairAccess).IsAlone .m := rfl
  refine ⟨?integerImmediate, ?integerRegister, ?floatImmediate, ?floatRegister, ?pair⟩ <;>
    intro plainMet updatingMet
  case integerImmediate =>
    have immediate : (Page.within 5 [] accessCode integerAccessByImmediate).IsAlone .m := rfl
    rw [lookup?_of_accessForm integers plainMet, lookup?_of_immediateForm immediate updatingMet,
      same]
    exact integersAgree.1
  case integerRegister =>
    rw [lookup?_of_accessForm integers plainMet, lookup?_of_accessForm integers updatingMet, same]
    exact integersAgree.2
  case floatImmediate =>
    have immediate : (Page.within 7 [] accessCode floatAccessByImmediate).IsAlone .m := rfl
    rw [lookup?_of_accessForm floats plainMet, lookup?_of_immediateForm immediate updatingMet, same]
    exact floatsAgree.1
  case floatRegister =>
    rw [lookup?_of_accessForm floats plainMet, lookup?_of_accessForm floats updatingMet, same]
    exact floatsAgree.2
  case pair =>
    rw [lookup?_of_accessForm pairs plainMet, lookup?_of_accessForm pairs updatingMet, same]
    exact pairsAgree

/-- The five forms with the code 0x21, where the bits free in the immediate forms are set. -/
theorem base_updates_agree_check_loads :
    (lookup? .m 0x8840000000 = some ⟨.ld2CClr, .m1⟩ ∧
      Option.Rel (Paired [(.m1, .m3), (.m4, .m5)])
        (lookup? .m 0x8840000000) (lookup? .m 0xB87FFFFFFF) ∧
      Option.Rel (Paired [(.m1, .m2)])
        ((lookup? .m 0x8840000000).filter (·.format ∈ [.m1])) (lookup? .m 0x9840000000)) ∧
    (lookup? .m 0xC840000000 = some ⟨.ldf8CClr, .m6⟩ ∧
      Option.Rel (Paired [(.m6, .m8), (.m9, .m10), (.m13, .m15)])
        (lookup? .m 0xC840000000) (lookup? .m 0xF87FFFFFFF) ∧
      Option.Rel (Paired [(.m6, .m7), (.m13, .m14)])
        ((lookup? .m 0xC840000000).filter (·.format ∈ [.m6, .m13])) (lookup? .m 0xD840000000)) ∧
    lookup? .m 0xC848000000 = some ⟨.ldfp8CClr, .m11⟩ ∧
      Option.Rel (Paired [(.m11, .m12)])
        ((lookup? .m 0xC848000000).filter (·.format ∈ [.m11])) (lookup? .m 0xD848000000) := by
  refine ⟨⟨by decide, ?_, ?_⟩, ⟨by decide, ?_, ?_⟩, by decide, ?_⟩
  · exact (base_updates_agree (by decide)).1 (by decide) (by decide)
  · exact (base_updates_agree (by decide)).2.1 (by decide) (by decide)
  · exact (base_updates_agree (by decide)).2.2.1 (by decide) (by decide)
  · exact (base_updates_agree (by decide)).2.2.2.1 (by decide) (by decide)
  · exact (base_updates_agree (by decide)).2.2.2.2 (by decide) (by decide)

end Itanium
