import Itanium.Proofs.Bundle
import Itanium.Proofs.Dependence

/-!
# The qualifying predicate does not interfere

The low six bits of a syllable name its qualifying predicate. No rule of any unit reads them, so they
do not decide the encoding, and apart from the predicate itself no operand of any format reads them.
Three layouts give them another use: two formats reserve them, and a branch predict, which has no
predicate, takes three of its completers from them. Words that differ in these bits only are
therefore read alike up to the predicate, or up to those completers.
-/
namespace Itanium

open BitField Layout

/-! ### Words that differ in their low bits -/

namespace BitField

/-- No bit of the field lies below the position. -/
def isAbove (position : Nat) (field : BitField) : Bool :=
  field.width == 0 || position ≤ field.offset

variable {position : Nat} {left right : Word}

theorem read_eq_of_shiftRight_eq {field : BitField} (same : left >>> position = right >>> position)
    (above : field.isAbove position = true) : field.read left = field.read right := by
  rw [isAbove, Bool.or_eq_true, beq_iff_eq, decide_eq_true_eq] at above
  rcases above with empty | above
  · rw [read_eq_mod, read_eq_mod, empty, pow_zero, Nat.mod_one, Nat.mod_one]
  · obtain ⟨distance, offset⟩ := Nat.exists_eq_add_of_le above
    have quotients := congrArg BitVec.toNat same
    rw [BitVec.toNat_ushiftRight, BitVec.toNat_ushiftRight, Nat.shiftRight_eq_div_pow,
      Nat.shiftRight_eq_div_pow] at quotients
    rw [read_eq_mod, read_eq_mod, offset, pow_add, ← Nat.div_div_eq_div_mul,
      ← Nat.div_div_eq_div_mul, quotients]

theorem agree_of_isAbove {fields : List BitField} (same : left >>> position = right >>> position)
    (above : fields.all (·.isAbove position) = true) : Agree fields left right :=
  fun field member => read_eq_of_shiftRight_eq same (List.all_eq_true.mp above field member)

end BitField

/-! ### What reads the low six bits -/

namespace OpcodeSpace

theorem isAbove_of_rules (unit : ExecutionUnit) :
    ∀ rule ∈ rules unit, rule.fields.all (·.isAbove 6) = true := by
  cases unit <;> decide +kernel

/-- The qualifying predicate does not decide the encoding. -/
theorem lookup?_eq_of_shiftRight_eq (unit : ExecutionUnit) {left right : Word}
    (same : left >>> 6 = right >>> 6) : lookup? unit left = lookup? unit right :=
  lookup?_congr fun rule member => agree_of_isAbove same (isAbove_of_rules unit rule member)

end OpcodeSpace

/-- What a branch predict takes from the bits of a predicate. -/
def CompleterRole.lowHints : List CompleterRole := [.ipwh, .ph, .pvec]

namespace Format

theorem isAbove_of_sources (format : Format) (operation : Operation) :
    ∀ source ∈ format.sources operation, source.fields.all (·.isAbove 6) = true := by
  refine of_sources (fun _ sources => ∀ source ∈ sources,
    source.fields.all (·.isAbove 6) = true) ?_ format operation
  intro format
  cases format <;> decide

theorem isAbove_of_hints {format : Format} (predicated : format.isPredicated = true) :
    ∀ hint ∈ format.hints, hint.fields.all (·.isAbove 6) = true := by
  revert predicated
  cases format <;> decide

theorem isAbove_or_mem_lowHints (format : Format) : ∀ hint ∈ format.hints,
    hint.fields.all (·.isAbove 6) = true ∨ hint.role ∈ CompleterRole.lowHints := by
  cases format <;> decide

theorem isAbove_of_reserved {format : Format} (other : format ∉ [.b2, .m25]) :
    ∀ reserved ∈ format.reserved, [reserved.field].all (·.isAbove 6) = true := by
  revert other
  cases format <;> decide

end Format

/-! ### Two instructions -/

/-- The completers are equal, or two forms of a hint from the low bits. -/
def Completer.SameUpToLowHint (first second : Completer) : Prop :=
  first = second ∨ (first.role = second.role ∧ first.role ∈ CompleterRole.lowHints)

/-- Other raw bits, and another value of the operand at position 0. -/
def Instruction.withPredicate (instruction : Instruction) (bits value : Word) : Instruction :=
  { instruction with
    bits
    operands := instruction.operands.mapIdx fun position operand =>
      if position = 0 then { operand with value } else operand }

section Readings

variable {left right : Word} (same : left >>> 6 = right >>> 6) (operation : Operation)

include same

namespace Format

/-- The operands behind position 0 are the same. -/
theorem getElem_operands_eq (format : Format) (long : Word) {position : Nat}
    (room : position + 1 < 7) :
    (format.operands operation left long)[position + 1] =
      (format.operands operation right long)[position + 1] := by
  apply getElem_operands_congr room
  intro source listed
  have member : source ∈ format.sources operation := by
    rw [operandSources, List.getElem?_cons_succ] at listed
    exact List.mem_of_getElem? listed
  exact ⟨agree_of_isAbove same (format.isAbove_of_sources operation source member),
    fun field _ => rfl⟩

theorem forall₂_completers (format : Format) :
    List.Forall₂ Completer.SameUpToLowHint (format.completers operation left)
      (format.completers operation right) := by
  rw [completers, completers]
  apply List.rel_append
  · exact List.forall₂_same.mpr fun completer _ => .inl rfl
  · rw [List.forall₂_map_left_iff, List.forall₂_map_right_iff, List.forall₂_same]
    intro hint member
    rcases format.isAbove_or_mem_lowHints hint member with above | low
    · exact .inl (Hint.completer_congr (agree_of_isAbove same above))
    · exact .inr ⟨rfl, low⟩

end Format

namespace Instruction

theorem reading_eq_withPredicate {format : Format} (predicated : format.isPredicated = true)
    (long : Option Word) :
    reading operation format right long =
      (reading operation format left long).withPredicate right
        ((reading operation format right long).operands.get 0).value := by
  have completers : format.completers operation left = format.completers operation right :=
    Format.completers_congr fun hint member =>
      agree_of_isAbove same (Format.isAbove_of_hints predicated hint member)
  have operands : format.operands operation right (long.getD 0) =
      (format.operands operation left (long.getD 0)).mapIdx fun position operand =>
        if position = 0 then
          { operand with value := ((format.operands operation right (long.getD 0)).get 0).value }
        else operand := by
    ext1 position room
    rw [Vector.getElem_mapIdx]
    cases position with
    -- Both have a predicate register at position 0.
    | zero =>
      rw [if_pos rfl, Vector.get_eq_getElem]
      simp only [Format.getElem_operands, Format.operandSources, predicated]
      rfl
    | succ position =>
      rw [if_neg (Nat.succ_ne_zero position)]
      exact (Format.getElem_operands_eq same operation format _ room).symm
  simp only [reading, withPredicate, mk.injEq, completers, true_and, and_true]
  exact operands

theorem reading_eq_of_predict {format : Format} (predict : format.isPredicated = false)
    (long : Option Word) :
    reading operation format right long =
      { reading operation format left long with
        bits := right
        completers := (reading operation format right long).completers } := by
  have operands : format.operands operation right (long.getD 0) =
      format.operands operation left (long.getD 0) := by
    ext1 position room
    cases position with
    -- Neither has an operand at position 0.
    | zero =>
      simp only [Format.getElem_operands, Format.operandSources, predict]
      rfl
    | succ position => exact (Format.getElem_operands_eq same operation format _ room).symm
  simp only [reading, operands]

end Instruction

end Readings

namespace Encoding

/-- The instruction that a syllable of the encoding is read as. -/
def Reads (encoding : Encoding) (syllable : Word) (long : Option Word)
    (instruction : Instruction) : Prop :=
  extract encoding.operation encoding.format syllable long = .ok instruction

def Accepts (encoding : Encoding) (syllable : Word) (long : Option Word) : Prop :=
  ∃ instruction, encoding.Reads syllable long instruction

variable {unit : ExecutionUnit} {encoding : Encoding} {left right : Word} {long : Option Word}

theorem accepts_iff (same : left >>> 6 = right >>> 6) (other : encoding.format ∉ [.b2, .m25]) :
    encoding.Accepts left long ↔ encoding.Accepts right long := by
  have reserved := Format.reserved_congr fun reserved member =>
    agree_of_isAbove same (Format.isAbove_of_reserved other reserved member)
  simp only [Accepts, Reads, extract_eq_ok_iff, Format.length_completers, reserved]
  constructor
  · rintro ⟨_, complete, unreserved, few, _⟩
    exact ⟨_, complete, unreserved, few, rfl⟩
  · rintro ⟨_, complete, unreserved, few, _⟩
    exact ⟨_, complete, unreserved, few, rfl⟩

/-- Outside the X unit a matched syllable is refused for a reserved field only. -/
theorem accepts_iff_not_violates (found : OpcodeSpace.lookup? unit left = some encoding)
    (short : encoding.format.isLong = false) :
    encoding.Accepts left long ↔ ¬encoding.format.Violates left := by
  have paired : unit = .x → long.isSome = true := by
    rintro rfl
    rw [(OpcodeSpace.isLong_iff_of_lookup? found).mpr rfl] at short
    cases short
  rw [Accepts, ← Format.reserved_admits_iff]
  simp only [Reads, extract_of_lookup? found paired]
  split
  next unreserved => exact iff_of_true ⟨_, rfl⟩ unreserved
  next reserved => exact iff_of_false (by rintro ⟨_, refused⟩; cases refused) reserved

theorem accepts_iff_clear (found : OpcodeSpace.lookup? unit left = some encoding)
    (clear : encoding.format ∈ [.b2, .m25]) :
    encoding.Accepts left long ↔ left.extractLsb' 0 6 = 0 := by
  obtain ⟨operation, format⟩ := encoding
  simp only [List.mem_cons, List.not_mem_nil, or_false] at clear
  rcases clear with rfl | rfl
  · rw [accepts_iff_not_violates found rfl, not_iff_comm]
    exact ⟨.b2, fun | .b2 set => set⟩
  · rw [accepts_iff_not_violates found rfl, not_iff_comm]
    exact ⟨.m25, fun | .m25 set => set⟩

theorem accepts_predict (found : OpcodeSpace.lookup? unit left = some encoding)
    (predict : encoding.format ∈ [.b6, .b7]) (long : Option Word) :
    encoding.Accepts left long := by
  obtain ⟨operation, format⟩ := encoding
  simp only [List.mem_cons, List.not_mem_nil, or_false] at predict
  rcases predict with rfl | rfl
  · exact (accepts_iff_not_violates found rfl).mpr nofun
  · exact (accepts_iff_not_violates found rfl).mpr nofun

end Encoding

/-! ### Both runs -/

/-- Syllables that differ in their low six bits have one encoding. Both are accepted or refused, and
what they are read as differs in the raw bits and the value of the predicate at most; the formats
that reserve the bits accept a syllable if they are clear, and a branch predict differs in the raw
bits and the hints that it takes from them. -/
theorem predicate_does_not_interfere (unit : ExecutionUnit) (long : Option Word)
    {left right : Word} (same : left >>> 6 = right >>> 6) :
    OpcodeSpace.lookup? unit left = OpcodeSpace.lookup? unit right ∧
      ∀ encoding : Encoding, OpcodeSpace.lookup? unit left = some encoding →
        (encoding.format ∉ [.b2, .m25, .b6, .b7] →
          (encoding.Accepts left long ↔ encoding.Accepts right long) ∧
            ∀ first second, encoding.Reads left long first → encoding.Reads right long second →
              second = first.withPredicate second.bits (second.operands.get 0).value) ∧
        (encoding.format ∈ [.b2, .m25] →
          (encoding.Accepts left long ↔ left.extractLsb' 0 6 = 0)) ∧
        (encoding.format ∈ [.b6, .b7] →
          ∃ first second, encoding.Reads left long first ∧ encoding.Reads right long second ∧
            second = { first with bits := second.bits, completers := second.completers } ∧
            List.Forall₂ Completer.SameUpToLowHint first.completers second.completers) := by
  have encodings := OpcodeSpace.lookup?_eq_of_shiftRight_eq unit same
  refine ⟨encodings, fun encoding found => ⟨?_, ?_, ?_⟩⟩
  -- All formats but these four read the six bits as a predicate and as nothing else.
  · intro other
    simp only [List.mem_cons, List.not_mem_nil, or_false, not_or] at other
    obtain ⟨notB2, notM25, notB6, notB7⟩ := other
    refine ⟨Encoding.accepts_iff same (by simp [notB2, notM25]), ?_⟩
    intro first second readsLeft readsRight
    obtain ⟨_, _, _, rfl⟩ := extract_eq_ok_iff.mp readsLeft
    obtain ⟨_, _, _, rfl⟩ := extract_eq_ok_iff.mp readsRight
    have predicated := encoding.format.isPredicated_iff.mpr (by simp [notB6, notB7])
    exact Instruction.reading_eq_withPredicate same encoding.operation predicated long
  · exact Encoding.accepts_iff_clear found
  · intro predict
    obtain ⟨first, readsLeft⟩ := Encoding.accepts_predict found predict long
    obtain ⟨second, readsRight⟩ :=
      Encoding.accepts_predict (encodings ▸ found) predict long
    refine ⟨first, second, readsLeft, readsRight, ?_⟩
    obtain ⟨_, _, _, rfl⟩ := extract_eq_ok_iff.mp readsLeft
    obtain ⟨_, _, _, rfl⟩ := extract_eq_ok_iff.mp readsRight
    have unpredicated : encoding.format.isPredicated = false := by
      rw [← Bool.not_eq_true, encoding.format.isPredicated_iff, not_not]
      exact predict
    exact ⟨Instruction.reading_eq_of_predict same encoding.operation unpredicated long,
      Format.forall₂_completers same encoding.operation encoding.format⟩

/-- Two branch predicts that differ in their low bits only, and in their hints. -/
theorem predicate_does_not_interfere_brp :
    OpcodeSpace.lookup? .b 0xE000002000 = some ⟨.brp, .b6⟩ ∧
      (0xE000002000 : Word) >>> 6 = (0xE00000203F : Word) >>> 6 ∧
      ∃ first second, extract .brp .b6 0xE000002000 none = .ok first ∧
        extract .brp .b6 0xE00000203F none = .ok second ∧
        second = { first with bits := second.bits, completers := second.completers } ∧
        first.completers ≠ second.completers := by
  have found : OpcodeSpace.lookup? .b 0xE000002000 = some ⟨.brp, .b6⟩ := by decide
  have same : (0xE000002000 : Word) >>> 6 = (0xE00000203F : Word) >>> 6 := by decide
  obtain ⟨first, second, readsLeft, readsRight, equal, _⟩ :=
    ((predicate_does_not_interfere .b none same).2 _ found).2.2 (by decide)
  refine ⟨found, same, first, second, readsLeft, readsRight, equal, ?_⟩
  obtain ⟨_, _, _, rfl⟩ := extract_eq_ok_iff.mp readsLeft
  obtain ⟨_, _, _, rfl⟩ := extract_eq_ok_iff.mp readsRight
  decide

end Itanium
