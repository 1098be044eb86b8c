import Itanium.Extraction
import Itanium.Proofs.Layout
import Itanium.Proofs.OpcodeSpace

/-!
# Extraction of a matched syllable

Extraction can refuse a syllable for three reasons. Two of them need an encoding that no lookup
finds: a long format outside the X unit, and a branch predict whose opcode selects two completers.
What remains for a matched syllable is a reserved field.
-/
namespace Itanium

/-! ### Counting completers -/

theorem Operation.length_completers_le_two (operation : Operation) :
    operation.assembly.completers.length ≤ 2 := by
  cases operation <;> decide

namespace Format

theorem length_hints_of_predict {format : Format} (predict : format = .b6 ∨ format = .b7) :
    format.hints.length = 4 := by
  rcases predict with rfl | rfl <;> rfl

theorem length_hints_le_three {format : Format} (other : ¬(format = .b6 ∨ format = .b7)) :
    format.hints.length ≤ 3 := by
  revert other
  cases format <;> decide

theorem length_completers (format : Format) (operation : Operation) (syllable : Word) :
    (format.completers operation syllable).length =
      operation.assembly.completers.length + format.hints.length := by
  simp [completers]

/-- More completers than an instruction carries need both hints of a branch predict and two
completers from the opcode. -/
theorem overflow_iff (format : Format) (operation : Operation) (syllable : Word) :
    Instruction.maxCompleters < (format.completers operation syllable).length ↔
      (format = .b6 ∨ format = .b7) ∧ operation.assembly.completers.length = 2 := by
  have chosen := operation.length_completers_le_two
  rw [length_completers, Instruction.maxCompleters]
  by_cases predict : format = .b6 ∨ format = .b7
  -- Four hints leave room for one completer of the opcode, three leave room for two.
  · have hinted := length_hints_of_predict predict
    constructor
    · intro tooMany
      exact ⟨predict, by omega⟩
    · rintro ⟨_, two⟩
      omega
  · have hinted := length_hints_le_three predict
    exact iff_of_false (by omega) fun both => predict both.1

/-! ### Positions of operands -/

theorem isPredicated_iff (format : Format) :
    format.isPredicated = true ↔ format ∉ [.b6, .b7] := by
  cases format <;> decide

/-- The sources of all operands; the qualifying predicate has position 0. -/
def operandSources (format : Format) (operation : Operation) : List Layout.Source :=
  (if format.isPredicated then .predicate 0 else .unique (.always .none)) ::
    format.sources operation

theorem length_operandSources_le (format : Format) (operation : Operation) :
    (format.operandSources operation).length ≤ 7 :=
  Nat.succ_le_succ (format.length_sources_le operation)

theorem getElem_operands (format : Format) (operation : Operation) (syllable long : Word)
    {position : Nat} (room : position < 7) :
    (format.operands operation syllable long)[position] =
      ((format.operandSources operation)[position]?.map
        (·.operand operation syllable long)).getD .absent := by
  rw [operands, Vector.getElem_ofFn]
  rfl

theorem operands_of_operandSources {format : Format} {operation : Operation} {position : Nat}
    {source : Layout.Source} (listed : (format.operandSources operation)[position]? = some source)
    (syllable long : Word) (room : position < 7) :
    (format.operands operation syllable long)[position] =
      source.operand operation syllable long := by
  rw [getElem_operands, listed]
  rfl

end Format

/-! ### Outcomes -/

/-- The instruction that an accepted syllable is read as. -/
def Instruction.reading (operation : Operation) (format : Format) (syllable : Word)
    (long : Option Word) : Instruction where
  bits := syllable
  format := format
  mnemonic := operation.mnemonic
  completers := format.completers operation syllable
  operands := format.operands operation syllable (long.getD 0)
  sourceIndex := format.sourceIndex operation.mnemonic

section Outcomes

variable {operation : Operation} {format : Format} {syllable : Word} {long : Option Word}

/-- What an accepted syllable satisfies: it is complete, sets no reserved field and does not
overflow. -/
theorem extract_eq_ok_iff {instruction : Instruction} :
    extract operation format syllable long = .ok instruction ↔
      (format.isLong = true → long.isSome = true) ∧
        format.reserved.all (·.admits syllable) = true ∧
        (format.completers operation syllable).length ≤ Instruction.maxCompleters ∧
        instruction = .reading operation format syllable long := by
  constructor
  · intro accepted
    -- Three tests are made one after the other, and the first that fails decides.
    unfold extract at accepted
    dsimp only at accepted
    split at accepted
    · cases accepted
    next complete =>
      split at accepted
      · cases accepted
      next unreserved =>
        split at accepted
        · cases accepted
        next few =>
          cases accepted
          refine ⟨?_, by simpa using unreserved, Nat.le_of_not_lt few, rfl⟩
          intro isLong
          rw [isLong, Bool.true_and, Option.isNone_iff_eq_none] at complete
          exact Option.isSome_iff_ne_none.mpr complete
  · rintro ⟨complete, unreserved, few, rfl⟩
    have paired : ¬(format.isLong && long.isNone) = true := by
      rw [Bool.and_eq_true, Option.isNone_iff_eq_none]
      rintro ⟨isLong, absent⟩
      exact Option.isSome_iff_ne_none.mp (complete isLong) absent
    unfold extract
    dsimp only
    rw [if_neg paired, if_neg (by simp [unreserved]), if_neg (Nat.not_lt_of_le few)]
    rfl

/-- A branch predict is neither long nor restricted by a reserved field. -/
private theorem predict_unrestricted (predict : format = .b6 ∨ format = .b7) :
    format.isLong = false ∧ format.reserved = [] := by
  rcases predict with rfl | rfl <;> exact ⟨rfl, rfl⟩

theorem extract_eq_overflow_iff {mnemonic : Mnemonic} :
    extract operation format syllable long = .error (.completerOverflow mnemonic) ↔
      (format = .b6 ∨ format = .b7) ∧ operation.assembly.completers.length = 2 ∧
        mnemonic = operation.mnemonic := by
  rw [← and_assoc, ← format.overflow_iff operation syllable]
  constructor
  · intro refused
    unfold extract at refused
    dsimp only at refused
    split at refused
    · cases refused
    · split at refused
      · cases refused
      · split at refused
        next tooMany =>
          cases refused
          exact ⟨tooMany, rfl⟩
        · cases refused
  · rintro ⟨tooMany, rfl⟩
    have predict := ((format.overflow_iff operation syllable).mp tooMany).1
    obtain ⟨short, unrestricted⟩ := predict_unrestricted predict
    simp [extract, short, unrestricted, tooMany]

end Outcomes

/-! ### Encodings that a lookup finds -/

section Matched

variable {unit : ExecutionUnit} {syllable : Word} {encoding : Encoding}

/-- A branch predict that is found selects one completer at most. -/
theorem length_completers_of_predict (found : OpcodeSpace.lookup? unit syllable = some encoding)
    (predict : encoding.format = .b6 ∨ encoding.format = .b7) :
    encoding.operation.assembly.completers.length ≤ 1 := by
  refine OpcodeSpace.of_lookup? (fun _ encoding => encoding.format = .b6 ∨ encoding.format = .b7 →
    encoding.operation.assembly.completers.length ≤ 1) ?_ found predict
  intro unit
  cases unit <;> decide +kernel

theorem length_completers_of_lookup? (found : OpcodeSpace.lookup? unit syllable = some encoding) :
    (encoding.format.completers encoding.operation syllable).length ≤
      Instruction.maxCompleters := by
  by_contra tooMany
  obtain ⟨predict, two⟩ := (Format.overflow_iff ..).mp (Nat.lt_of_not_le tooMany)
  have one := length_completers_of_predict found predict
  omega

/-- A matched syllable is refused for a reserved field only. -/
theorem extract_of_lookup? (found : OpcodeSpace.lookup? unit syllable = some encoding)
    {long : Option Word} (paired : unit = .x → long.isSome = true) :
    extract encoding.operation encoding.format syllable long =
      if encoding.format.reserved.all (·.admits syllable) = true then
        .ok (.reading encoding.operation encoding.format syllable long)
      else .error .reservedField := by
  -- A long format is found for the X unit only, which is given the long half.
  have complete : encoding.format.isLong = true → long.isSome = true := by
    rw [OpcodeSpace.isLong_iff_of_lookup? found]
    exact paired
  have few := length_completers_of_lookup? found
  split
  next unreserved => exact extract_eq_ok_iff.mpr ⟨complete, unreserved, few, rfl⟩
  -- The other two reasons are excluded, so the reserved field is the one that is given.
  next reserved =>
    have present : (encoding.format.isLong && long.isNone) = false := by
      cases isLong : encoding.format.isLong with
      | false => rfl
      | true => rw [Bool.true_and, Option.isNone_eq_false_iff, complete isLong]
    simp [extract, present, reserved]

end Matched

end Itanium
