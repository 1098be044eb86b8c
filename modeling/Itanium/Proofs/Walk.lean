import Itanium.Bundle

/-!
# The walk over the letters of a template

The walk decodes three slots: `decode_eq_decodeSlots` says that it reads the syllables of the units
one after the other and stops at the first that is refused. `Spells` describes the names that can
be walked. No letter of them is unknown and an L stands in slot 1 right before its X, so two of the
reasons to reject a bundle never arise.
-/
namespace Itanium

/-! ### What a name spells -/

/-- From a slot on the letters name these units: an L only for slot 1, an X only right behind it. -/
inductive Spells : Nat → List Char → List ExecutionUnit → Prop
  | done {slot : Nat} : Spells slot [] []
  | stop {slot : Nat} {letters : List Char} {units : List ExecutionUnit}
      (rest : Spells slot letters units) : Spells slot (';' :: letters) units
  | unit {slot : Nat} {letter : Char} {unit : ExecutionUnit} {letters : List Char}
      {units : List ExecutionUnit} (named : ExecutionUnit.ofLetter? letter = some unit)
      (short : unit ≠ .l ∧ unit ≠ .x) (rest : Spells (slot + 1) letters units) :
      Spells slot (letter :: letters) (unit :: units)
  | long {letters : List Char} {units : List ExecutionUnit} (rest : Spells 3 letters units) :
      Spells 1 ('L' :: 'X' :: letters) (.l :: .x :: units)

theorem Template.spells (template : Template) :
    Spells 0 template.name.toList template.units.toList := by
  cases template <;>
    repeat first
      | exact .done
      | refine .long ?_
      | refine .unit (by decide) (by decide) ?_
      | refine .stop ?_

namespace ExecutionUnit

/-- No letter of a unit marks a stop. -/
theorem ne_semicolon_of_ofLetter? {letter : Char} {unit : ExecutionUnit}
    (named : ofLetter? letter = some unit) : letter ≠ ';' := by
  rintro rfl
  have unnamed : ofLetter? ';' = none := by decide
  exact absurd (unnamed.symm.trans named) (by simp)

end ExecutionUnit

/-! ### Units read one after the other -/

namespace Bundle

/-- The syllable of an L unit is accepted as it is. An X syllable is read together with slot 1. -/
def decodeUnit (raw : BitVec 128) (unit : ExecutionUnit) (slot : Nat) : Except Rejection Slot :=
  let bits := RawBundle.syllable raw slot
  if unit = .l then .ok (.longHalf bits)
  else match OpcodeSpace.lookup? unit bits with
    | none => .error (.noMatch slot unit bits)
    | some encoding =>
      let long := if unit = .x then some (RawBundle.syllable raw 1) else none
      match extract encoding.operation encoding.format bits long with
      | .ok instruction => .ok (.decoded instruction)
      | .error error => .error (.unreadable slot encoding.format error)

/-- The syllables of consecutive slots, the first of them given. -/
def decodeUnits (raw : BitVec 128) : Nat → List ExecutionUnit → Except Rejection (List Slot)
  | _, [] => .ok []
  | slot, unit :: units => do
    let first ← decodeUnit raw unit slot
    let rest ← decodeUnits raw (slot + 1) units
    return first :: rest

end Bundle

namespace Walk

/-- Writes what was read to consecutive slots, the first of them given. -/
def place (slots : Vector Slot 3) : Nat → List Slot → Vector Slot 3
  | _, [] => slots
  | slot, first :: rest => place (slots.setIfInBounds slot first) (slot + 1) rest

section Steps

variable {raw : BitVec 128} {walk : Walk}

theorem step_stop : step raw walk ';' = .ok walk :=
  if_pos rfl

theorem step_long (slot : walk.slot = 1) : step raw walk 'L' = .ok { walk with slot := 2 } := by
  have named : ExecutionUnit.ofLetter? 'L' = some .l := by decide
  simp [step, named, slot]

theorem step_read {letter : Char} {unit : ExecutionUnit}
    (named : ExecutionUnit.ofLetter? letter = some unit) (executes : unit ≠ .l) :
    step raw walk letter = read raw unit walk := by
  simp only [step, if_neg (ExecutionUnit.ne_semicolon_of_ofLetter? named), named, if_neg executes]

/-- A short unit takes the next slot with what its syllable is read as. -/
theorem read_short {unit : ExecutionUnit} (short : unit ≠ .l ∧ unit ≠ .x) :
    read raw unit walk = (Bundle.decodeUnit raw unit walk.slot).map fun recorded =>
      ⟨walk.slot + 1, walk.slots.setIfInBounds walk.slot recorded⟩ := by
  simp only [read, pair, Bundle.decodeUnit, if_neg short.1, if_neg short.2, bind, Except.bind]
  cases OpcodeSpace.lookup? unit (RawBundle.syllable raw walk.slot) with
  | none => rfl
  | some encoding =>
    cases extracted : extract encoding.operation encoding.format
        (RawBundle.syllable raw walk.slot) none with
    | error error => simp [extracted, Except.map]
    | ok instruction => simp [extracted, Except.map]

/-- An X unit in slot 2 takes its slot and records the long half in slot 1. -/
theorem read_long (slot : walk.slot = 2) :
    read raw .x walk = (Bundle.decodeUnit raw .x 2).map fun recorded =>
      ⟨3, place walk.slots 1 [.longHalf (RawBundle.syllable raw 1), recorded]⟩ := by
  have executes : ExecutionUnit.x ≠ .l := by decide
  simp only [read, pair, Bundle.decodeUnit, slot, if_neg executes, if_pos, bind, Except.bind]
  cases OpcodeSpace.lookup? .x (RawBundle.syllable raw 2) with
  | none => rfl
  | some encoding =>
    cases extracted : extract encoding.operation encoding.format (RawBundle.syllable raw 2)
        (some (RawBundle.syllable raw 1)) with
    | error error => simp [extracted, Except.map]
    | ok instruction => simp [extracted, Except.map, place]

end Steps

/-- From any slot on the walk reads the units that the letters spell and places what they are read
as. By induction on the spelling: each letter is one step, and L with X are two. -/
theorem run {raw : BitVec 128} {slot : Nat} {letters : List Char} {units : List ExecutionUnit}
    (spelled : Spells slot letters units) (walk : Walk) (current : walk.slot = slot) :
    letters.foldlM (step raw) walk = (Bundle.decodeUnits raw slot units).map fun recorded =>
      ⟨slot + units.length, place walk.slots slot recorded⟩ := by
  induction spelled generalizing walk with
  | done =>
    subst current
    rfl
  | stop rest ih =>
    rw [List.foldlM_cons, step_stop]
    exact ih walk current
  | @unit slot letter unit letters units named short rest ih =>
    subst current
    rw [List.foldlM_cons, step_read named short.1, read_short short, Bundle.decodeUnits]
    cases Bundle.decodeUnit raw unit walk.slot with
    | error => rfl
    | ok recorded =>
      -- What is written here lies before the slots that the rest is written to.
      refine (ih _ rfl).trans ?_
      cases Bundle.decodeUnits raw (walk.slot + 1) units with
      | error => rfl
      | ok others => simp [Except.map, bind, Except.bind, pure, Except.pure, place]; omega
  | @long letters units rest ih =>
    have named : ExecutionUnit.ofLetter? 'X' = some .x := by decide
    have accepted : Bundle.decodeUnit raw .l 1 = .ok (.longHalf (RawBundle.syllable raw 1)) := rfl
    -- The step on L only moves on; the step on X writes both slots.
    rw [List.foldlM_cons, step_long current]
    change List.foldlM (step raw) { walk with slot := 2 } ('X' :: letters) = _
    rw [List.foldlM_cons, step_read named (by decide), read_long rfl, Bundle.decodeUnits,
      Bundle.decodeUnits, accepted]
    cases Bundle.decodeUnit raw .x 2 with
    | error => rfl
    | ok recorded =>
      refine (ih _ rfl).trans ?_
      cases Bundle.decodeUnits raw 3 units with
      | error => rfl
      | ok others => simp [Except.map, bind, Except.bind, pure, Except.pure, place]; omega

end Walk

/-! ### Three slots -/

namespace Bundle

def decodeSlot (template : Template) (raw : BitVec 128) (slot : Fin 3) : Except Rejection Slot :=
  decodeUnit raw template.units[slot] slot

theorem decodeUnits_units (template : Template) (raw : BitVec 128) :
    decodeUnits raw 0 template.units.toList = do
      let first ← decodeSlot template raw 0
      let second ← decodeSlot template raw 1
      let third ← decodeSlot template raw 2
      return [first, second, third] := by
  have units : template.units.toList =
      [template.units[0], template.units[1], template.units[2]] := by
    cases template <;> decide
  simp only [units, decodeUnits, bind_assoc, pure_bind]
  rfl

/-- Decoding reads the three slots in order and stops at the first that is refused. -/
theorem decode_eq_decodeSlots (raw : BitVec 128) : decode raw =
    match Template.ofSelector? (RawBundle.selector raw) with
    | none => .error (.reservedTemplate (RawBundle.selector raw))
    | some template => do
      let first ← decodeSlot template raw 0
      let second ← decodeSlot template raw 1
      let third ← decodeSlot template raw 2
      return ⟨template, #v[first, second, third]⟩ := by
  unfold decode
  cases Template.ofSelector? (RawBundle.selector raw) with
  | none => rfl
  | some template =>
    simp only [Walk.run template.spells Walk.start rfl, decodeUnits_units]
    cases decodeSlot template raw 0 with
    | error => rfl
    | ok first =>
      cases decodeSlot template raw 1 with
      | error => rfl
      | ok second =>
        cases decodeSlot template raw 2 with
        | error => rfl
        | ok third => rfl

end Bundle

end Itanium
