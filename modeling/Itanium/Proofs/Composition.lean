import Itanium.Proofs.Reassembly

/-!
# Bundles put together from syllables

A selector and three syllables make a bundle that shows them again. Whether a bundle decodes is
decided slot by slot, so a bundle that decodes can be put together from syllables that are accepted.
-/
namespace Itanium

theorem Template.eq_of_selector_eq {left right : Template}
    (equal : left.selector = right.selector) : left = right := by
  have found := Template.ofSelector?_eq_some_iff.mpr equal
  rw [Template.ofSelector?_eq_some_iff.mpr rfl] at found
  exact (Option.some.inj found).symm

/-- The bundle of a selector and three syllables. -/
def RawBundle.ofSlots (selector : Nat) (first second third : Word) : BitVec 128 :=
  BitVec.ofNat 128
    (selector + 2 ^ 5 * first.toNat + 2 ^ 46 * second.toNat + 2 ^ 87 * third.toNat)

namespace Bundle

/-- A bundle shows the selector and the syllables that it is put together from. -/
theorem parts_ofSlots {selector : Nat} {first second third : Word} (selectorBound : selector < 32)
    (firstBound : first.toNat < 2 ^ 41) (secondBound : second.toNat < 2 ^ 41)
    (thirdBound : third.toNat < 2 ^ 41) :
    (RawBundle.ofSlots selector first second third).toNat % 32 = selector ∧
      slotBits (RawBundle.ofSlots selector first second third) 0 = first ∧
      slotBits (RawBundle.ofSlots selector first second third) 1 = second ∧
      slotBits (RawBundle.ofSlots selector first second third) 2 = third := by
  have whole : (RawBundle.ofSlots selector first second third).toNat =
      selector + 2 ^ 5 * first.toNat + 2 ^ 46 * second.toNat + 2 ^ 87 * third.toNat := by
    rw [RawBundle.ofSlots, BitVec.toNat_ofNat]
    exact Nat.mod_eq_of_lt (by omega)
  -- Each part stays below the next one's weight, so quotients and remainders separate them.
  have selector : (RawBundle.ofSlots selector first second third).toNat % 32 = selector := by omega
  refine ⟨selector, ?_, ?_, ?_⟩
  all_goals
    apply BitVec.eq_of_toNat_eq
    rw [toNat_slotBits, whole]
    omega

/-- A bundle decodes if each of its slots is accepted. -/
theorem exists_decode_iff {raw : BitVec 128} {template : Template}
    (assigned : template.selector = raw.toNat % 32) :
    (∃ bundle, decode raw = .ok bundle) ↔ ∀ slot, Accepts template raw slot := by
  constructor
  · rintro ⟨bundle, decodes⟩
    cases decodes_of_decode decodes with
    | accepted assigned' accepts =>
      obtain rfl := Template.eq_of_selector_eq (assigned.trans assigned'.symm)
      exact accepts
  · intro accepts
    cases decodes : decode raw with
    | ok bundle => exact ⟨bundle, rfl⟩
    -- A bundle is refused for its selector or for one of its slots.
    | error reason =>
      cases decodes_of_decode decodes with
      | reservedTemplate reserved =>
        have bound : raw.toNat % 32 < 32 := Nat.mod_lt _ (by decide)
        rw [← Template.ofSelector?_eq_none_iff bound,
          Template.ofSelector?_eq_some_iff.mpr assigned] at reserved
        cases reserved
      | rejected assigned' before refuses =>
        obtain rfl := Template.eq_of_selector_eq (assigned.trans assigned'.symm)
        exact absurd (accepts _) (not_accepts_of_refuses refuses)

end Bundle

end Itanium
