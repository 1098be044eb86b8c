import Itanium.Proofs.Bundle

/-!
# Completers have distinct roles

The completers of an instruction are those that its operation selects, followed by those that its
format takes from fields. A syllable chooses the forms of the latter but none of the roles, so that no
role occurs twice is a property of the finitely many rules of the opcode space.
-/
namespace Itanium

/-- Among members with distinct keys each is found by its key, and no other is. -/
theorem filter_eq_singleton_of_nodup {α β : Type} [DecidableEq β] {key : α → β} {members : List α}
    (distinct : (members.map key).Nodup) {member : α} (listed : member ∈ members) :
    members.filter (fun other => key other = key member) = [member] := by
  induction members with
  | nil => cases listed
  | cons first rest ih =>
    rw [List.map_cons, List.nodup_cons] at distinct
    obtain ⟨fresh, distinctRest⟩ := distinct
    rcases List.mem_cons.mp listed with rfl | later
    · rw [List.filter_cons_of_pos (by simp), List.filter_eq_nil_iff.mpr]
      intro other member
      rw [decide_eq_true_eq]
      exact fun same => fresh (same ▸ List.mem_map_of_mem member)
    · have differs : key first ≠ key member :=
        fun same => fresh (same ▸ List.mem_map_of_mem later)
      rw [List.filter_cons_of_neg (by simpa using differs)]
      exact ih distinctRest later

namespace Encoding

/-- The roles of the completers, in the order in which they are written. -/
def roles (encoding : Encoding) : List CompleterRole :=
  encoding.operation.assembly.completers.map Completer.role ++
    encoding.format.hints.map Layout.Hint.role

theorem map_role_completers (encoding : Encoding) (syllable : Word) :
    (encoding.format.completers encoding.operation syllable).map Completer.role =
      encoding.roles := by
  rw [Format.completers, List.map_append, List.map_map]
  rfl

variable {unit : ExecutionUnit} {syllable : Word} {encoding : Encoding}

theorem nodup_roles_of_lookup? (found : OpcodeSpace.lookup? unit syllable = some encoding) :
    encoding.roles.Nodup := by
  refine OpcodeSpace.of_lookup? (fun _ encoding => encoding.roles.Nodup) ?_ found
  intro unit
  cases unit <;> decide +kernel

end Encoding

namespace Bundle

/-- The completers of an instruction begin with those of its operation, are five at most, and have
distinct roles, so that a role selects one of them. -/
theorem completers_of_decode {raw : BitVec 128} {bundle : Bundle}
    (decodes : decode raw = .ok bundle) {slot : Fin 3} {instruction : Instruction}
    (recorded : bundle.slots.get slot = .decoded instruction) :
    (∃ encoding : Encoding,
      OpcodeSpace.lookup? (bundle.template.units.get slot) (slotBits raw slot) = some encoding ∧
        encoding.operation.assembly.completers <+: instruction.completers) ∧
      instruction.completers.length ≤ 5 ∧
      (instruction.completers.map Completer.role).Nodup ∧
      ∀ completer ∈ instruction.completers,
        instruction.completers.filter (fun other => other.role = completer.role) =
          [completer] := by
  obtain ⟨encoding, found, rfl⟩ := exists_reading_of_decode decodes recorded
  have distinct : ((encoding.format.completers encoding.operation (slotBits raw slot)).map
      Completer.role).Nodup := by
    rw [encoding.map_role_completers]
    exact Encoding.nodup_roles_of_lookup? found
  refine ⟨⟨encoding, found, List.prefix_append _ _⟩, length_completers_of_lookup? found, distinct,
    ?_⟩
  intro completer member
  exact filter_eq_singleton_of_nodup distinct member

/-- A branch predict has as many completers as there can be. -/
theorem completers_of_decode_brp : ∃ bundle, decode 0x70000010000000000000000000000010 = .ok bundle ∧
    ∃ instruction, bundle.slots.get 2 = .decoded instruction ∧
      instruction.completers = [⟨.btype, .none⟩, ⟨.ipwh, .sptk⟩, ⟨.ph, .few⟩, ⟨.pvec, .dcDc⟩,
        ⟨.ih, .none⟩] ∧
      (instruction.completers.map Completer.role).Nodup := by
  have decodes : decode 0x70000010000000000000000000000010 = .ok ⟨.mib, #v[
      .decoded (.reading .breakM .m37 0 none), .decoded (.reading .breakI .i19 0 none),
      .decoded (.reading .brp .b6 0xE000002000 none)]⟩ := by
    decide
  refine ⟨_, decodes, .reading .brp .b6 0xE000002000 none, rfl, rfl, ?_⟩
  exact (@completers_of_decode _ _ decodes 2 _ rfl).2.2.1

end Bundle

end Itanium
