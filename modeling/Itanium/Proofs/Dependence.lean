import Itanium.Proofs.Extraction

/-!
# What a reading depends on

Rules, operands, completers and reserved fields see a syllable through bit fields only. So words that
agree on the fields of a layout are read alike, whatever their other bits are, and words that agree
on the fields of a unit's rules have one encoding.
-/
namespace Itanium

namespace BitField

/-- The words hold the same in each of the fields. -/
def Agree (fields : List BitField) (left right : Word) : Prop :=
  ∀ field ∈ fields, field.read left = field.read right

variable {fields : List BitField} {left right : Word}

theorem Agree.singleton {field : BitField} (agree : Agree [field] left right) :
    field.read left = field.read right :=
  agree field List.mem_cons_self

theorem agree_append {more : List BitField} :
    Agree (fields ++ more) left right ↔ Agree fields left right ∧ Agree more left right :=
  List.forall_mem_append

theorem gather_congr (agree : Agree fields left right) :
    gather left fields = gather right fields := by
  induction fields with
  | nil => rfl
  | cons field rest ih =>
    have first := agree field List.mem_cons_self
    have later := ih fun other member => agree other (List.mem_cons_of_mem field member)
    rw [gather, gather, first, later]

end BitField

open BitField

/-! ### Rules -/

namespace OpcodeSpace

theorem Rule.admits_congr {rule : Rule} {left right : Word} (agree : Agree rule.fields left right) :
    rule.admits left = rule.admits right := by
  rw [admits, admits, Bool.eq_iff_iff, List.all_eq_true, List.all_eq_true]
  apply forall₂_congr
  rintro ⟨field, code⟩ member
  have same : field.read left = field.read right := agree field (List.mem_map_of_mem member)
  simp only [same]

theorem lookup?_congr {unit : ExecutionUnit} {left right : Word}
    (agree : ∀ rule ∈ rules unit, Agree rule.fields left right) :
    lookup? unit left = lookup? unit right := by
  rw [lookup?_eq_find, lookup?_eq_find]
  congr 1
  exact List.find?_congr fun rule member => Rule.admits_congr (agree rule member)

end OpcodeSpace

/-! ### Layouts -/

namespace Layout

variable {left right leftLong rightLong : Word}

theorem Quantity.value_congr {quantity : Quantity} (agree : Agree quantity.fields left right)
    (agreeLong : Agree quantity.longFields leftLong rightLong) :
    quantity.value left leftLong = quantity.value right rightLong := by
  cases quantity with
  | fixed value => rfl
  | unsigned fields scale =>
    have same : gather left fields = gather right fields := gather_congr agree
    rw [value, value, Word.gatherUnsigned, Word.gatherUnsigned, same]
  | signed fields scale =>
    have same : gather left fields = gather right fields := gather_congr agree
    rw [value, value, Word.gatherSigned, Word.gatherSigned, Word.gatherUnsigned,
      Word.gatherUnsigned, same]
  | above base field => rw [value, value, agree.singleton]
  | below top field => rw [value, value, agree.singleton]
  | difference minuend subtrahend =>
    have first := agree minuend List.mem_cons_self
    have second := agree subtrahend (List.mem_cons_of_mem _ List.mem_cons_self)
    rw [value, value, first, second]
  | choice field values => rw [value, value, agree.singleton]
  | spliced low long high scale =>
    obtain ⟨agreeLow, agreeHigh⟩ := agree_append.mp agree
    have longs := agreeLong.singleton
    simp only [value, Word.gatherUnsigned, Word.overlay, gather_congr agreeLow,
      gather_congr agreeHigh, longs]

/-- The field that selects the kind of an operand. -/
def KindRule.fields : KindRule → List BitField
  | byCode field _ _ _ => [field]
  | _ => []

theorem KindRule.kind_congr {rule : KindRule} {operation : Operation}
    (agree : Agree rule.fields left right) : rule.kind left operation = rule.kind right operation := by
  cases rule with
  | always kind => rfl
  | byCode field code equal different => rw [kind, kind, agree.singleton]
  | ofOperation => rfl

/-- Every field of the syllable that an operand is read from. -/
def Source.fields (source : Source) : List BitField :=
  source.rule.fields ++ source.quantity.fields ++ source.presence.toList.map (·.1)

theorem Source.isPresent_congr {source : Source}
    (agree : Agree (source.presence.toList.map (·.1)) left right) :
    source.isPresent left = source.isPresent right := by
  rw [isPresent, isPresent]
  cases presence : source.presence with
  | none => rfl
  | some condition =>
    obtain ⟨field, code⟩ := condition
    rw [presence] at agree
    have same : field.read left = field.read right := agree.singleton
    simp only [Option.all_some, same]

theorem Source.operand_congr {source : Source} {operation : Operation}
    (agree : Agree source.fields left right)
    (agreeLong : Agree source.quantity.longFields leftLong rightLong) :
    source.operand operation left leftLong = source.operand operation right rightLong := by
  obtain ⟨agreeShown, agreePresence⟩ := agree_append.mp agree
  obtain ⟨agreeKind, agreeValue⟩ := agree_append.mp agreeShown
  rw [operand, operand, isPresent_congr agreePresence, KindRule.kind_congr agreeKind,
    Quantity.value_congr agreeValue agreeLong]

theorem Hint.completer_congr {hint : Hint} (agree : Agree hint.fields left right) :
    hint.completer left = hint.completer right := by
  rw [completer, completer, gather_congr agree]

theorem Reserved.admits_congr {reserved : Reserved} (agree : Agree [reserved.field] left right) :
    reserved.admits left = reserved.admits right := by
  rw [admits, admits, agree.singleton]

end Layout

/-! ### Instructions -/

namespace Format

open Layout

variable {format : Format} {operation : Operation} {left right leftLong rightLong : Word}

/-- The operands of words that agree on the fields of their sources. -/
theorem getElem_operands_congr {position : Nat} (room : position < 7)
    (agree : ∀ source ∈ (format.operandSources operation)[position]?,
      Agree source.fields left right ∧ Agree source.quantity.longFields leftLong rightLong) :
    (format.operands operation left leftLong)[position] =
      (format.operands operation right rightLong)[position] := by
  rw [getElem_operands _ _ _ _ room, getElem_operands _ _ _ _ room]
  cases listed : (format.operandSources operation)[position]? with
  | none => rfl
  | some source =>
    obtain ⟨agreeFields, agreeLong⟩ := agree source listed
    rw [Option.map_some, Option.map_some, Source.operand_congr agreeFields agreeLong]

theorem completers_congr (agree : ∀ hint ∈ format.hints, Agree hint.fields left right) :
    format.completers operation left = format.completers operation right := by
  rw [completers, completers, List.append_cancel_left_eq]
  exact List.map_congr_left fun hint member => Hint.completer_congr (agree hint member)

theorem reserved_congr
    (agree : ∀ reserved ∈ format.reserved, Agree [reserved.field] left right) :
    format.reserved.all (·.admits left) = format.reserved.all (·.admits right) := by
  rw [Bool.eq_iff_iff, List.all_eq_true, List.all_eq_true]
  apply forall₂_congr
  intro reserved member
  rw [Reserved.admits_congr (agree reserved member)]

end Format

end Itanium
