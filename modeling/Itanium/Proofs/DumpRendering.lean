import Itanium.Proofs.HexDump
import Itanium.Proofs.Image

/-!
# Hex dumps load back

A dump of bytes cuts them into runs. Each run is written in digits of either case, behind a mark or
without one, and separators stand between runs and may stand around them. However this is done, the
dump loads as the bytes do. Two dumps with separators between them load as the bytes of the one in
front of the bytes of the other.
-/
namespace Itanium.HexDump

open Numeral Text

def IsGap (gap : List Char) : Prop :=
  ∀ c ∈ gap, isSeparator c = true

/-- Runs with separators between them. -/
inductive IsJoined : List UInt8 → List Char → Prop
  | single {bytes : List UInt8} {token : List Char} (run : SpellsRun IsPair bytes token) :
    IsJoined bytes token
  | cons {bytes more : List UInt8} {token gap rest : List Char} (run : SpellsRun IsPair bytes token)
    (separators : IsGap gap) (nonempty : gap ≠ []) (others : IsJoined more rest) :
    IsJoined (bytes ++ more) (token ++ gap ++ rest)

/-- Joined runs, with separators around them or none. -/
def IsDump (bytes : List UInt8) (text : List Char) : Prop :=
  ∃ before joined after, text = before ++ joined ++ after ∧ IsGap before ∧ IsGap after ∧
    IsJoined bytes joined

/-! ### What a text holds -/

/-- The tokens of the text are read as the bytes. -/
def Holds (bytes : List UInt8) (text : List Char) : Prop :=
  readTokens (pieces isSeparator text) = .ok bytes

theorem readTokens_append {left right : List (List Char)} {front back : List UInt8}
    (first : readTokens left = .ok front) (second : readTokens right = .ok back) :
    readTokens (left ++ right) = .ok (front ++ back) := by
  induction left generalizing front with
  | nil =>
    cases first
    exact second
  | cons token rest ih =>
    obtain ⟨bytes, others, spelled, read, rfl⟩ := readTokens_cons_eq_ok_iff.mp first
    rw [List.append_assoc]
    exact readTokens_cons_eq_ok_iff.mpr ⟨bytes, others ++ back, spelled, ih read, rfl⟩

/-- Every byte takes two characters of a token. -/
theorem length_le_of_readTokens {tokens : List (List Char)} {bytes : List UInt8}
    (read : readTokens tokens = .ok bytes) : 2 * bytes.length ≤ tokens.flatten.length := by
  induction tokens generalizing bytes with
  | nil =>
    cases read
    exact Nat.le_refl 0
  | cons token rest ih =>
    obtain ⟨first, others, spelled, later, rfl⟩ := readTokens_cons_eq_ok_iff.mp read
    obtain ⟨digits, behind, pairs⟩ := readToken_eq_ok_iff.mp spelled
    have run := pairs.length_eq
    have whole : digits.length ≤ token.length := by
      rcases behind with rfl | rfl | rfl
      · exact Nat.le_refl _
      · exact Nat.le_add_right _ 2
      · exact Nat.le_add_right _ 2
    have remaining := ih later
    rw [List.length_append, List.flatten_cons, List.length_append]
    omega

namespace Holds

variable {left right : List UInt8} {before after gap : List Char}

theorem append_cons {separator : Char} (first : Holds left before)
    (separates : isSeparator separator = true) (second : Holds right after) :
    Holds (left ++ right) (before ++ separator :: after) := by
  rw [Holds, pieces_append_cons before after separates]
  exact readTokens_append first second

theorem nil : Holds [] [] :=
  rfl

theorem gap_append (separators : IsGap gap) (second : Holds right after) :
    Holds right (gap ++ after) := by
  induction gap with
  | nil => exact second
  | cons separator gap ih =>
    obtain ⟨separates, others⟩ := List.forall_mem_cons.mp separators
    exact nil.append_cons separates (ih others)

theorem append_gap_append (first : Holds left before) (separators : IsGap gap)
    (nonempty : gap ≠ []) (second : Holds right after) :
    Holds (left ++ right) (before ++ gap ++ after) := by
  cases gap with
  | nil => contradiction
  | cons separator gap =>
    obtain ⟨separates, others⟩ := List.forall_mem_cons.mp separators
    rw [List.append_assoc, List.cons_append]
    exact first.append_cons separates (second.gap_append others)

theorem append_gap (first : Holds left before) (separators : IsGap gap) :
    Holds left (before ++ gap) := by
  by_cases empty : gap = []
  · rwa [empty, List.append_nil]
  · have both := first.append_gap_append separators empty nil
    rwa [List.append_nil, List.append_nil] at both

theorem length_le (holds : Holds left before) : 2 * left.length ≤ before.length := by
  have tokens := length_le_of_readTokens holds
  rw [flatten_pieces] at tokens
  exact Nat.le_trans tokens (List.length_filter_le _ before)

end Holds

/-- No character of a run is a separator. -/
theorem isSeparator_of_mem_run {bytes : List UInt8} {token : List Char}
    (run : SpellsRun IsSignedPair bytes token) : ∀ c ∈ token, isSeparator c = false := by
  obtain ⟨digits, behind, spelled⟩ := run
  have clear : ∀ c ∈ digits, isSeparator c = false :=
    spelled.forall_mem (by decide) (by decide)
  rcases behind with rfl | marked
  · exact clear
  · exact marked.forall_mem (by rfl) (by rfl) (by rfl) clear

theorem holds_of_run {bytes : List UInt8} {token : List Char}
    (run : SpellsRun IsPair bytes token) : Holds bytes token := by
  obtain ⟨digits, behind, spelled⟩ := run
  have signed : SpellsRun IsSignedPair bytes token :=
    ⟨digits, behind, spelled.mono fun _ _ _ => .inl⟩
  rw [Holds, pieces_of_solid (isSeparator_of_mem_run signed), readTokens_cons_eq_ok_iff]
  exact ⟨bytes, [], readToken_eq_ok_iff.mpr signed, rfl, List.append_nil bytes⟩

theorem holds_of_isJoined {bytes : List UInt8} {text : List Char} (joined : IsJoined bytes text) :
    Holds bytes text := by
  induction joined with
  | single run => exact holds_of_run run
  | cons run separators nonempty _ ih =>
    exact (holds_of_run run).append_gap_append separators nonempty ih

theorem holds_of_isDump {bytes : List UInt8} {text : List Char} (dump : IsDump bytes text) :
    Holds bytes text := by
  obtain ⟨before, joined, after, rfl, front, back, runs⟩ := dump
  exact ((holds_of_isJoined runs).gap_append front).append_gap back

/-! ### Images -/

theorem holds_of_ofHexDump {base : Word} {text : String} {image : Image}
    (loaded : Image.ofHexDump base text = .ok image) : Holds image.bytes.toList text.toList := by
  obtain ⟨bytes, accepted, placed⟩ := exists_read_of_ofHexDump loaded
  rwa [Image.bytes_of_ofBytes placed]

/-- However bytes are written, they load at any base as they are, or are refused as they are. Texts
that load are joined by separators to a text that holds the bytes of both, and that loads if its
length is a word, as the length of a text in memory is. -/
theorem dumps_load_back :
    (∀ {bytes : List UInt8} {text : String}, IsDump bytes text.toList →
      ∀ base, Image.ofHexDump base text =
        (Image.ofBytes base bytes.toArray).mapError Failure.image) ∧
    ∀ {first second gap : String} {left right : Image}, IsGap gap.toList → gap ≠ "" →
      Image.ofHexDump 0 first = .ok left → Image.ofHexDump 0 second = .ok right →
      Image.ofHexDump 0 (first ++ gap ++ second) =
          (Image.ofBytes 0 (left.bytes ++ right.bytes)).mapError Failure.image ∧
        ((first ++ gap ++ second).length < 2 ^ 64 →
          ∃ image, Image.ofHexDump 0 (first ++ gap ++ second) = .ok image ∧
            image.bytes = left.bytes ++ right.bytes) := by
  refine ⟨?_, ?_⟩
  · intro bytes text dump base
    exact ofHexDump_of_read (holds_of_isDump dump) base
  · intro first second gap left right separators nonempty firstLoads secondLoads
    have inner : gap.toList ≠ [] := by simpa using nonempty
    have holds : Holds (left.bytes ++ right.bytes).toList (first ++ gap ++ second).toList := by
      rw [String.toList_append, String.toList_append, Array.toList_append]
      exact (holds_of_ofHexDump firstLoads).append_gap_append separators inner
        (holds_of_ofHexDump secondLoads)
    have loads := ofHexDump_of_read holds 0
    rw [Array.toArray_toList] at loads
    refine ⟨loads, fun short => ?_⟩
    have size := holds.length_le
    rw [Array.length_toList, String.length_toList] at size
    have small : (left.bytes ++ right.bytes).size < 2 ^ 64 := by omega
    obtain ⟨image, placed, same⟩ := Image.exists_ofBytes_zero small
    exact ⟨image, by rw [loads, placed]; rfl, same⟩

/-- Two runs in mixed case, with a mark that nothing follows between them. -/
theorem dumps_load_back_mixed :
    (IsDump [0x0A, 0x0B, 0xFF] "\n0X0a0B, 0x\tfF,".toList ∧
      ∀ base, Image.ofHexDump base "\n0X0a0B, 0x\tfF," =
        (Image.ofBytes base [0x0A, 0x0B, 0xFF].toArray).mapError Failure.image) ∧
    ∃ image, Image.ofHexDump 0 ("0X0a0B" ++ ", " ++ "fF") = .ok image ∧
      image.bytes = #[0x0A, 0x0B] ++ #[0xFF] := by
  have marked : SpellsRun IsPair [0x0A, 0x0B] "0X0a0B".toList :=
    ⟨_, .inr (.inr rfl), .cons (by decide) (.cons (by decide) .nil)⟩
  have empty : SpellsRun IsPair [] "0x".toList := ⟨_, .inr (.inl rfl), .nil⟩
  have plain : SpellsRun IsPair [0xFF] "fF".toList := ⟨_, .inl rfl, .cons (by decide) .nil⟩
  have isGap : ∀ separator, isSeparator separator = true → IsGap [separator] := by
    intro separator separates c member
    rwa [List.mem_singleton.mp member]
  have between : IsGap ", ".toList := List.forall_mem_cons.mpr ⟨rfl, isGap ' ' rfl⟩
  have dump : IsDump [0x0A, 0x0B, 0xFF] "\n0X0a0B, 0x\tfF,".toList :=
    ⟨['\n'], "0X0a0B, 0x\tfF".toList, [','], rfl, isGap '\n' rfl, isGap ',' rfl,
      .cons marked between (by decide)
        (.cons empty (isGap '\t' rfl) (by decide) (.single plain))⟩
  refine ⟨⟨dump, dumps_load_back.1 dump⟩, ?_⟩
  have first : Image.ofHexDump 0 "0X0a0B" = .ok ⟨0, #[0x0A, 0x0B], rfl, by decide, rfl⟩ := rfl
  have second : Image.ofHexDump 0 "fF" = .ok ⟨0, #[0xFF], rfl, by decide, rfl⟩ := rfl
  exact (dumps_load_back.2 between (by decide) first second).2 (by decide)

end Itanium.HexDump
