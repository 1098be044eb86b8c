import Itanium.Failure
import Itanium.Proofs.NumeralGrammar
import Itanium.Proofs.TextParts

/-!
# What a hex dump is read from

Tokens between separators are read two characters at a time, behind an optional mark. Two digits in
either case make a byte. The reader of numerals takes a plus sign as well, so a plus sign and one
digit also make a byte. A text with any other token is refused, whatever the base is, so a text
without a plus sign is read if and only if its tokens are pairs of digits.
-/
namespace Itanium.HexDump

open Numeral Text

/-! ### Digits of bytes -/

/-- Two digits, in either case. -/
def IsPair (byte : UInt8) (high low : Char) : Prop :=
  IsDigit 16 (byte.toNat / 16) high ∧ IsDigit 16 (byte.toNat % 16) low

instance (byte : UInt8) (high low : Char) : Decidable (IsPair byte high low) :=
  inferInstanceAs (Decidable (_ ∧ _))

/-- Two digits, or a plus sign and one digit. -/
def IsSignedPair (byte : UInt8) (high low : Char) : Prop :=
  IsPair byte high low ∨ high = '+' ∧ IsDigit 16 byte.toNat low

/-- Two characters for each byte. -/
inductive Spells (pair : UInt8 → Char → Char → Prop) : List UInt8 → List Char → Prop
  | nil : Spells pair [] []
  | cons {byte : UInt8} {bytes : List UInt8} {high low : Char} {digits : List Char}
    (first : pair byte high low) (rest : Spells pair bytes digits) :
    Spells pair (byte :: bytes) (high :: low :: digits)

/-- The characters of some bytes behind an optional mark. -/
def SpellsRun (pair : UInt8 → Char → Char → Prop) (bytes : List UInt8) (token : List Char) : Prop :=
  ∃ digits, (token = digits ∨ IsMarked token digits) ∧ Spells pair bytes digits

theorem Spells.length_eq {pair : UInt8 → Char → Char → Prop} {bytes : List UInt8}
    {digits : List Char} (spelled : Spells pair bytes digits) :
    digits.length = 2 * bytes.length := by
  induction spelled with
  | nil => rfl
  | cons _ _ ih =>
    simp only [List.length_cons]
    omega

theorem Spells.mono {left right : UInt8 → Char → Char → Prop}
    (le : ∀ byte high low, left byte high low → right byte high low) {bytes : List UInt8}
    {digits : List Char} (spelled : Spells left bytes digits) : Spells right bytes digits := by
  induction spelled with
  | nil => exact .nil
  | cons first _ ih => exact .cons (le _ _ _ first) ih

section Pairs

variable {byte : UInt8} {high low : Char}

/-- What holds of the sign and of every digit holds of both characters. -/
theorem IsSignedPair.forall {p : Char → Prop} (sign : p '+')
    (checked : ∀ digit < 16, p digit.digitChar ∧ p digit.digitChar.toUpper)
    (pair : IsSignedPair byte high low) : p high ∧ p low := by
  rcases pair with ⟨first, second⟩ | ⟨rfl, second⟩
  · exact ⟨first.of_spellings checked (by decide), second.of_spellings checked (by decide)⟩
  · exact ⟨sign, second.of_spellings checked (by decide)⟩

theorem readByte_eq_ok_iff :
    readByte [high, low] = .ok byte ↔ IsSignedPair byte high low := by
  have parsed (value : Nat) : Numeral.parse 16 256 [high, low] = .ok value ↔ _ :=
    parse_eq_ok_iff (by decide) (by decide) (by decide)
  simp only [isNumeral_pair_iff] at parsed
  rw [readByte]
  constructor
  · intro read
    cases value : Numeral.parse 16 256 [high, low] with
    | error error =>
      rw [value] at read
      cases read
    | ok number =>
      rw [value] at read
      obtain rfl := Except.ok.inj read
      obtain ⟨below, pair⟩ := (parsed number).mp value
      have same : (UInt8.ofNat number).toNat = number := Nat.mod_eq_of_lt below
      rwa [IsSignedPair, IsPair, same]
  · intro pair
    have value := (parsed byte.toNat).mpr ⟨byte.toNat_lt, pair⟩
    simp only [value, UInt8.ofNat_toNat]

end Pairs

/-! ### Runs and tokens -/

/-- Every character of a pair is one UTF-8 byte long. -/
theorem IsSignedPair.utf8Size {byte : UInt8} {high low : Char} (pair : IsSignedPair byte high low) :
    high.utf8Size = 1 ∧ low.utf8Size = 1 :=
  pair.forall (p := fun c => c.utf8Size = 1) (by decide) (by decide)

theorem readRun_of_utf8Size {high low : Char} (first : high.utf8Size = 1)
    (second : low.utf8Size = 1) (rest : List Char) :
    readRun (high :: low :: rest) = do
      let byte ← readByte [high, low]
      let bytes ← readRun rest
      return byte :: bytes := by
  rw [readRun, first, if_neg (by decide), if_neg (by decide), if_neg (not_not.mpr second)]

theorem utf8Size_of_readRun {high low : Char} {rest : List Char} {bytes : List UInt8}
    (read : readRun (high :: low :: rest) = .ok bytes) : high.utf8Size = 1 ∧ low.utf8Size = 1 := by
  have positive := high.utf8Size_pos
  rw [readRun] at read
  split at read
  · cases read
  split at read
  · cases read
  split at read
  · cases read
  · omega

theorem readRun_eq_ok_iff : ∀ {digits : List Char} {bytes : List UInt8},
    readRun digits = .ok bytes ↔ Spells IsSignedPair bytes digits
  | [], bytes => by
    constructor
    · intro read
      cases read
      exact .nil
    · intro spelled
      cases spelled
      rfl
  -- A digit on its own is refused, and it spells no bytes.
  | [single], bytes => by
    constructor
    · intro read
      rw [readRun] at read
      split at read
      · cases read
      split at read
      · cases read
      · cases read
    · intro spelled
      cases spelled
  | high :: low :: rest, bytes => by
    constructor
    · intro read
      obtain ⟨first, second⟩ := utf8Size_of_readRun read
      rw [readRun_of_utf8Size first second] at read
      cases byte : readByte [high, low] with
      | error error => simp [byte, bind, Except.bind] at read
      | ok byte' =>
        cases others : readRun rest with
        | error error => simp [byte, others, bind, Except.bind] at read
        | ok bytes' =>
          simp only [byte, others, bind, Except.bind, pure, Except.pure, Except.ok.injEq] at read
          subst bytes
          exact .cons (readByte_eq_ok_iff.mp byte) (readRun_eq_ok_iff.mp others)
    · intro spelled
      cases spelled with
      | cons pair others =>
        obtain ⟨first, second⟩ := pair.utf8Size
        rw [readRun_of_utf8Size first second, readByte_eq_ok_iff.mpr pair,
          readRun_eq_ok_iff.mpr others]
        rfl

theorem Spells.utf8Length_eq {bytes : List UInt8} {digits : List Char}
    (spelled : Spells IsSignedPair bytes digits) : utf8Length digits = 2 * bytes.length := by
  induction spelled with
  | nil => rfl
  | cons pair _ ih =>
    obtain ⟨first, second⟩ := pair.utf8Size
    rw [utf8Length, utf8Length, first, second, ih, List.length_cons]
    omega

/-- What holds of the sign and of every digit holds of all characters. -/
theorem Spells.forall_mem {p : Char → Prop} (sign : p '+')
    (checked : ∀ digit < 16, p digit.digitChar ∧ p digit.digitChar.toUpper) {bytes : List UInt8}
    {digits : List Char} (spelled : Spells IsSignedPair bytes digits) : ∀ c ∈ digits, p c := by
  induction spelled with
  | nil => simp
  | cons pair _ ih =>
    obtain ⟨first, second⟩ := pair.forall sign checked
    exact List.forall_mem_cons.mpr ⟨first, List.forall_mem_cons.mpr ⟨second, ih⟩⟩

/-- No digit is the letter of a mark. -/
theorem not_isMarked_of_spells {bytes : List UInt8} {token : List Char}
    (spelled : Spells IsSignedPair bytes token) : ∀ digits, ¬IsMarked token digits :=
  not_isMarked_of_forall_mem (spelled.forall_mem (by decide) (by decide))

theorem spellsRun_iff {bytes : List UInt8} {token : List Char} :
    SpellsRun IsSignedPair bytes token ↔ Spells IsSignedPair bytes (splitHexMark token).1 := by
  constructor
  · rintro ⟨digits, rfl | marked, spelled⟩
    · rwa [splitHexMark_of_not_isMarked (not_isMarked_of_spells spelled)]
    · rwa [splitHexMark_of_isMarked marked]
  · intro spelled
    by_cases marked : ∃ digits, IsMarked token digits
    · obtain ⟨digits, marked⟩ := marked
      rw [splitHexMark_of_isMarked marked] at spelled
      exact ⟨digits, .inr marked, spelled⟩
    · rw [splitHexMark_of_not_isMarked (not_exists.mp marked)] at spelled
      exact ⟨token, .inl rfl, spelled⟩

theorem readToken_eq_ok_iff {token : List Char} {bytes : List UInt8} :
    readToken token = .ok bytes ↔ SpellsRun IsSignedPair bytes token := by
  rw [spellsRun_iff, ← readRun_eq_ok_iff, readToken]
  constructor
  · intro read
    split at read
    · cases read
    cases run : readRun (splitHexMark token).1 with
    | error error =>
      rw [run] at read
      cases read
    | ok bytes' =>
      rw [run] at read
      cases read
      rfl
  · intro run
    have even := (readRun_eq_ok_iff.mp run).utf8Length_eq
    rw [if_neg (by omega), run]

/-! ### Texts -/

theorem readTokens_cons_eq_ok_iff {token : List Char} {rest : List (List Char)}
    {bytes : List UInt8} :
    readTokens (token :: rest) = .ok bytes ↔
      ∃ first others, readToken token = .ok first ∧ readTokens rest = .ok others ∧
        first ++ others = bytes := by
  rw [readTokens]
  cases readToken token with
  | error error => simp [bind, Except.bind]
  | ok first =>
    cases readTokens rest with
    | error error => simp [bind, Except.bind]
    | ok others => simp [bind, Except.bind, pure, Except.pure]

theorem exists_readTokens_iff {tokens : List (List Char)} :
    (∃ bytes, readTokens tokens = .ok bytes) ↔
      ∀ token ∈ tokens, ∃ bytes, SpellsRun IsSignedPair bytes token := by
  induction tokens with
  | nil => simp [readTokens]
  | cons token rest ih =>
    rw [List.forall_mem_cons, ← ih]
    simp only [readTokens_cons_eq_ok_iff, readToken_eq_ok_iff]
    constructor
    · rintro ⟨_, first, others, spelled, read, _⟩
      exact ⟨⟨first, spelled⟩, others, read⟩
    · rintro ⟨⟨first, spelled⟩, others, read⟩
      exact ⟨_, first, others, spelled, read, rfl⟩

theorem exists_read_iff {text : String} : (∃ bytes, read text = .ok bytes) ↔
    ∀ token, IsPiece isSeparator token text.toList →
      ∃ bytes, SpellsRun IsSignedPair bytes token := by
  simp only [read, exists_readTokens_iff, mem_pieces_iff]

theorem ofHexDump_of_read {text : String} {bytes : List UInt8} (accepted : read text = .ok bytes)
    (base : Word) :
    Image.ofHexDump base text = (Image.ofBytes base bytes.toArray).mapError .image := by
  rw [Image.ofHexDump, accepted]

theorem exists_read_of_ofHexDump {base : Word} {text : String} {image : Image}
    (loaded : Image.ofHexDump base text = .ok image) :
    ∃ bytes, read text = .ok bytes ∧ Image.ofBytes base bytes.toArray = .ok image := by
  cases outcome : read text with
  | error error =>
    rw [Image.ofHexDump, outcome] at loaded
    cases loaded
  | ok bytes =>
    rw [ofHexDump_of_read outcome] at loaded
    cases placed : Image.ofBytes base bytes.toArray with
    | error error =>
      rw [placed] at loaded
      cases loaded
    | ok image' =>
      rw [placed] at loaded
      cases loaded
      exact ⟨bytes, rfl, placed⟩

/-! ### Digits without a sign -/

/-- An even number of hexadecimal digits behind an optional mark. -/
def IsHexToken (token : List Char) : Prop :=
  ∃ digits, (token = digits ∨ IsMarked token digits) ∧ digits.length % 2 = 0 ∧
    ∀ c ∈ digits, ∃ digit, IsDigit 16 digit c

theorem exists_isPair {high low : Char} {first second : Nat} (highDigit : IsDigit 16 first high)
    (lowDigit : IsDigit 16 second low) : ∃ byte, IsPair byte high low := by
  have highBound := highDigit.1
  have lowBound := lowDigit.1
  have value : (UInt8.ofNat (16 * first + second)).toNat = 16 * first + second :=
    Nat.mod_eq_of_lt (show 16 * first + second < 256 by omega)
  refine ⟨UInt8.ofNat (16 * first + second), ?_⟩
  rw [IsPair, value, show (16 * first + second) / 16 = first by omega,
    show (16 * first + second) % 16 = second by omega]
  exact ⟨highDigit, lowDigit⟩

theorem exists_spells_of_digits : ∀ {digits : List Char}, digits.length % 2 = 0 →
    (∀ c ∈ digits, ∃ digit, IsDigit 16 digit c) → ∃ bytes, Spells IsPair bytes digits
  | [], _, _ => ⟨[], .nil⟩
  | [_], odd, _ => by cases odd
  | high :: low :: rest, even, digit => by
    simp only [List.forall_mem_cons] at digit
    obtain ⟨⟨_, highDigit⟩, ⟨_, lowDigit⟩, others⟩ := digit
    obtain ⟨byte, pair⟩ := exists_isPair highDigit lowDigit
    simp only [List.length_cons] at even
    obtain ⟨bytes, spelled⟩ := exists_spells_of_digits (by omega) others
    exact ⟨byte :: bytes, .cons pair spelled⟩

theorem digits_of_spells {bytes : List UInt8} {digits : List Char}
    (spelled : Spells IsSignedPair bytes digits) (unsigned : '+' ∉ digits) :
    ∀ c ∈ digits, ∃ digit, IsDigit 16 digit c := by
  induction spelled with
  | nil => simp
  | cons pair _ ih =>
    simp only [List.mem_cons, not_or] at unsigned
    obtain ⟨high, _, others⟩ := unsigned
    rcases pair with ⟨first, second⟩ | ⟨sign, _⟩
    · exact List.forall_mem_cons.mpr ⟨⟨_, first⟩, List.forall_mem_cons.mpr ⟨⟨_, second⟩, ih others⟩⟩
    · exact absurd sign.symm high

/-- The characters of a mark are no signs. -/
theorem plus_mem_iff {token digits : List Char} (behind : token = digits ∨ IsMarked token digits) :
    '+' ∈ token ↔ '+' ∈ digits := by
  rcases behind with rfl | rfl | rfl
  · rfl
  · simp
  · simp

theorem isHexToken_iff {token : List Char} :
    IsHexToken token ↔ (∃ bytes, SpellsRun IsSignedPair bytes token) ∧ '+' ∉ token := by
  constructor
  · rintro ⟨digits, behind, even, all⟩
    obtain ⟨bytes, spelled⟩ := exists_spells_of_digits even all
    refine ⟨⟨bytes, digits, behind, spelled.mono fun _ _ _ => .inl⟩, ?_⟩
    rw [plus_mem_iff behind]
    intro sign
    obtain ⟨digit, isDigit⟩ := all '+' sign
    exact not_isDigit_plus (by decide) digit isDigit
  · rintro ⟨⟨bytes, digits, behind, spelled⟩, unsigned⟩
    rw [plus_mem_iff behind] at unsigned
    have even := spelled.length_eq
    exact ⟨digits, behind, by omega, digits_of_spells spelled unsigned⟩

/-- A text is read if each of its tokens consists of pairs, a plus sign counting as the first digit
of a pair, and is refused for every base if not. So what is read has hexadecimal digits alone if and
only if it has no plus sign. -/
theorem accepts_only_pairs (text : String) :
    ((∀ token, IsPiece isSeparator token text.toList →
          ∃ bytes, SpellsRun IsSignedPair bytes token) ∧
        (∀ base error, Image.ofHexDump base text ≠ .error (.hexDump error)) ∨
      (¬∀ token, IsPiece isSeparator token text.toList →
          ∃ bytes, SpellsRun IsSignedPair bytes token) ∧
        ∃ error, ∀ base, Image.ofHexDump base text = .error (.hexDump error)) ∧
    ((∀ token, IsPiece isSeparator token text.toList → IsHexToken token) ↔
      (∀ token, IsPiece isSeparator token text.toList →
        ∃ bytes, SpellsRun IsSignedPair bytes token) ∧ '+' ∉ text.toList) := by
  refine ⟨?_, ?_⟩
  · rw [← exists_read_iff]
    cases outcome : read text with
    | ok bytes =>
      refine .inl ⟨⟨bytes, rfl⟩, ?_⟩
      intro base error
      rw [ofHexDump_of_read outcome]
      cases Image.ofBytes base bytes.toArray <;> simp [Except.mapError]
    | error error =>
      refine .inr ⟨by simp, error, ?_⟩
      intro base
      rw [Image.ofHexDump, outcome]
  · have sign : '+' ∉ text.toList ↔
        ∀ token, IsPiece isSeparator token text.toList → '+' ∉ token := by
      rw [mem_iff_exists_piece (by decide : isSeparator '+' = false)]
      simp only [not_exists, not_and]
    simp only [isHexToken_iff, sign, ← forall_and]

/-- A plus sign and a digit are read as a byte. -/
theorem accepts_only_pairs_but_signed :
    IsPiece isSeparator "+f".toList "+f".toList ∧ ¬IsHexToken "+f".toList ∧
      ∃ image, Image.ofHexDump 0 "+f" = .ok image ∧ image.bytes = #[0x0F] := by
  have solid : ∀ c ∈ "+f".toList, isSeparator c = false :=
    List.forall_mem_cons.mpr ⟨rfl, List.forall_mem_singleton.mpr rfl⟩
  refine ⟨⟨[], [], rfl, solid, by simp, by simp⟩, ?_, ⟨0, #[0x0F], rfl, by decide, rfl⟩, rfl, rfl⟩
  rw [isHexToken_iff]
  simp

end Itanium.HexDump
