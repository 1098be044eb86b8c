import Itanium.Listing.Text
import Itanium.Proofs.Table
import Itanium.Proofs.Words

/-!
# Names are read in one way

The name of an instruction is its mnemonic and its completers, joined with dots. No mnemonic has a
dot, but some completers do: `c.clr` is one completer, and so is `c.clr.acq`. The parts between the
dots still determine the completers, with one exception: `c.clr` followed by `acq` reads like
`c.clr.acq`. No instruction has `acq` behind another completer.
-/
namespace Itanium

open Text

/-- A character that ends neither a word nor a part of a name, and opens no predicate. -/
def isPlain (c : Char) : Bool :=
  !isGap c && c != '.' && c != '('

/-! ### Mnemonics -/

namespace Mnemonic

def numbering : Numbering Mnemonic where
  count := 178
  index := Mnemonic.ctorIdx
  member := ofNat
  index_lt mnemonic := by cases mnemonic <;> decide
  member_index := ofNat_ctorIdx

theorem text_inj {left right : Mnemonic} (equal : left.text.toList = right.text.toList) :
    left = right :=
  numbering.inj_of_distinct (fun mnemonic => textNumber mnemonic.text.toList) (by decide)
    (congrArg textNumber equal)

theorem text_isPlain (mnemonic : Mnemonic) :
    mnemonic.text.toList ≠ [] ∧ ∀ c ∈ mnemonic.text.toList, isPlain c = true := by
  have plain := numbering.forall_of_index
    (fun mnemonic => (!mnemonic.text.toList.isEmpty && mnemonic.text.toList.all isPlain) = true)
    (by decide +kernel) mnemonic
  simpa using plain

end Mnemonic

/-! ### Completers -/

namespace CompleterForm

def numbering : Numbering CompleterForm where
  count := 102
  index := CompleterForm.ctorIdx
  member := ofNat
  index_lt form := by cases form <;> decide
  member_index := ofNat_ctorIdx

/-- What stands between the dots. -/
def parts (form : CompleterForm) : List (List Char) :=
  form.text.toList.splitOn '.'

def numbers (form : CompleterForm) : List Nat :=
  form.parts.map textNumber

theorem text_inj {left right : CompleterForm} (equal : left.text.toList = right.text.toList) :
    left = right :=
  numbering.inj_of_distinct (fun form => textNumber form.text.toList) (by decide)
    (congrArg textNumber equal)

theorem parts_inj {left right : CompleterForm} (equal : left.parts = right.parts) :
    left = right := by
  apply text_inj
  have joined := congrArg ['.'].intercalate equal
  rwa [parts, parts, List.intercalate_splitOn, List.intercalate_splitOn] at joined

theorem text_isSolid (form : CompleterForm) : ∀ c ∈ form.text.toList, isGap c = false := by
  have solid := numbering.forall_of_index (fun form => form.text.toList.all (!isGap ·) = true)
    (by decide) form
  simpa using solid

theorem parts_ne_nil (form : CompleterForm) : form.parts ≠ [] :=
  List.splitOn_ne_nil '.' form.text.toList

/-- The only forms that go on where another form ends. -/
theorem eq_of_isPrefix {shorter longer : CompleterForm} (proper : shorter ≠ longer)
    (within : shorter.parts <+: longer.parts) :
    (shorter = .or ∧ longer = .orAndcm) ∨ (shorter = .cClr ∧ longer = .cClrAcq) := by
  -- Few forms have more than one part, so few need to be compared with all others.
  have checked : ∀ longer < numbering.count, (numbering.member longer).numbers.length = 1 ∨
      ∀ shorter < numbering.count,
        (numbering.member shorter).numbers.isPrefixOf (numbering.member longer).numbers = true →
          (numbering.member shorter).numbers.length = (numbering.member longer).numbers.length ∨
            (numbering.member shorter = .or ∧ numbering.member longer = .orAndcm) ∨
              (numbering.member shorter = .cClr ∧ numbering.member longer = .cClrAcq) := by
    decide +kernel
  have nonempty := List.length_pos_iff.mpr shorter.parts_ne_nil
  have fewer : shorter.parts.length < longer.parts.length := by
    apply Nat.lt_of_le_of_ne within.length_le
    intro same
    exact proper (parts_inj (within.eq_of_length same))
  have prefixed : shorter.numbers.isPrefixOf longer.numbers = true :=
    List.isPrefixOf_iff_prefix.mpr (within.map textNumber)
  have shorterLength : shorter.numbers.length = shorter.parts.length := List.length_map _
  have longerLength : longer.numbers.length = longer.parts.length := List.length_map _
  have found := checked (numbering.index longer) (numbering.index_lt longer)
  rw [numbering.member_index] at found
  rcases found with single | several
  · omega
  · have outcome := several (numbering.index shorter) (numbering.index_lt shorter)
    rw [numbering.member_index] at outcome
    rcases outcome prefixed with same | both
    · omega
    · exact both

/-- No form begins with the part that `or.andcm` has beyond `or`. -/
theorem head_parts_ne_andcm (form : CompleterForm) :
    form.parts.head? ≠ some ['a', 'n', 'd', 'c', 'm'] := by
  have differs := numbering.forall_of_index
    (fun form => form.numbers.head? ≠ some (textNumber ['a', 'n', 'd', 'c', 'm']))
    (by decide) form
  intro head
  rw [numbers, List.head?_map, head] at differs
  exact differs rfl

/-- Only `acq` begins with the part that `c.clr.acq` has beyond `c.clr`. -/
theorem eq_acq_of_head_parts {form : CompleterForm}
    (head : form.parts.head? = some ['a', 'c', 'q']) : form = .acq := by
  have only := numbering.forall_of_index
    (fun form => form.numbers.head? = some (textNumber ['a', 'c', 'q']) → form = .acq)
    (by decide) form
  rw [numbers, List.head?_map, head] at only
  exact only rfl

theorem eq_nil_of_flatMap_parts {forms : List CompleterForm}
    (empty : forms.flatMap parts = []) : forms = [] := by
  cases forms with
  | nil => rfl
  | cons form rest =>
    rw [List.flatMap_cons] at empty
    exact absurd (List.append_eq_nil_iff.mp empty).1 form.parts_ne_nil

theorem exists_head_of_flatMap_parts {forms : List CompleterForm} {part : List Char}
    {more : List (List Char)} (equal : forms.flatMap parts = part :: more) :
    ∃ form ∈ forms, form.parts.head? = some part := by
  cases forms with
  | nil => cases equal
  | cons form rest =>
    have head := congrArg List.head? equal
    rw [List.flatMap_cons, List.head?_append_of_ne_nil _ form.parts_ne_nil] at head
    exact ⟨form, List.mem_cons_self, head⟩

/-- What follows a form cannot be read as the rest of a longer form. -/
theorem not_continues {shorter longer : CompleterForm} {rest rest' : List CompleterForm}
    (proper : shorter ≠ longer) (within : shorter.parts <+: longer.parts) (acq : .acq ∉ rest)
    (equal : shorter.parts ++ rest.flatMap parts = longer.parts ++ rest'.flatMap parts) :
    False := by
  rcases eq_of_isPrefix proper within with ⟨rfl, rfl⟩ | ⟨rfl, rfl⟩
  · have tail : rest.flatMap parts = ['a', 'n', 'd', 'c', 'm'] :: rest'.flatMap parts := by
      have first : parts .or = [['o', 'r']] := by decide
      have both : parts .orAndcm = [['o', 'r'], ['a', 'n', 'd', 'c', 'm']] := by decide
      simpa [first, both] using equal
    obtain ⟨form, _, head⟩ := exists_head_of_flatMap_parts tail
    exact form.head_parts_ne_andcm head
  · have tail : rest.flatMap parts = ['a', 'c', 'q'] :: rest'.flatMap parts := by
      have first : parts .cClr = [['c'], ['c', 'l', 'r']] := by decide
      have both : parts .cClrAcq = [['c'], ['c', 'l', 'r'], ['a', 'c', 'q']] := by decide
      simpa [first, both] using equal
    obtain ⟨form, listed, head⟩ := exists_head_of_flatMap_parts tail
    exact acq (eq_acq_of_head_parts head ▸ listed)

/-- The parts of several completers determine them. -/
theorem eq_of_flatMap_parts {left right : List CompleterForm} (leftAcq : .acq ∉ left.tail)
    (rightAcq : .acq ∉ right.tail) (equal : left.flatMap parts = right.flatMap parts) :
    left = right := by
  induction left generalizing right with
  | nil => exact (eq_nil_of_flatMap_parts equal.symm).symm
  | cons form rest ih =>
    cases right with
    | nil => exact eq_nil_of_flatMap_parts equal
    | cons form' rest' =>
      rw [List.flatMap_cons, List.flatMap_cons] at equal
      rw [List.tail_cons] at leftAcq rightAcq
      have same : form = form' := by
        by_contra differ
        -- One of the two forms begins with the parts of the other, and what follows the shorter
        -- one would have to supply the rest.
        rcases List.append_eq_append_iff.mp equal with ⟨more, longer, _⟩ | ⟨more, longer, _⟩
        · exact not_continues differ ⟨more, longer.symm⟩ leftAcq equal
        · exact not_continues (Ne.symm differ) ⟨more, longer.symm⟩ rightAcq equal.symm
      subst same
      have later (forms : List CompleterForm) (free : .acq ∉ forms) : .acq ∉ forms.tail :=
        fun member => free (List.mem_of_mem_tail member)
      rw [ih (later rest leftAcq) (later rest' rightAcq) (List.append_cancel_left equal)]

/-- Behind `c.clr` the form `acq` would be read as a part of it. -/
example : [cClr, acq].flatMap parts = [cClrAcq].flatMap parts := by
  decide

end CompleterForm

/-! ### Names -/

namespace Instruction

/-- The completers that the listing shows. -/
def shownForms (instruction : Instruction) : List CompleterForm :=
  (instruction.completers.filter (·.form ≠ .none)).map Completer.form

theorem toList_nameText (instruction : Instruction) :
    instruction.nameText.toList = instruction.mnemonic.text.toList ++
      instruction.shownForms.flatMap fun form => '.' :: form.text.toList := by
  rw [nameText, String.toList_join, List.flatMap_cons, shownForms, List.flatMap_map,
    List.flatMap_map]
  simp only [String.toList_append]
  rfl

theorem isSolid_nameText (instruction : Instruction) : IsSolid instruction.nameText.toList := by
  obtain ⟨nonempty, plain⟩ := instruction.mnemonic.text_isPlain
  rw [toList_nameText]
  constructor
  · simp [nonempty]
  · intro c member
    rcases List.mem_append.mp member with inMnemonic | inForms
    · have unbroken := plain c inMnemonic
      simp only [isPlain, Bool.and_eq_true, Bool.not_eq_true'] at unbroken
      exact unbroken.1.1
    · obtain ⟨form, _, within⟩ := List.mem_flatMap.mp inForms
      rcases List.mem_cons.mp within with rfl | inText
      · rfl
      · exact form.text_isSolid c inText

theorem head_nameText (instruction : Instruction) :
    instruction.nameText.toList.head? ≠ some '(' := by
  obtain ⟨nonempty, plain⟩ := instruction.mnemonic.text_isPlain
  rw [toList_nameText, List.head?_append_of_ne_nil _ nonempty]
  intro head
  have opens := plain '(' (List.mem_of_mem_head? head)
  cases opens

theorem splitOn_dots (before : List Char) (forms : List CompleterForm) :
    (before ++ forms.flatMap fun form => '.' :: form.text.toList).splitOn '.' =
      before.splitOn '.' ++ forms.flatMap CompleterForm.parts := by
  induction forms generalizing before with
  | nil => simp
  | cons form rest ih =>
    rw [List.flatMap_cons, List.flatMap_cons, List.cons_append, List.splitOn_append_cons_self, ih]
    rfl

/-- A name shows the mnemonic and the completers. -/
theorem eq_of_nameText_eq {left right : Instruction} (leftAcq : .acq ∉ left.shownForms.tail)
    (rightAcq : .acq ∉ right.shownForms.tail)
    (equal : left.nameText.toList = right.nameText.toList) :
    left.mnemonic = right.mnemonic ∧ left.shownForms = right.shownForms := by
  have undotted (mnemonic : Mnemonic) :
      mnemonic.text.toList.splitOn '.' = [mnemonic.text.toList] := by
    apply List.splitOn_eq_singleton
    intro dot
    cases mnemonic.text_isPlain.2 '.' dot
  have pieces := congrArg (List.splitOn '.') equal
  rw [toList_nameText, toList_nameText, splitOn_dots, splitOn_dots, undotted, undotted,
    List.singleton_append, List.singleton_append] at pieces
  obtain ⟨mnemonics, forms⟩ := List.cons.inj pieces
  exact ⟨Mnemonic.text_inj mnemonics, CompleterForm.eq_of_flatMap_parts leftAcq rightAcq forms⟩

end Instruction

end Itanium
