import ChainClient.Channel.Height
import ChainClient.Proofs.Outcome
import ChainClient.Proofs.Text.Digits
import ChainClient.Proofs.Text.Pieces

/-!
# Heights in text

A height is read from two numbers with a dash between them. Neither number holds a dash, so the cut at the first dash is the only one that leaves two numbers, and a text says one height at most. What is written for a height is read as this height.

A height at which something is to end must not have the block zero. The texts that are no such height are those that are not two numbers around one dash, and those in which a number is too large or the second one is zero.
-/

namespace ChainClient.Height

open Text

variable {text : String} {revision block : Nat} {height : Height}

/-- A number, a dash and a number. -/
def Written (text : String) (revision block : Nat) : Prop :=
  ∃ first second, text.toList = first ++ '-' :: second ∧ Unsigned first revision ∧ Unsigned second block

theorem dash_not_mem_of_unsigned {cs : List Char} {n : Nat} (h : Unsigned cs n) : '-' ∉ cs := h.not_mem (by decide) (by decide)

theorem Written.count_dash (h : Written text revision block) : text.toList.count '-' = 1 := by
  obtain ⟨first, second, htext, hfirst, hsecond⟩ := h
  rw [htext, List.count_append, List.count_cons_self, List.count_eq_zero.2 (dash_not_mem_of_unsigned hfirst),
    List.count_eq_zero.2 (dash_not_mem_of_unsigned hsecond)]

/-- Wherever a text is cut at a dash, the parts are its two numbers. -/
theorem Written.unsigned (h : Written text revision block) {first second : List Char}
    (htext : text.toList = first ++ '-' :: second) : Unsigned first revision ∧ Unsigned second block := by
  have hcount := h.count_dash
  rw [htext, List.count_append, List.count_cons_self] at hcount
  have hdash : '-' ∉ first := List.count_eq_zero.1 (by omega)
  obtain ⟨before, after, hcut, hbefore, hafter⟩ := h
  have hsplit := splitOnce_append hdash second
  rw [← htext, hcut, splitOnce_append (dash_not_mem_of_unsigned hbefore)] at hsplit
  cases hsplit
  exact ⟨hbefore, hafter⟩

theorem Written.eq {other next : Nat} (h : Written text revision block) (hother : Written text other next) :
    revision = other ∧ block = next := by
  obtain ⟨first, second, htext, hfirst, hsecond⟩ := hother
  obtain ⟨hrevision, hblock⟩ := h.unsigned htext
  exact ⟨hrevision.eq hfirst, hblock.eq hsecond⟩

/-! ### Reading -/

/-- The accepted texts are two numbers of 64 bits with a dash between them. -/
theorem parse_eq_ok_iff : parse text = .ok height ↔ Written text height.revision.toNat height.block.toNat := by
  constructor
  · intro h
    rw [parse] at h
    dsimp only at h
    split at h
    · rename_i found hfound
      cases h
      obtain ⟨⟨first, second⟩, hsplit, hparts⟩ := Option.bind_eq_some_iff.1 hfound
      obtain ⟨revision, hrevision, hrest⟩ := Option.bind_eq_some_iff.1 hparts
      obtain ⟨block, hblock, hheight⟩ := Option.bind_eq_some_iff.1 hrest
      obtain ⟨hfirst, hrevisionBound⟩ := readUnsigned?_eq_some_iff.1 hrevision
      obtain ⟨hsecond, hblockBound⟩ := readUnsigned?_eq_some_iff.1 hblock
      cases hheight
      refine ⟨first, second, splitOnce_eq_some hsplit, ?_, ?_⟩
      · rwa [UInt64.toNat_ofNat_of_lt' hrevisionBound]
      · rwa [UInt64.toNat_ofNat_of_lt' hblockBound]
    · cases h
  · rintro ⟨first, second, htext, hfirst, hsecond⟩
    have hrevision := readUnsigned?_eq_some_iff.2 ⟨hfirst, height.revision.toNat_lt⟩
    have hblock := readUnsigned?_eq_some_iff.2 ⟨hsecond, height.block.toNat_lt⟩
    rw [parse, htext, splitOnce_append (dash_not_mem_of_unsigned hfirst)]
    simp only [Option.bind_eq_bind, Option.bind_some, hrevision, hblock, UInt64.ofNat_toNat]
    rfl

@[simp] theorem parse_text (height : Height) : parse height.text = .ok height :=
  parse_eq_ok_iff.2 ⟨_, _, String.toList_ofList, unsigned_digits _, unsigned_digits _⟩

/-! ### Heights at which something ends -/

/-- Two numbers of 64 bits with a dash between them, the second of which is not zero. -/
structure Timeout (text : String) (revision block : Nat) : Prop where
  written : Written text revision block
  revision_lt : revision < 2 ^ 64
  block_lt : block < 2 ^ 64
  block_ne_zero : block ≠ 0

theorem isZero_eq_false_iff : height.isZero = false ↔ height.block.toNat ≠ 0 := by
  rw [isZero, beq_eq_false_iff_ne, Ne, ← UInt64.toNat_inj]
  rfl

theorem timeout_iff : Timeout text revision block ↔
    ∃ height, parse text = .ok height ∧ height.isZero = false ∧ height.revision.toNat = revision ∧
      height.block.toNat = block := by
  simp only [parse_eq_ok_iff]
  constructor
  · rintro ⟨hwritten, hrevision, hblock, hzero⟩
    have hfirst : (UInt64.ofNat revision).toNat = revision := UInt64.toNat_ofNat_of_lt' hrevision
    have hsecond : (UInt64.ofNat block).toNat = block := UInt64.toNat_ofNat_of_lt' hblock
    refine ⟨⟨UInt64.ofNat revision, UInt64.ofNat block⟩, ?_, ?_, hfirst, hsecond⟩
    · rwa [hfirst, hsecond]
    · rwa [isZero_eq_false_iff, hsecond]
  · rintro ⟨height, hwritten, hzero, rfl, rfl⟩
    exact ⟨hwritten, height.revision.toNat_lt, height.block.toNat_lt, isZero_eq_false_iff.1 hzero⟩

/-- What is wrong with a text that is no height at which something can end. -/
inductive Unfit (text : String) : Prop
  | noDash (h : '-' ∉ text.toList)
  | dashes (h : 1 < text.toList.count '-')
  | noRevision {second : List Char} (h : text.toList = '-' :: second)
  | noBlock {first : List Char} (h : text.toList = first ++ ['-'])
  | revisionTooLarge {first second : List Char} (h : text.toList = first ++ '-' :: second) {revision : Nat}
      (hfirst : Unsigned first revision) (hlarge : 2 ^ 64 ≤ revision)
  | blockTooLarge {first second : List Char} (h : text.toList = first ++ '-' :: second) {block : Nat}
      (hsecond : Unsigned second block) (hlarge : 2 ^ 64 ≤ block)
  | zero {first second : List Char} (h : text.toList = first ++ '-' :: second) (hsecond : Unsigned second 0)

theorem Unfit.not_timeout (h : Unfit text) : ¬ Timeout text revision block := by
  intro htimeout
  have hcount := htimeout.written.count_dash
  cases h with
  | noDash hnone =>
    rw [List.count_eq_zero.2 hnone] at hcount
    cases hcount
  | dashes hmany => omega
  | noRevision htext =>
    rw [← List.nil_append ('-' :: _)] at htext
    exact (htimeout.written.unsigned htext).1.ne_nil rfl
  | noBlock htext => exact (htimeout.written.unsigned htext).2.ne_nil rfl
  | revisionTooLarge htext hfirst hlarge =>
    cases (htimeout.written.unsigned htext).1.eq hfirst
    exact absurd htimeout.revision_lt (Nat.not_lt.2 hlarge)
  | blockTooLarge htext hsecond hlarge =>
    cases (htimeout.written.unsigned htext).2.eq hsecond
    exact absurd htimeout.block_lt (Nat.not_lt.2 hlarge)
  | zero htext hsecond => exact htimeout.block_ne_zero ((htimeout.written.unsigned htext).2.eq hsecond)

end ChainClient.Height
