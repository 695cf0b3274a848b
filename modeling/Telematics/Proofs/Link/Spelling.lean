/-
# Telematics.Proofs.Link.Spelling -- what an address in groups is spelled with

Whatever is read as an address in groups consists of hexadecimal digits, colons
and dots (`isSpelling_of_ofColons?`).  So it has no blanks, slashes or brackets in
it, and can stand between brackets and before a port.
-/
import Telematics.Link.Address
import Telematics.Text.Blank

namespace Telematics

set_option autoImplicit false

namespace Text

/-- What holds of every part that is read holds of all that a list is read from. -/
theorem forall_of_mapM {α β : Type} {f : α → Option β} {P : α → Prop}
    (every : ∀ a b, f a = some b → P a) {as : List α} {bs : List β} (read : as.mapM f = some bs) :
    ∀ a ∈ as, P a := by
  induction as generalizing bs with
  | nil => simp
  | cons a as ih =>
    rw [List.mapM_cons, Option.bind_eq_bind, Option.bind_eq_some_iff] at read
    obtain ⟨b, first, others⟩ := read
    obtain ⟨bs, others, -⟩ := Option.bind_eq_some_iff.1 others
    exact List.forall_mem_cons.2 ⟨every a b first, ih others⟩

theorem Hex.isSome_of_decimal {c : Char} (digit : (Decimal.digitValue? c).isSome) :
    (digitValue? c).isSome := by
  simp [digitValue?, Decimal.between_of_isSome digit]

end Text

namespace Link.Address

open Text

/-- What an address in groups is spelled with. -/
def IsSpelling (c : Char) : Prop :=
  c = ':' ∨ c = '.' ∨ (Hex.digitValue? c).isSome

theorem IsSpelling.between {c : Char} (spelling : IsSpelling c) :
    c = ':' ∨ c = '.' ∨ ('0' ≤ c ∧ c ≤ '9') ∨ ('a' ≤ c ∧ c ≤ 'f') ∨ ('A' ≤ c ∧ c ≤ 'F') := by
  refine spelling.imp id (Or.imp id fun digit => ?_)
  unfold Hex.digitValue? at digit
  split at digit
  · exact .inl ‹_›
  · split at digit
    · exact .inr (.inl ‹_›)
    · split at digit
      · exact .inr (.inr ‹_›)
      · cases digit

theorem IsSpelling.code {c : Char} (spelling : IsSpelling c) :
    46 ≤ c.toNat ∧ c.toNat ≠ 47 ∧ c.toNat ≤ 102 ∧ c.toNat ≠ 91 ∧ c.toNat ≠ 93 := by
  have number : ∀ a b : Char, a ≤ b → a.toNat ≤ b.toNat := fun _ _ order => order
  rcases spelling.between with rfl | rfl | ⟨low, high⟩ | ⟨low, high⟩ | ⟨low, high⟩
  · decide
  · decide
  all_goals
    have low := number _ _ low
    have high := number _ _ high
    simp at low high
    omega

theorem IsSpelling.not_blank {c : Char} (spelling : IsSpelling c) : isBlank c = false := by
  have code := spelling.code
  simp [isBlank]
  omega

theorem IsSpelling.ne {c d : Char} (spelling : IsSpelling c) (other : d ∈ ['/', '[', ']']) :
    c ≠ d := by
  rintro rfl
  have code := spelling.code
  simp at other
  rcases other with rfl | rfl | rfl <;> simp at code

theorem isSome_of_readBase {base n : Nat} {cs : List Char} (read : readBase base cs = some n) :
    ∀ c ∈ cs, (Hex.digitValue? c).isSome := by
  unfold readBase at read
  generalize 0 = start at read
  induction cs generalizing start with
  | nil => simp
  | cons c cs ih =>
    rw [List.foldlM_cons, Option.bind_eq_bind, Option.bind_eq_some_iff] at read
    obtain ⟨next, first, others⟩ := read
    obtain ⟨d, value, -⟩ := Option.bind_eq_some_iff.1 first
    rw [List.forall_mem_cons]
    exact ⟨by rw [value]; rfl, ih next others⟩

theorem isSome_of_readGroup {cs : List Char} {g : UInt16} (read : readGroup cs = some g) :
    ∀ c ∈ cs, (Hex.digitValue? c).isSome := by
  unfold readGroup at read
  split at read
  · cases read
  · obtain ⟨n, read, -⟩ := Option.map_eq_some_iff.1 read
    exact isSome_of_readBase read

theorem isSpelling_of_ofBytes? {cs : List Char} {values : List UInt16}
    (read : ofBytes? cs = some values) : ∀ c ∈ cs, IsSpelling c := by
  unfold ofBytes? at read
  obtain ⟨bytes, parts, -⟩ := Option.bind_eq_some_iff.1 read
  have digits := forall_of_mapM (P := fun part => ∀ c ∈ part, (Decimal.digitValue? c).isSome)
    (fun part n byte => by
      obtain ⟨m, byte, -⟩ := Option.bind_eq_some_iff.1 byte
      exact Decimal.isSome_of_ofDigits byte) parts
  intro c member
  rcases eq_or_mem_of_mem_cut member with dot | ⟨part, among, inside⟩
  · exact .inr (.inl dot)
  · exact .inr (.inr (Hex.isSome_of_decimal (digits part among c inside)))

theorem isSpelling_of_readGroup {cs : List Char} {g : UInt16} (read : readGroup cs = some g) :
    ∀ c ∈ cs, IsSpelling c :=
  fun c member => .inr (.inr (isSome_of_readGroup read c member))

theorem isSpelling_of_readGroups {final : Bool} {parts : List (List Char)} {values : List UInt16}
    (read : readGroups final parts = some values) : ∀ part ∈ parts, ∀ c ∈ part, IsSpelling c := by
  induction parts using readGroups.induct final generalizing values with
  | case1 => simp
  | case2 part g group => simpa using isSpelling_of_readGroup group
  | case3 part group last =>
    simp only [readGroups, group, if_pos last] at read
    simpa using isSpelling_of_ofBytes? read
  | case4 part group inner =>
    simp only [readGroups, group, if_neg inner] at read
    cases read
  | case5 part rest more ih =>
    rw [readGroups.eq_3 _ _ _ more] at read
    obtain ⟨g, group, others⟩ := Option.bind_eq_some_iff.1 read
    obtain ⟨gs, others, -⟩ := Option.bind_eq_some_iff.1 others
    exact List.forall_mem_cons.2 ⟨isSpelling_of_readGroup group, ih others⟩

theorem isSpelling_of_readColons {final : Bool} {cs : List Char} {values : List UInt16}
    (read : readColons final cs = some values) : ∀ c ∈ cs, IsSpelling c := by
  unfold readColons at read
  split at read
  next nothing => simp [List.isEmpty_iff.1 nothing]
  next =>
    intro c member
    rcases eq_or_mem_of_mem_cut member with colon | ⟨part, among, inside⟩
    · exact .inl colon
    · exact isSpelling_of_readGroups read part among c inside

theorem eq_append_of_splitDouble? {cs before behind : List Char}
    (split : splitDouble? cs = some (before, behind)) : cs = before ++ ':' :: ':' :: behind := by
  induction cs using splitDouble?.induct generalizing before with
  | case1 rest =>
    cases split
    rfl
  | case2 c rest other ih =>
    rw [splitDouble?.eq_2 _ _ other] at split
    obtain ⟨⟨own, others⟩, later, same⟩ := Option.map_eq_some_iff.1 split
    cases same
    rw [ih later, List.cons_append]
  | case3 => cases split

/-- **An address in groups is spelled with hexadecimal digits, colons and dots.** -/
theorem isSpelling_of_ofColons? {cs : List Char} {values : List UInt16}
    (read : ofColons? cs = some values) : ∀ c ∈ cs, IsSpelling c := by
  unfold ofColons? at read
  split at read
  next => exact isSpelling_of_readColons (Option.filter_eq_some_iff.1 read).1
  next before behind double =>
    obtain ⟨front, read, rest⟩ := Option.bind_eq_some_iff.1 read
    obtain ⟨back, rest, -⟩ := Option.bind_eq_some_iff.1 rest
    rw [eq_append_of_splitDouble? double]
    intro c member
    simp only [List.mem_append, List.mem_cons] at member
    rcases member with inFront | colon | colon | inBack
    · exact isSpelling_of_readColons read c inFront
    · exact .inl colon
    · exact .inl colon
    · exact isSpelling_of_readColons rest c inBack

end Link.Address

end Telematics
