/-
# Telematics.Proofs.Endpoint.Grammar -- what a text stands for as an endpoint

The functions that read an endpoint drop characters at the two ends of a text and
cut it at its last colon.  Here both are relations between texts: `Stripped` says
what is left when the ends are gone, and `Stands` which endpoint a text without
blanks at its ends stands for.  `ofText_eq_iff` says that reading is just this, so
a proof about a text that was read need not unfold the reader.
-/
import Telematics.Endpoint

namespace Telematics

set_option autoImplicit false

/-! ## Ends that are dropped -/

namespace Text

/-- Of a text, `cs` is left when all that it begins with in `p` and all that it ends with in `q` is
dropped. -/
structure Stripped (p q : Char → Bool) (s cs : List Char) : Prop where
  ends : ∃ front back, s = front ++ cs ++ back ∧ (∀ c ∈ front, p c) ∧ ∀ c ∈ back, q c
  first : ∀ c ∈ cs.head?, p c = false
  last : ∀ c ∈ cs.getLast?, q c = false

variable {p q : Char → Bool} {s cs : List Char}

theorem dropWhile_eq_iff :
    s.dropWhile p = cs ↔
      (∃ front, s = front ++ cs ∧ ∀ c ∈ front, p c) ∧ ∀ c ∈ cs.head?, p c = false := by
  constructor
  · rintro rfl
    refine ⟨⟨s.takeWhile p, List.takeWhile_append_dropWhile.symm,
      List.all_eq_true.1 List.all_takeWhile⟩, fun c head => ?_⟩
    have dropped := List.head?_dropWhile_not p s
    rwa [Option.mem_def.1 head] at dropped
  · rintro ⟨⟨front, rfl, inFront⟩, first⟩
    rw [List.dropWhile_append_of_pos inFront]
    cases cs with
    | nil => rfl
    | cons c cs => exact List.dropWhile_cons_of_neg (by simp [first c rfl])

/-- Dropping one end and then the other leaves what is left of both. -/
theorem stripped_iff :
    ((s.dropWhile p).reverse.dropWhile q).reverse = cs ↔ Stripped p q s cs := by
  rw [List.reverse_eq_iff]
  constructor
  · intro dropped
    obtain ⟨⟨back, rest, inBack⟩, last⟩ := dropWhile_eq_iff.1 dropped
    rw [List.reverse_eq_iff, List.reverse_append, List.reverse_reverse] at rest
    obtain ⟨⟨front, whole, inFront⟩, first⟩ := dropWhile_eq_iff.1 rest
    refine ⟨⟨front, back.reverse, by rw [whole, List.append_assoc], inFront, by simpa using inBack⟩,
      fun c head => first c ?_, by simpa using last⟩
    rw [List.head?_append, Option.mem_def.1 head]
    rfl
  · rintro ⟨⟨front, back, rfl, inFront, inBack⟩, first, last⟩
    rw [List.append_assoc, List.dropWhile_append_of_pos inFront]
    cases cs with
    | nil =>
      -- the front may have taken all of the back, or not: either way the rest is in `q`
      refine dropWhile_eq_iff.2 ⟨⟨(back.dropWhile p).reverse, by simp, fun c member => ?_⟩, by simp⟩
      exact inBack c ((List.dropWhile_suffix p).subset (List.mem_reverse.1 member))
    | cons c cs =>
      rw [List.cons_append, List.dropWhile_cons_of_neg (by simp [first c rfl]), ← List.cons_append]
      exact dropWhile_eq_iff.2 ⟨⟨back.reverse, by simp, by simpa using inBack⟩,
        by rwa [List.head?_reverse]⟩

/-- Nothing is dropped from a text that does not begin in `p` nor end in `q`. -/
theorem stripped_self (first : ∀ c ∈ cs.head?, p c = false)
    (last : ∀ c ∈ cs.getLast?, q c = false) : Stripped p q cs cs :=
  ⟨⟨[], [], by simp, by simp, by simp⟩, first, last⟩

theorem Stripped.again (stripped : Stripped p q s cs) : Stripped p q cs cs :=
  stripped_self stripped.first stripped.last

theorem Stripped.mem (stripped : Stripped p q s cs) {c : Char} (member : c ∈ cs) : c ∈ s := by
  obtain ⟨front, back, rfl, -, -⟩ := stripped.ends
  simp [member]

theorem Stripped.length_le (stripped : Stripped p q s cs) : cs.length ≤ s.length := by
  obtain ⟨front, back, rfl, -, -⟩ := stripped.ends
  simp
  omega

end Text

namespace Endpoint

open Text

/-! ## The last occurrence of a character -/

theorem splitLast?_of_notMem {separator : Char} {cs : List Char} (absent : separator ∉ cs) :
    splitLast? separator cs = none := by
  induction cs with
  | nil => rfl
  | cons c cs ih =>
    rw [List.mem_cons, not_or] at absent
    rw [splitLast?, ih absent.2]
    exact if_neg (Ne.symm absent.1)

theorem splitLast?_append {separator : Char} (before : List Char) {behind : List Char}
    (absent : separator ∉ behind) :
    splitLast? separator (before ++ separator :: behind) = some (before, behind) := by
  induction before with
  | nil => simp [splitLast?, splitLast?_of_notMem absent]
  | cons c before ih => rw [List.cons_append, splitLast?, ih]

theorem splitLast?_eq_some_iff {separator : Char} {cs before behind : List Char} :
    splitLast? separator cs = some (before, behind) ↔
      cs = before ++ separator :: behind ∧ separator ∉ behind := by
  constructor
  · intro split
    by_cases member : separator ∈ cs
    · -- the last occurrence is the first one from behind
      obtain ⟨back, front, shape, absent⟩ :=
        List.eq_append_cons_of_mem (List.mem_reverse.2 member)
      obtain rfl : cs = front.reverse ++ separator :: back.reverse := by
        rw [← cs.reverse_reverse, shape]
        simp
      rw [splitLast?_append front.reverse (by simpa using absent)] at split
      cases split
      exact ⟨rfl, by simpa using absent⟩
    · rw [splitLast?_of_notMem member] at split
      cases split
  · rintro ⟨rfl, absent⟩
    exact splitLast?_append before absent

/-! ## Port numbers -/

/-- A port number: decimal digits, with or without a plus sign before them. -/
def IsPort (cs : List Char) (port : UInt16) : Prop :=
  ∃ digits, (cs = digits ∨ cs = '+' :: digits) ∧ Decimal.ofDigits digits = some port.toNat

theorem readPort?_eq_some_iff {cs : List Char} {port : UInt16} :
    readPort? cs = some port ↔ IsPort cs port := by
  unfold readPort? Decimal.read
  constructor
  · intro read
    obtain ⟨n, limited, rfl⟩ := Option.map_eq_some_iff.1 read
    obtain ⟨number, fits⟩ := Option.filter_eq_some_iff.1 limited
    have whole : (UInt16.ofNat n).toNat = n :=
      UInt16.toNat_ofNat_of_lt (Nat.lt_succ_of_le (of_decide_eq_true fits))
    rw [IsPort, whole]
    split at number
    · exact ⟨_, .inr rfl, number⟩
    · exact ⟨_, .inl rfl, number⟩
  · rintro ⟨digits, spelled, read⟩
    have fits : port.toNat ≤ 65535 := Nat.le_of_lt_succ port.toNat_lt
    rcases spelled with rfl | rfl
    · split
      next signed =>
        -- a sign is no digit
        cases Decimal.isSome_of_ofDigits read '+' (.head _)
      next => simp [read, Option.filter, fits]
    · simp [read, Option.filter, fits]

variable {digits : List Char} {port : UInt16}

/-- What a port number is spelled with. -/
theorem IsPort.spelled (number : IsPort digits port) :
    ∀ c ∈ digits, c = '+' ∨ (Decimal.digitValue? c).isSome := by
  obtain ⟨unsigned, rfl | rfl, read⟩ := number
  · exact fun c member => .inr (Decimal.isSome_of_ofDigits read c member)
  · rw [List.forall_mem_cons]
    exact ⟨.inl rfl, fun c member => .inr (Decimal.isSome_of_ofDigits read c member)⟩

theorem IsPort.ne_nil (number : IsPort digits port) : digits ≠ [] := by
  rintro rfl
  obtain ⟨unsigned, spelled, read⟩ := number
  obtain rfl : unsigned = [] := by simpa using spelled
  cases read

theorem IsPort.not_mem (number : IsPort digits port) {c : Char} (sign : c ≠ '+')
    (other : Decimal.digitValue? c = none) : c ∉ digits := by
  intro member
  rcases number.spelled c member with plus | digit
  · exact sign plus
  · rw [other] at digit
    cases digit

theorem IsPort.not_blank (number : IsPort digits port) :
    ∀ c ∈ digits, isBlank c = false := by
  intro c member
  rcases number.spelled c member with rfl | digit
  · rfl
  · have least : '0'.toNat ≤ c.toNat := (Decimal.between_of_isSome digit).1
    have most : c.toNat ≤ '9'.toNat := (Decimal.between_of_isSome digit).2
    simp at least most
    simp [isBlank]
    omega

/-- A port that is written is read back. -/
theorem isPort_digits (port : UInt16) : IsPort (Decimal.digits port.toNat) port :=
  ⟨_, .inl rfl, Decimal.ofDigits_digits _⟩

/-! ## What a text stands for -/

/-- The texts that stand for the default. -/
def IsDefault (cs : List Char) : Prop :=
  cs = [] ∨ cs.map Char.toLower = ['d', 'e', 'f', 'a', 'u', 'l', 't']

/-- A text without slashes that has a port number behind its last colon: `port` is the number, and
`host` what stands before the colon, without the brackets around it.  No number has a colon in it,
so the colon before it is the last one. -/
structure IsRemote (cs host : List Char) (port : UInt16) : Prop where
  flat : '/' ∉ cs
  split : ∃ front digits, cs = front ++ ':' :: digits ∧ IsPort digits port ∧
    Stripped (· = '[') (· = ']') front host

/-- The endpoint that a text without blanks at its ends stands for. -/
inductive Stands (cs : List Char) : Endpoint → Prop
  | default (word : IsDefault cs) : Stands cs .default
  | remote {host : String} {port : UInt16} (parts : IsRemote cs host.toList port) :
      Stands cs (.remote host port)
  | file (word : ¬IsDefault cs) (parts : ∀ host port, ¬IsRemote cs host port) :
      Stands cs (.file (String.ofList cs))

theorem IsRemote.not_default {cs host : List Char} {port : UInt16}
    (parts : IsRemote cs host port) : ¬IsDefault cs := by
  obtain ⟨front, digits, rfl, -⟩ := parts.split
  rintro (nothing | word)
  · simp at nothing
  · have colon : ':' ∈ (front ++ ':' :: digits).map Char.toLower :=
      List.mem_map.2 ⟨':', by simp, rfl⟩
    rw [word] at colon
    exact absurd colon (by decide)

theorem trim_eq_iff {s cs : List Char} : trim s = cs ↔ Stripped isBlank isBlank s cs :=
  stripped_iff

theorem unbracket_eq_iff {cs host : List Char} :
    unbracket cs = host ↔ Stripped (· = '[') (· = ']') cs host :=
  stripped_iff

theorem readRemote?_eq_some_iff {cs : List Char} {endpoint : Endpoint} :
    readRemote? cs = some endpoint ↔
      ∃ host port, IsRemote cs host.toList port ∧ endpoint = .remote host port := by
  by_cases flat : '/' ∈ cs
  · rw [readRemote?, if_pos flat]
    constructor
    · intro read
      cases read
    · rintro ⟨host, port, parts, -⟩
      exact absurd flat parts.flat
  rw [readRemote?, if_neg flat]
  constructor
  · intro read
    obtain ⟨⟨front, digits⟩, split, read⟩ := Option.bind_eq_some_iff.1 read
    obtain ⟨port, number, same⟩ := Option.bind_eq_some_iff.1 read
    obtain ⟨whole, -⟩ := splitLast?_eq_some_iff.1 split
    have bare : unbracket front = (String.ofList (unbracket front)).toList :=
      String.toList_ofList.symm
    exact ⟨String.ofList (unbracket front), port,
      ⟨flat, front, digits, whole, readPort?_eq_some_iff.1 number, unbracket_eq_iff.1 bare⟩,
      (Option.some.inj same).symm⟩
  · rintro ⟨host, port, ⟨-, front, digits, whole, number, bare⟩, rfl⟩
    rw [splitLast?_eq_some_iff.2 ⟨whole, number.not_mem (by decide) rfl⟩]
    simp [readPort?_eq_some_iff.2 number, unbracket_eq_iff.2 bare]

theorem readRemote?_eq_none_iff {cs : List Char} :
    readRemote? cs = none ↔ ∀ host port, ¬IsRemote cs host port := by
  rw [Option.eq_none_iff_forall_ne_some]
  constructor
  · intro never host port parts
    refine never (.remote (String.ofList host) port) (readRemote?_eq_some_iff.2 ⟨_, _, ?_, rfl⟩)
    rwa [String.toList_ofList]
  · intro never endpoint read
    obtain ⟨host, port, parts, -⟩ := readRemote?_eq_some_iff.1 read
    exact never host.toList port parts

theorem ofTrimmed_eq_iff {cs : List Char} {endpoint : Endpoint} :
    ofTrimmed cs = endpoint ↔ Stands cs endpoint := by
  have word : (cs.isEmpty || cs.map Char.toLower = ['d', 'e', 'f', 'a', 'u', 'l', 't']) = true ↔
      IsDefault cs := by
    simp [IsDefault]
  unfold ofTrimmed
  constructor
  · rintro rfl
    by_cases default : IsDefault cs
    · rw [if_pos (word.2 default)]
      exact .default default
    · rw [if_neg (mt word.1 default)]
      cases remote : readRemote? cs with
      | none => exact .file default (readRemote?_eq_none_iff.1 remote)
      | some endpoint =>
        obtain ⟨host, port, parts, rfl⟩ := readRemote?_eq_some_iff.1 remote
        exact .remote parts
  · rintro (default | parts | ⟨other, parts⟩)
    · exact if_pos (word.2 default)
    · rw [if_neg (mt word.1 parts.not_default), readRemote?_eq_some_iff.2 ⟨_, _, parts, rfl⟩]
      rfl
    · rw [if_neg (mt word.1 other), readRemote?_eq_none_iff.2 parts]
      rfl

/-- **Reading an endpoint is dropping the blanks at the ends of the text and taking what is left
for what it stands for.** -/
theorem ofText_eq_iff {s : String} {endpoint : Endpoint} :
    ofText s = endpoint ↔ ∃ cs, Stripped isBlank isBlank s.toList cs ∧ Stands cs endpoint := by
  simp only [ofText, ofTrimmed_eq_iff, ← trim_eq_iff, exists_eq_left']

end Endpoint

end Telematics
