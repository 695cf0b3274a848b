/-
# Telematics.Text.Pattern -- texts that are regular expressions

An expression is read part by part.  A part is an atom, a class, a group or a
change of flags, and a sign of repetition behind a part, a change of flags
excepted, makes it one with that part; bars separate alternatives.  Groups are
counted, named or have flags, no two have the same name, and what flags a group
changes is changed back at its end.

Of what has been read only its outline is kept, its depth above all, which may
not exceed `depthLimit`: the number of groups, repetitions, classes, sequences of
several parts and alternatives that stand within one another.

A text that is an expression may still ask for more than can be had, which is the
beginning and the end of words of every script.  Repetition counts between braces
are not among the expressions read here, nor looking ahead or back.

`check_of_plain` says that letters and digits alone are an expression.
-/
import Telematics.Text.Letter
import Telematics.Text.Pattern.CharClass

namespace Telematics.Text

set_option autoImplicit false

/-- Why a text is refused as a regular expression. -/
inductive PatternError where
  /-- It is none. -/
  | malformed
  /-- It asks for the edges of words of every script. -/
  | wordEdge
  deriving Repr, DecidableEq

def PatternError.message : PatternError → String
  | .malformed => "error building NFA"
  | .wordEdge =>
    "unsupported regex feature for DFAs: cannot build DFAs for regexes with Unicode word " ++
      "boundaries; switch to ASCII word boundaries, or heuristically enable Unicode word " ++
      "boundaries or use a different regex engine"

namespace Pattern

/-- A part of an expression. -/
structure Part where
  depth : Nat := 0
  /-- Whether it may be repeated. -/
  repeatable : Bool := true
  deriving Repr, DecidableEq

/-- What has been read of a group, or of what is in none. -/
structure Level where
  /-- The greatest depth of an alternative that is complete, if there is one. -/
  before : Option Nat := none
  /-- The parts of the alternative that is not, the last one first. -/
  parts : List Part := []
  deriving Repr, DecidableEq

namespace Level

/-- The depth of the alternative that is not complete. -/
def sequence (l : Level) : Nat :=
  match l.parts with
  | [] => 0
  | [part] => part.depth
  | parts => parts.foldl (fun d part => max d part.depth) 0 + 1

/-- The depth of everything. -/
def total (l : Level) : Nat :=
  match l.before with
  | none => l.sequence
  | some d => max d l.sequence + 1

/-- Begins another alternative. -/
def branch (l : Level) : Level :=
  { before := some (max (l.before.getD 0) l.sequence) }

/-- The level with one more part. -/
def add (l : Level) (part : Part) : Level :=
  { l with parts := part :: l.parts }

def repeat? (l : Level) : Option Level :=
  match l.parts with
  | part :: parts =>
    if part.repeatable then some { l with parts := { depth := part.depth + 1 } :: parts } else none
  | [] => none

end Level

/-- How far an expression has been read. -/
structure State where
  flags : Flags := {}
  level : Level := {}
  /-- What stands in front of the groups that are open, and the flags there, the innermost first. -/
  outer : List (Level × Flags) := []
  names : List (List Char) := []
  /-- Whether the edges of words of every script are asked for. -/
  wordEdge : Bool := false
  deriving Repr, DecidableEq

namespace State

/-- The state with one more part. -/
def add (s : State) (part : Part) : State :=
  { s with level := s.level.add part }

/-- The state with one more atom, if that is understood. -/
def addAtom (s : State) (atom : Atom) : Option State :=
  if atom.isAllowed s.flags then
    some { s.add {} with wordEdge := s.wordEdge || (atom = .wordEdge && s.flags.unicode) }
  else none

/-! ## Groups -/

/-- Opens a group with flags of its own. -/
def begin (s : State) (flags : Flags) : State :=
  { s with flags, level := {}, outer := (s.level, s.flags) :: s.outer }

def close? (s : State) : Option State :=
  match s.outer with
  | [] => none
  | (level, flags) :: outer =>
    some { s with flags, level := level.add { depth := s.level.total + 1 }, outer }

/-- Whether some characters are the name of a group. -/
def isName : List Char → Bool
  | [] => false
  | c :: cs =>
    (c = '_' || isLetter c) && cs.all fun c => "_.[]".toList.contains c || isAlphanumeric c

/-- Reads the name of a group behind its opening bracket. -/
def readName (s : State) (cs : List Char) : Option (State × List Char) :=
  let name := cs.takeWhile (· ≠ '>')
  match cs.dropWhile (· ≠ '>') with
  | [] => none
  | _ :: rest =>
    if isName name && !s.names.contains name then
      some ({ s.begin s.flags with names := name :: s.names }, rest)
    else none

/-- Reads a change of flags, for a group or for all that follows. -/
def readFlags (s : State) (cs : List Char) : Option (State × List Char) :=
  let letters := cs.takeWhile fun c => c ≠ ':' && c ≠ ')'
  let flags := s.flags.change true letters
  if Flags.isChange letters then
    match cs.dropWhile fun c => c ≠ ':' && c ≠ ')' with
    | ':' :: rest => some (s.begin flags, rest)
    | _ :: rest =>
      if letters.isEmpty then none
      else some ({ s.add { repeatable := false } with flags }, rest)
    | [] => none
  else none

def readOpening (s : State) (cs : List Char) : Option (State × List Char) :=
  match s.flags.skip cs with
  | '?' :: 'P' :: '<' :: rest => s.readName rest
  | '?' :: '<' :: rest => s.readName rest
  | '?' :: rest => s.readFlags rest
  | rest => some (s.begin s.flags, rest)

/-! ## Reading -/

/-- Reads a part that begins with a character, or what joins parts. -/
def readPart (s : State) (c : Char) (cs : List Char) : Option (State × List Char) :=
  if c = '(' then s.readOpening cs
  else if c = ')' then s.close?.map fun s => (s, cs)
  else if c = '|' then some ({ s with level := s.level.branch }, cs)
  else if c = '[' then (CharClass.read s.flags cs).map fun (depth, rest) => (s.add { depth }, rest)
  else if c = '\x7b' then none
  else if c = '*' || c = '+' || c = '?' then
    s.level.repeat?.map fun level =>
      ({ s with level }, if cs.head? = some '?' then cs.tail else cs)
  else if c = '\\' then do
    let (atom, rest) ← Atom.readQuoted s.flags cs
    return (← s.addAtom atom, rest)
  else if c = '.' then (s.addAtom .point).map fun s => (s, cs)
  else if c = '^' || c = '$' then (s.addAtom .edge).map fun s => (s, cs)
  else (s.addAtom (.literal c false)).map fun s => (s, cs)

/-- Reads a text to its end, in at most so many steps. -/
def readAll : Nat → State → List Char → Option State
  | 0, _, _ => none
  | n + 1, s, cs =>
    match s.flags.skip cs with
    | [] => some s
    | c :: rest => do
      let (s, rest) ← s.readPart c rest
      s.readAll n rest

end State

def depthLimit : Nat := 250

/-- Whether a text may end so. -/
def State.isComplete (s : State) : Bool :=
  s.outer.isEmpty && s.level.total ≤ depthLimit

/-- Refuses what is no regular expression.  Every step takes a character at least. -/
def check (cs : List Char) : Except PatternError Unit :=
  match (State.readAll (cs.length + 1) {} cs).filter State.isComplete with
  | none => .error .malformed
  | some s => if s.wordEdge then .error .wordEdge else .ok ()

/-! ## Plain texts -/

namespace State

/-- Whether nothing but atoms has been read, with the flags that are meant by default. -/
def IsPlain (s : State) : Prop :=
  s.flags = {} ∧ s.outer = [] ∧ s.wordEdge = false ∧ s.level.before = none ∧
    ∀ part ∈ s.level.parts, part.depth = 0

/-- A letter or digit is one more atom. -/
theorem readPart_of_isAlphanum {s : State} {c : Char} (plain : s.IsPlain)
    (h : c.isAlphanum = true) (cs : List Char) : s.readPart c cs = some (s.add {}, cs) := by
  have apart : ∀ d ∈ "()|[\x7b*+?\\.^$".toList, c ≠ d := by
    have none_alphanumeric : "()|[\x7b*+?\\.^$".toList.all (!·.isAlphanum) = true := by
      decide +kernel
    rintro d hd rfl
    simpa [h] using List.all_eq_true.1 none_alphanumeric c hd
  obtain ⟨flags, -, edge, -, -⟩ := plain
  simp at apart
  simp [readPart, apart, addAtom, Atom.isAllowed, flags, edge, add]

/-- One more atom leaves a plain state plain. -/
theorem IsPlain.add {s : State} (plain : s.IsPlain) : (s.add {}).IsPlain := by
  obtain ⟨flags, outer, edge, before, parts⟩ := plain
  refine ⟨flags, outer, edge, before, fun part h => ?_⟩
  rcases List.mem_cons.1 h with rfl | h
  · rfl
  · exact parts part h

/-- Letters and digits are read to their end, and nothing but atoms. -/
theorem exists_readAll_of_isAlphanum {s : State} (plain : s.IsPlain) {cs : List Char}
    (h : ∀ c ∈ cs, c.isAlphanum = true) {n : Nat} (enough : cs.length < n) :
    ∃ t : State, t.IsPlain ∧ readAll n s cs = some t := by
  induction cs generalizing s n with
  | nil =>
    obtain ⟨n, rfl⟩ := Nat.exists_eq_succ_of_ne_zero (Nat.ne_of_gt enough)
    exact ⟨s, plain, by simp [readAll, Flags.skip, plain.1]⟩
  | cons c cs ih =>
    obtain ⟨n, rfl⟩ := Nat.exists_eq_succ_of_ne_zero (Nat.ne_of_gt (Nat.zero_lt_of_lt enough))
    obtain ⟨t, ht, read⟩ := ih plain.add (fun d hd => h d (List.mem_cons_of_mem c hd))
      (Nat.lt_of_succ_lt_succ enough)
    refine ⟨t, ht, ?_⟩
    have first := readPart_of_isAlphanum plain (h c List.mem_cons_self) cs
    simp [readAll, Flags.skip, plain.1, first, read]

/-- A plain state is a complete one. -/
theorem IsPlain.isComplete {s : State} (plain : s.IsPlain) : s.isComplete = true := by
  obtain ⟨-, outer, -, before, parts⟩ := plain
  have deepest : ∀ (parts : List Part), (∀ part ∈ parts, part.depth = 0) →
      parts.foldl (fun d part => max d part.depth) 0 = 0 := by
    intro parts h
    induction parts with
    | nil => rfl
    | cons part parts ih =>
      simp only [List.foldl_cons, h part List.mem_cons_self, Nat.max_self]
      exact ih fun p hp => h p (List.mem_cons_of_mem part hp)
  have shallow : s.level.sequence ≤ 1 := by
    unfold Level.sequence
    split
    · exact Nat.zero_le 1
    · rename_i part only
      simp [parts part (by simp [only])]
    · simp [deepest _ parts]
  simp only [State.isComplete, outer, List.isEmpty_nil, Level.total, before, Bool.true_and,
    decide_eq_true_eq]
  exact Nat.le_trans shallow (by decide)

end State

/-- Letters and digits alone are an expression. -/
theorem check_of_plain {cs : List Char} (h : ∀ c ∈ cs, c.isAlphanum = true) :
    check cs = .ok () := by
  have start : State.IsPlain {} := ⟨rfl, rfl, rfl, rfl, by simp⟩
  obtain ⟨t, plain, read⟩ := State.exists_readAll_of_isAlphanum start h (Nat.lt_succ_self _)
  simp [check, read, Option.filter, plain.isComplete, plain.2.2.1]

end Pattern

end Telematics.Text
