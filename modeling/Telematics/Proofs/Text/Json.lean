/-
# Telematics.Proofs.Text.Json -- what is written in JSON is read back

A reader reads a value from a text if it takes just that text from the front of
whatever begins with it and returns the value (`Reads`).  This is kept when values
are put into one another: what is read of a tag with content is read of the
content (`reads_content`), and a list is read item by item (`reads_list`).  So for
each kind of value one lemma is enough, and it serves alone as well as deep inside
(`document_of_reads`).
-/
import Telematics.Text.Json

namespace Telematics.Text.Json

set_option autoImplicit false

variable {α : Type}

/-- A reader takes a text for a value, whatever follows. -/
def Reads (read : Reader α) (text : List Char) (a : α) : Prop :=
  ∀ rest, read (text ++ rest) = .ok (a, rest)

/-- What is made of a value is read where the value is. -/
theorem Reads.map {β : Type} {read : Reader α} {text : List Char} {a : α} (reads : Reads read text a)
    (f : α → β) : Reads (fun cs => (read cs).map fun (a, rest) => (f a, rest)) text (f a) := by
  intro rest
  simp only [reads rest, Except.map]

/-- A text that holds one value and nothing else is read as this value. -/
theorem document_of_reads {read : Reader α} {s : String} {a : α} (reads : Reads read s.toList a) :
    document read s = .ok a := by
  have whole := reads []
  rw [List.append_nil] at whole
  rw [document, whole]
  rfl

/-! ## Strings -/

theorem skipGap_of_solid {c : Char} (rest : List Char) (solid : isGap c = false) :
    skipGap (c :: rest) = c :: rest :=
  List.dropWhile_cons_of_neg (by simp [solid])

@[simp] theorem skipGap_quote (rest : List Char) : skipGap ('"' :: rest) = '"' :: rest :=
  skipGap_of_solid rest rfl

@[simp] theorem skipGap_brace (rest : List Char) : skipGap ('\x7b' :: rest) = '\x7b' :: rest :=
  skipGap_of_solid rest rfl

theorem toList_quote (s : String) : (quote s).toList = '"' :: (s.toList.flatMap escape ++ ['"']) := by
  rw [quote, String.toList_ofList, quoted]

/-- A character that is expected is read past. -/
theorem expect_self {c : Char} (rest : List Char) (solid : isGap c = false) :
    expect c (c :: rest) = .ok rest := by
  rw [expect, skipGap_of_solid rest solid]
  exact if_pos rfl

theorem reads_string (s : String) : Reads string (quote s).toList s := by
  intro rest
  have inside := readString_quoted s.toList rest
  rw [toList_quote, List.cons_append, List.append_assoc, List.singleton_append, string]
  simp only [skipGap_quote, inside, String.ofList_toList]

theorem reads_key (s : String) : Reads key (quote s).toList s := by
  intro rest
  have inside := reads_string s rest
  rw [toList_quote, List.cons_append] at inside ⊢
  rw [key]
  simp only [skipGap_quote, inside]

/-! ## Alternatives -/

variable {bare : String → Option α} {content : String → Option (Reader α)} {a : α}

/-- An alternative without content is read of its tag. -/
theorem reads_bare {tag : String} (known : bare tag = some a) : Reads (tagged bare content) (quote tag).toList a := by
  intro rest
  have inside := reads_string tag rest
  rw [toList_quote, List.cons_append] at inside ⊢
  rw [tagged]
  simp only [skipGap_quote, inside, bind, Except.bind, known]
  rfl

theorem reads_choice {tag : String} (known : bare tag = some a) : Reads (choice bare) (quote tag).toList a :=
  reads_bare known

/-- An alternative with content is read of its tag and what it holds. -/
theorem reads_content {read : Reader α} {text : List Char} (tag : String)
    (known : content tag = some read) (reads : Reads read text a) :
    Reads (tagged bare content) ('\x7b' :: ((quote tag).toList ++ ':' :: (text ++ ['\x7d']))) a := by
  intro rest
  have inside := reads_key tag (':' :: (text ++ ['\x7d'] ++ rest))
  have held := reads ('\x7d' :: rest)
  rw [List.cons_append, List.append_assoc, List.cons_append, tagged]
  simp only [skipGap_brace, inside, bind, Except.bind, known]
  rw [expect_self _ rfl, List.append_assoc]
  simp only [List.singleton_append, held]
  rw [expect_self _ rfl]
  rfl

/-! ## Objects and lists -/

theorem reads_member {read : Reader α} {text : List Char} (name : String)
    (reads : Reads read text a) :
    Reads (member name read) ((quote name).toList ++ ':' :: text) a := by
  intro rest
  have inside := reads_key name (':' :: (text ++ rest))
  rw [List.append_assoc, List.cons_append, member]
  simp only [inside, bind, Except.bind, if_true]
  rw [expect_self _ rfl]
  exact reads rest

/-- The items of a list as they are written, with the bracket behind the last of them. -/
def written (write : α → List Char) (a : α) : List α → List Char
  | [] => write a ++ [']']
  | b :: more => write a ++ ',' :: written write b more

theorem length_lt_written (write : α → List Char) (a : α) (more : List α) :
    more.length < (written write a more).length := by
  induction more generalizing a with
  | nil => simp [written]
  | cons b more ih =>
    have later := ih b
    rw [written, List.length_append, List.length_cons, List.length_cons]
    omega

variable {read : Reader α} {write : α → List Char}

theorem reads_items (reads : ∀ a, Reads read (write a) a) (a : α) (more : List α) {n : Nat}
    (enough : more.length < n) : Reads (items read n) (written write a more) (a :: more) := by
  intro rest
  induction more generalizing a n with
  | nil =>
    obtain _ | n := n
    · cases enough
    have first := reads a (']' :: rest)
    rw [written, List.append_assoc, List.singleton_append, items]
    simp only [first, bind, Except.bind]
    rw [skipGap_of_solid rest rfl]
    rfl
  | cons b more ih =>
    obtain _ | n := n
    · cases enough
    have first := reads a (',' :: (written write b more ++ rest))
    have others := ih b (Nat.lt_of_succ_lt_succ enough)
    rw [written, List.append_assoc, List.cons_append, items]
    simp only [first, bind, Except.bind]
    rw [skipGap_of_solid _ rfl]
    simp only [others]
    rfl

/-- A list as it is written. -/
def writtenList (write : α → List Char) : List α → List Char
  | [] => ['[', ']']
  | a :: more => '[' :: written write a more

/-- A list is read of what is read of its items, if none of them begins like its end. -/
theorem reads_list (reads : ∀ a, Reads read (write a) a)
    (opens : ∀ a, ∃ c cs, write a = c :: cs ∧ isGap c = false ∧ c ≠ ']') (as : List α) :
    Reads (list read) (writtenList write as) as := by
  intro rest
  cases as with
  | nil => rfl
  | cons a more =>
    obtain ⟨c, cs, begins, solid, open_⟩ := opens a
    have there : ∃ cs, written write a more ++ rest = c :: cs := by
      cases more with
      | nil => exact ⟨_, by rw [written, begins]; rfl⟩
      | cons b more => exact ⟨_, by rw [written, begins]; rfl⟩
    obtain ⟨cs, begins⟩ := there
    have enough : more.length < (written write a more ++ rest).length := by
      rw [List.length_append]
      exact Nat.lt_add_right _ (length_lt_written write a more)
    have all := reads_items reads a more enough rest
    rw [writtenList, List.cons_append, list]
    rw [begins] at all ⊢
    simp only [expect_self _ (show isGap '[' = false from rfl), bind, Except.bind,
      skipGap_of_solid cs solid]
    split
    · rename_i heq
      cases heq
      exact absurd rfl open_
    · exact all

end Telematics.Text.Json
