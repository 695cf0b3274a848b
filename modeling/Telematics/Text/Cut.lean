/-
# Telematics.Text.Cut -- cutting a text at a character

A text is cut at every occurrence of a separator, so it has one part more than
it has separators; the parts may be empty.  `cut_ne_nil` says that there is
always a part.
-/
namespace Telematics.Text

set_option autoImplicit false

/-- The parts of a text between the occurrences of a separator. -/
def cut (separator : Char) : List Char → List (List Char)
  | [] => [[]]
  | c :: cs =>
    if c = separator then [] :: cut separator cs
    else match cut separator cs with
      | [] => [[c]]
      | part :: others => (c :: part) :: others

theorem cut_ne_nil (separator : Char) (cs : List Char) : cut separator cs ≠ [] := by
  cases cs with
  | nil => simp [cut]
  | cons c cs =>
    rw [cut]
    split
    · simp
    · split <;> simp

theorem eq_or_mem_of_mem_cut {separator c : Char} {cs : List Char} (member : c ∈ cs) :
    c = separator ∨ ∃ part ∈ cut separator cs, c ∈ part := by
  induction cs with
  | nil => cases member
  | cons d cs ih =>
    rw [cut]
    by_cases here : d = separator
    · rw [if_pos here]
      rcases List.mem_cons.1 member with rfl | later
      · exact .inl here
      · exact (ih later).imp id fun ⟨part, among, inside⟩ => ⟨part, .tail _ among, inside⟩
    · rw [if_neg here]
      cases parts : cut separator cs with
      | nil => exact absurd parts (cut_ne_nil separator cs)
      | cons part others =>
        rw [parts] at ih
        rcases List.mem_cons.1 member with rfl | later
        · exact .inr ⟨c :: part, by simp, by simp⟩
        · rcases ih later with same | ⟨own, among, inside⟩
          · exact .inl same
          · rcases List.mem_cons.1 among with rfl | behind
            · exact .inr ⟨d :: own, by simp, .tail _ inside⟩
            · exact .inr ⟨own, .tail _ behind, inside⟩

end Telematics.Text
