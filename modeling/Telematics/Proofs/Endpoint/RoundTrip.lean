/-
# Telematics.Proofs.Endpoint.RoundTrip -- endpoints written and read back

An endpoint that was read, written as a text and read again is the same endpoint,
with two exceptions.  The default is written as the path that it has when nothing
else is set, and a path is a socket file.  And a host that was read from between
brackets may begin with a blank, which goes when it stands without them.

`text_read_back` says that there are no others: a host cannot end a text, and what
was dropped from it once is not there to be dropped again.
-/
import Telematics.Proofs.Endpoint.Grammar
import Telematics.Proofs.Link.Spelling

namespace Telematics.Endpoint

set_option autoImplicit false

open Text Link

/-! ## Hosts and ports -/

variable {s host : String} {cs front digits : List Char} {port : UInt16}

/-- A text of a host, a colon and a port number stands for the two if it begins with no blank; that
it ends with none is certain. -/
theorem ofText_of_parts (whole : s.toList = front ++ ':' :: digits) (flat : '/' ∉ front)
    (first : ∀ c ∈ front.head?, isBlank c = false) (number : IsPort digits port)
    (bare : Stripped (· = '[') (· = ']') front host.toList) :
    ofText s = .remote host port := by
  rw [ofText_eq_iff, whole]
  refine ⟨_, stripped_self ?_ ?_, .remote ⟨?_, front, digits, rfl, number, bare⟩⟩
  · cases front with
    | nil => simp; decide
    | cons c front => simpa using first
  · intro c last
    rw [List.getLast?_append, List.getLast?_cons,
      List.getLast?_eq_some_getLast number.ne_nil] at last
    cases last
    exact number.not_blank _ (List.getLast_mem number.ne_nil)
  · rw [List.mem_append, List.mem_cons, not_or, not_or]
    exact ⟨flat, by decide, number.not_mem (by decide) rfl⟩

theorem toList_text_remote (host : String) (port : UInt16) :
    (text (.remote host port)).toList = host.toList ++ ':' :: Decimal.digits port.toNat := by
  simp [text, Decimal.text]

/-- A host that was read is read back if it begins with no blank. -/
theorem IsRemote.read_back (parts : IsRemote cs host.toList port)
    (first : ∀ c ∈ host.toList.head?, isBlank c = false) :
    ofText (text (.remote host port)) = .remote host port := by
  obtain ⟨front, digits, rfl, -, bare⟩ := parts.split
  have flat : '/' ∉ host.toList := fun slash =>
    parts.flat (List.mem_append_left _ (bare.mem slash))
  exact ofText_of_parts (toList_text_remote host port) flat first (isPort_digits port) bare.again

/-- A host that is read back begins with no blank: a text has one last colon, so what was dropped in
front of the host would be missing from it. -/
theorem first_of_read_back (back : ofText (text (.remote host port)) = .remote host port) :
    ∀ c ∈ host.toList.head?, isBlank c = false := by
  rw [ofText_eq_iff, toList_text_remote] at back
  obtain ⟨rest, stripped, ⟨⟩ | again⟩ := back
  obtain ⟨front, digits, rfl, number, bare⟩ := again.split
  obtain ⟨before, behind, whole, -, inBehind⟩ := stripped.ends
  have last : ':' ∉ digits ++ behind := by
    rw [List.mem_append, not_or]
    exact ⟨number.not_mem (by decide) rfl, fun colon => by cases inBehind ':' colon⟩
  have same : host.toList = before ++ front := by
    have split : splitLast? ':' (host.toList ++ ':' :: Decimal.digits port.toNat) =
        some (before ++ front, digits ++ behind) :=
      splitLast?_eq_some_iff.2 ⟨by rw [whole]; simp, last⟩
    rw [splitLast?_append _ ((isPort_digits port).not_mem (by decide) rfl)] at split
    exact (Prod.mk.inj (Option.some.inj split)).1
  have nothing : before = [] := by
    have kept := bare.length_le
    rw [same, List.length_append] at kept
    exact List.eq_nil_of_length_eq_zero (by omega)
  intro c head
  rw [same, nothing, List.nil_append] at head
  refine stripped.first c ?_
  rw [List.head?_append, Option.mem_def.1 head]
  rfl

/-! ## Addresses in groups -/

theorem first_of_address {interfaces : List (String × UInt32)} {values : List UInt16}
    {zone : UInt32} (address : Address.ofText? interfaces host = some (.groups values zone)) :
    ∀ c ∈ host.toList.head?, isBlank c = false := by
  intro c head
  obtain ⟨rest, shape⟩ : ∃ rest, host.toList = c :: rest := List.head?_eq_some_iff.1 head
  simp only [Address.ofText?] at address
  split at address
  next => cases address
  next =>
    obtain ⟨values, read, -⟩ := Option.bind_eq_some_iff.1 address
    by_cases percent : c = '%'
    · rw [percent]
      rfl
    · refine (Address.isSpelling_of_ofColons? read c ?_).not_blank
      simp [shape, percent]

/-- An address in groups is read with brackets around it and without. -/
theorem ofText_address {address number : String} {values : List UInt16}
    (groups : Address.ofColons? address.toList = some values) (counts : IsPort number.toList port)
    (shape : s = "[" ++ address ++ "]:" ++ number ∨ s = address ++ ":" ++ number) :
    ofText s = .remote address port := by
  have spelling := Address.isSpelling_of_ofColons? groups
  have without {d : Char} (other : d ∈ ['/', '[', ']']) : d ∉ address.toList :=
    fun member => (spelling d member).ne other rfl
  have opens : ∀ c ∈ address.toList.head?, decide (c = '[') = false := fun c head =>
    decide_eq_false ((spelling c (List.mem_of_head? head)).ne (by simp))
  have closes : ∀ c ∈ address.toList.getLast?, decide (c = ']') = false := fun c last =>
    decide_eq_false ((spelling c (List.mem_of_getLast? last)).ne (by simp))
  rcases shape with rfl | rfl
  · have whole : ("[" ++ address ++ "]:" ++ number).toList =
        ('[' :: address.toList ++ [']']) ++ ':' :: number.toList := by simp
    refine ofText_of_parts whole ?_ ?_ counts
      ⟨⟨['['], [']'], by simp, by simp, by simp⟩, opens, closes⟩
    · simpa using without (d := '/') (by simp)
    · simp
      decide
  · refine ofText_of_parts (by simp) (without (by simp)) (fun c head => ?_) counts
      (stripped_self opens closes)
    exact (spelling c (List.mem_of_head? head)).not_blank

/-! ## All endpoints -/

/-- A socket file that was read is written so that it is read again. -/
theorem read_back_file {path : String} (read : ofText s = .file path) :
    ofText path = .file path := by
  obtain ⟨cs, stripped, stands⟩ := ofText_eq_iff.1 read
  cases stands with
  | file word parts =>
    rw [ofText_eq_iff, String.toList_ofList]
    exact ⟨cs, stripped.again, .file word parts⟩

theorem read_back_remote_iff (read : ofText s = .remote host port) :
    ofText (text (.remote host port)) = .remote host port ↔
      ∀ c ∈ host.toList.head?, isBlank c = false := by
  obtain ⟨cs, -, ⟨⟩ | parts⟩ := ofText_eq_iff.1 read
  exact ⟨first_of_read_back, parts.read_back⟩

theorem ofText_defaultPath : ofText defaultPath = .file defaultPath := by
  decide

/-- **What is read as an endpoint is read back from its text, unless it is the default or its host
begins with a blank.**  In particular a socket file is, and a port of a host that is given as an
address in groups, with brackets around the address or without. -/
theorem text_read_back (s : String) :
    (∀ endpoint, ofText s = endpoint ↔
      ∃ cs, Stripped isBlank isBlank s.toList cs ∧ Stands cs endpoint) ∧
    (ofText (ofText s).text = ofText s ↔ ofText s ≠ .default ∧
      ∀ host port, ofText s = .remote host port → ∀ c ∈ host.toList.head?, isBlank c = false) ∧
    (∀ path, ofText s = .file path → ofText (text (.file path)) = .file path) ∧
    (∀ interfaces host port values zone, ofText s = .remote host port →
      Address.ofText? interfaces host = some (.groups values zone) →
      ofText (text (.remote host port)) = .remote host port) ∧
    ∀ address number port values, Address.ofColons? address.toList = some values →
      IsPort number.toList port →
      s = "[" ++ address ++ "]:" ++ number ∨ s = address ++ ":" ++ number →
      ofText s = .remote address port ∧
        ofText (text (.remote address port)) = .remote address port := by
  refine ⟨fun _ => ofText_eq_iff, ?_, fun _ => read_back_file, ?_, ?_⟩
  · cases read : ofText s with
    | default => simp [text, ofText_defaultPath]
    | file path => simp [text, read_back_file read]
    | remote host port => simp [read_back_remote_iff read]
  · intro interfaces host port values zone read address
    exact (read_back_remote_iff read).2 (first_of_address address)
  · intro address number port values groups counts shape
    have read := ofText_address groups counts shape
    refine ⟨read, (read_back_remote_iff read).2 fun c head => ?_⟩
    exact (Address.isSpelling_of_ofColons? groups c (List.mem_of_head? head)).not_blank

/-- A blank is kept between brackets and dropped without them. -/
example : ofText "[ ::1]:80" = .remote " ::1" 80 ∧
    ofText " ::1:80" = .remote "::1" 80 := by
  decide

end Telematics.Endpoint
