/-
# Telematics.Proofs.Snapshot.Reading -- a snapshot is read back from its bytes

Whoever has asked for the state of the registry gets bytes, which stand for a
text, which is a list of objects.  Reading it takes each participant, name and
status from where it was written (`Row.reads`), whatever the names hold: quotes,
backslashes and control characters are escaped, and the rest of a name cannot be
taken for what surrounds it.  So from the answer to a status query the whole
snapshot is read back, in its order, and two snapshots with one answer are one
(`json_loses_nothing`).
-/
import Telematics.Bridge.Handler
import Telematics.Proofs.Snapshot.Row
import Telematics.Proofs.Text.Json
import Telematics.Proofs.Text.Utf8

namespace Telematics

set_option autoImplicit false

open Text Text.Json

/-! ## Participants and statuses -/

theorem Identity.reads (id : Identity) : Reads Identity.reader id.toJson.toList id := by
  cases id with
  | fixed role =>
    have opening : "\x7b\"Fixed\":".toList = '\x7b' :: ((quote "Fixed").toList ++ [':']) := by decide
    have held : Reads (choice Role.ofTag?) (quote role.tag).toList role :=
      reads_choice role.ofTag?_tag
    have inside : Reads Identity.reader _ _ := reads_content "Fixed" rfl (held.map fixed)
    rw [toJson, String.toList_append, String.toList_append, opening]
    simpa using inside
  | named name =>
    have opening : "\x7b\"Named\":".toList = '\x7b' :: ((quote "Named").toList ++ [':']) := by decide
    have inside : Reads Identity.reader _ _ :=
      reads_content "Named" rfl ((reads_string name).map named)
    rw [toJson, String.toList_append, String.toList_append, opening]
    simpa using inside

theorem Status.reads (status : Status) : Reads Status.reader status.toJson.toList status :=
  reads_choice status.ofText?_text

/-! ## Snapshots -/

namespace Shutdown

/-- Reads what a snapshot shows of a participant. -/
def Row.reader : Reader Row := fun cs => do
  let rest ← expect '\x7b' cs
  let (id, rest) ← member "identity" Identity.reader rest
  let rest ← expect ',' rest
  let (name, rest) ← member "name" string rest
  let rest ← expect ',' rest
  let (status, rest) ← member "status" Status.reader rest
  let rest ← expect '\x7d' rest
  return (⟨id, name, status⟩, rest)

/-- Reads what a snapshot shows, from its bytes. -/
def Snapshot.read? (bytes : List UInt8) : Option (List Row) := do
  let text ← ofUtf8? bytes
  (document (list Row.reader) text).toOption

/-- Three texts put between four others. -/
theorem toList_parts {a b c d : String} {as bs cs ds : List Char} (first : a.toList = as)
    (second : b.toList = bs) (third : c.toList = cs) (last : d.toList = ds) (x y z : String) :
    (a ++ x ++ b ++ y ++ c ++ z ++ d).toList =
      as ++ (x.toList ++ (bs ++ (y.toList ++ (cs ++ (z.toList ++ ds))))) := by
  subst first second third last
  simp only [String.toList_append, List.append_assoc]

theorem Row.toList_toJson (row : Row) : row.toJson.toList =
    '\x7b' :: ((quote "identity").toList ++ ':' :: row.id.toJson.toList ++
      ',' :: ((quote "name").toList ++ ':' :: (quote row.name).toList ++
        ',' :: ((quote "status").toList ++ ':' :: row.status.toJson.toList ++ ['\x7d']))) := by
  have identity : "\x7b\"identity\":".toList = '\x7b' :: ((quote "identity").toList ++ [':']) := by
    decide
  have name : ",\"name\":".toList = ',' :: ((quote "name").toList ++ [':']) := by decide
  have status : ",\"status\":".toList = ',' :: ((quote "status").toList ++ [':']) := by decide
  have closing : "\x7d".toList = ['\x7d'] := rfl
  refine (toList_parts identity name status closing _ _ _).trans ?_
  simp only [List.cons_append, List.append_assoc, List.nil_append]

/-- A row is read back from what is written of it. -/
theorem Row.reads (row : Row) : Reads Row.reader row.toJson.toList row := by
  intro rest
  have status := reads_member "status" row.status.reads ('\x7d' :: rest)
  have name := fun rest => reads_member "name" (reads_string row.name) (',' :: rest)
  have identity := fun rest => reads_member "identity" row.id.reads (',' :: rest)
  simp only [List.append_assoc, List.cons_append] at status name identity
  rw [row.toList_toJson, reader]
  simp only [List.append_assoc, List.cons_append, List.nil_append]
  rw [expect_self _ rfl]
  simp only [bind, Except.bind, identity]
  rw [expect_self _ rfl]
  simp only [name]
  rw [expect_self _ rfl]
  simp only [status]
  rw [expect_self _ rfl]
  rfl

theorem Row.opens (row : Row) :
    ∃ c cs, row.toJson.toList = c :: cs ∧ isGap c = false ∧ c ≠ ']' :=
  ⟨_, _, row.toList_toJson, rfl, by decide⟩

/-- The items of a list, with commas between them, and the bracket behind the last. -/
theorem written_eq (row : Row) (more : List Row) :
    written (fun row => row.toJson.toList) row more =
      [','].intercalate ((row :: more).map fun row => row.toJson.toList) ++ [']'] := by
  induction more generalizing row with
  | nil => simp [written]
  | cons next more ih =>
    rw [written, ih, List.map_cons, List.map_cons]
    simp [List.intercalate]

theorem Snapshot.toList_toJson (rows : Snapshot) :
    rows.toJson.toList = writtenList (fun row => row.toJson.toList) rows.shown := by
  have opening : "[".toList = ['['] := rfl
  have comma : ",".toList = [','] := rfl
  have closing : "]".toList = [']'] := rfl
  rw [toJson_eq, String.toList_append, String.toList_append, opening, closing,
    String.toList_intercalate, comma, List.map_map]
  cases rows.shown with
  | nil => rfl
  | cons row more =>
    rw [writtenList, written_eq]
    rfl

/-- What a snapshot shows is read back from its bytes. -/
theorem Snapshot.read?_bytes (rows : Snapshot) : Snapshot.read? rows.bytes = some rows.shown := by
  have whole : Reads (list Row.reader) rows.toJson.toList rows.shown := by
    rw [rows.toList_toJson]
    exact reads_list Row.reads Row.opens rows.shown
  rw [read?, bytes, ofUtf8?_bytes]
  simp only [Option.bind_eq_bind, Option.bind_some, document_of_reads whole]
  rfl

end Shutdown

/-- **What is written of the registry loses nothing.**  Every participant and every status is read
back from its own text; from the answer to a status query each participant is, with its name and
status and in the order of the snapshot, and so two snapshots have one answer only if they are
one. -/
theorem Bridge.json_loses_nothing :
    (∀ id : Identity, Identity.ofJson id.toJson = .ok id) ∧
    (∀ status : Status, Status.ofJson status.toJson = .ok status) ∧
    (∀ rows : Shutdown.Snapshot,
      Shutdown.Snapshot.read? (answerTo rows .status) = some (Shutdown.Snapshot.shown rows)) ∧
    ∀ rows rows' : Shutdown.Snapshot,
      answerTo rows .status = answerTo rows' .status ↔ rows = rows' := by
  have read : ∀ rows : Shutdown.Snapshot,
      Shutdown.Snapshot.read? (answerTo rows .status) = some (Shutdown.Snapshot.shown rows) :=
    Shutdown.Snapshot.read?_bytes
  refine ⟨fun id => document_of_reads id.reads, fun status => document_of_reads status.reads,
    read, fun rows rows' => ⟨fun same => ?_, congrArg fun rows => answerTo rows .status⟩⟩
  apply Shutdown.Snapshot.shown_injective
  exact Option.some.inj ((read rows).symm.trans ((congrArg _ same).trans (read rows')))

end Telematics
