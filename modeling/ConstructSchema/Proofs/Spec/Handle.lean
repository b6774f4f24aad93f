import ConstructSchema.Proofs.Spec.RoundTrip
import ConstructSchema.Spec.Handle

/-!
What a handle answers over the life of a process.

The files may be others at every call, so a call is a path together with what the file system would
answer at that moment. A handle that holds a database asks the file system for nothing
(`request_of_some`); an empty one loads, and keeps the database if there is one
(`request_empty_of_ok`, `request_empty_of_error`). A run is therefore cut in two by the first call
that loads: the calls before it fail, each for its own reason, and from it on all give its database
(`answers_cut_at_first_load`).
-/

namespace ConstructSchema

namespace Handle

/-- A request for the database at a path, with the files as they are at that moment. -/
structure Call where
  path : String
  files : FileSystem Id

/-- The database that the call would load. -/
def Call.load (call : Call) : Except Failure Database :=
  Id.run (Database.load call.files call.path)

/-- The handle of a process that has not loaded a database. -/
def empty : Handle := {}

/-- The answers to calls that come one after the other, each with the handle as it is then. -/
def answers (h : Handle) : List Call → List (Except Failure Database × Handle)
  | [] => []
  | call :: rest =>
    let answer := Id.run (h.request call.files call.path)
    answer :: answers answer.2 rest

/-! ## One call -/

/-- A handle that holds a database gives it, without a look at any file. -/
theorem request_of_some {m : Type → Type} [Monad m] (db : Database) (fs : FileSystem m)
    (path : String) : Handle.request ⟨some db⟩ fs path = pure (.ok db, ⟨some db⟩) := rfl

/-- An empty handle gives what loading gives, and stays empty if that fails. -/
theorem request_empty_of_error {call : Call} {failure : Failure}
    (h : call.load = .error failure) :
    Id.run (empty.request call.files call.path) = (call.load, empty) := by
  have hload : Database.load call.files call.path = pure (.error failure) := h
  rw [h]
  simp [request, get, empty, hload]

/-- An empty handle keeps the database that loads. -/
theorem request_empty_of_ok {call : Call} {db : Database} (h : call.load = .ok db) :
    Id.run (empty.request call.files call.path) = (.ok db, ⟨some db⟩) := by
  have hload : Database.load call.files call.path = pure (.ok db) := h
  simp [request, get, empty, hload]

/-- A database that a call loads comes from the text at its path, and remembers the path. -/
theorem Call.exists_text_of_load {call : Call} {db : Database} (h : call.load = .ok db) :
    ∃ text d, Id.run (call.files.read call.path) = .ok text ∧
      Json.decodeText Document.ofJson text = .ok d ∧
      db = { Database.ofDocument d with source := some call.path } := by
  unfold Call.load Database.load at h
  cases hread : Id.run (call.files.read call.path) with
  | error cause => simp [hread] at h
  | ok text =>
    have hfile : Database.ofFile call.path text = .ok db := by simpa [hread] using h
    unfold Database.ofFile at hfile
    cases hd : Json.decodeText Document.ofJson text with
    | error fault => simp [hd] at hfile
    | ok d =>
      rw [hd] at hfile
      exact ⟨text, d, rfl, hd, (Except.ok.inj hfile).symm⟩

/-! ## Many calls -/

/-- Once a handle holds a database, every call gives it. -/
theorem answers_of_some (db : Database) (calls : List Call) :
    answers ⟨some db⟩ calls = calls.map fun _ => (.ok db, ⟨some db⟩) := by
  induction calls with
  | nil => rfl
  | cons call rest ih =>
    rw [answers, request_of_some, List.map_cons]
    exact congrArg _ ih

/-- Calls that fail leave the handle empty for those behind them. -/
theorem answers_append_of_error {failing : List Call}
    (h : ∀ call ∈ failing, ∃ failure, call.load = .error failure) (rest : List Call) :
    answers empty (failing ++ rest) =
      failing.map (fun call => (call.load, empty)) ++ answers empty rest := by
  induction failing with
  | nil => rfl
  | cons call failing ih =>
    obtain ⟨failure, hload⟩ := h call List.mem_cons_self
    have hfailing := ih fun other hother => h other (List.mem_cons_of_mem call hother)
    rw [List.cons_append, answers, request_empty_of_error hload, List.map_cons, List.cons_append]
    exact congrArg _ hfailing

/-- Either all calls fail, or there is a first one that does not. -/
theorem exists_first_load (calls : List Call) :
    (∀ call ∈ calls, ∃ failure, call.load = .error failure) ∨
      ∃ before winner after db, calls = before ++ winner :: after ∧
        (∀ call ∈ before, ∃ failure, call.load = .error failure) ∧ winner.load = .ok db := by
  induction calls with
  | nil => exact Or.inl (by simp)
  | cons call rest ih =>
    cases hload : call.load with
    | ok db => exact Or.inr ⟨[], call, rest, db, rfl, by simp, hload⟩
    | error failure =>
      rcases ih with hfail | ⟨before, winner, after, db, rfl, hbefore, hwinner⟩
      · exact Or.inl (List.forall_mem_cons.2 ⟨⟨failure, hload⟩, hfail⟩)
      · exact Or.inr ⟨call :: before, winner, after, db, rfl,
          List.forall_mem_cons.2 ⟨⟨failure, hload⟩, hbefore⟩, hwinner⟩

/-- **The first database that loads is the one of the process.** As long as loading fails, each call
gives its own failure and the handle stays empty. The first call that loads a database, and every
call behind it, gives that database, made of the text that was read in that call and with its path,
whatever the paths and the files of the later calls are. -/
theorem answers_cut_at_first_load (calls : List Call) :
    (∀ call ∈ calls, ∃ failure, call.load = .error failure) ∧
      answers empty calls = calls.map (fun call => (call.load, empty)) ∨
    ∃ before winner after db,
      calls = before ++ winner :: after ∧
      (∀ call ∈ before, ∃ failure, call.load = .error failure) ∧
      winner.load = .ok db ∧
      answers empty calls =
        before.map (fun call => (call.load, empty)) ++
          (winner :: after).map (fun _ => (.ok db, ⟨some db⟩)) ∧
      db.source = some winner.path ∧
      ∃ text d, Id.run (winner.files.read winner.path) = .ok text ∧
        Json.decodeText Document.ofJson text = .ok d ∧ db.document = d.withIds := by
  rcases exists_first_load calls with hfail | ⟨before, winner, after, db, hcalls, hbefore, hwinner⟩
  · refine Or.inl ⟨hfail, ?_⟩
    have hanswers := answers_append_of_error hfail []
    rwa [List.append_nil, answers, List.append_nil] at hanswers
  · obtain ⟨text, d, hread, hd, hdb⟩ := Call.exists_text_of_load hwinner
    refine Or.inr ⟨before, winner, after, db, hcalls, hbefore, hwinner, ?_, by rw [hdb],
      text, d, hread, hd, by rw [hdb]; rfl⟩
    rw [hcalls, answers_append_of_error hbefore, answers, request_empty_of_ok hwinner,
      answers_of_some, List.map_cons]

end Handle

end ConstructSchema
