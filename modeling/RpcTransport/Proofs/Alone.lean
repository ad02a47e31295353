import RpcTransport.Proofs.Tasks

/-! A task that is alone. Each wait of it is ended by the reply of a world, which says the same to
the same waits. -/
namespace RpcTransport.Transport

variable {M H B : Type}

/-- What ends a wait, given the earlier waits of the task. -/
abbrev World (M H B : Type) := List (Wait M H B) → Wait M H B → Reply B

namespace System

/-- All that still happens to a task that is alone, until it waits no more. -/
inductive Alone (settings : Settings M) (world : World M H B) (id : TaskId) :
    List (Wait M H B) → System M H B → List (Action M H B) → Prop where
  | done {before : List (Wait M H B)} {system : System M H B} (gone : system.task? id = none) :
      Alone settings world id before system []
  | goesOn {before : List (Wait M H B)} {system : System M H B} {task : Task M H B}
      {actions : List (Action M H B)} (waits : system.task? id = some task)
      (onward : Alone settings world id (before ++ [task.wait])
        (system.step settings (.reply id (world before task.wait))).1 actions) :
      Alone settings world id before system (.reply id (world before task.wait) :: actions)

variable {settings : Settings M} {world : World M H B} {id : TaskId}

/-- A task that is alone has one course. -/
theorem Alone.unique {before : List (Wait M H B)} {system : System M H B}
    {actions other : List (Action M H B)} (h : Alone settings world id before system actions)
    (h' : Alone settings world id before system other) : actions = other := by
  induction h generalizing other with
  | done gone =>
      cases h' with
      | done => rfl
      | goesOn waits _ =>
          rw [gone] at waits
          cases waits
  | goesOn waits _ ih =>
      cases h' with
      | done gone =>
          rw [gone] at waits
          cases waits
      | goesOn waits' onward =>
          rw [waits] at waits'
          cases waits'
          rw [ih onward]

end System

/-- From turn to turn of a task that is alone, with the waits between them. Only the last
turn may open a stream. -/
inductive Converses (settings : Settings M) (world : World M H B) :
    List (Wait M H B) → Turn M H B → List (Wait M H B) → Turn M H B → Prop where
  | stays (before : List (Wait M H B)) (turn : Turn M H B) :
      Converses settings world before turn [] turn
  | goesOn {before waits : List (Wait M H B)} {turn next final : Turn M H B} {task : Task M H B}
      (stops : turn.step = .wait task) (quiet : turn.stream = none)
      (resumes : task.resume settings turn.shared (world before task.wait) = some next)
      (onward : Converses settings world (before ++ [task.wait]) next waits final) :
      Converses settings world before turn (task.wait :: waits) final

namespace Converses

variable {settings : Settings M} {world : World M H B} {before waits more : List (Wait M H B)}
  {turn next final : Turn M H B}

theorem single {task : Task M H B} (hStops : turn.step = .wait task)
    (hQuiet : turn.stream = none)
    (hResume : task.resume settings turn.shared (world before task.wait) = some final) :
    Converses settings world before turn [task.wait] final :=
  .goesOn hStops hQuiet hResume (.stays _ final)

theorem trans (h : Converses settings world before turn waits next)
    (h' : Converses settings world (before ++ waits) next more final) :
    Converses settings world before turn (waits ++ more) final := by
  induction h with
  | stays before turn => simpa using h'
  | goesOn stops quiet resumes onward ih =>
      refine .goesOn stops quiet resumes (ih ?_)
      simpa using h'

end Converses

namespace System

variable {settings : Settings M} {world : World M H B} {id : TaskId} {system : System M H B}
  {turn final : Turn M H B}

/-- Of two turns of a task, the second one makes the first one forgotten. -/
theorem settle_settle (hQuiet : turn.stream = none) (next : Turn M H B) :
    (system.settle id turn).1.settle id next = system.settle id next := by
  have hReplace : (system.settle id turn).1.replace id next = system.replace id next := by
    have hOwn : ∀ entry ∈ turn.entries id, ¬decide (entry.1 ≠ id) = true := by
      intro entry hEntry
      simp [(Turn.mem_entries.mp hEntry).1]
    rw [settle_of_no_stream hQuiet, replace, replace, replace, List.filter_append,
      List.filter_eq_nil_iff.mpr hOwn, List.append_nil, List.filter_filter]
    simp
  have hNext : (system.settle id turn).1.next = system.next := by
    rw [settle_of_no_stream hQuiet]
  cases hStream : next.stream with
  | none => rw [settle_of_no_stream hStream, settle_of_no_stream hStream, hReplace, hNext]
  | some stream =>
      obtain ⟨handler, decoder, body⟩ := stream
      rw [settle_of_stream hStream, settle_of_stream hStream, hReplace, hNext]

theorem step_reply {task : Task M H B} {reply : Reply B} (hTask : system.task? id = some task)
    (hTurn : task.resume settings system.shared reply = some turn) :
    system.step settings (.reply id reply) = system.settle id turn := by
  simp [step, hTask, hTurn]

/-- After a turn its task waits where the turn stopped. -/
theorem task?_settle (hId : id ≠ system.next)
    (hQuiet : ∀ task, turn.step = .wait task → turn.stream = none) :
    (system.settle id turn).1.task? id = turn.task? := by
  have hOthers : (system.tasks.filter fun entry => entry.1 ≠ id).lookup id = none := by
    refine List.lookup_eq_none_iff.mpr fun entry hEntry => ?_
    have hNe : entry.1 ≠ id := by simpa using (List.mem_filter.mp hEntry).2
    simpa using Ne.symm hNe
  have hOwn : (turn.entries id).lookup id = turn.task? := by
    unfold Turn.entries
    cases turn.task? <;> simp
  have hReplace : (system.replace id turn).lookup id = turn.task? := by
    rw [replace, List.lookup_append, hOthers, hOwn, Option.none_or]
  cases hStream : turn.stream with
  | none => rw [settle_of_no_stream hStream, task?, hReplace]
  | some stream =>
      obtain ⟨handler, decoder, body⟩ := stream
      have hOver : turn.task? = none := by
        cases hTask : turn.task? with
        | none => rfl
        | some task =>
            rw [hQuiet task (Turn.task?_eq_some.mp hTask)] at hStream
            cases hStream
      rw [settle_of_stream hStream, task?, hOver]
      refine List.lookup_eq_none_iff.mpr fun entry hEntry => ?_
      rcases List.mem_append.mp hEntry with hOld | hNew
      · have hLookup := List.lookup_eq_none_iff.mp (hReplace.trans hOver)
        exact hLookup entry (List.mem_filter.mp hOld).1
      · rw [List.mem_singleton.mp hNew]
        simpa using hId

/-- The course of a task, from one of its turns on, is that of the task alone. -/
theorem alone_of_converses {before waits : List (Wait M H B)}
    (h : Converses settings world before turn waits final) (hId : id ≠ system.next)
    {result : Option (Except Error Unit)} (hDone : final.step = .done result) :
    ∃ actions, Alone settings world id before (system.settle id turn).1 actions ∧
      ((system.settle id turn).1.run settings actions).1 = (system.settle id final).1 ∧
      (system.settle id turn).2 ++ ((system.settle id turn).1.run settings actions).2 =
        waits.map (.waits id) ++ (system.settle id final).2 := by
  induction h with
  | stays before turn =>
      have hOver : turn.task? = none := by simp [Turn.task?, hDone]
      refine ⟨[], .done ?_, rfl, by simp [run]⟩
      rw [task?_settle hId fun task hWait => by simp [hDone] at hWait, hOver]
  | @goesOn before waits turn next final task stops quiet resumes onward ih =>
      obtain ⟨actions, hAlone, hSystem, hEvents⟩ := ih hDone
      have hTask : (system.settle id turn).1.task? id = some task := by
        rw [task?_settle hId fun _ _ => quiet, Turn.task?_eq_some.mpr stops]
      have hShared : (system.settle id turn).1.shared = turn.shared := by
        rw [settle_of_no_stream quiet]
      have hStep : (system.settle id turn).1.step settings (.reply id (world before task.wait)) =
          system.settle id next := by
        rw [step_reply hTask (by rw [hShared]; exact resumes), settle_settle quiet]
      have hEvent : turn.event id = .waits id task.wait := by simp [Turn.event, stops]
      refine ⟨_, .goesOn hTask (by rw [hStep]; exact hAlone), ?_, ?_⟩
      · rw [run, hStep]
        exact hSystem
      · rw [run, hStep]
        have hFirst : (system.settle id turn).2 = [.waits id task.wait] := by
          rw [settle_of_no_stream quiet, hEvent]
        simp [hFirst, hEvents]

/-- The course of a task, from one of its waits on, is that of the task alone. -/
theorem alone_of_task {before waits : List (Wait M H B)} {task : Task M H B}
    (hTask : system.task? id = some task) (hId : id ≠ system.next)
    (h : Converses settings world before ⟨system.shared, .wait task, none⟩ waits final)
    {result : Option (Except Error Unit)} (hDone : final.step = .done result) :
    ∃ actions, Alone settings world id before system actions ∧
      (system.run settings actions).1 = (system.settle id final).1 ∧
      .waits id task.wait :: (system.run settings actions).2 =
        waits.map (.waits id) ++ (system.settle id final).2 := by
  cases h with
  | stays => cases hDone
  | goesOn stops _ resumes onward =>
      cases stops
      obtain ⟨actions, hAlone, hSystem, hEvents⟩ := alone_of_converses onward hId hDone
      have hStep := step_reply hTask resumes
      refine ⟨_, .goesOn hTask (by rw [hStep]; exact hAlone), ?_, ?_⟩
      · rw [run, hStep]
        exact hSystem
      · rw [run, hStep, List.map_cons, List.cons_append, ← hEvents]

end System

namespace Wait

/-- The wait for the answer to a request. -/
def isAnswer : Wait M H B → Bool
  | .answer _ => true
  | _ => false

def isItem : Wait M H B → Bool
  | .item _ => true
  | _ => false

def isVerdict : Wait M H B → Bool
  | .verdict _ _ => true
  | _ => false

/-- How many requests were sent. -/
def asked (waits : List (Wait M H B)) : Nat :=
  waits.countP isAnswer

/-- How many items were read of the body that the last answer brought. -/
def read (waits : List (Wait M H B)) : Nat :=
  waits.foldl (fun count wait =>
    if wait.isAnswer then 0 else if wait.isItem then count + 1 else count) 0

/-- How many messages were given to a handler. -/
def judged (waits : List (Wait M H B)) : Nat :=
  waits.countP isVerdict

@[simp] theorem asked_append (waits more : List (Wait M H B)) :
    asked (waits ++ more) = asked waits + asked more :=
  List.countP_append

@[simp] theorem judged_append (waits more : List (Wait M H B)) :
    judged (waits ++ more) = judged waits + judged more :=
  List.countP_append

/-- An item that is waited for is neither an answer nor a verdict. -/
theorem asked_filter (waits : List (Wait M H B)) :
    asked (waits.filter (!·.isItem)) = asked waits := by
  rw [asked, List.countP_filter, asked]
  refine List.countP_congr fun wait _ => ?_
  cases wait <;> simp [isAnswer, isItem]

theorem judged_filter (waits : List (Wait M H B)) :
    judged (waits.filter (!·.isItem)) = judged waits := by
  rw [judged, List.countP_filter, judged]
  refine List.countP_congr fun wait _ => ?_
  cases wait <;> simp [isVerdict, isItem]

end Wait

/-- What is around a transport: the answers to requests in the order in which they are
sent, what bodies hold, what handlers say to messages in the order in which they are given,
and what the legacy transport says. -/
structure Surroundings (M B : Type) where
  answers : Nat → Except Error (Http.Response B)
  contents : B → List BodyItem
  verdict : Nat → M → Except Error Unit
  legacy : Except Error Unit

/-- Bodies are read item by item up to their ends. -/
def Surroundings.reply (around : Surroundings M B) : World M H B := fun before wait =>
  match wait with
  | .answer _ => .answer (around.answers (Wait.asked before))
  | .pause _ => .elapsed
  | .item body => .item (around.contents body)[Wait.read before]?
  | .verdict _ message => .verdict (around.verdict (Wait.judged before) message)
  | .legacyConnect _ | .legacySend _ | .legacyClose => .legacy around.legacy

end RpcTransport.Transport
