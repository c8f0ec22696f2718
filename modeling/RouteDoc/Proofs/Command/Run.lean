import RouteDoc.Command.Outcome
import RouteDoc.Proofs.Document.Assembly
import RouteDoc.Proofs.Files.Tree
import RouteDoc.Proofs.Outcome

/-! Runs that make a document. Up to the text of the document a run only reads: it prints, and what
it gives depends on the files alone. Then it makes directories, and last it writes one file. -/

namespace RouteDoc.Command

namespace Run

variable {α β : Type}

/-- The result of a run from a state, and the state that it leaves. -/
def runFrom (run : Run α) (state : RunState) : Except RunFault α × RunState := run.run.run state

theorem runFrom_bind (run : Run α) (next : α → Run β) (state : RunState) :
    Run.runFrom (run >>= next) state =
      match Run.runFrom run state with
      | (.ok a, after) => Run.runFrom (next a) after
      | (.error fault, after) => (.error fault, after) := by
  simp only [Run.runFrom, ExceptT.run_bind, StateT.run_bind]
  rcases run.run.run state with ⟨_ | a, after⟩ <;> rfl

theorem runFrom_bind_of_ok {run : Run α} {state after : RunState} {a : α}
    (h : Run.runFrom run state = (.ok a, after)) (next : α → Run β) :
    Run.runFrom (run >>= next) state = Run.runFrom (next a) after := by
  rw [runFrom_bind, h]

theorem runFrom_bind_of_error {run : Run α} {state after : RunState} {fault : RunFault}
    (h : Run.runFrom run state = (.error fault, after)) (next : α → Run β) :
    Run.runFrom (run >>= next) state = (.error fault, after) := by
  rw [runFrom_bind, h]

/-- A run only reads: what it gives depends on the files alone, and it leaves them as they are. -/
def Reads (run : Run α) (value : FileTree → Except RunFault α) : Prop :=
  ∀ state, ∃ printed, Run.runFrom run state = (value state.files, { state with printed := printed })

namespace Reads

theorem pure (a : α) : Reads (Pure.pure a) fun _ => .ok a := fun state => ⟨state.printed, rfl⟩

theorem print (change : Printed → Printed) : Reads (Run.print change) fun _ => .ok () :=
  fun state => ⟨change state.printed, rfl⟩

theorem orStop {ε : Type} (toFault : ε → RunFault) (value : Except ε α) :
    Reads (Run.orStop toFault value) fun _ => value.mapError toFault :=
  fun state => ⟨state.printed, rfl⟩

theorem throw (fault : RunFault) : Reads (MonadExcept.throw fault : Run α) fun _ => .error fault :=
  fun state => ⟨state.printed, rfl⟩

theorem bind {run : Run α} {next : α → Run β} {value : FileTree → Except RunFault α}
    {nextValue : α → FileTree → Except RunFault β} (h : Reads run value)
    (hnext : ∀ a, Reads (next a) (nextValue a)) :
    Reads (run >>= next) fun tree => value tree >>= fun a => nextValue a tree := by
  intro state
  obtain ⟨printed, hrun⟩ := h state
  cases hvalue : value state.files with
  | error fault =>
    rw [hvalue] at hrun
    refine ⟨printed, ?_⟩
    rw [runFrom_bind_of_error hrun next]
    simp only [hvalue]
    rfl
  | ok a =>
    rw [hvalue] at hrun
    obtain ⟨printed', hnext⟩ := hnext a { state with printed := printed }
    refine ⟨printed', ?_⟩
    rw [runFrom_bind_of_ok hrun next, hnext]
    simp only [hvalue]
    rfl

theorem print_bind {run : Run α} {value : FileTree → Except RunFault α} (h : Reads run value)
    (change : Printed → Printed) : Reads (Run.print change >>= fun _ => run) value :=
  (print change).bind fun _ => h

theorem files_bind {next : FileTree → Run α} {value : FileTree → Except RunFault α}
    (h : ∀ tree, Reads (next tree) fun _ => value tree) : Reads (Run.files >>= next) value :=
  fun state => h state.files state

theorem mapM {step : α → Run β} {value : α → FileTree → Except RunFault β}
    (h : ∀ a, Reads (step a) (value a)) (items : List α) :
    Reads (items.mapM step) fun tree => items.mapM (value · tree) := by
  induction items with
  | nil => exact Reads.pure []
  | cons a items ih =>
    simp only [List.mapM_cons]
    exact (h a).bind fun b => ih.bind fun more => Reads.pure (b :: more)

theorem forM {step : α → Run Unit} (h : ∀ a, Reads (step a) fun _ => .ok ()) (items : List α) :
    Reads (items.forM step) fun _ => .ok () := by
  induction items with
  | nil => exact Reads.pure ()
  | cons a items ih => exact (h a).bind fun _ => ih

end Reads

end Run

end RouteDoc.Command
