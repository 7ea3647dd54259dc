/-!
# Activities

An activity works on a shared state and may pause on the way. It ends with a result or an error,
or it pauses with a signal and can be resumed in whatever state it then finds, also with an error
in the place of what it paused for. So two activities take turns: each runs undisturbed from one
pause to the next.
-/

namespace TileWalk

/-- What is left of a computation on states `σ` that has been started: its end, or a pause. -/
inductive Activity (ι σ ε α : Type) where
  | done (result : Except ε α) (state : σ)
  | paused (signal : ι) (state : σ) (resume : Except ε Unit → σ → Activity ι σ ε α)

namespace Activity

variable {ι σ ε α β : Type}

/-- The activity that goes on with `next` where the first one ends. -/
def andThen (next : Except ε α → σ → Activity ι σ ε β) : Activity ι σ ε α → Activity ι σ ε β
  | .done result state => next result state
  | .paused signal state resume =>
    .paused signal state fun reply state => (resume reply state).andThen next

@[simp] theorem andThen_done (next : Except ε α → σ → Activity ι σ ε β) (result : Except ε α)
    (state : σ) : (Activity.done result state).andThen next = next result state := rfl

@[simp] theorem andThen_paused (next : Except ε α → σ → Activity ι σ ε β) (signal : ι) (state : σ)
    (resume : Except ε Unit → σ → Activity ι σ ε α) :
    (Activity.paused signal state resume).andThen next =
      .paused signal state fun reply state => (resume reply state).andThen next := rfl

theorem andThen_assoc {γ : Type} (first : Activity ι σ ε α)
    (second : Except ε α → σ → Activity ι σ ε β) (third : Except ε β → σ → Activity ι σ ε γ) :
    (first.andThen second).andThen third =
      first.andThen fun result state => (second result state).andThen third := by
  induction first with
  | done => rfl
  | paused signal state resume ih => simp [ih]

theorem andThen_finished (activity : Activity ι σ ε α) :
    activity.andThen (fun result state => .done result state) = activity := by
  induction activity with
  | done => rfl
  | paused signal state resume ih => simp [ih]

end Activity

/-- A computation on states `σ` that has not been started. -/
def Process (ι σ ε α : Type) := σ → Activity ι σ ε α

namespace Process

variable {ι σ ε α β : Type}

def finish (value : α) : Process ι σ ε α := fun state => .done (.ok value) state

def fail (error : ε) : Process ι σ ε α := fun state => .done (.error error) state

/-- Goes on with the value of another process; its error ends both. -/
def followedBy (process : Process ι σ ε α) (next : α → Process ι σ ε β) : Process ι σ ε β :=
  fun state => (process state).andThen fun result state =>
    match result with
    | .ok value => next value state
    | .error error => .done (.error error) state

instance : Monad (Process ι σ ε) where
  pure := finish
  bind := followedBy

def state : Process ι σ ε σ := fun state => .done (.ok state) state

def update (change : σ → σ) : Process ι σ ε Unit := fun state => .done (.ok ()) (change state)

/-- Pauses once, and ends as it is resumed. -/
def pause (signal : ι) : Process ι σ ε Unit := fun state => .paused signal state .done

/-- Runs a process to its end and gives what it ended with as a value. -/
def outcome (process : Process ι σ ε α) : Process ι σ ε (Except ε α) := fun state =>
  (process state).andThen fun result state => .done (.ok result) state

/-- Ends with a result or an error that was kept as a value. -/
def ofOutcome : Except ε α → Process ι σ ε α
  | .ok value => finish value
  | .error error => fail error

@[simp] theorem pure_apply (value : α) (state : σ) :
    (pure value : Process ι σ ε α) state = .done (.ok value) state := rfl

@[simp] theorem fail_apply (error : ε) (state : σ) :
    (fail error : Process ι σ ε α) state = .done (.error error) state := rfl

@[simp] theorem bind_apply (process : Process ι σ ε α) (next : α → Process ι σ ε β) (state : σ) :
    (process >>= next) state = (process state).andThen fun result state =>
      match result with
      | .ok value => next value state
      | .error error => .done (.error error) state := rfl

@[simp] theorem state_apply (present : σ) :
    (state : Process ι σ ε σ) present = .done (.ok present) present := rfl

@[simp] theorem update_apply (change : σ → σ) (state : σ) :
    (update change : Process ι σ ε Unit) state = .done (.ok ()) (change state) := rfl

@[simp] theorem outcome_apply (process : Process ι σ ε α) (state : σ) :
    process.outcome state =
      (process state).andThen fun result state => .done (.ok result) state := rfl

@[simp] theorem ofOutcome_apply (result : Except ε α) (state : σ) :
    (ofOutcome result : Process ι σ ε α) state = .done result state := by
  cases result <;> rfl

end Process

end TileWalk
