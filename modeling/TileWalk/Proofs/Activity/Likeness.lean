import TileWalk.Run.Activity

/-!
# Activities that match

Two activities match when nobody who answers their pauses can tell them apart: from
alike states they pause with the same signals and end with the same results, in states
that are alike again. Some errors may be excluded; an activity that matches another one
ends with none of them unless it is given one.
-/

namespace TileWalk

variable {ι σ ε α β : Type}

/-- A result, or an error that is not excluded. -/
def Bears (harmless : ε → Prop) : Except ε α → Prop
  | .ok _ => True
  | .error error => harmless error

/-- Two activities cannot be told apart by answers to their pauses in alike states. -/
def Activity.Matches (alike : σ → σ → Prop) (harmless : ε → Prop) :
    Activity ι σ ε α → Activity ι σ ε α → Prop
  | .done result state, other =>
    Bears harmless result ∧ ∃ state', other = .done result state' ∧ alike state state'
  | .paused signal state resume, other =>
    ∃ state' resume', other = .paused signal state' resume' ∧ alike state state' ∧
      ∀ reply, Bears harmless reply → ∀ later later', alike later later' →
        (resume reply later).Matches alike harmless (resume' reply later')

/-- Two computations match from all alike states. -/
def Process.Matches (alike : σ → σ → Prop) (harmless : ε → Prop) (process other : Process ι σ ε α) :
    Prop :=
  ∀ state state', alike state state' → (process state).Matches alike harmless (other state')

variable {alike : σ → σ → Prop} {harmless : ε → Prop}

theorem Activity.Matches.andThen {first other : Activity ι σ ε α}
    {next next' : Except ε α → σ → Activity ι σ ε β} (matching : first.Matches alike harmless other)
    (onward : ∀ result, Bears harmless result → ∀ state state', alike state state' →
      (next result state).Matches alike harmless (next' result state')) :
    (first.andThen next).Matches alike harmless (other.andThen next') := by
  induction first generalizing other with
  | done result state =>
      rcases matching with ⟨bears, state', rfl, same⟩
      exact onward result bears state state' same
  | paused signal state resume ih =>
      rcases matching with ⟨state', resume', rfl, same, later⟩
      refine ⟨state', _, rfl, same, ?_⟩
      intro reply bears next next' same
      exact ih reply next (later reply bears next next' same)

/-- What matches itself ends in a state that is like itself. -/
theorem Activity.Matches.done_self {result : Except ε α} {state : σ}
    (matching : (Activity.done result state : Activity ι σ ε α).Matches alike harmless
      (.done result state)) : Bears harmless result ∧ alike state state := by
  rcases matching with ⟨bears, state', same, alike⟩
  cases same
  exact ⟨bears, alike⟩

theorem Activity.Matches.paused_self {signal : ι} {state : σ}
    {resume : Except ε Unit → σ → Activity ι σ ε α}
    (matching : (Activity.paused signal state resume).Matches alike harmless
      (.paused signal state resume)) :
    alike state state ∧ ∀ reply, Bears harmless reply →
      Process.Matches alike harmless (resume reply) (resume reply) := by
  rcases matching with ⟨state', resume', same, alike, onward⟩
  cases same
  exact ⟨alike, onward⟩

/-- Computations that branch on one condition match when their branches do. -/
theorem Activity.Matches.ite {condition : Prop} [Decidable condition]
    {yes yes' no no' : Process ι σ ε α} {state state' : σ}
    (holds : condition → (yes state).Matches alike harmless (yes' state'))
    (fails : ¬ condition → (no state).Matches alike harmless (no' state')) :
    ((if condition then yes else no) state).Matches alike harmless
      ((if condition then yes' else no') state') := by
  split
  · next known => exact holds known
  · next known => exact fails known

namespace Process.Matches

theorem bind {process other : Process ι σ ε α} {next next' : α → Process ι σ ε β}
    (first : process.Matches alike harmless other)
    (onward : ∀ value, (next value).Matches alike harmless (next' value)) :
    (process >>= next).Matches alike harmless (other >>= next') := by
  intro state state' same
  apply (first state state' same).andThen
  intro result bears later later' same
  cases result with
  | ok value => exact onward value later later' same
  | error error => exact ⟨bears, later', rfl, same⟩

/-- What reads the state goes on alike if it does so from any two alike ones. -/
theorem state_bind {next next' : σ → Process ι σ ε β}
    (onward : ∀ state state', alike state state' →
      (next state state).Matches alike harmless (next' state' state')) :
    (Process.state >>= next).Matches alike harmless (Process.state >>= next') :=
  onward

theorem pure (value : α) :
    (pure value : Process ι σ ε α).Matches alike harmless (Pure.pure value) :=
  fun _ state' same => ⟨trivial, state', rfl, same⟩

theorem fail {error : ε} (mild : harmless error) :
    (Process.fail error : Process ι σ ε α).Matches alike harmless (Process.fail error) :=
  fun _ state' same => ⟨mild, state', rfl, same⟩

theorem ofOutcome {result : Except ε α} (bears : Bears harmless result) :
    (Process.ofOutcome result : Process ι σ ε α).Matches alike harmless (Process.ofOutcome result) := by
  cases result with
  | ok value => exact pure value
  | error error => exact fail bears

theorem update {change : σ → σ} (kept : ∀ state state', alike state state' →
      alike (change state) (change state')) :
    (Process.update change : Process ι σ ε Unit).Matches alike harmless (Process.update change) :=
  fun state state' same => ⟨trivial, _, rfl, kept state state' same⟩

theorem pause (signal : ι) :
    (Process.pause signal : Process ι σ ε Unit).Matches alike harmless (Process.pause signal) := by
  intro state state' same
  refine ⟨state', _, rfl, same, ?_⟩
  intro reply bears later later' same
  exact ⟨bears, later', rfl, same⟩

/-- A result that is kept as a value is one of those that can come about. -/
theorem outcome_bind {process other : Process ι σ ε α} {next next' : Except ε α → Process ι σ ε β}
    (first : process.Matches alike harmless other)
    (onward : ∀ result, Bears harmless result →
      (next result).Matches alike harmless (next' result)) :
    (process.outcome >>= next).Matches alike harmless (other.outcome >>= next') := by
  intro state state' same
  simp only [bind_apply, outcome_apply, Activity.andThen_assoc, Activity.andThen_done]
  apply (first state state' same).andThen
  intro result bears later later' same
  exact onward result bears later later' same

end Process.Matches

end TileWalk
