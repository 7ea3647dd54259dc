import TileWalk.Proofs.Activity.Environment

/-!
# Machines

A machine says in first-order terms what an activity does: at which points it can
pause, with which signal, and where it goes on from each point. An activity that
follows a machine does nothing else, so what is seen of it in an environment is a
run of the machine.
-/

namespace TileWalk

/-- Where a machine stands: paused at a point, or at its end. -/
inductive Turn (π σ ε α : Type) where
  | pause (point : π) (state : σ)
  | finish (result : Except ε α) (state : σ)

/-- The points at which an activity can pause, and what it does after each. -/
structure Machine (π ι σ ε α : Type) where
  signal : π → ι
  next : π → Except ε Unit → σ → Turn π σ ε α

variable {π ρ ι σ ε α β : Type}

namespace Turn

/-- Names the points anew and goes on where the machine ends. -/
def carry (lift : π → ρ) (close : Except ε α → σ → Turn ρ σ ε β) :
    Turn π σ ε α → Turn ρ σ ε β
  | .pause point state => .pause (lift point) state
  | .finish result state => close result state

@[simp] theorem carry_pause (lift : π → ρ) (close : Except ε α → σ → Turn ρ σ ε β)
    (point : π) (state : σ) :
    (Turn.pause point state).carry lift close = .pause (lift point) state := rfl

@[simp] theorem carry_finish (lift : π → ρ) (close : Except ε α → σ → Turn ρ σ ε β)
    (result : Except ε α) (state : σ) :
    (Turn.finish result state).carry lift close = close result state := rfl

/-- The turn has a property where it is paused, or another one where it is over. -/
def Meets (invariant : π → σ → Prop) (post : Except ε α → σ → Prop) : Turn π σ ε α → Prop
  | .pause point state => invariant point state
  | .finish result state => post result state

theorem Meets.imp {invariant weaker : π → σ → Prop} {post last : Except ε α → σ → Prop}
    {turn : Turn π σ ε α} (meets : turn.Meets invariant post)
    (paused : ∀ point state, invariant point state → weaker point state)
    (final : ∀ result state, post result state → last result state) : turn.Meets weaker last := by
  cases turn with
  | pause point state => exact paused point state meets
  | finish result state => exact final result state meets

theorem Meets.carry {invariant : π → σ → Prop} {post : Except ε α → σ → Prop}
    {outer : ρ → σ → Prop} {last : Except ε β → σ → Prop}
    {lift : π → ρ} {close : Except ε α → σ → Turn ρ σ ε β} {turn : Turn π σ ε α}
    (inside : ∀ point state, invariant point state → outer (lift point) state)
    (outside : ∀ result state, post result state → (close result state).Meets outer last)
    (meets : turn.Meets invariant post) : (turn.carry lift close).Meets outer last := by
  cases turn with
  | pause point state => exact inside point state meets
  | finish result state => exact outside result state meets

end Turn

/-- An activity pauses and goes on as a machine does from a turn. -/
def Activity.Follows (machine : Machine π ι σ ε α) :
    Activity ι σ ε α → Turn π σ ε α → Prop
  | .done result state, turn => turn = .finish result state
  | .paused signal state resume, turn =>
    ∃ point, turn = .pause point state ∧ machine.signal point = signal ∧
      ∀ reply next, (resume reply next).Follows machine (machine.next point reply next)

namespace Activity.Follows

variable {inner : Machine π ι σ ε α} {outer : Machine ρ ι σ ε β}

/-- Machines for the parts of an activity make up a machine for the whole. -/
theorem andThen {lift : π → ρ} {close : Except ε α → σ → Turn ρ σ ε β}
    {rest : Except ε α → σ → Activity ι σ ε β} {activity : Activity ι σ ε α}
    {turn : Turn π σ ε α}
    (signals : ∀ point, outer.signal (lift point) = inner.signal point)
    (steps : ∀ point reply state,
      outer.next (lift point) reply state = (inner.next point reply state).carry lift close)
    (first : activity.Follows inner turn)
    (second : ∀ result state, (rest result state).Follows outer (close result state)) :
    (activity.andThen rest).Follows outer (turn.carry lift close) := by
  induction activity generalizing turn with
  | done result state =>
      cases first
      exact second result state
  | paused signal state resume ih =>
      rcases first with ⟨point, rfl, same, onward⟩
      refine ⟨lift point, rfl, (signals point).trans same, ?_⟩
      intro reply next
      rw [steps]
      exact ih reply next (onward reply next)

end Activity.Follows

namespace Machine

variable (machine : Machine π ι σ ε α)

/-- A turn leads through exchanges to an end. -/
inductive Plays :
    Turn π σ ε α → List (Exchange ι σ ε) → Except ε α → σ → Prop
  | finish (result : Except ε α) (state : σ) : Plays (.finish result state) [] result state
  | pause (point : π) (before : σ) (reply : Except ε Unit) (after : σ)
      {exchanges : List (Exchange ι σ ε)} {result : Except ε α} {final : σ} :
      Plays (machine.next point reply after) exchanges result final →
      Plays (.pause point before)
        (⟨machine.signal point, before, reply, after⟩ :: exchanges) result final

/-- Where a turn leads through exchanges. -/
def after : Turn π σ ε α → List (Exchange ι σ ε) → Turn π σ ε α
  | turn, [] => turn
  | .finish result state, _ :: _ => .finish result state
  | .pause point _, exchange :: rest =>
    after (machine.next point exchange.reply exchange.after) rest

variable {machine}

theorem Plays.split {turn : Turn π σ ε α} {first rest : List (Exchange ι σ ε)}
    {result : Except ε α} {final : σ}
    (plays : machine.Plays turn (first ++ rest) result final) :
    machine.Plays (machine.after turn first) rest result final := by
  induction first generalizing turn with
  | nil =>
      cases turn <;> exact plays
  | cons exchange first ih =>
      cases plays with
      | pause point before reply state onward => exact ih onward

theorem Plays.head {turn : Turn π σ ε α} {exchange : Exchange ι σ ε}
    {rest : List (Exchange ι σ ε)} {result : Except ε α} {final : σ}
    (plays : machine.Plays turn (exchange :: rest) result final) :
    ∃ point, turn = .pause point exchange.before ∧ machine.signal point = exchange.signal ∧
      machine.Plays (machine.next point exchange.reply exchange.after) rest result final := by
  cases plays with
  | pause point before reply state onward => exact ⟨point, rfl, rfl, onward⟩

/-- Within a run a machine pauses where each of its exchanges is, and what every
exchange keeps still holds there. -/
theorem Plays.meets {invariant : π → σ → Prop} {post : Except ε α → σ → Prop}
    {turn : Turn π σ ε α} {first rest : List (Exchange ι σ ε)} {exchange : Exchange ι σ ε}
    {result : Except ε α} {final : σ}
    (start : turn.Meets invariant post)
    (keeps : ∀ point, ∀ other ∈ first, invariant point other.before →
      (machine.next point other.reply other.after).Meets invariant post)
    (plays : machine.Plays turn (first ++ exchange :: rest) result final) :
    ∃ point, machine.after turn first = .pause point exchange.before ∧
      invariant point exchange.before ∧ machine.signal point = exchange.signal ∧
      machine.Plays (machine.next point exchange.reply exchange.after) rest result final := by
  induction first generalizing turn with
  | nil =>
      rcases plays.head with ⟨point, rfl, same, onward⟩
      exact ⟨point, rfl, start, same, onward⟩
  | cons other first ih =>
      rcases plays.head with ⟨point, rfl, -, onward⟩
      exact ih (keeps point other (List.mem_cons_self ..) start)
        (fun point later membership => keeps point later (List.mem_cons_of_mem _ membership)) onward

/-- What holds of the past and of every point on the way, when each step keeps it,
holds at every exchange of a run and at its end. -/
theorem Plays.recall {turn : Turn π σ ε α} {past exchanges : List (Exchange ι σ ε)}
    {result : Except ε α} {final : σ} (plays : machine.Plays turn exchanges result final)
    (invariant : List (Exchange ι σ ε) → π → σ → Prop)
    (post : List (Exchange ι σ ε) → Except ε α → σ → Prop) {kind : Exchange ι σ ε → Prop}
    (keeps : ∀ past point exchange, invariant past point exchange.before → kind exchange →
      machine.signal point = exchange.signal →
      (machine.next point exchange.reply exchange.after).Meets
        (invariant (past ++ [exchange])) (post (past ++ [exchange])))
    (start : turn.Meets (invariant past) (post past))
    (kinds : ∀ exchange ∈ exchanges, kind exchange) :
    post (past ++ exchanges) result final ∧
    ∀ first exchange rest, exchanges = first ++ exchange :: rest →
      ∃ point, machine.signal point = exchange.signal ∧
        invariant (past ++ first) point exchange.before ∧
        machine.Plays (machine.next point exchange.reply exchange.after) rest result final := by
  induction exchanges generalizing turn past with
  | nil =>
      cases plays
      have ended : post past result final := start
      refine ⟨by simpa using ended, ?_⟩
      intro first exchange rest split
      simp at split
  | cons head exchanges ih =>
      rcases plays.head with ⟨point, rfl, same, onward⟩
      have here : invariant past point head.before := start
      rcases List.forall_mem_cons.mp kinds with ⟨kind, kinds⟩
      rcases ih onward (keeps past point head here kind same) kinds with ⟨final, within⟩
      simp only [List.append_assoc, List.singleton_append] at final within
      refine ⟨final, ?_⟩
      intro first exchange rest split
      rcases List.cons_eq_append_iff.mp split with ⟨rfl, first⟩ | ⟨first, rfl, later⟩
      · cases first
        exact ⟨point, same, by simpa using here, onward⟩
      · exact within first exchange rest later

/-- What a machine does within a larger one comes first in a run of the whole. -/
theorem Plays.of_carry {inner : Machine π ι σ ε α} {outer : Machine ρ ι σ ε β}
    {lift : π → ρ} {close : Except ε α → σ → Turn ρ σ ε β}
    (signals : ∀ point, outer.signal (lift point) = inner.signal point)
    (steps : ∀ point reply state,
      outer.next (lift point) reply state = (inner.next point reply state).carry lift close)
    {turn : Turn π σ ε α} {exchanges : List (Exchange ι σ ε)} {result : Except ε β} {final : σ}
    (plays : outer.Plays (turn.carry lift close) exchanges result final) :
    ∃ first rest middle state, exchanges = first ++ rest ∧ inner.Plays turn first middle state ∧
      outer.Plays (close middle state) rest result final := by
  induction exchanges generalizing turn with
  | nil =>
      cases turn with
      | finish middle state => exact ⟨[], [], middle, state, rfl, .finish middle state, plays⟩
      | pause point state => cases plays
  | cons exchange exchanges ih =>
      cases turn with
      | finish middle state =>
          exact ⟨[], _, middle, state, rfl, .finish middle state, plays⟩
      | pause point state =>
          rcases plays.head with ⟨_, same, told, onward⟩
          cases same
          rw [steps] at onward
          rcases ih onward with ⟨first, rest, middle, last, rfl, inside, outside⟩
          rcases exchange with ⟨signal, before, reply, after⟩
          rw [signals] at told
          cases told
          exact ⟨_ :: first, rest, middle, last, rfl, .pause point _ reply after inside, outside⟩

end Machine

/-- What is seen of an activity that follows a machine is a run of the machine. -/
theorem Activity.Follows.plays {machine : Machine π ι σ ε α} {activity : Activity ι σ ε α}
    {turn : Turn π σ ε α} (follows : activity.Follows machine turn)
    (environment : Environment ι σ ε) (past : List (Exchange ι σ ε)) :
    machine.Plays turn (activity.under environment past).exchanges
      (activity.under environment past).result (activity.under environment past).final := by
  induction activity generalizing turn past with
  | done result state =>
      cases follows
      exact .finish result state
  | paused signal state resume ih =>
      rcases follows with ⟨point, rfl, rfl, onward⟩
      exact .pause point state _ _ (ih _ _ (onward _ _) _)

end TileWalk
