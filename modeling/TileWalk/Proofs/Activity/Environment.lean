import TileWalk.Run.Activity

/-!
# Activities in an environment

An environment answers the pauses of an activity. It knows what happened at
the pauses before, so it can stand for observers with a memory, for another
thread that acts while the activity is paused, or for both. In an environment
every activity comes to an end, and the exchanges on the way are all that can be
seen of it from outside.
-/

namespace TileWalk

/-- What happened at one pause of an activity. -/
structure Exchange (ι σ ε : Type) where
  signal : ι
  /-- The state in which the activity paused. -/
  before : σ
  /-- How the activity was resumed. -/
  reply : Except ε Unit
  /-- The state in which the activity was resumed. -/
  after : σ

/-- A way to answer the pauses of an activity, which may depend on the exchanges
so far. -/
abbrev Environment (ι σ ε : Type) :=
  List (Exchange ι σ ε) → ι → σ → Except ε Unit × σ

/-- An activity that has been carried to its end. -/
structure Ending (ι σ ε α : Type) where
  exchanges : List (Exchange ι σ ε)
  result : Except ε α
  final : σ

variable {ι σ ε α β : Type}

def Environment.exchange (environment : Environment ι σ ε) (past : List (Exchange ι σ ε))
    (signal : ι) (state : σ) : Exchange ι σ ε where
  signal
  before := state
  reply := (environment past signal state).1
  after := (environment past signal state).2

/-- Carries an activity to its end in an environment that remembers `past`. -/
def Activity.under (environment : Environment ι σ ε) :
    Activity ι σ ε α → List (Exchange ι σ ε) → Ending ι σ ε α
  | .done result state, _ => { exchanges := [], result, final := state }
  | .paused signal state resume, past =>
    let exchange := environment.exchange past signal state
    let rest := (resume exchange.reply exchange.after).under environment (past ++ [exchange])
    { rest with exchanges := exchange :: rest.exchanges }

namespace Environment

/-- The environment that makes a call of its own at the pause with a given
number. Pauses of the call are answered as all others; the activity is then
resumed as the call ended. -/
def calling (environment : Environment ι σ ε) (index : Nat)
    (call : Process ι σ ε Unit) : Environment ι σ ε := fun past signal state =>
  let answer := environment past signal state
  if past.length = index then
    let made := (call answer.2).under environment past
    (made.result, made.final)
  else
    answer

/-- The answers of an environment, given after `past`, are those in a list of
exchanges. -/
def Gave (environment : Environment ι σ ε) :
    List (Exchange ι σ ε) → List (Exchange ι σ ε) → Prop
  | _, [] => True
  | past, exchange :: rest =>
    exchange = environment.exchange past exchange.signal exchange.before ∧
      environment.Gave (past ++ [exchange]) rest

theorem gave_under (environment : Environment ι σ ε) (activity : Activity ι σ ε α)
    (past : List (Exchange ι σ ε)) :
    environment.Gave past (activity.under environment past).exchanges := by
  induction activity generalizing past with
  | done => trivial
  | paused signal state resume ih => exact ⟨rfl, ih _ _ _⟩

/-- What an environment never fails to do it does at every exchange. -/
theorem Gave.all {environment : Environment ι σ ε} {property : Exchange ι σ ε → Prop}
    (always : ∀ past signal state, property (environment.exchange past signal state))
    {past exchanges : List (Exchange ι σ ε)} (gave : environment.Gave past exchanges) :
    ∀ exchange ∈ exchanges, property exchange := by
  induction exchanges generalizing past with
  | nil => simp
  | cons exchange rest ih =>
      intro other membership
      rcases List.mem_cons.mp membership with rfl | membership
      · rw [gave.1]
        exact always past other.signal other.before
      · exact ih gave.2 other membership

theorem Gave.drop {environment : Environment ι σ ε} {past first rest : List (Exchange ι σ ε)}
    (gave : environment.Gave past (first ++ rest)) : environment.Gave (past ++ first) rest := by
  induction first generalizing past with
  | nil => simpa using gave
  | cons exchange first ih => simpa using ih gave.2

/-- Past the pause at which the call is made, the environment is as without it. -/
theorem Gave.of_calling {environment : Environment ι σ ε} {index : Nat}
    {call : Process ι σ ε Unit} {past exchanges : List (Exchange ι σ ε)}
    (later : index < past.length)
    (gave : (environment.calling index call).Gave past exchanges) :
    environment.Gave past exchanges := by
  induction exchanges generalizing past with
  | nil => trivial
  | cons exchange rest ih =>
      have different : past.length ≠ index := Nat.ne_of_gt later
      refine ⟨?_, ih (by simp; omega) gave.2⟩
      simpa [Environment.exchange, calling, different] using gave.1

end Environment

namespace Activity

variable (environment : Environment ι σ ε)

@[simp] theorem under_done (result : Except ε α) (state : σ)
    (past : List (Exchange ι σ ε)) :
    (Activity.done result state).under environment past = ⟨[], result, state⟩ := rfl

/-- What goes on where an activity ends remembers what was seen of it. -/
theorem under_andThen (activity : Activity ι σ ε α) (next : Except ε α → σ → Activity ι σ ε β)
    (past : List (Exchange ι σ ε)) :
    let first := activity.under environment past
    let rest := (next first.result first.final).under environment (past ++ first.exchanges)
    (activity.andThen next).under environment past =
      { rest with exchanges := first.exchanges ++ rest.exchanges } := by
  induction activity generalizing past with
  | done => simp
  | paused signal state resume ih =>
      simp only [andThen_paused, under]
      rw [ih]
      simp

theorem under_andThen_done (activity : Activity ι σ ε α) (last : Except ε α → Except ε β)
    (past : List (Exchange ι σ ε)) :
    (activity.andThen fun result state => .done (last result) state).under environment past =
      { exchanges := (activity.under environment past).exchanges
        result := last (activity.under environment past).result
        final := (activity.under environment past).final } := by
  induction activity generalizing past with
  | done => rfl
  | paused signal state resume ih =>
      simp only [andThen_paused, under]
      rw [ih]

/-- Two endings of one activity, in an environment with a call at one pause and
in the same environment without it. Up to that pause they agree; if the activity
never comes so far, they are the same. -/
theorem under_calling (activity : Activity ι σ ε α) (call : Process ι σ ε Unit)
    (index : Nat) (past : List (Exchange ι σ ε)) (early : past.length ≤ index) :
    (past.length + (activity.under environment past).exchanges.length ≤ index ∧
      activity.under (environment.calling index call) past =
        activity.under environment past) ∨
    ∃ before point other rest tail,
      (activity.under environment past).exchanges = before ++ point :: rest ∧
      (activity.under (environment.calling index call) past).exchanges =
        before ++ other :: tail ∧
      past.length + before.length = index ∧
      other.signal = point.signal ∧ other.before = point.before ∧
      other.reply = ((call point.after).under environment (past ++ before)).result ∧
      other.after = ((call point.after).under environment (past ++ before)).final := by
  induction activity generalizing past with
  | done result state => exact .inl ⟨by simpa using early, rfl⟩
  | paused signal state resume ih =>
      by_cases here : past.length = index
      · right
        refine ⟨[], _, _, _, _, rfl, rfl, by simpa using here, rfl, rfl, ?_, ?_⟩
        all_goals simp [Environment.exchange, Environment.calling, here]
      · have same : (environment.calling index call).exchange past signal state =
            environment.exchange past signal state := by
          simp [Environment.exchange, Environment.calling, here]
        have longer : (past ++ [environment.exchange past signal state]).length ≤ index := by
          simp only [List.length_append, List.length_cons, List.length_nil]
          omega
        simp only [under, same]
        rcases ih _ _ _ longer with ⟨short, equal⟩ |
          ⟨before, point, other, rest, tail, full, cut, length, facts⟩
        · left
          refine ⟨?_, by rw [equal]⟩
          simp only [List.length_append, List.length_cons, List.length_nil] at short ⊢
          omega
        · right
          refine ⟨environment.exchange past signal state :: before, point, other, rest, tail,
            by rw [full]; rfl, by rw [cut]; rfl, ?_, by simpa using facts⟩
          simp only [List.length_append, List.length_cons, List.length_nil] at length ⊢
          omega

end Activity

end TileWalk
