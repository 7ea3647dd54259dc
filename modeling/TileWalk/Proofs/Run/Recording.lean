import TileWalk.Application
import TileWalk.Proofs.Run.Faults
import TileWalk.Proofs.Run.OuterReset

/-!
# Runs that are only recorded

Where an observer does nothing but record, a run is one in an environment that never
disturbs it. So on a square map only a numeral that is too long makes it fail.
-/

namespace TileWalk

open Process Course

/-- The environment in which all notices are recorded. -/
def Environment.recording : Environment Point Game Fault
  | _, .notice notice, game => (.ok (), game.record notice)
  | _, .signal _, game => (.ok (), game)

theorem Environment.recording_quiet : Environment.recording.Quiet := by
  rintro past (notice | signal) game
  · exact ⟨rfl, game.record_undisturbed notice⟩
  · exact ⟨rfl, rfl, rfl, rfl, rfl⟩

/-- The controller ends an activity without signals as the recording environment does. -/
theorem Stage.conduct_recording {α : Type} (work : List SourceLine → Play Unit)
    (activity : Activity Point Game Fault α) (past : List (Exchange Point Game Fault))
    (held : Option Held)
    (notices : ∀ exchange ∈ (activity.under .recording past).exchanges,
      ∃ notice, exchange.signal = .notice notice) :
    (conduct work (activity.attend .recording) held).1 =
      (activity.under .recording past).result := by
  induction activity generalizing past with
  | done result game => rfl
  | paused point game resume ih =>
      simp only [Activity.under, List.forall_mem_cons] at notices ⊢
      rcases notices with ⟨⟨notice, rfl⟩, notices⟩
      exact ih (.ok ()) (game.record notice) _ notices

/-- A run that is recorded on a square map fails only for a numeral that is too long. -/
theorem Stage.run_recorded {source : Text} {game : Game} (square : game.Square) {fault : Fault}
    (failed : (({ game } : Stage).perform .recording (Scheduler.run source)).1 = .error fault) :
    ∃ cause, fault = .longNumeral cause := by
  have answers := Environment.recording_quiet.answers
  by_cases filled : SourceLine.ofSource source = []
  · simp [Stage.perform, Course.attend, Scheduler.run_blank filled, Activity.attend,
      Stage.conduct] at failed
  by_cases free : game.Free
  · have claimed : (game.claimed game.current).Square := square
    rcases execute_safe answers (SourceLine.ofSource source) claimed with ⟨explained, within⟩
    have ran := Scheduler.run_under filled free .recording
    have notices : ∀ exchange ∈ ((Scheduler.run source game).under .recording []).exchanges,
        ∃ notice, exchange.signal = .notice notice := by
      rw [ran]
      intro exchange seen
      rcases List.append_of_mem seen with ⟨first, rest, split⟩
      rcases within first exchange rest split with ⟨waypoint, told, -⟩
      exact ⟨waypoint.notice, told.symm⟩
    have result := Stage.conduct_recording
      (fun lines => (Scheduler.execute lines).attend .recording) _ [] none notices
    rw [ran] at result
    have failed := result.symm.trans failed
    rcases explained with ends | ⟨cause, fails, -⟩
    · simp [ends, Except.map] at failed
    · simp only [fails, Except.map, Except.error.injEq] at failed
      exact ⟨cause, failed.symm⟩
  · simp [Stage.perform, Course.attend, Scheduler.run_busy filled free, Activity.attend,
      Stage.conduct] at failed

end TileWalk
