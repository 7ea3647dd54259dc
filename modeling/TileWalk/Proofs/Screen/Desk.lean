import TileWalk.Proofs.Screen.Posting

/-!
# The game screen at rest

The player presses keys while the worker goes on from one notice to the next, and
the messages that are posted meanwhile are handled one after another, at any time.
When no run is under way and no message is left, the screen shows no run and no
highlighted line, and the text can be changed.
-/

namespace TileWalk

open Process Course

/-! ## Keys -/

inductive Key where
  | run
  | stop
  | restart
  | newMap
  | nextSavedMap
  | slower
  | faster
deriving DecidableEq, Repr

namespace Key

/-- What the screen does about a key. -/
def press (player : Player) (screen : GameScreen) : Key → Except Fault Unit × GameScreen
  | .run => player.run screen none
  | .stop => player.stop screen
  | .restart => player.restart screen
  | .newMap => player.newMap screen
  | .nextSavedMap => player.nextSavedMap screen
  | .slower => (.ok (), screen.changeSpeed Speed.increment)
  | .faster => (.ok (), screen.changeSpeed (-Speed.increment))

/-- The request that a key makes to the screen. -/
def request : Key → GameScreen.Request
  | .run => .run none
  | .stop => .stop
  | .restart => .restart
  | .newMap => .newMap
  | .nextSavedMap => .nextSavedMap
  | .slower => .slower
  | .faster => .faster

/-- With the turns of the two threads as they are taken at waits, a key is the request of its
name. -/
theorem press_play (screen : GameScreen) (key : Key) :
    GameScreen.silent (key.press GameScreen.player screen) = screen.perform key.request := by
  cases key <;> rfl

end Key

/-! ## The desk -/

/-- A screen in use, with the messages that wait for it and those that it has handled. -/
structure Desk where
  screen : GameScreen
  waiting : List ScreenMessage := []
  handled : List ScreenMessage := []

/-- What can happen next at a desk. -/
inductive Move where
  | press (key : Key)
  | edit (source : Text)
  /-- Someone else changes the files. -/
  | refile (disk : Storage.Disk)
  /-- The worker goes on to its next notice, or to its end. -/
  | work
  /-- The screen handles the message that has waited longest. -/
  | handle

namespace GameScreen

/-- Carries out a course while the worker stands still at its notice, unless its end is waited
for. -/
def order : Player := fun _ screen course =>
  let (result, stage) := Stage.order course screen.stage
  (result, { screen with stage })

end GameScreen

namespace Desk

/-- A new screen on a game, with its own scheduler. -/
def opened (game : Game) (source : Text) : Desk where
  screen := (GameScreen.ofGame { game with
    idle := true
    runner := none
    current := .controller
    attended := true
    trace := [] } source).mount

/-- The desk with a screen that something was posted to. -/
def after (desk : Desk) (screen : GameScreen) : Desk :=
  { desk with
    screen
    waiting := desk.waiting ++ screen.stage.game.posted.drop desk.screen.stage.game.posted.length }

def move (desk : Desk) : Move → Desk
  | .press key => desk.after (key.press GameScreen.order desk.screen).2
  | .edit source => { desk with screen := { desk.screen with source } }
  | .refile disk => { desk with screen := desk.screen.onGame fun game => { game with disk } }
  | .work => desk.after { desk.screen with stage := desk.screen.stage.goOn }
  | .handle =>
    match desk.waiting with
    | [] => desk
    | message :: rest =>
      { screen := desk.screen.handle message
        waiting := rest
        handled := desk.handled ++ [message] }

end Desk

/-! ## What the screen shows of runs -/

/-- What the screen shows of runs. -/
structure Marks where
  mounted : Bool
  running : Bool
  readOnly : Bool
  highlighted : Option Int

namespace GameScreen

def marks (screen : GameScreen) : Marks where
  mounted := screen.mounted
  running := screen.running
  readOnly := screen.readOnly
  highlighted := screen.highlighted

variable (screen : GameScreen)

@[simp] theorem call_marks (request : WidgetCall) : (screen.call request).marks = screen.marks := by
  simp only [call]
  split <;> rfl

@[simp] theorem refreshStatus_marks : screen.refreshStatus.marks = screen.marks := by
  simp [refreshStatus]

@[simp] theorem refreshMap_marks : screen.refreshMap.marks = screen.marks := by
  simp [refreshMap]

@[simp] theorem writeOutput_marks (line : OutputLine) :
    (screen.writeOutput line).marks = screen.marks := by
  simp [writeOutput]

@[simp] theorem clearConsole_marks : screen.clearConsole.marks = screen.marks := by
  simp [clearConsole]

@[simp] theorem refuse_marks (fault : Fault) : (screen.refuse fault).2.marks = screen.marks := by
  simp only [refuse]
  split <;> simp [reportLibraryError]

@[simp] theorem highlightLine_marks (line : Option Int) :
    (screen.highlightLine line).marks = { screen.marks with highlighted := line } := by
  simp only [highlightLine, refreshStatus_marks]
  split
  · rw [call_marks]
    rfl
  · split
    · rw [call_marks]
      rfl
    · rfl

@[simp] theorem setRunning_marks (mounted : screen.mounted = true) (running : Bool) :
    (screen.setRunning running).marks = { screen.marks with running, readOnly := running } := by
  simp only [setRunning, refreshStatus_marks]
  simp [marks, mounted]

/-- What a screen that has handled some messages shows of runs. -/
def shown (handled : List ScreenMessage) : Marks where
  mounted := true
  running := ScreenMessage.running handled
  readOnly := ScreenMessage.running handled
  highlighted := (ScreenMessage.marked handled).map Int.ofNat

theorem handle_marks {screen : GameScreen} {handled : List ScreenMessage}
    (shows : screen.marks = shown handled) (message : ScreenMessage) :
    (screen.handle message).marks = shown (handled ++ [message]) := by
  have mounted : screen.mounted = true := congrArg Marks.mounted shows
  simp only [shown, ScreenMessage.running_concat, ScreenMessage.marked_concat]
  cases message with
  | runOutput line => simpa [handle, shown, ScreenMessage.change?, ScreenMessage.line?] using shows
  | mapChanged => simpa [handle, shown, ScreenMessage.change?, ScreenMessage.line?] using shows
  | lineHighlighted line => simp [handle, shows, shown, ScreenMessage.change?, ScreenMessage.line?]
  | runStateChanged running =>
      simp [handle, mounted, shows, shown, ScreenMessage.change?, ScreenMessage.line?]

end GameScreen

/-! ## Keys and runs -/

/-- A key keeps what has been posted and what the screen shows of runs; what it posts agrees with
the runs. -/
structure GameScreen.Moved (screen after : GameScreen) : Prop where
  posts : after.stage.Posts screen.stage.game.posted
  marks : after.marks = screen.marks

namespace GameScreen

variable {α : Type} {screen after other : GameScreen} {before : List ScreenMessage}

theorem Moved.refl (posts : screen.stage.Posts before) : screen.Moved screen :=
  ⟨posts.since List.prefix_rfl, rfl⟩

theorem Moved.trans (first : screen.Moved after) (second : after.Moved other) :
    screen.Moved other :=
  ⟨second.posts.since (first.posts.onward.trans second.posts.onward),
    second.marks.trans first.marks⟩

/-- The widgets may show something else. -/
theorem Moved.shown (moved : screen.Moved after) (stage : other.stage = after.stage)
    (marks : other.marks = after.marks) : screen.Moved other :=
  ⟨stage ▸ moved.posts, marks.trans moved.marks⟩

theorem order_moved {course : Course α} (posts : screen.stage.Posts before)
    (respects : Stage.Respects course) : screen.Moved (order α screen course).2 :=
  ⟨respects _ _ posts, rfl⟩

theorem Moved.of_order {course : Course α} {result : Except Fault α}
    (posts : screen.stage.Posts before) (respects : Stage.Respects course)
    (ordered : order α screen course = (result, after)) : screen.Moved after := by
  have moved := order_moved posts respects
  rw [ordered] at moved
  exact moved

theorem changeSpeed_moved (posts : screen.stage.Posts before) (change : Float) :
    screen.Moved (screen.changeSpeed change) := by
  have changed : screen.Moved (screen.onGame (Game.onSession fun session =>
      session.setSpeed (session.speed + change))) :=
    ⟨(posts.since List.prefix_rfl).moved ⟨rfl, rfl, rfl, rfl⟩ rfl, rfl⟩
  exact changed.shown (by simp [changeSpeed]) (by simp [changeSpeed])

theorem nextSavedMap_moved (posts : screen.stage.Posts before) :
    screen.Moved (Key.nextSavedMap.press order screen).2 := by
  have lists : Stage.Respects (Course.withArchive screen.stage.game.library.list) :=
    Stage.tacit_respects (.withArchive _)
  simp only [Key.press, Player.nextSavedMap]
  split
  · next listed => exact (Moved.of_order posts lists listed).shown (by simp) (by simp)
  next names after listed =>
  have first := Moved.of_order posts lists listed
  split
  · exact first.shown (by simp) (by simp)
  generalize nextIndex names.length after.mapIndex = index
  have chosen : screen.Moved { after with mapIndex := some index } := first.shown rfl rfl
  have loads : Stage.Respects
      (Course.withArchive (screen.stage.game.library.load (names[index]?.getD ""))) :=
    Stage.tacit_respects (.withArchive _)
  split
  · next loaded =>
      exact chosen.trans ((Moved.of_order chosen.posts loads loaded).shown (by simp) (by simp))
  next grid later loaded =>
  have second := chosen.trans (Moved.of_order chosen.posts loads loaded)
  have resets := Stage.fullReset_respects (some grid) none
  split
  · next reset =>
      exact second.trans ((Moved.of_order second.posts resets reset).shown (by simp) (by simp))
  · exact second.trans (order_moved second.posts resets)

theorem press_moved (posts : screen.stage.Posts before) (key : Key) :
    screen.Moved (key.press order screen).2 := by
  cases key with
  | run =>
      simp only [Key.press, Player.run]
      split
      · exact order_moved posts (Stage.handOver_respects screen.source none)
      · exact .refl posts
  | stop => exact order_moved posts (Stage.tacit_respects Scheduler.stop_tacit)
  | restart =>
      simp only [Key.press, Player.restart]
      split
      · next ordered =>
          exact (Moved.of_order posts Stage.resetPosition_respects ordered).shown
            (by simp) (by simp)
      · exact order_moved posts Stage.resetPosition_respects
  | newMap =>
      have resets := Stage.fullReset_respects none none
      simp only [Key.press, Player.newMap]
      split <;> next ordered =>
        exact (Moved.of_order posts resets ordered).shown (by simp) (by simp)
  | nextSavedMap => exact nextSavedMap_moved posts
  | slower => exact changeSpeed_moved posts _
  | faster => exact changeSpeed_moved posts _

end GameScreen

/-! ## At rest -/

namespace Desk

/-- The messages of a desk are all that has been posted, and the screen shows what it has
handled. -/
structure Sound (desk : Desk) : Prop where
  posts : desk.screen.stage.Posts []
  posted : desk.screen.stage.game.posted = desk.handled ++ desk.waiting
  shown : desk.screen.marks = GameScreen.shown desk.handled

theorem opened_sound (game : Game) (source : Text) : (opened game source).Sound := by
  constructor
  · simp only [opened, GameScreen.mount_stage]
    exact Stage.posts_resting ⟨rfl, rfl, ⟨List.prefix_rfl, trivial, rfl⟩, rfl⟩ rfl
  · simp only [opened, GameScreen.mount_stage]
    rfl
  · simp [opened, GameScreen.mount]
    rfl

variable {desk : Desk}

theorem Sound.after (sound : desk.Sound) {screen : GameScreen} (moved : desk.screen.Moved screen) :
    (desk.after screen).Sound := by
  rcases moved.posts.onward with ⟨later, posted⟩
  refine ⟨moved.posts.since List.nil_prefix, ?_, moved.marks.trans sound.shown⟩
  simp only [Desk.after]
  rw [← posted, List.drop_left, sound.posted, List.append_assoc]

theorem Sound.move (sound : desk.Sound) (move : Move) : (desk.move move).Sound := by
  cases move with
  | press key => exact sound.after (GameScreen.press_moved sound.posts key)
  | edit source => exact ⟨sound.posts, sound.posted, sound.shown⟩
  | refile disk => exact ⟨sound.posts.moved ⟨rfl, rfl, rfl, rfl⟩ rfl, sound.posted, sound.shown⟩
  | work => exact sound.after ⟨Stage.goOn_posts sound.posts, rfl⟩
  | handle =>
      simp only [Desk.move]
      split
      · exact sound
      · next message rest waiting =>
          refine ⟨?_, ?_, GameScreen.handle_marks sound.shown message⟩
          · simpa using sound.posts
          · simpa [waiting] using sound.posted

theorem Sound.moves (sound : desk.Sound) (moves : List Move) : (moves.foldl Desk.move desk).Sound := by
  induction moves generalizing desk with
  | nil => exact sound
  | cons move rest ih => exact ih (sound.move move)

end Desk

/-- Whatever the player does, and however far the worker and the handling of messages have come
meanwhile: every message is handled in its turn, and the beginnings and the ends of runs that the
screen is told of take turns. When no run is under way and no message is left, the screen shows no
run and no line, and the text can be changed. -/
theorem screen_agrees_at_rest (game : Game) (source : Text) (moves : List Move) :
    let desk := moves.foldl Desk.move (Desk.opened game source)
    desk.screen.stage.game.posted = desk.handled ++ desk.waiting ∧
    Alternates true (ScreenMessage.changes desk.handled) ∧
    (desk.screen.stage.game.idle = true → desk.waiting = [] →
      desk.screen.running = false ∧ desk.screen.readOnly = false ∧
      desk.screen.highlighted = none) := by
  intro desk
  have sound : desk.Sound := (Desk.opened_sound game source).moves moves
  refine ⟨sound.posted, ?_, ?_⟩
  · have alternates := sound.posts.alternates
    rw [sound.posted, ScreenMessage.changes_append] at alternates
    exact alternates.of_append
  · intro idle empty
    have resting := sound.posts.resting (sound.posts.at_rest idle)
    have all : desk.screen.stage.game.posted = desk.handled := by
      rw [sound.posted, empty, List.append_nil]
    have running := resting.told.running
    have cleared := resting.cleared
    rw [all] at running cleared
    have shows := sound.shown
    rw [GameScreen.shown, running, cleared] at shows
    exact ⟨congrArg Marks.running shows, congrArg Marks.readOnly shows,
      congrArg Marks.highlighted shows⟩

/-- A run is started, a second one is refused, and the first one is cut short by putting the agent
back; another run is stopped before it begins. -/
theorem screen_agrees_at_rest_interrupted :
    let moves : List Move :=
      [.press .run, .work, .work, .press .run, .handle, .handle, .press .restart, .press .run,
        .press .stop] ++ List.replicate 5 .work ++ List.replicate 8 .handle
    let desk := moves.foldl Desk.move (Desk.opened (Game.onGrass 3) "print('a')\nprint('b')")
    desk.screen.stage.game.idle = true ∧ desk.waiting = [] ∧
    ScreenMessage.changes desk.handled = [true, false, true, false] ∧
    Alternates true (ScreenMessage.changes desk.handled) ∧
    desk.screen.running = false ∧ desk.screen.readOnly = false ∧
    desk.screen.highlighted = none := by
  intro moves
  have idle : (moves.foldl Desk.move
      (Desk.opened (Game.onGrass 3) "print('a')\nprint('b')")).screen.stage.game.idle = true := by
    decide +kernel
  have empty : (moves.foldl Desk.move
      (Desk.opened (Game.onGrass 3) "print('a')\nprint('b')")).waiting = [] := by
    decide +kernel
  have said : ScreenMessage.changes (moves.foldl Desk.move
      (Desk.opened (Game.onGrass 3) "print('a')\nprint('b')")).handled =
        [true, false, true, false] := by
    decide +kernel
  have agrees := screen_agrees_at_rest (Game.onGrass 3) "print('a')\nprint('b')" moves
  exact ⟨idle, empty, said, agrees.2.1, agrees.2.2 idle empty⟩

end TileWalk
