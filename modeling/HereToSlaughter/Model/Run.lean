import HereToSlaughter.Model.CreateGame

/-!
# The doors of a running game

What reaches a game from outside: a player's command, and the timers: a window's, the turn's, and
the one that ends a look at revealed cards. Each is handled as one uninterrupted entry.

A command that throws is answered with an internal error, and the table plays on from whatever
state the throw left it in. `Course` follows a table through such commands as well. `Step` is one
handled input that does not throw half-way, and `Reach` the states a table can be in between two of
them: what is proved of `Reach` holds in the runs in which no input throws half-way.

Reference: `pipelines/reaction-manager.ts`, `game-server/command-dispatcher.service.ts`.
-/

namespace HereToSlaughter

open EngineM

/-- The commands that are no action: `EngineCommand`, with what each carries. A choice is whatever
the client sent; `none` is anything but a string or a whole number. -/
inductive Command
  | action (kind : ActionKind)
  | applyModifier (cardId : String) (value : Int) (targetPlayerId : Option String)
  | challenge (cardId : String)
  | submitChoice (windowId : Nat) (choice : Option Pick)
  | passWindow (windowId : Nat)

/-- Everything that can happen to a table between two rests. -/
inductive Input
  | command (playerId : String) (command : Command)
  | windowLapse (windowId : Nat)
  | turnLapse
  | revealLapse
  | tick (ms : Nat)

section
variable (T : Table) (em : Emit)

/-- `ReactionManager.submitReaction`: checked, then run. -/
def submitReaction (check : Except EngineError RequestResult) (run : EngineM Unit) :
    EngineM RequestResult := do
  let result ← orThrow check
  if result.isAccepted then
    run
    return .accepted
  else return result

/-- `ReactionManager.submitChoice`. An answer sent to a window that is no choice lands on a roll
without a value, and is refused by a challenge. -/
def submitChoice (windowId : Nat) (playerId : String) (choice : Option Pick) :
    EngineM RequestResult := do
  match (← getGs).windowById windowId with
  | none => return .refused .noSuchWindow
  | some (frameId, w) =>
    if w.isOpen then
      match w.body with
      | .roll body => submitToRoll em frameId w body playerId none none none
      | .challenge _ => return .refused .challengeNotStarted
      | .choice body => submitToChoice T em frameId w body playerId choice
    else return .refused .noSuchWindow

/-- Every seat that may pass has. -/
def allPassed (b : Board) (w : Window) : Bool :=
  b.seats.all fun seat => !w.canPass seat || w.passedBy.contains seat

/-- `ReactionManager.pass`: the window settles with the last seat that could still act on it. -/
def pass (windowId : Nat) (playerId : String) : EngineM RequestResult := do
  match (← getGs).windowById windowId with
  | none => return .refused .noSuchWindow
  | some (frameId, w) =>
    if !w.isOpen then return .refused .noSuchWindow
    else if !w.canPass playerId then return .refused .windowNotPassable
    else
      modifyGs (GameState.modifyWindow windowId (Window.pass playerId))
      let passed := w.pass playerId
      if allPassed (← getGs).board passed then resolve T em frameId passed else pure ()
      return .accepted

/-- `CommandDispatcherService.route`. -/
def route (fuel : Nat) (playerId : String) : Command → EngineM RequestResult
  | .action kind => enqueue T em fuel { playerId, kind }
  | .applyModifier cardId value targetPlayerId => do
    submitReaction (canPlayModifier T (← getGs) playerId cardId value targetPlayerId)
      (playModifier em playerId cardId value targetPlayerId)
  | .challenge cardId => do
    submitReaction (canPlayChallenge (← EngineM.now) (← getGs) playerId cardId)
      (playChallenge em playerId cardId)
  | .submitChoice windowId choice => submitChoice T em windowId playerId choice
  | .passWindow windowId => pass T em windowId playerId

/-! ## Timers -/

/-- A window's timer: the window settles once its deadline has passed. -/
def windowLapse (windowId : Nat) : EngineM Unit := do
  match (← getGs).windowById windowId with
  | none => pure ()
  | some (frameId, w) =>
    if w.deadline ≤ (← EngineM.now) then resolve T em frameId w else pure ()

/-- The turn's timer. -/
def turnLapse (fuel : Nat) : EngineM Unit := do
  let w ← get
  match w.turnManager.clock, w.turnManager.getTurnDeadline with
  | some turn, some deadline => if deadline ≤ w.now then lapse T em fuel turn else pure ()
  | _, _ => pure ()

/-- The timer of the oldest reveal. -/
def revealLapse : EngineM Unit := do
  let w ← get
  match w.reveals with
  | [] => pure ()
  | reveal :: rest =>
    if reveal.due ≤ w.now then
      set { w with reveals := rest }
      modifyGs fun gs => reveal.seats.foldl (fun gs seat => gs.hideRevealed seat reveal.cardIds) gs
      em (.revealEnded reveal.ownerId reveal.cardIds)
    else pure ()

end

/-- One input handled, with fuel for the nesting of events. -/
def handle (T : Table) (fuel : Nat) : Input → EngineM Unit
  | .command playerId command => do let _ ← route T (emit T fuel) fuel playerId command
  | .windowLapse windowId => windowLapse T (emit T fuel) windowId
  | .turnLapse => turnLapse T (emit T fuel) fuel
  | .revealLapse => revealLapse (emit T fuel)
  | .tick ms => modify fun w => { w with now := w.now + ms }

/-! ## Runs -/

/-- One input takes the world from `w` to `w'`, and does not throw half-way: it returns, or its
throw left everything as it was. -/
inductive Step (T : Table) (w : World) (input : Input) : World → Prop
  | ok {fuel : Nat} {w' : World} (h : (handle T fuel input).run w = .ok () w') : Step T w input w'
  | threw {fuel : Nat} {message : String}
      (h : (handle T fuel input).run w = .error (.thrown message) w) : Step T w input w

/-- The states a table dealt by `setup` can rest in, in the runs in which no input throws half-way:
once the game has started, and after every input. -/
inductive Reach (setup : GameSetup) : World → Prop
  | start {fuel : Nat} {w w' : World} (deal : createGame setup = .ok w)
      (h : (startGame setup fuel).run w = .ok () w') : Reach setup w'
  | step {w w' : World} {input : Input} (reach : Reach setup w)
      (h : Step setup.table w input w') : Reach setup w'

/-- One input leaves the table in `w'`, and the table plays on: the input returns, or it is a
command that throws. `CommandDispatcherService` answers the throw and takes nothing back that was
written before it. A timer that throws brings the server down. -/
inductive PlaysOn (T : Table) (fuel : Nat) (w : World) : Input → World → Prop
  | ok {input : Input} {w' : World} (h : (handle T fuel input).run w = .ok () w') :
    PlaysOn T fuel w input w'
  | threw {playerId : String} {command : Command} {message : String} {w' : World}
      (h : (handle T fuel (.command playerId command)).run w = .error (.thrown message) w') :
    PlaysOn T fuel w (.command playerId command) w'

/-- The states a table can be in when all the inputs it has had meet a condition, whether they have
returned or thrown. -/
inductive Course (setup : GameSetup) (meets : Nat → World → Input → Prop) : World → Prop
  | start {fuel : Nat} {w w' : World} (deal : createGame setup = .ok w)
      (h : (startGame setup fuel).run w = .ok () w') : Course setup meets w'
  | step {fuel : Nat} {w w' : World} {input : Input} (course : Course setup meets w)
      (hmeets : meets fuel w input)
      (h : PlaysOn setup.table fuel w input w') : Course setup meets w'

/-- The input does not throw half-way: if it throws, it leaves the world as it was. -/
def Whole (T : Table) (fuel : Nat) (w : World) (input : Input) : Prop :=
  ∀ message w', (handle T fuel input).run w = .error (.thrown message) w' → w' = w

section
variable {setup : GameSetup} {w : World} {meets meets' : Nat → World → Input → Prop}

/-- Inputs that meet a condition meet every weaker one. -/
theorem Course.weaken (h : Course setup meets w)
    (hmeets : ∀ fuel w input, meets fuel w input → meets' fuel w input) :
    Course setup meets' w := by
  induction h with
  | start deal h => exact .start deal h
  | step _ hinput hplays ih => exact ih.step (hmeets _ _ _ hinput) hplays

/-- `Reach` is what the runs come to in which no input throws half-way. -/
theorem course_whole_iff : Course setup (Whole setup.table) w ↔ Reach setup w := by
  constructor
  · intro h
    induction h with
    | start deal h => exact .start deal h
    | step _ hwhole hplays ih =>
      cases hplays with
      | ok hrun => exact ih.step (.ok hrun)
      | threw hrun => exact hwhole _ _ hrun ▸ ih
  · intro h
    induction h with
    | start deal h => exact .start deal h
    | step _ hstep ih =>
      cases hstep with
      | ok hrun => exact ih.step (fun _ _ herror => nomatch hrun.symm.trans herror) (.ok hrun)
      | threw => exact ih

end

end HereToSlaughter
