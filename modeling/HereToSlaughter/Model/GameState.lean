import HereToSlaughter.Model.Windows

/-!
# The game state

`GameState`: the board, the open frames in the order they opened, the stack of ability pipelines,
and what each seat is being shown. A frame holds the board as it stood when it opened; `copyFrom`
restores that board and nothing else, so a snapshot here is a `Board`.

The stack is a list with its top first. A pipeline's `pid` is its identity as an object: it is
drawn from the same counter as the ids of frames, windows and effects, and the engine compares it
nowhere except where the source holds the pipeline itself.

Reference: `pipelines/game-state.ts`.
-/

namespace HereToSlaughter

open Lib

/-- `AbilityPipeline`: one ability part-way through its steps. -/
structure AbilityPipeline where
  pid : Nat
  steps : List Task
  ctx : AbilityContext
  pausedOn : Option Nat := none
  system : Bool

/-- `GameFrame`: the board before the play's effect, and the windows opened over it. -/
structure GameFrame where
  snapshot : Board
  windows : List Window := []

/-- `ChoiceLapse`: how a choice closed when nobody answered it. -/
structure ChoiceLapse where
  windowId : Nat
  respondentId : String
  type : ReactionWindowType
  /-- `'random'` when true, `'forfeited'` when false. -/
  random : Bool
  question : Option String
  deriving DecidableEq

/-- `RevealSource`: whose look a seat is being shown. -/
structure RevealSource where
  byPlayerId : String
  ofPlayerId : Option String := none
  deriving DecidableEq

/-- `GameState`. -/
structure GameState where
  board : Board
  frames : OrderedMap Nat GameFrame := .empty
  /-- The ability stack, newest first. -/
  pipelines : List AbilityPipeline := []
  revealed : OrderedMap String (List String) := .empty
  revealSources : OrderedMap String RevealSource := .empty
  lastLapse : Option ChoiceLapse := none

/-! ## Frames -/

namespace GameFrame

def hasOpenWindow (frame : GameFrame) : Bool := frame.windows.any Window.isOpen

/-- Whether the frame may still restore the board: it holds an open challenge, hero roll or
attack, or nothing open. -/
def mayRestore (frame : GameFrame) : Bool :=
  !frame.hasOpenWindow || frame.windows.any fun w => w.isOpen && w.isRestoring

/-- The card the frame is about: the first subject one of its windows names. -/
def subject (frame : GameFrame) : Option String := frame.windows.findSome? Window.subjectCardId

/-- Change one window, by id. -/
def modifyWindow (windowId : Nat) (f : Window → Window) (frame : GameFrame) : GameFrame :=
  { frame with windows := frame.windows.map fun w => if w.id = windowId then f w else w }

end GameFrame

namespace GameState

def modifyBoard (f : Board → Board) (gs : GameState) : GameState := { gs with board := f gs.board }

/-- `addFrame` over the current board: what `ReactionManager.openFrame` inserts. -/
def addFrame (frameId : Nat) (gs : GameState) : GameState :=
  { gs with frames := gs.frames.set frameId { snapshot := gs.board } }

/-- `addWindow`: nothing happens for a frame that is not open. -/
def addWindow (frameId : Nat) (window : Window) (gs : GameState) : GameState :=
  { gs with frames := gs.frames.modify frameId fun frame =>
      { frame with windows := frame.windows ++ [window] } }

def pushPipeline (pipeline : AbilityPipeline) (gs : GameState) : GameState :=
  { gs with pipelines := pipeline :: gs.pipelines }

/-- Change the pipeline with this identity. -/
def modifyPipeline (pid : Nat) (f : AbilityPipeline → AbilityPipeline) (gs : GameState) :
    GameState :=
  { gs with pipelines := gs.pipelines.map fun p => if p.pid = pid then f p else p }

/-- Change one window wherever it stands. -/
def modifyWindow (windowId : Nat) (f : Window → Window) (gs : GameState) : GameState :=
  { gs with frames := gs.frames.mapValues fun _ frame => frame.modifyWindow windowId f }

/-- `spentInto`: every card that entered an instance pile inside the frame, with the seat whose
pile it lies in, except the card the frame is about. -/
def spentInto (frame : GameFrame) (gs : GameState) : List (String × String) :=
  gs.board.parties.entries.flatMap fun (playerId, party) =>
    (party.instanceCardIds.filter fun cardId =>
      cardId ∉ frame.snapshot.instanceCardIds playerId ∧ some cardId ≠ frame.subject).map
        fun cardId => (cardId, playerId)

/-- The cards of a settled frame leave the instance piles for the discard pile. -/
def putAway (spent : List (String × String)) (b : Board) : Board :=
  spent.foldl (fun b s => (b.removeInstanceCard s.2 s.1).addToDiscardPile s.1) b

/-- The cards of a restored frame leave the hands the snapshot gave them back to. -/
def takeBack (spent : List (String × String)) (b : Board) : Board :=
  spent.foldl (fun b s => (b.removeFromHand s.2 s.1).addToDiscardPile s.1) b

/-- `releaseFrame`: the snapshot is dropped, and what was spent into the frame is put away. -/
def releaseFrame (frameId : Nat) (gs : GameState) : GameState :=
  match gs.frames.get? frameId with
  | none => gs
  | some frame =>
    { gs with
      frames := gs.frames.erase frameId
      board := putAway (gs.spentInto frame) gs.board }

/-- `restoreFrame`: the board goes back to the snapshot, the pipelines parked on the frame are
dropped, and what was spent into it stays spent. The spent cards are read before the swap. -/
def restoreFrame (frameId : Nat) (gs : GameState) : GameState :=
  match gs.frames.get? frameId with
  | none => gs
  | some frame =>
    { gs with
      frames := gs.frames.erase frameId
      pipelines := gs.pipelines.filter fun p => p.pausedOn ≠ some frameId
      board := takeBack (gs.spentInto frame) frame.snapshot }

/-- `isSpentInOpenFrame`: the card is committed to a frame that has not settled. -/
def isSpentInOpenFrame (cardId : String) (gs : GameState) : Bool :=
  gs.frames.values.any fun frame => (gs.spentInto frame).any fun spent => spent.1 = cardId

/-! ## Looking for a window -/

/-- `getFrameByWindowId`, and the window in it. -/
def windowById (gs : GameState) (windowId : Nat) : Option (Nat × Window) :=
  gs.frames.entries.findSome? fun (frameId, frame) =>
    (frame.windows.find? (·.id = windowId)).map fun w => (frameId, w)

/-- `getFrameByWindowType`: the first frame that holds a window of the type. -/
def getFrameByWindowType (gs : GameState) (type : ReactionWindowType) : Option (Nat × GameFrame) :=
  gs.frames.entries.find? fun e => e.2.windows.any (·.getType = type)

/-- The first window of a type, in the first frame that holds one. -/
def firstWindowOfType (gs : GameState) (type : ReactionWindowType) : Option (Nat × Window) :=
  (gs.getFrameByWindowType type).bind fun (frameId, frame) =>
    (frame.windows.find? (·.getType = type)).map fun w => (frameId, w)

/-- `findOpenModifiableWindow`: a hero roll, else an attack, else a challenge; of each type only
the first window of the first frame that holds one is looked at. -/
def findOpenModifiableWindow (gs : GameState) : Option (Nat × Window) :=
  [ReactionWindowType.modifier, .attack, .challenge].findSome? fun type =>
    (gs.firstWindowOfType type).filter fun e => e.2.isOpen && e.2.isModifiable

/-- `spendCard`: hand to instance pile, and the window a bonus could go into is told that somebody
is still acting. -/
def spendCard (now : Nat) (playerId cardId : String) (gs : GameState) : GameState :=
  let gs := gs.modifyBoard fun b =>
    (b.removeFromHand playerId cardId).addInstanceCard playerId cardId
  match gs.findOpenModifiableWindow with
  | none => gs
  | some (_, w) => gs.modifyWindow w.id (Window.cardSpent now)

/-- `openContest` of `PlayChallengeReaction`: the open challenge of the first frame that holds a
challenge window. -/
def openContest (gs : GameState) : Option (Nat × Window) :=
  (gs.getFrameByWindowType .challenge).bind fun (frameId, frame) =>
    (frame.windows.find? fun w => w.getType = .challenge ∧ w.isOpen).map fun w => (frameId, w)

/-- `aimModifier`: the seat the next modifier lands on, or why none can. A roll names it, a
started contest asks the player which of its two sides. -/
def aimModifier (gs : GameState) (aimedAt : Option String) : Except RefusalReason String :=
  match gs.findOpenModifiableWindow with
  | none => .error .noModifiableWindow
  | some (_, w) =>
    if w.getType ≠ .challenge then
      match w.acceptsModifierFor w.respondentId with
      | .accepted => .ok w.respondentId
      | .refused reason => .error reason
    else
      match w.acceptsModifierFor w.respondentId with
      | .refused reason => .error reason
      | .accepted =>
        match aimedAt with
        | none => .error .targetRequired
        | some target =>
          match w.acceptsModifierFor target with
          | .accepted => .ok target
          | .refused reason => .error reason

/-- `modifierWindowIdFor`. -/
def modifierWindowIdFor (gs : GameState) (targetPlayerId : String) : Option Nat :=
  gs.findOpenModifiableWindow.bind fun (_, w) =>
    if w.acceptsModifierFor targetPlayerId = .accepted then some w.id else none

/-- `valueBiasFor`. -/
def valueBiasFor (gs : GameState) (playerId targetPlayerId : String) : Option ValueBias :=
  gs.findOpenModifiableWindow.map fun (_, w) => w.valueBiasFor playerId targetPlayerId

/-- The ids of the frames that opened after `frameId`. -/
def framesAfter (gs : GameState) (frameId : Nat) : List Nat :=
  (gs.frames.keys.dropWhile (· ≠ frameId)).tail

/-- `hasOpenFramesAfter`: a window opened after `frameId` still stands. -/
def hasOpenFramesAfter (gs : GameState) (frameId : Nat) : Bool :=
  gs.frames.entries.any fun e => e.1 ∈ gs.framesAfter frameId && e.2.hasOpenWindow

/-- Every clock of the frames a condition selects started again. -/
def restartClocks (now : Nat) (select : Nat → Bool) (gs : GameState) : GameState :=
  { gs with frames := gs.frames.mapValues fun frameId frame =>
      if select frameId then { frame with windows := frame.windows.map (·.restartClock now) }
      else frame }

/-- `restartQuestionsAfter`. -/
def restartQuestionsAfter (now frameId : Nat) (gs : GameState) : GameState :=
  gs.restartClocks now fun id => id ∈ gs.framesAfter frameId

/-- `restartWindowsOutside`. -/
def restartWindowsOutside (now frameId : Nat) (gs : GameState) : GameState :=
  gs.restartClocks now fun id => id ≠ frameId

/-- `hasOpenFrames`. -/
def hasOpenFrames (gs : GameState) : Bool := gs.frames.values.any GameFrame.hasOpenWindow

/-- `hasPendingOutcome`: some frame may still restore the board. -/
def hasPendingOutcome (gs : GameState) : Bool := gs.frames.values.any GameFrame.mayRestore

/-- `openWindows`. -/
def openWindows (gs : GameState) : List Window :=
  gs.frames.values.flatMap fun frame => frame.windows.filter Window.isOpen

/-- `isBusy`: a window is open or an ability still has steps to run. -/
def isBusy (gs : GameState) : Bool := gs.hasOpenFrames || !gs.pipelines.isEmpty

/-- `noteChoiceLapse`. -/
def noteChoiceLapse (lapse : ChoiceLapse) (gs : GameState) : GameState :=
  { gs with lastLapse := some lapse }

/-! ## Reveals -/

/-- `revealTo`. -/
def revealTo (playerId : String) (cardIds : List String) (source : RevealSource)
    (gs : GameState) : GameState :=
  let current := (gs.revealed.get? playerId).getD []
  { gs with
    revealed := gs.revealed.set playerId (current ++ cardIds.filter (· ∉ current))
    revealSources := gs.revealSources.set playerId source }

/-- `hideRevealed`. -/
def hideRevealed (playerId : String) (cardIds : List String) (gs : GameState) : GameState :=
  match ((gs.revealed.get? playerId).getD []).filter (· ∉ cardIds) with
  | [] => { gs with revealed := gs.revealed.erase playerId,
                    revealSources := gs.revealSources.erase playerId }
  | left => { gs with revealed := gs.revealed.set playerId left }

end GameState

end HereToSlaughter
