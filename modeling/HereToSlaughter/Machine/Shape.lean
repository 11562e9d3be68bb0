import HereToSlaughter.Model.Run

/-!
# The shape of a world

What the properties of runs depend on: the board, the open frames with their snapshots and, of
each window, its id, whether it is closed, its type and the card it is about; the pipelines
without their contexts; the turn and its queue; the log and the history. Clocks, totals, passes,
contexts, reveals and the random stream are forgotten, so that most of what a run does to a
window or a pipeline leaves the shape alone.

Each operation of the model is read off the shape here, once.
-/

namespace HereToSlaughter

open Lib

/-- What is kept of a window. -/
structure WindowShape where
  id : Nat
  resolved : Bool
  type : ReactionWindowType
  subject : Option String

/-- What is kept of a frame. -/
structure FrameShape where
  id : Nat
  snapshot : Board
  windows : List WindowShape

/-- What is kept of a pipeline. -/
structure PipelineShape where
  pid : Nat
  steps : List Task
  pausedOn : Option Nat
  system : Bool

/-- What is kept of a world. -/
structure Shape where
  board : Board
  frames : List FrameShape
  pipelines : List PipelineShape
  queue : List Action
  turn : Nat
  playerOrder : List String
  log : List LogRecord
  history : List Mark
  nextId : Nat

/-- The shape of a window. -/
def Window.shape (w : Window) : WindowShape := ⟨w.id, w.resolved, w.getType, w.subjectCardId⟩

/-- The shape of a frame filed under `id`. -/
def GameFrame.shape (id : Nat) (frame : GameFrame) : FrameShape :=
  ⟨id, frame.snapshot, frame.windows.map Window.shape⟩

/-- The shape of a pipeline: its context is left out. -/
def AbilityPipeline.shape (p : AbilityPipeline) : PipelineShape :=
  ⟨p.pid, p.steps, p.pausedOn, p.system⟩

/-- The shapes of the frames, in the order they opened. -/
def GameState.frameShapes (gs : GameState) : List FrameShape :=
  gs.frames.entries.map fun e => e.2.shape e.1

/-- The shapes of the pipelines, the top first. -/
def GameState.pipelineShapes (gs : GameState) : List PipelineShape :=
  gs.pipelines.map AbilityPipeline.shape

/-- The shape of a world. -/
def World.shape (w : World) : Shape where
  board := w.gs.board
  frames := w.gs.frameShapes
  pipelines := w.gs.pipelineShapes
  queue := w.turnManager.actionQueue
  turn := w.turnManager.turn
  playerOrder := w.playerOrder
  log := w.log
  history := w.history
  nextId := w.nextId

/-- A game state that a mark recorded over a world of this shape. -/
structure GameState.Matches (gs : GameState) (s : Shape) : Prop where
  board : gs.board = s.board
  frames : gs.frameShapes = s.frames
  pipelines : gs.pipelineShapes = s.pipelines

/-- A state matches the shape of its own world. -/
theorem World.gs_matches (w : World) : w.gs.Matches w.shape := ⟨rfl, rfl, rfl⟩

/-! ## Questions the shape answers -/

namespace WindowShape

/-- `isOpen`. -/
def isOpen (w : WindowShape) : Bool := !w.resolved

/-- A challenge, a hero roll or an attack: a window whose outcome may restore the board. -/
def isRestoring (w : WindowShape) : Bool :=
  match w.type with
  | .challenge | .modifier | .attack => true
  | _ => false

/-- `close`. -/
def close (w : WindowShape) : WindowShape := { w with resolved := true }

end WindowShape

namespace FrameShape

/-- `hasOpenWindow`. -/
def hasOpenWindow (f : FrameShape) : Bool := f.windows.any WindowShape.isOpen

/-- `mayRestore`. -/
def mayRestore (f : FrameShape) : Bool :=
  !f.hasOpenWindow || f.windows.any fun w => w.isOpen && w.isRestoring

/-- The card a frame is about: that of its first window which names one. -/
def subject (f : FrameShape) : Option String := f.windows.findSome? WindowShape.subject

/-- Close the windows with an id. -/
def close (windowId : Nat) (f : FrameShape) : FrameShape :=
  { f with windows := f.windows.map fun w => if w.id = windowId then w.close else w }

/-- Insert a window. -/
def addWindow (w : WindowShape) (f : FrameShape) : FrameShape :=
  { f with windows := f.windows ++ [w] }

end FrameShape

/-- A frame is open. -/
def frameOpen (frameId : Nat) (frames : List FrameShape) : Prop := ∃ f ∈ frames, f.id = frameId

namespace Shape

/-- `spentInto`. -/
def spentInto (s : Shape) (f : FrameShape) : List (String × String) :=
  s.board.parties.entries.flatMap fun (playerId, party) =>
    (party.instanceCardIds.filter fun cardId =>
      cardId ∉ f.snapshot.instanceCardIds playerId ∧ some cardId ≠ f.subject).map
        fun cardId => (cardId, playerId)

/-- `isSpentInOpenFrame`. -/
def isSpentInOpenFrame (s : Shape) (cardId : String) : Bool :=
  s.frames.any fun f => (s.spentInto f).any fun spent => spent.1 = cardId

/-- `hasOpenFrames`. -/
def hasOpenFrames (s : Shape) : Bool := s.frames.any FrameShape.hasOpenWindow

/-- `hasPendingOutcome`. -/
def hasPendingOutcome (s : Shape) : Bool := s.frames.any FrameShape.mayRestore

/-- `isBusy`. -/
def isBusy (s : Shape) : Bool := s.hasOpenFrames || !s.pipelines.isEmpty

end Shape

/-- The ids of the frames that opened after `frameId`. -/
def framesAfter (frameId : Nat) (frames : List FrameShape) : List Nat :=
  ((frames.map FrameShape.id).dropWhile (· ≠ frameId)).tail

/-- A window opened after `frameId` still stands. -/
def openAfter (frameId : Nat) (frames : List FrameShape) : Bool :=
  frames.any fun f => f.id ∈ framesAfter frameId frames && f.hasOpenWindow

/-- Insert an empty frame over a board: in place when the id is taken, at the end when it is new. -/
def insertFrame (frameId : Nat) (snapshot : Board) (frames : List FrameShape) : List FrameShape :=
  if frames.any fun f => f.id = frameId then
    frames.map fun f => if f.id = frameId then ⟨frameId, snapshot, []⟩ else f
  else frames ++ [⟨frameId, snapshot, []⟩]

/-! ## Windows and frames -/

namespace GameState
variable (gs : GameState)

/-- The shape knows which frames are open. -/
theorem frameOpen_iff {frameId : Nat} :
    frameOpen frameId gs.frameShapes ↔ gs.frames.has frameId = true := by
  simp only [frameOpen, frameShapes, List.mem_map, OrderedMap.has_iff, OrderedMap.keys]
  constructor
  · rintro ⟨_, ⟨e, he, rfl⟩, rfl⟩; exact ⟨e, he, rfl⟩
  · rintro ⟨e, he, rfl⟩; exact ⟨_, ⟨e, he, rfl⟩, rfl⟩

/-- A frame of the shape is a frame of the state. -/
theorem mem_frameShapes {gs : GameState} {f : FrameShape} (h : f ∈ gs.frameShapes) :
    ∃ frame, (f.id, frame) ∈ gs.frames.entries ∧ frame.shape f.id = f := by
  obtain ⟨⟨frameId, frame⟩, he, rfl⟩ := List.mem_map.1 h
  exact ⟨frame, he, rfl⟩

/-- The frames keep their ids. -/
theorem map_id_frameShapes : gs.frameShapes.map FrameShape.id = gs.frames.keys := by
  simp [frameShapes, OrderedMap.keys, GameFrame.shape, Function.comp_def]

end GameState

/-- The shape knows whether a window of a frame is open. -/
theorem GameFrame.shape_hasOpenWindow (id : Nat) (frame : GameFrame) :
    (frame.shape id).hasOpenWindow = frame.hasOpenWindow := by
  simp only [FrameShape.hasOpenWindow, shape, hasOpenWindow, List.any_map]
  rfl

/-- It knows whether the frame may still be rolled back. -/
theorem GameFrame.shape_mayRestore (id : Nat) (frame : GameFrame) :
    (frame.shape id).mayRestore = frame.mayRestore := by
  rw [FrameShape.mayRestore, mayRestore, shape_hasOpenWindow]
  simp only [shape, List.any_map]
  rfl

/-- It knows what the frame is about. -/
theorem GameFrame.shape_subject (id : Nat) (frame : GameFrame) :
    (frame.shape id).subject = frame.subject := by
  simp only [FrameShape.subject, shape, subject, List.findSome?_map]
  rfl

namespace GameState
variable (gs : GameState)

/-- It knows whether a window is open. -/
theorem hasOpenFrames_shape (w : World) : w.shape.hasOpenFrames = w.gs.hasOpenFrames := by
  simp only [Shape.hasOpenFrames, World.shape, frameShapes, hasOpenFrames, OrderedMap.values,
    List.any_map, Function.comp_def, GameFrame.shape_hasOpenWindow]

/-- It knows whether an outcome is pending. -/
theorem hasPendingOutcome_shape (w : World) :
    w.shape.hasPendingOutcome = w.gs.hasPendingOutcome := by
  simp only [Shape.hasPendingOutcome, World.shape, frameShapes, hasPendingOutcome,
    OrderedMap.values, List.any_map, Function.comp_def, GameFrame.shape_mayRestore]

/-- It knows whether the board is busy. -/
theorem isBusy_shape (w : World) : w.shape.isBusy = w.gs.isBusy := by
  simp only [Shape.isBusy, isBusy, hasOpenFrames_shape]
  simp [World.shape, pipelineShapes]

/-- It knows what a frame has spent. -/
theorem spentInto_shape (w : World) (frameId : Nat) (frame : GameFrame) :
    w.shape.spentInto (frame.shape frameId) = w.gs.spentInto frame := by
  simp only [Shape.spentInto, spentInto, GameFrame.shape_subject]
  rfl

/-- It knows whether a card is spent in an open frame. -/
theorem isSpentInOpenFrame_shape (w : World) (cardId : String) :
    w.shape.isSpentInOpenFrame cardId = w.gs.isSpentInOpenFrame cardId := by
  simp only [Shape.isSpentInOpenFrame, isSpentInOpenFrame, OrderedMap.values]
  simp only [show w.shape.frames = w.gs.frameShapes from rfl, frameShapes, List.any_map,
    Function.comp_def, spentInto_shape]

/-- It knows whether a window stands over a frame. -/
theorem openAfter_shape (w : World) (frameId : Nat) :
    openAfter frameId w.shape.frames = w.gs.hasOpenFramesAfter frameId := by
  have hafter : HereToSlaughter.framesAfter frameId w.gs.frameShapes =
    w.gs.framesAfter frameId := by
    rw [HereToSlaughter.framesAfter, map_id_frameShapes, framesAfter]
  rw [openAfter, hasOpenFramesAfter, show w.shape.frames = w.gs.frameShapes from rfl, hafter]
  simp only [frameShapes, List.any_map, Function.comp_def, GameFrame.shape_hasOpenWindow]
  rfl

variable {gs} in
/-- A window that stands after a frame stands. -/
theorem hasOpenFrames_of_after {frameId : Nat} (h : gs.hasOpenFramesAfter frameId = true) :
    gs.hasOpenFrames = true := by
  obtain ⟨e, he, hstands⟩ := List.any_eq_true.1 h
  exact List.any_eq_true.2 ⟨e.2, List.mem_map_of_mem he, (Bool.and_eq_true _ _ |>.mp hstands).2⟩

/-! ## What operations do to the frames -/

/-- A frame added is an empty one inserted. -/
theorem frameShapes_addFrame (frameId : Nat) :
    (gs.addFrame frameId).frameShapes = insertFrame frameId gs.board gs.frameShapes := by
  by_cases h : frameId ∈ gs.frames.keys
  · have hopen : (gs.frameShapes.any fun f => f.id = frameId) = true := by
      simpa [frameOpen] using gs.frameOpen_iff.2 (OrderedMap.has_iff.2 h)
    rw [insertFrame, if_pos hopen]
    simp only [addFrame, frameShapes, OrderedMap.set_of_mem h, OrderedMap.entries_modify,
      List.map_map, Function.comp_def]
    refine List.map_congr_left fun e _ => ?_
    by_cases he : e.1 = frameId <;> simp [GameFrame.shape, he]
  · have hopen : ¬ (gs.frameShapes.any fun f => f.id = frameId) = true := fun hf =>
      h (OrderedMap.has_iff.1 (gs.frameOpen_iff.1 (by simpa [frameOpen] using hf)))
    rw [insertFrame, if_neg hopen]
    simp [addFrame, frameShapes, OrderedMap.entries_set_of_notMem h, GameFrame.shape]

/-- A window added is added to its frame. -/
theorem frameShapes_addWindow (frameId : Nat) (w : Window) :
    (gs.addWindow frameId w).frameShapes =
      gs.frameShapes.map fun f => if f.id = frameId then f.addWindow w.shape else f := by
  simp only [addWindow, frameShapes, OrderedMap.entries_modify, List.map_map, Function.comp_def]
  refine List.map_congr_left fun e _ => ?_
  by_cases he : e.1 = frameId <;> simp [GameFrame.shape, FrameShape.addWindow, he]

/-- A frame erased is filtered out. -/
theorem frameShapes_erase (frameId : Nat) (frames : OrderedMap Nat GameFrame) :
    (frames.erase frameId).entries.map (fun e => e.2.shape e.1) =
      (frames.entries.map fun e => e.2.shape e.1).filter fun f => f.id ≠ frameId := by
  rw [OrderedMap.entries_erase, List.filter_map]
  rfl

/-- Changing windows without changing their shapes. -/
theorem frameShapes_modifyWindow_of_shape {windowId : Nat} {f : Window → Window}
    (h : ∀ w, (f w).shape = w.shape) :
    (gs.modifyWindow windowId f).frameShapes = gs.frameShapes := by
  simp only [modifyWindow, frameShapes, OrderedMap.entries_mapValues, List.map_map,
    Function.comp_def, GameFrame.shape, GameFrame.modifyWindow]
  refine List.map_congr_left fun e _ => ?_
  congr 1
  refine List.map_congr_left fun w _ => ?_
  split
  · exact h w
  · rfl

/-- Closing windows. -/
theorem frameShapes_modifyWindow_close {windowId : Nat} {f : Window → Window}
    (h : ∀ w, (f w).shape = w.shape.close) :
    (gs.modifyWindow windowId f).frameShapes = gs.frameShapes.map (FrameShape.close windowId) := by
  simp only [modifyWindow, frameShapes, OrderedMap.entries_mapValues, List.map_map,
    Function.comp_def, GameFrame.shape, GameFrame.modifyWindow, FrameShape.close]
  refine List.map_congr_left fun e _ => ?_
  congr 1
  refine List.map_congr_left fun w _ => ?_
  show Window.shape (if w.id = windowId then f w else w) =
    if w.id = windowId then w.shape.close else w.shape
  split
  · exact h w
  · rfl

/-- Clocks started again leave every frame its shape. -/
theorem frameShapes_restartClocks (now : Nat) (select : Nat → Bool)
    (h : ∀ w : Window, (w.restartClock now).shape = w.shape) :
    (gs.restartClocks now select).frameShapes = gs.frameShapes := by
  simp only [restartClocks, frameShapes, OrderedMap.entries_mapValues, List.map_map,
    Function.comp_def]
  refine List.map_congr_left fun e _ => ?_
  split
  · simp only [GameFrame.shape, List.map_map]
    congr 1
    exact List.map_congr_left fun w _ => h w
  · rfl

end GameState

/-! ## Windows whose shape stays -/

namespace Window

/-- The shape of a window keeps no clock. -/
theorem shape_resetTimer (now : Nat) (w : Window) : (w.resetTimer now).shape = w.shape := rfl

/-- Nor does a clock that starts again if it runs change it. -/
theorem shape_restartClock (now : Nat) (w : Window) : (w.restartClock now).shape = w.shape := by
  unfold restartClock
  split
  · rfl
  · split <;> first | rfl | split <;> rfl

/-- Nor does a card spent on the window. -/
theorem shape_cardSpent (now : Nat) (w : Window) : (w.cardSpent now).shape = w.shape := by
  rcases w with ⟨_, _, _, _, _, body⟩
  cases body <;> rfl

/-- Nor does a pass. -/
theorem shape_pass (playerId : String) (w : Window) : (w.pass playerId).shape = w.shape := by
  rcases w with ⟨_, _, _, _, _, body⟩
  cases body <;> rfl

/-- Nor does a target chosen. -/
theorem shape_targetChosen (now : Nat) (key : String) (picks : List Pick) (zone : Zone)
    (w : Window) : (w.targetChosen now key picks zone).shape = w.shape := by
  rcases w with ⟨_, _, _, _, _, body⟩
  cases body <;> rfl

/-- A window closed has a closed shape. -/
theorem shape_close (w : Window) : w.close.shape = w.shape.close := rfl

end Window

/-! ## Pipelines -/

namespace GameState
variable (gs : GameState)

/-- A change of one pipeline changes its shape. -/
theorem pipelineShapes_modifyPipeline (pid : Nat) (f : AbilityPipeline → AbilityPipeline)
    (g : PipelineShape → PipelineShape) (h : ∀ p, (f p).shape = g p.shape) :
    (gs.modifyPipeline pid f).pipelineShapes =
      gs.pipelineShapes.map fun p => if p.pid = pid then g p else p := by
  simp only [modifyPipeline, pipelineShapes, List.map_map, Function.comp_def]
  refine List.map_congr_left fun p _ => ?_
  show AbilityPipeline.shape (if p.pid = pid then f p else p) =
    if p.pid = pid then g p.shape else p.shape
  split
  · exact h p
  · rfl

/-- A change that the shape does not see changes none. -/
theorem pipelineShapes_modifyPipeline_of_shape (pid : Nat)
    {f : AbilityPipeline → AbilityPipeline} (h : ∀ p, (f p).shape = p.shape) :
    (gs.modifyPipeline pid f).pipelineShapes = gs.pipelineShapes := by
  rw [pipelineShapes_modifyPipeline gs pid f id h]
  simp

end GameState

end HereToSlaughter
