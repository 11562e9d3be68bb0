import HereToSlaughter.Lib.Tracks
import HereToSlaughter.Machine.Shape
import HereToSlaughter.Machine.Zones

/-!
# The abstract machine

What a running table does to its shape, one step at a time. `Control` is the ghost that says what
the engine is in the middle of: which frames are open without their window, which window has
closed without its frame settling, which step of which pipeline is running, how the last drain
stopped, and where the turn stands. The guards of the steps read it, and the program keeps it
(`Refine/*.lean`).

`Inner` is everything that may happen while a step, an action or an event is worked off: cards
move, effects come and go, frames and windows open, pipelines start and run, the game is won.
`Outer` adds what only an input does by itself: a card is spent into a window, a window closes
and its frame settles, actions are queued and taken, turns end and begin.
-/

namespace HereToSlaughter

open Lib

/-! ## The ghost -/

/-- A frame that is open and still waits for a window. -/
structure Opening where
  frameId : Nat
  /-- The card the frame is about, when it is one a challenge contests. -/
  subject : Option String
  /-- One of its windows is in already. -/
  shown : Bool

/-- What is settling. -/
inductive Settling
  | none
  /-- The last window of the frame has closed. -/
  | closing (frameId : Nat) (subject : Option String)
  /-- The frame is gone, and what waited on it has not been woken. -/
  | gone (frameId : Nat)

/-- The step that runs: whose it is, and the frame it opened. -/
structure Running where
  pid : Nat
  task : Task
  opened : Option Nat := none

/-- How the drain stands: under way, stopped for want of anything to run, or cut short because a
step opened a frame while other pipelines lay above its own. -/
inductive Flow
  | flowing
  | halted
  | cut (frameId : Nat)

/-- Where the turn stands. -/
inductive TurnPoint
  | before
  | playing
  | ended (playerId : String)

/-- What the engine is in the middle of. -/
structure Control where
  opening : List Opening := []
  settling : Settling := .none
  /-- Window ids drawn and not yet inserted. -/
  reserved : List Nat := []
  /-- Cards between two zones. -/
  inFlight : List String := []
  running : Option Running := none
  /-- The card whose slot of the turn the action under way takes, until it is marked. -/
  due : Option String := none
  /-- The game is won and its windows are being cancelled. -/
  clearing : Bool := false
  flow : Flow
  /-- A party has changed, or a frame has settled, since the last look at the win conditions. -/
  unchecked : Bool
  between : TurnPoint

/-! ## The turns a history tells of -/

/-- A turn began or ended. -/
inductive TurnMark
  | started (playerId : String)
  | ended (playerId : String)
  deriving DecidableEq

/-- The turns of a history, newest first. -/
def turnMarks : List Mark → List TurnMark
  | [] => []
  | .emitted event _ :: history =>
    match event.type with
    | .turnStarted => .started event.playerId :: turnMarks history
    | .turnEnded => .ended event.playerId :: turnMarks history
    | _ => turnMarks history
  | _ :: history => turnMarks history

/-- The game has been concluded, and its end has not gone out since. -/
def AwaitsEnd : List Mark → Prop
  | [] => False
  | .concluded .. :: _ => True
  | .emitted event _ :: history => event.type ≠ .gameEnded ∧ AwaitsEnd history
  | _ :: history => AwaitsEnd history

/-! ## Questions about rules and steps -/

/-- The tables hold a rule with this trigger and these steps. -/
def Rules.Starts (rules : Rules) (type : GameEventType) (steps : List Task) : Prop :=
  ∃ rule : GameRule, ((∃ cardId, rule ∈ rules.abilities cardId) ∨ rule ∈ rules.heroRules ∨
    rule ∈ rules.instanceRules) ∧ rule.trigger.on = type ∧ rule.steps = steps

/-- A step that opens no frame and announces nothing a printed rule listens to: all that may run
before the first turn. -/
def Task.isCalm : Task → Bool
  | .applyEffect _ | .disposeInstanceCard => true
  | _ => false

/-- A step that takes no action points from anybody, now or at the start of a turn. -/
def Task.isGenerous : Task → Bool
  | .applyEffect spec => spec.type ≠ .actionPointBonus || 0 ≤ spec.value.getD 0
  | .gainActionPoints amount => 0 ≤ amount
  | _ => true

/-- The card whose slot of the turn an action takes: the hero it rolls on, or the leader it
activates. A card in a party that is no hero is rolled on for nothing. -/
def ActionKind.slot (cards : Cards) : ActionKind → Option String
  | .rollOnHero cardId => if isHero cards cardId then some cardId else none
  | .rollOnLeader cardId => some cardId
  | _ => none

/-- An event has gone out since the frame was opened, and some rule in play starts on it. -/
def Rules.startedSince (rules : Rules) (frameId : Nat) : List Mark → Bool
  | [] => false
  | .emitted event gs :: history =>
    !(matchedSources rules gs.board event).isEmpty || startedSince rules frameId history
  | .opened other _ :: history => other ≠ frameId && startedSince rules frameId history
  | _ :: history => startedSince rules frameId history

/-- The step that runs has heard such an event since it opened its frame, if it has opened one. -/
def Control.StartedSince (k : Control) (rules : Rules) (history : List Mark) : Prop :=
  ∀ r, k.running = some r → ∀ frameId, r.opened = some frameId →
    rules.startedSince frameId history = true

theorem Control.StartedSince.of_idle {k : Control} {rules : Rules} {history : List Mark}
    (h : k.running = none) : k.StartedSince rules history := fun _ hr => nomatch h.symm.trans hr

/-! ## What stands where -/

/-- The type printed on a card. -/
def Cards.typeOf (cards : Cards) (cardId : String) : Option CardType :=
  (cards.get? cardId).map Card.getType

/-- A card is of a type, or an action has played it as one. -/
def PlayedAs (cards : Cards) (type : CardType) (kind : String → ActionKind) (history : List Mark)
    (cardId : String) : Prop :=
  cards.typeOf cardId = some type ∨
    ∃ playerId turn gs, Mark.executed ⟨playerId, kind cardId⟩ turn gs ∈ history

/-- The heroes and the instance pile of a party stay, and no gear is new. -/
structure Party.Follows (party party' : Party) : Prop where
  heroIds : party'.heroIds = party.heroIds
  instanceCardIds : party'.instanceCardIds = party.instanceCardIds
  gear : ∀ e ∈ party'.equipment.entries, e ∈ party.equipment.entries

/-- Every party follows what it was. -/
def Board.Follows (b b' : Board) : Prop :=
  ∀ playerId party', b'.parties.get? playerId = some party' →
    ∃ party, b.parties.get? playerId = some party ∧ party.Follows party'

namespace Board.Follows

variable {b b' : Board}

theorem of_parties (h : b'.parties = b.parties) : b.Follows b' := fun _ party hparty =>
  ⟨party, h ▸ hparty, rfl, rfl, fun _ he => he⟩

theorem modifyParty {playerId : String} {f : Party → Party}
    (h : ∀ party : Party, party.Follows (f party)) :
    b.Follows (b.modifyParty playerId f) := by
  intro otherId party' hparty'
  simp only [Board.modifyParty, OrderedMap.get?_modify, Option.map_eq_some_iff] at hparty'
  obtain ⟨party, hparty, rfl⟩ := hparty'
  refine ⟨party, hparty, ?_⟩
  split
  · exact h party
  · exact ⟨rfl, rfl, fun _ he => he⟩

/-- Gear that comes off is no new gear. -/
theorem strip (playerId heroId : String) :
    b.Follows (b.modifyParty playerId (Party.unequipItem heroId)) :=
  modifyParty fun _ => ⟨rfl, rfl, fun _ he => (List.mem_filter.1 he).1⟩

theorem unequipItem (heroId : String) : b.Follows (b.unequipItem heroId) := by
  unfold Board.unequipItem
  split
  · exact of_parties rfl
  · exact strip _ heroId

theorem slayMonster (cardId playerId : String) : b.Follows (b.slayMonster cardId playerId) :=
  modifyParty (b := { b with
    monsterPile := b.monsterDeck.head?.toList ++ b.monsterPile.filter (· ≠ cardId)
    monsterDeck := b.monsterDeck.tail }) fun _ => ⟨rfl, rfl, fun _ he => he⟩

end Board.Follows

/-- How a move may change who stands where: nobody comes or goes, a hero joins, or a hero without
gear leaves. -/
inductive Musters (cards : Cards) (history : List Mark) (b : Board) : Board → Prop
  | follows {b' : Board} (h : b.Follows b') : Musters cards history b b'
  | enlist {playerId heroId : String} (h : PlayedAs cards .hero .playHero history heroId) :
    Musters cards history b (b.modifyParty playerId (Party.pushHero heroId))
  | dismiss {playerId heroId : String} {party : Party}
    (hparty : b.parties.get? playerId = some party) (hbare : party.getEquippedItem heroId = none) :
    Musters cards history b (b.modifyParty playerId (Party.dropHero heroId))

/-! ## Edits of the board -/

/-- The board changes, and nothing else of the shape does. -/
inductive Edit (T : Table) (k : Control) (s : Shape) : List String → Board → Prop
  /-- An effect ends. -/
  | retire (playerId : String) (effectId : Nat) :
    Edit T k s k.inFlight (s.board.removeEffect playerId effectId)
  /-- The running step installs the effect it spells out. -/
  | install {r : Running} {spec : EffectSpec} {effect : Effect} (hrun : k.running = some r)
    (htask : r.task = .applyEffect spec) (htype : effect.type = spec.type)
    (hvalue : effect.value = spec.value) : Edit T k s k.inFlight (s.board.addEffect effect)
  /-- The running step grants the points it spells out. -/
  | gain {r : Running} {amount : Int} (playerId : String) (hrun : k.running = some r)
    (htask : r.task = .gainActionPoints amount) :
    Edit T k s k.inFlight (s.board.increaseActionPoints playerId amount)
  /-- A seat pays what it has. -/
  | pay {playerId : String} {player : Player} {amount : Int}
    (hplayer : s.board.players.get? playerId = some player) (h : amount ≤ player.actionPoints) :
    Edit T k s k.inFlight (s.board.decreaseActionPoints playerId amount)
  /-- A card has had its slot of the turn. -/
  | use (cardId : String) : Edit T k s k.inFlight (s.board.markAbilityUsed cardId)
  /-- A card has been challenged this turn. -/
  | contest (cardId : String) : Edit T k s k.inFlight (s.board.markCardChallenged cardId)
  /-- Loose cards move. A change of the parties waits for the next look at the conditions. -/
  | move {fl : List String} {b : Board} (h : Moves k.inFlight s.board fl b)
    (hmusters : Musters T.cards s.history s.board b)
    (hcheck : b.parties = s.board.parties ∨ k.unchecked = true) : Edit T k s fl b
  /-- A card in flight lands on an instance pile. -/
  | pile {playerId cardId : String} {fl : List String} {party : Party}
    (hparty : s.board.parties.get? playerId = some party) (hfl : k.inFlight = cardId :: fl)
    (hmagic : PlayedAs T.cards .magic .playMagic s.history cardId) (hcheck : k.unchecked = true) :
    Edit T k s fl (s.board.addInstanceCard playerId cardId)
  /-- A card leaves an instance pile for the discard pile, unless an open frame still needs it. -/
  | dispose {playerId cardId : String} {party : Party}
    (hparty : s.board.parties.get? playerId = some party) (hmem : cardId ∈ party.instanceCardIds)
    (hspent : s.isSpentInOpenFrame cardId = false) (hcheck : k.unchecked = true) :
    Edit T k s k.inFlight
      ((s.board.removeInstanceCard playerId cardId).addToDiscardPile cardId)

/-! ## Steps inside an input -/

/-- The pipeline on top. -/
def Shape.top (s : Shape) : Option PipelineShape := s.pipelines.head?

/-- The steps a pipeline has left. -/
def PipelineShape.setSteps (steps : List Task) (p : PipelineShape) : PipelineShape :=
  { p with steps }

/-- A pipeline parked on a frame. -/
def PipelineShape.park (frameId : Nat) (p : PipelineShape) : PipelineShape :=
  { p with pausedOn := some frameId }

/-- Change the pipeline with an identity. -/
def modifyPipeline (pid : Nat) (f : PipelineShape → PipelineShape) (ps : List PipelineShape) :
    List PipelineShape := ps.map fun p => if p.pid = pid then f p else p

/-- Change the frame with an id. -/
def modifyFrame (frameId : Nat) (f : FrameShape → FrameShape) (fs : List FrameShape) :
    List FrameShape := fs.map fun frame => if frame.id = frameId then f frame else frame

/-- The mark that the opening of a frame has a window in it. -/
def markShown (frameId : Nat) (os : List Opening) : List Opening :=
  os.map fun o => if o.frameId = frameId then { o with shown := true } else o

/-- The step that runs has opened a frame. -/
def Control.opens (frameId : Nat) (subject : Option String) (k : Control) : Control :=
  { k with
    opening := ⟨frameId, subject, false⟩ :: k.opening
    running := k.running.map fun r => { r with opened := some frameId } }

/-- What may happen while a step, an action or an event is worked off. -/
inductive Inner (T : Table) : Control × Shape → Control × Shape → Prop
  /-- Ids are drawn for something the shape forgets. -/
  | idle {k s} (n : Nat) (h : s.nextId ≤ n) : Inner T (k, s) (k, { s with nextId := n })
  /-- The log tells of an event. -/
  | record {k s} (at_ : Nat) (event : GameEvent) :
    Inner T (k, s) (k, { s with log := s.log ++
      [{ «at» := at_, event, line := logLine (namesOf T.cards s.board) event }] })
  /-- An event goes out that begins and ends no turn. The end of the game goes out once it has been
  concluded. -/
  | announce {k s gs} (event : GameEvent) (hgs : gs.Matches s) (hflow : k.flow = .flowing)
    (hstart : event.type ≠ .turnStarted) (hend : event.type ≠ .turnEnded)
    (hover : event.type = .gameEnded → AwaitsEnd s.history) :
    Inner T (k, s) (k, { s with history := .emitted event gs :: s.history })
  /-- The board is edited. -/
  | edit {k s fl b} (h : Edit T k s fl b) :
    Inner T (k, s) ({ k with inFlight := fl }, { s with board := b })
  /-- An item in flight goes into a slot, over whatever lay there. -/
  | equip {k s gs playerId heroId itemId fl} {party : Party} (hgs : gs.Matches s)
    (hparty : s.board.parties.get? playerId = some party) (hfl : k.inFlight = itemId :: fl)
    (hitem : T.cards.typeOf itemId = some .item) (hcheck : k.unchecked = true) :
    Inner T (k, s) ({ k with inFlight := fl },
      { s with
        board := s.board.modifyParty playerId (Party.equipItem heroId itemId)
        history := .equipped playerId heroId itemId gs :: s.history })
  /-- A frame opens: by the pipeline on top, or by an action on an empty stack. The card it is about
  is in flight, and no other is. -/
  | open {k s gs} (subject : Option String) (hgs : gs.Matches s)
    (hsubject : k.inFlight = subject.toList) (hbefore : k.between ≠ .before)
    (hrunning : ∀ r, k.running = some r → r.opened = none ∧
      (s.pipelines = [] ∨ s.top.map PipelineShape.pid = some r.pid))
    (haction : k.running = none → s.pipelines = [] ∧ k.between = .playing ∧ k.due = none) :
    Inner T (k, s) (k.opens s.nextId subject,
      { s with
        frames := insertFrame s.nextId s.board s.frames
        nextId := s.nextId + 1
        history := .opened s.nextId gs :: s.history })
  /-- A window draws its id before it announces itself. -/
  | reserve {k s} :
    Inner T (k, s)
    ({ k with reserved := s.nextId :: k.reserved }, { s with nextId := s.nextId + 1 })
  /-- A window is inserted. A question that ends the wait for an outcome is looked at again. -/
  | insert {k s o reserved} {w : WindowShape} (hid : k.reserved = w.id :: reserved)
    (ho : o ∈ k.opening) (hopen : w.resolved = false)
    (hsubject : w.subject = o.subject) (hcontest : w.subject.isSome → w.isRestoring = true)
    (hcheck : w.isRestoring = true ∨ k.unchecked = true) :
    Inner T (k, s) ({ k with reserved, opening := markShown o.frameId k.opening },
      { s with frames := modifyFrame o.frameId (FrameShape.addWindow w) s.frames })
  /-- A frame waits for no more windows. -/
  | opened {k s o os} (ho : k.opening = o :: os)
    (hshown : o.shown = true ∨ ¬ frameOpen o.frameId s.frames) :
    Inner T (k, s) ({ k with opening := os }, s)
  /-- A rule starts a pipeline. -/
  | push {k s type} (steps : List Task) (system : Bool) (hrule : T.rules.Starts type steps)
    (hflow : k.flow = .flowing) (hphase : s.board.gamePhase ≠ .concluded) (hdue : k.due = none)
    (hended : ∀ playerId, k.between ≠ .ended playerId)
    (hbefore : k.between = .before → ∀ step ∈ steps, step.isCalm = true)
    (hheard : k.StartedSince T.rules s.history) :
    Inner T (k, s) (k, { s with
      pipelines := ⟨s.nextId, steps, none, system⟩ :: s.pipelines, nextId := s.nextId + 1 })
  /-- A pipeline with nothing left to run leaves the stack. -/
  | pop {k s p ps} (hrun : k.running = none) (hflow : k.flow = .flowing)
    (hstack : s.pipelines = p :: ps) (hpaused : p.pausedOn = none) (hsteps : p.steps = []) :
    Inner T (k, s) (k, { s with pipelines := ps })
  /-- The pipeline on top runs its next step. -/
  | take {k s p ps step steps} (hrun : k.running = none) (hflow : k.flow = .flowing)
    (hstack : s.pipelines = p :: ps) (hpaused : p.pausedOn = none)
    (hsteps : p.steps = step :: steps) :
    Inner T (k, s) ({ k with running := some { pid := p.pid, task := step } },
      { s with pipelines := modifyPipeline p.pid (PipelineShape.setSteps steps) s.pipelines })
  /-- The step that ran is over. -/
  | done {k s r} (hrun : k.running = some r) (hopened : r.opened = none) :
    Inner T (k, s) ({ k with running := none }, s)
  /-- The step that ran suspends its pipeline on the frame it opened, and the drain stops. -/
  | pause {k s r} {frameId : Nat} (hrun : k.running = some r) (hopened : r.opened = some frameId)
    (hopen : frameOpen frameId s.frames) :
    Inner T (k, s)
      ({ k with
        running := none
        flow := if s.top.map PipelineShape.pid = some r.pid then .halted else .cut frameId },
      { s with
        pipelines := modifyPipeline r.pid (PipelineShape.park frameId) s.pipelines
        history := .suspended r.pid frameId :: s.history })
  /-- The drain has nothing to run. -/
  | halt {k s} (hrun : k.running = none) (hclearing : k.clearing = false)
    (hstack : s.pipelines = [] ∨ s.board.gamePhase = .concluded ∨
      ∃ p, s.top = some p ∧ p.pausedOn.isSome) :
    Inner T (k, s) ({ k with flow := .halted }, s)
  /-- The drain may have something to run. -/
  | stir {k s} (hrun : k.running = none) : Inner T (k, s) ({ k with flow := .flowing }, s)
  /-- The action under way has taken the slot it pays for. -/
  | paid {k s} (h : ∀ cardId, k.due = some cardId → cardId ∈ s.board.abilitiesUsedThisTurn) :
    Inner T (k, s) ({ k with due := none }, s)
  /-- The win conditions may be due. -/
  | doubt {k s} : Inner T (k, s) ({ k with unchecked := true }, s)
  /-- They have been looked at: the game is over, an outcome is open, or nobody wins. -/
  | check {k s} (h : s.board.gamePhase = .concluded ∨ s.hasPendingOutcome = true ∨
      checkWinConditions T s.board = none) :
    Inner T (k, s) ({ k with unchecked := false }, s)
  /-- The first seat that wins has won. -/
  | declare {k s gs winnerId} (hgs : gs.Matches s) (hclearing : k.clearing = false)
    (hphase : s.board.gamePhase ≠ .concluded) (hpending : s.hasPendingOutcome = false)
    (hwins : checkWinConditions T s.board = some winnerId) :
    Inner T (k, s) ({ k with clearing := true },
      { s with
        board := { s.board with gamePhase := .concluded, winnerId := some winnerId }
        history := .concluded winnerId gs :: s.history })
  /-- A window is cancelled with the game. -/
  | cancel {k s} (windowId : Nat) (hclearing : k.clearing = true) :
    Inner T (k, s) (k, { s with frames := s.frames.map (FrameShape.close windowId) })
  /-- Nothing is left to resolve. -/
  | clear {k s} (hclearing : k.clearing = true) (hflow : k.flow = .flowing) :
    Inner T (k, s) ({ k with clearing := false }, { s with frames := [], pipelines := [] })

/-! ## Steps of an input -/

/-- Nothing is half-way, except perhaps a frame that settles. -/
structure Control.Clear (k : Control) : Prop where
  opening : k.opening = []
  reserved : k.reserved = []
  inFlight : k.inFlight = []
  running : k.running = none
  due : k.due = none
  clearing : k.clearing = false

/-- What waited on a frame is woken. -/
def wake (frameId : Nat) (ps : List PipelineShape) : List PipelineShape :=
  ps.map fun p => if p.pausedOn = some frameId then { p with pausedOn := none } else p

/-- What an input does between its inner steps. -/
inductive Outer (T : Table) : Control × Shape → Control × Shape → Prop
  /-- An inner step. -/
  | inner {x y} (h : Inner T x y) : Outer T x y
  /-- A card is spent into a window of an open frame. -/
  | spend {k s gs playerId cardId frameId} {party : Party} (hgs : gs.Matches s) (hk : k.Clear)
    (hsettling : k.settling = .none) (hcard : cardId ∈ s.board.hand playerId)
    (hparty : s.board.parties.get? playerId = some party) (hframe : frameOpen frameId s.frames) :
    Outer T (k, s) ({ k with unchecked := true }, { s with
      board := (s.board.removeFromHand playerId cardId).addInstanceCard playerId cardId
      history := .spent playerId cardId frameId gs :: s.history })
  /-- One of the questions of a frame closes, and others stay. -/
  | closeOne {k s f} {w : WindowShape} (hk : k.Clear) (hsettling : k.settling = .none)
    (hf : f ∈ s.frames) (hw : w ∈ f.windows) (hopen : w.isOpen = true)
    (hchoice : w.isRestoring = false) (hothers : (f.close w.id).hasOpenWindow = true) :
    Outer T (k, s) ({ k with unchecked := true },
      { s with frames := s.frames.map (FrameShape.close w.id) })
  /-- The window a frame settles with closes. A window whose outcome may restore its frame does not
  close while a window of a newer frame stands. -/
  | closeLast {k s f} {w : WindowShape} (hk : k.Clear) (hsettling : k.settling = .none)
    (hf : f ∈ s.frames) (hw : w ∈ f.windows) (hopen : w.isOpen = true)
    (hlast : w.isRestoring = true → openAfter f.id s.frames = false) :
    Outer T (k, s) ({ k with settling := .closing f.id f.subject, unchecked := true },
      { s with frames := s.frames.map (FrameShape.close w.id) })
  /-- The frame is released. -/
  | release {k s gs gs' f subject} (hk : k.Clear) (hsettling : k.settling = .closing f.id subject)
    (hf : f ∈ s.frames) (hgs : gs.Matches s)
    (hgs' : gs'.Matches { s with
      frames := s.frames.filter (·.id ≠ f.id)
      board := GameState.putAway (s.spentInto f) s.board }) :
    Outer T (k, s)
      ({ k with settling := .gone f.id, flow := .flowing, unchecked := true },
      { s with
        frames := s.frames.filter (·.id ≠ f.id)
        board := GameState.putAway (s.spentInto f) s.board
        history := .released f.id gs gs' :: s.history })
  /-- The frame is restored, once the drain that its closing set off has stopped. The card it was
  about lies nowhere. -/
  | restore {k s gs gs' f subject} (hk : k.Clear) (hsettling : k.settling = .closing f.id subject)
    (hf : f ∈ s.frames) (hgs : gs.Matches s)
    (hgs' : gs'.Matches { s with
      frames := s.frames.filter (·.id ≠ f.id)
      pipelines := s.pipelines.filter (·.pausedOn ≠ some f.id)
      board := GameState.takeBack (s.spentInto f) f.snapshot })
    (hflow : k.flow = .halted ∨ ∃ frameId, k.flow = .cut frameId ∧ f.id < frameId) :
    Outer T (k, s)
      ({ k with
        settling := .gone f.id, inFlight := subject.toList, flow := .flowing, unchecked := true },
      { s with
        frames := s.frames.filter (·.id ≠ f.id)
        pipelines := s.pipelines.filter (·.pausedOn ≠ some f.id)
        board := GameState.takeBack (s.spentInto f) f.snapshot
        history := .restored f.id gs gs' :: s.history })
  /-- The frame went with the game that was won meanwhile. -/
  | vanish {k s frameId subject fl} (hk : k.Clear)
    (hsettling : k.settling = .closing frameId subject) (hf : ¬ frameOpen frameId s.frames)
    (hfl : fl = k.inFlight ∨ fl = subject.toList) :
    Outer T (k, s) ({ k with settling := .gone frameId, inFlight := fl, flow := .flowing }, s)
  /-- What waited on the frame is woken. -/
  | wake {k s frameId} (hk : k.Clear) (hsettling : k.settling = .gone frameId)
    (hflow : k.flow = .flowing) :
    Outer T (k, s) ({ k with settling := .none },
      { s with pipelines := wake frameId s.pipelines })
  /-- Nothing waits on a frame once the game is over. -/
  | finish {k s frameId} (hk : k.Clear) (hsettling : k.settling = .gone frameId)
    (hphase : s.board.gamePhase = .concluded) : Outer T (k, s) ({ k with settling := .none }, s)
  /-- An action of the seat whose turn it is is queued. -/
  | enqueue {k s action} (hk : k.Clear) (hsettling : k.settling = .none)
    (hbetween : k.between = .playing) (howner : s.board.currentPlayerId = some action.playerId) :
    Outer T (k, s) (k, { s with
      queue := s.queue ++ [action], history := .queued action s.turn :: s.history })
  /-- It is taken off the queue and refused. -/
  | refuse {k s action queue} (hk : k.Clear) (hqueue : s.queue = action :: queue) :
    Outer T (k, s) (k, { s with queue })
  /-- It is taken off the queue and executed. -/
  | execute {k s gs action queue playerId} (hk : k.Clear) (hsettling : k.settling = .none)
    (hbetween : k.between = .playing) (hqueue : s.queue = action :: queue)
    (hgs : gs.board = s.board)
    (hstarted : (turnMarks s.history).head? = some (.started playerId)) (hbusy : s.isBusy = false)
    (hcan : action.canExecute T s.board = .ok .accepted) :
    Outer T (k, s) ({ k with due := action.kind.slot T.cards },
      { s with queue, history := .executed action s.turn gs :: s.history })
  /-- The turn of a seat ends, and with it the slots of the turn. -/
  | endTurn {k s gs playerId} {player : Player} (hk : k.Clear) (hsettling : k.settling = .none)
    (hgs : gs.Matches { s with board := s.board.clearUsedAbilities })
    (hbetween : k.between = .playing) (hqueue : s.queue = [])
    (hcurrent : s.board.currentPlayerId = some playerId)
    (hstarted : (turnMarks s.history).head? = some (.started playerId))
    (hplayer : s.board.players.get? playerId = some player) (hpoints : player.actionPoints ≤ 0)
    (hbusy : s.isBusy = false) :
    Outer T (k, s) ({ k with between := .ended playerId, flow := .flowing },
      { s with
        board := s.board.clearUsedAbilities
        history := .emitted (.turnEnded playerId) gs :: s.history })
  /-- The turn of a seat begins: the first one's, or the next one's in the order. -/
  | startTurn {k s gs playerId} (hk : k.Clear) (hsettling : k.settling = .none)
    (hgs : gs.board = s.board.startTurn playerId) (hseated : s.board.isSeated playerId = true)
    (hnext : (k.between = .before ∧ s.playerOrder.head? = some playerId) ∨
      ∃ last, k.between = .ended last ∧ s.board.gamePhase ≠ .concluded ∧
        nextSeat s.playerOrder last = some playerId) :
    Outer T (k, s) ({ k with between := .playing, flow := .flowing },
      { s with
        board := s.board.startTurn playerId
        turn := s.turn + 1
        history := .emitted (.turnStarted playerId) gs :: s.history })
  /-- No turn is to come: the game is over, or nobody sits at the table. -/
  | adrift {k s} (hk : k.Clear) (hsettling : k.settling = .none)
    (h : s.board.gamePhase = .concluded ∨ s.playerOrder = []) :
    Outer T (k, s) ({ k with between := .playing }, s)

end HereToSlaughter
