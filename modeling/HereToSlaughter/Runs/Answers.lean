import HereToSlaughter.Runs.Commands

/-!
# What an answer tells

A seat sees its own hand, the table, and the backs of everybody else's cards. `GameState.seenBy` is
a game with the cards one seat does not see turned face down, and two games are alike for a seat
when they are the same that way round. An answer is what the checks of a command come to
(`Command.verdict`), and the checks read what the seat sees, with one exception: a played item asks
who owns the hero it is meant for, and the answer is looked for in every hand.

Reference: `game-server/command-dispatcher.service.ts`, `tasks/item-tasks.ts`,
`pipelines/game-state.ts`.
-/

namespace HereToSlaughter

open Lib EngineM

deriving instance DecidableEq for Party, Board, RollBody, ChallengeBody, Question, ChoiceKind,
  ChoiceBody, WindowBody, Window, AbilityContext, AbilityPipeline, GameFrame, GameState

/-! ## Face down -/

/-- The back of a card. -/
def BACK := ""

/-- A hand as another seat sees it: the cards it has been shown, and backs. -/
def facedown (shown hand : List String) : List String :=
  hand.map fun cardId => if cardId ∈ shown then cardId else BACK

/-- A board as a seat sees it that is being shown some cards: its own hand, the backs of the other
hands and of the decks, and everything else. -/
def Board.seenBy (seat : String) (shown : List String) (b : Board) : Board :=
  { b with
    players := b.players.mapValues fun playerId player =>
      if playerId = seat then player else { player with hand := facedown shown player.hand }
    mainDeck := facedown [] b.mainDeck
    monsterDeck := facedown [] b.monsterDeck }

/-- A question put to somebody else: of which kind, and how many options it has. -/
def ChoiceBody.hidden (body : ChoiceBody) : ChoiceBody :=
  { body with
    kind := match body.kind with
      | .task question => .task { question with cardId := none, ctxSeed := [] }
      | kind => kind
    options := body.options.map fun _ => .id BACK
    picked := none }

/-- A window as a seat sees it. -/
def Window.seenBy (seat : String) (w : Window) : Window :=
  match w.body with
  | .choice body => if w.respondentId = seat then w else { w with body := .choice body.hidden }
  | _ => w

/-- A frame as a seat sees it. -/
def GameFrame.seenBy (seat : String) (shown : List String) (frame : GameFrame) : GameFrame where
  snapshot := frame.snapshot.seenBy seat shown
  windows := frame.windows.map (Window.seenBy seat)

/-- What a seat is being shown. -/
def GameState.shownTo (seat : String) (gs : GameState) : List String :=
  (gs.revealed.get? seat).getD []

/-- A game as a seat sees it, with what the abilities remember out of sight. -/
def GameState.seenBy (seat : String) (gs : GameState) : GameState where
  board := gs.board.seenBy seat (gs.shownTo seat)
  frames := gs.frames.mapValues fun _ frame => frame.seenBy seat (gs.shownTo seat)
  pipelines := gs.pipelines.map fun p => { p with ctx := { p.ctx with data := .empty } }
  revealed := gs.revealed.filter fun playerId _ => playerId = seat
  revealSources := gs.revealSources.filter fun playerId _ => playerId = seat
  lastLapse := gs.lastLapse

/-- Two games that differ only in cards that a seat does not see: those of the other hands, as many
of them in both and none of them shown to the seat, and those of the decks. -/
structure AlikeFor (seat : String) (w w' : World) : Prop where
  gs : w.gs.seenBy seat = w'.gs.seenBy seat
  turnManager : w.turnManager = w'.turnManager
  playerOrder : w.playerOrder = w'.playerOrder
  now : w.now = w'.now

instance (seat : String) (w w' : World) : Decidable (AlikeFor seat w w') :=
  decidable_of_iff (w.gs.seenBy seat = w'.gs.seenBy seat ∧ w.turnManager = w'.turnManager ∧
    w.playerOrder = w'.playerOrder ∧ w.now = w'.now)
    ⟨fun ⟨hgs, htm, horder, hnow⟩ => ⟨hgs, htm, horder, hnow⟩,
      fun ⟨hgs, htm, horder, hnow⟩ => ⟨hgs, htm, horder, hnow⟩⟩

/-! ## What the checks come to -/

/-- What a command that is taken now is answered, or the error its check throws: the checks of
`TurnManager.enqueue`, of the two reactions, of `ReactionManager.submitChoice` and of
`ReactionManager.pass`, with nothing done for it. -/
def Command.verdict (T : Table) (now : Nat) (gs : GameState) (seat : String) :
    Command → Except EngineError RequestResult
  | .action kind =>
    if gs.board.gamePhase = .concluded then .ok (.refused .gameOver)
    else if some seat ≠ gs.board.currentPlayerId then .ok (.refused .notYourTurn)
    else if kind.isReactable && gs.isBusy then .ok (.refused .busy)
    else Action.canExecute T gs.board ⟨seat, kind⟩
  | .applyModifier cardId value targetPlayerId =>
    canPlayModifier T gs seat cardId value targetPlayerId
  | .challenge cardId => canPlayChallenge now gs seat cardId
  | .submitChoice windowId choice => .ok <|
    match gs.windowById windowId with
    | none => .refused .noSuchWindow
    | some (_, w) =>
      if !w.isOpen then .refused .noSuchWindow
      else match w.body with
        | .roll _ => .accepted
        | .challenge _ => .refused .challengeNotStarted
        | .choice body =>
          if seat ≠ w.respondentId then .refused .wrongRespondent
          else if (choice.filter (body.options.contains ·)).isNone then .refused .notAnOption
          else .accepted
  | .passWindow windowId => .ok <|
    match gs.windowById windowId with
    | none => .refused .noSuchWindow
    | some (_, w) =>
      if !w.isOpen then .refused .noSuchWindow
      else if !w.canPass seat then .refused .windowNotPassable
      else .accepted

/-- A program that returns answers what its check came to. -/
def Answers (m : EngineM RequestResult) (w : World) (verdict : Except EngineError RequestResult) :
    Prop :=
  ∀ result w', m w = .ok result w' → verdict = .ok result

namespace Answers

variable {α : Type} {verdict : Except EngineError RequestResult} {w : World}

/-- An answer given on the spot. -/
theorem pure (result : RequestResult) : Answers (Pure.pure result) w (.ok result) := by
  intro result' w' h
  cases h
  rfl

/-- What accepts answers so. -/
theorem of_accepts {m : EngineM RequestResult} (hm : Accepts m) : Answers m w (.ok .accepted) :=
  fun _ _ h => congrArg _ (hm _ _ _ h).symm

/-- Throwing answers nothing. -/
theorem fail (message : String) : Answers (EngineM.fail message) w verdict := by
  intro result w' h
  cases h

/-- Looking first changes nothing. -/
theorem reads {m : EngineM α} {f : α → EngineM RequestResult} {a : α} (hm : m w = .ok a w)
    (hf : Answers (f a) w verdict) : Answers (m >>= f) w verdict := by
  intro result w' h
  change EStateM.bind m f w = _ at h
  rw [EStateM.bind, hm] at h
  exact hf result w' h

/-- What is done before an answer that is fixed does not matter. -/
theorem after {m : EngineM α} (result : RequestResult) :
    Answers (m >>= fun _ => Pure.pure result) w (.ok result) := by
  intro result' w' h
  change EStateM.bind m _ w = _ at h
  unfold EStateM.bind at h
  split at h <;> cases h
  rfl

/-- A check that may throw, and what is done when it was passed. -/
theorem checked {check : Except EngineError RequestResult} {m : EngineM RequestResult}
    (hm : Accepts m) :
    Answers (EngineM.orThrow check >>= fun result =>
      if result.isAccepted then m else Pure.pure result) w check := by
  cases check with
  | error e =>
    intro result w' h
    cases h
  | ok result =>
    refine reads (a := result) rfl ?_
    cases result with
    | accepted => exact of_accepts hm
    | refused reason => exact pure _

/-- A conditional answers as its branch does. -/
theorem ite {c : Prop} [Decidable c] {m₁ m₂ : EngineM RequestResult}
    {v₁ v₂ : Except EngineError RequestResult} (h₁ : c → Answers m₁ w v₁)
    (h₂ : ¬ c → Answers m₂ w v₂) : Answers (if c then m₁ else m₂) w (if c then v₁ else v₂) := by
  split
  · exact h₁ ‹_›
  · exact h₂ ‹_›

end Answers

section
variable {T : Table} {em : Emit} {w : World}

/-- An action is answered by its verdict. -/
theorem enqueue_answers (fuel : Nat) (seat : String) (kind : ActionKind) :
    Answers (enqueue T em fuel ⟨seat, kind⟩) w
      ((Command.action kind).verdict T w.now w.gs seat) := by
  refine .reads (a := w.gs) rfl (.ite (fun _ => .pure _) fun _ => ?_)
  refine .reads (a := w) rfl ?_
  by_cases hphase : w.turnManager.phase ≠ .action
  · rw [if_pos hphase]
    exact .fail _
  · rw [if_neg hphase]
    refine .ite (fun _ => .pure _) fun _ => .ite (fun _ => .pure _) fun _ => .checked ?_
    exact .after fun _ => .after fun _ => .after fun _ => .after fun _ => .pure

/-- So is a choice. -/
theorem submitChoice_answers (windowId : Nat) (seat : String) (choice : Option Pick) :
    Answers (submitChoice T em windowId seat choice) w
      ((Command.submitChoice windowId choice).verdict T w.now w.gs seat) := by
  refine .reads (a := w.gs) rfl ?_
  simp only [Command.verdict]
  cases w.gs.windowById windowId with
  | none => exact .pure _
  | some e =>
    obtain ⟨frameId, ⟨id, respondentId, timeoutMs, resolved, deadline, body⟩⟩ := e
    cases resolved with
    | true => exact .pure _
    | false =>
      cases body with
      | roll body =>
        refine .of_accepts (.after fun _ => .after fun _ => .after fun _ => .after fun _ => ?_)
        exact .after fun _ => .after fun _ => .after fun _ => .pure
      | challenge body => exact .pure _
      | choice body =>
        by_cases hseat : seat ≠ respondentId
        · simp only [submitToChoice, Window.isOpen, Bool.not_false, if_true, if_pos hseat]
          exact .pure _
        · simp only [submitToChoice, Window.isOpen, Bool.not_false, if_true, if_neg hseat]
          cases choice.filter (body.options.contains ·) with
          | none => exact .after _
          | some pick =>
            refine .reads (a := w.gs) rfl ?_
            split
            · exact .after _
            · exact .fail _

/-- So is a pass. -/
theorem pass_answers (windowId : Nat) (seat : String) :
    Answers (pass T em windowId seat) w
      ((Command.passWindow windowId).verdict T w.now w.gs seat) := by
  refine .reads (a := w.gs) rfl ?_
  simp only [Command.verdict]
  cases w.gs.windowById windowId with
  | none => exact .pure _
  | some e =>
    by_cases hopen : (!e.2.isOpen) = true
    · simp only [if_pos hopen]
      exact .pure _
    · simp only [if_neg hopen]
      by_cases hpass : (!e.2.canPass seat) = true
      · simp only [if_pos hpass]
        exact .pure _
      · simp only [if_neg hpass]
        refine .of_accepts (.after fun _ => .after fun _ => ?_)
        split
        · exact .after fun _ => .pure
        · exact .pure

/-- The answer to a command is what its checks come to. -/
theorem route_answers (fuel : Nat) (seat : String) (command : Command) :
    Answers (route T em fuel seat command) w (command.verdict T w.now w.gs seat) := by
  cases command with
  | action kind => exact enqueue_answers fuel seat kind
  | applyModifier cardId value targetPlayerId =>
    exact .reads (a := w.gs) rfl (.checked (.after fun _ => .pure))
  | challenge cardId =>
    exact .reads (a := w.now) rfl (.reads (a := w.gs) rfl (.checked (.after fun _ => .pure)))
  | submitChoice windowId choice => exact submitChoice_answers windowId seat choice
  | passWindow windowId => exact pass_answers windowId seat

end

/-! ## What the checks look at -/

namespace Board
variable (seat : String) (shown : List String) (b : Board)

/-- A seat sees itself. -/
@[simp] theorem get?_players_seenBy : (b.seenBy seat shown).players.get? seat =
    b.players.get? seat := by
  simp [seenBy, OrderedMap.get?_mapValues]

/-- It sees who is seated. -/
@[simp] theorem seats_seenBy : (b.seenBy seat shown).seats = b.seats :=
  OrderedMap.keys_mapValues _ _

/-- A seat sees its own hand. -/
@[simp] theorem requirePlayer_seenBy :
    (b.seenBy seat shown).requirePlayer seat = b.requirePlayer seat := by
  simp only [requirePlayer, get?_players_seenBy]

/-- It sees its own hand. -/
@[simp] theorem hasInHand_seenBy (cardId : String) :
    (b.seenBy seat shown).hasInHand seat cardId = b.hasInHand seat cardId := by
  simp only [hasInHand, requirePlayer_seenBy]

/-- It sees its own heroes, and what is used. -/
@[simp] theorem canUseHeroEffect_seenBy (heroId : String) :
    (b.seenBy seat shown).canUseHeroEffect seat heroId = b.canUseHeroEffect seat heroId := by
  simp only [canUseHeroEffect, getEffects, get?_players_seenBy]

/-- It sees the phase. -/
@[simp] theorem gamePhase_seenBy : (b.seenBy seat shown).gamePhase = b.gamePhase := rfl

/-- It sees whose turn it is. -/
@[simp] theorem currentPlayerId_seenBy :
    (b.seenBy seat shown).currentPlayerId = b.currentPlayerId := rfl

/-- It sees what was challenged. -/
@[simp] theorem cardsChallengedThisTurn_seenBy :
    (b.seenBy seat shown).cardsChallengedThisTurn = b.cardsChallengedThisTurn := rfl

/-- Backs can be counted. -/
@[simp] theorem mainDeck_seenBy : (b.seenBy seat shown).mainDeck = [] ↔ b.mainDeck = [] := by
  simp [seenBy, facedown]

end Board

/-- Whose a hero is, as far as one seat's play of an item asks: nobody's, the seat's own or
another's. -/
def Board.standing (b : Board) (seat heroId : String) : Option Bool :=
  (b.getCardOwner heroId).map fun ownerId => decide (ownerId = seat)

/-- What the check of an item comes to, by what is printed on the item and where the hero stands. -/
def equipVerdict (hero worn : Bool) (standing : Option Bool) : Option CardData → RequestResult
  | some (.item cursed _) =>
    if !hero then .refused .notAHero
    else match standing with
      | none => .refused .heroNotInParty
      | some own =>
        if cursed && own then .refused .notAnEnemyHero
        else if !cursed && !own then .refused .notYourHero
        else if worn then .refused .heroAlreadyEquipped
        else .accepted
  | _ => .refused .notAnItem

/-- The check of an item reads the owner of the hero as a standing. -/
theorem canEquip_eq (T : Table) (b : Board) (seat itemId heroId : String) :
    canEquip T b seat itemId heroId =
      equipVerdict (isHero T.cards heroId) (b.getEquippedItem heroId).isSome
        (b.standing seat heroId) ((T.cards.get? itemId).map Card.data) := by
  unfold canEquip Board.standing
  cases (T.cards.get? itemId).map Card.data with
  | none => rfl
  | some data =>
    cases data with
    | item cursed mask =>
      cases b.getCardOwner heroId with
      | none => rfl
      | some ownerId => simp [equipVerdict]
    | _ => rfl

/-- Different standings of a hero are told apart. -/
theorem equipVerdict_inj (worn cursed : Bool) (mask : Option HeroClass)
    (standing standing' : Option Bool) :
    equipVerdict true worn standing (some (.item cursed mask)) =
      equipVerdict true worn standing' (some (.item cursed mask)) ↔ standing = standing' := by
  change equipVerdict true worn standing (some (.item cursed none)) =
    equipVerdict true worn standing' (some (.item cursed none)) ↔ standing = standing'
  revert worn cursed standing standing'
  decide

/-- Different standings are told apart, once the item is an item and the hero a hero. -/
theorem canEquip_inj (T : Table) {b b' : Board} (seat itemId heroId : String)
    (hparties : b.parties = b'.parties) :
    canEquip T b seat itemId heroId = canEquip T b' seat itemId heroId ↔
      ((T.cards.get? itemId).map Card.getType = some .item → isHero T.cards heroId = true →
        b.standing seat heroId = b'.standing seat heroId) := by
  have hworn : b'.getEquippedItem heroId = b.getEquippedItem heroId := by
    simp only [Board.getEquippedItem, hparties]
  rw [canEquip_eq, canEquip_eq, hworn]
  cases T.cards.get? itemId with
  | none => simp [equipVerdict]
  | some card =>
    obtain ⟨id, name, set, data⟩ := card
    cases data with
    | item cursed mask =>
      simp only [Option.map_some, Card.getType, forall_const]
      cases isHero T.cards heroId with
      | false => simp [equipVerdict]
      | true => exact (equipVerdict_inj ..).trans (by simp)
    | _ => simp [equipVerdict, Card.getType]

namespace Window
variable (seat : String) (w : Window)

/-- A window is seen under its id. -/
@[simp] theorem id_seenBy : (w.seenBy seat).id = w.id := by
  unfold seenBy; split <;> (try split) <;> rfl

/-- Whether it is open is seen. -/
@[simp] theorem isOpen_seenBy : (w.seenBy seat).isOpen = w.isOpen := by
  unfold seenBy; split <;> (try split) <;> rfl

/-- What kind it is, is seen. -/
@[simp] theorem getType_seenBy : (w.seenBy seat).getType = w.getType := by
  obtain ⟨_, _, _, _, _, body⟩ := w
  cases body with
  | choice body =>
    simp only [seenBy]
    split
    · rfl
    · simp only [getType, ChoiceBody.hidden]
      cases body.kind <;> rfl
  | _ => rfl

/-- Whether it takes a modifier is seen. -/
@[simp] theorem isModifiable_seenBy : (w.seenBy seat).isModifiable = w.isModifiable := by
  unfold seenBy
  split
  · split
    · rfl
    · simp_all [isModifiable]
  · rfl

/-- Every roll and every contest is in plain sight. -/
theorem seenBy_of_isModifiable (h : w.isModifiable = true) : w.seenBy seat = w := by
  obtain ⟨_, _, _, _, _, body⟩ := w
  cases body with
  | choice body => cases h
  | _ => rfl

/-- A window that is a contest by its kind is no question. -/
theorem isModifiable_of_getType (h : w.getType = .challenge) : w.isModifiable = true := by
  obtain ⟨_, _, _, _, _, body⟩ := w
  cases body with
  | choice body =>
    simp only [getType] at h
    cases hkind : body.kind <;> simp [hkind, ChoiceKind.type] at h
  | _ => rfl

/-- Who is asked is seen. -/
@[simp] theorem respondentId_seenBy : (w.seenBy seat).respondentId = w.respondentId := by
  unfold seenBy; split <;> (try split) <;> rfl

end Window

namespace GameState
variable (seat : String) (gs : GameState)

/-- The state is seen with its board. -/
@[simp] theorem board_seenBy :
    (gs.seenBy seat).board = gs.board.seenBy seat (gs.shownTo seat) := rfl

/-- Whether the board is busy is seen. -/
@[simp] theorem isBusy_seenBy : (gs.seenBy seat).isBusy = gs.isBusy := by
  have hopen : ∀ frame : GameFrame,
      (frame.seenBy seat (gs.shownTo seat)).hasOpenWindow = frame.hasOpenWindow := fun frame => by
    simp only [GameFrame.hasOpenWindow, GameFrame.seenBy, List.any_map, Function.comp_def,
      Window.isOpen_seenBy]
  simp only [isBusy, hasOpenFrames, OrderedMap.values, seenBy, OrderedMap.entries_mapValues,
    List.map_map, List.any_map, Function.comp_def, hopen]
  cases gs.pipelines <;> rfl

/-- A window is where it is, whichever side of it is up. -/
theorem windowById_seenBy (windowId : Nat) : (gs.seenBy seat).windowById windowId =
    (gs.windowById windowId).map fun e => (e.1, e.2.seenBy seat) := by
  simp only [windowById, seenBy, OrderedMap.entries_mapValues, List.findSome?_map,
    Function.comp_def, GameFrame.seenBy, List.find?_map, Window.id_seenBy]
  induction gs.frames.entries with
  | nil => rfl
  | cons e rest ih =>
    simp only [List.findSome?_cons]
    cases e.2.windows.find? fun w => w.id = windowId with
    | none => simpa using ih
    | some w => rfl

/-- The frame of a kind of window is seen. -/
theorem getFrameByWindowType_seenBy (type : ReactionWindowType) :
    (gs.seenBy seat).getFrameByWindowType type =
      (gs.getFrameByWindowType type).map fun e => (e.1, e.2.seenBy seat (gs.shownTo seat)) := by
  simp only [getFrameByWindowType, seenBy, OrderedMap.entries_mapValues, List.find?_map,
    Function.comp_def, GameFrame.seenBy, List.any_map, Window.getType_seenBy]

/-- So is the window. -/
theorem firstWindowOfType_seenBy (type : ReactionWindowType) :
    (gs.seenBy seat).firstWindowOfType type =
      (gs.firstWindowOfType type).map fun e => (e.1, e.2.seenBy seat) := by
  simp only [firstWindowOfType, getFrameByWindowType_seenBy, Option.bind_map, Option.map_bind,
    Function.comp_def, GameFrame.seenBy, List.find?_map, Window.getType_seenBy, Option.map_map]

/-- So is the window that takes a modifier. -/
@[simp] theorem findOpenModifiableWindow_seenBy :
    (gs.seenBy seat).findOpenModifiableWindow = gs.findOpenModifiableWindow := by
  have hfirst : ∀ type, ((gs.seenBy seat).firstWindowOfType type).filter
      (fun e => e.2.isOpen && e.2.isModifiable) =
        (gs.firstWindowOfType type).filter fun e => e.2.isOpen && e.2.isModifiable := fun type => by
    rw [firstWindowOfType_seenBy]
    cases gs.firstWindowOfType type with
    | none => rfl
    | some e =>
      simp only [Option.map_some, Option.filter_some, Window.isOpen_seenBy,
        Window.isModifiable_seenBy]
      split
      · rename_i h
        rw [e.2.seenBy_of_isModifiable seat (Bool.and_eq_true_iff.1 h).2]
      · rfl
  simp only [findOpenModifiableWindow, hfirst]

/-- So is the contest. -/
@[simp] theorem openContest_seenBy : (gs.seenBy seat).openContest = gs.openContest := by
  simp only [openContest, getFrameByWindowType_seenBy, Option.bind_map, Function.comp_def,
    GameFrame.seenBy, List.find?_map, Window.getType_seenBy, Window.isOpen_seenBy, Option.map_map]
  congr
  funext e
  cases hfind : e.2.windows.find? fun w => w.getType = .challenge ∧ w.isOpen with
  | none => rfl
  | some w =>
    have htype := List.find?_some hfind
    rw [decide_eq_true_eq] at htype
    simp [w.seenBy_of_isModifiable seat (w.isModifiable_of_getType htype.1)]

end GameState

/-! ## What an answer tells -/

/-- The hero whose owner a command asks for: a played item that is refused for nothing else asks
for the owner of the hero it names. -/
def Command.asksOwner (T : Table) (gs : GameState) (seat : String) : Command → Option String
  | .action (.playItem itemId heroId) =>
    if gs.board.gamePhase ≠ .concluded ∧ some seat = gs.board.currentPlayerId ∧ ¬ gs.isBusy ∧
        (gs.board.players.get? seat).any (fun player =>
          1 ≤ player.actionPoints ∧ itemId ∈ player.hand) ∧
        ((T.cards.get? itemId).map Card.getType = some .item) ∧ isHero T.cards heroId
    then some heroId else none
  | _ => none

section
variable {T : Table} {seat : String}

/-- What an action checks apart from the play of an item is in plain sight. -/
theorem ActionKind.canExecute_seenBy (T : Table) (seat : String) (shown : List String) (b : Board)
    {kind : ActionKind} (hkind : ∀ itemId heroId, kind ≠ .playItem itemId heroId) :
    kind.canExecute T (b.seenBy seat shown) seat = kind.canExecute T b seat := by
  cases kind with
  | playItem itemId heroId => exact absurd rfl (hkind itemId heroId)
  | drawCard =>
    simp only [canExecute, Board.requirePlayer_seenBy, Board.mainDeck_seenBy]
  | playHero cardId | playMagic cardId => simp only [canExecute, Board.hasInHand_seenBy]
  | rollOnHero cardId => simp only [canExecute, Board.canUseHeroEffect_seenBy]; rfl
  | _ => rfl

/-- What a command checks apart from the play of an item is in plain sight. -/
theorem Command.verdict_seenBy (now : Nat) (gs : GameState) {command : Command}
    (hcommand : ∀ itemId heroId, command ≠ .action (.playItem itemId heroId)) :
    command.verdict T now (gs.seenBy seat) seat = command.verdict T now gs seat := by
  cases command with
  | action kind =>
    have hkind := ActionKind.canExecute_seenBy T seat (gs.shownTo seat) gs.board
      fun itemId heroId h => hcommand itemId heroId (congrArg Command.action h)
    simp only [verdict, GameState.isBusy_seenBy, Action.canExecute, GameState.board_seenBy,
      Board.gamePhase_seenBy, Board.currentPlayerId_seenBy, Board.requirePlayer_seenBy, hkind]
  | applyModifier cardId value targetPlayerId =>
    simp only [verdict, canPlayModifier, GameState.aimModifier,
      GameState.findOpenModifiableWindow_seenBy, GameState.board_seenBy, Board.hasInHand_seenBy]
  | challenge cardId =>
    simp only [verdict, canPlayChallenge, GameState.openContest_seenBy, GameState.board_seenBy,
      Board.hasInHand_seenBy, Board.cardsChallengedThisTurn_seenBy]
    rfl
  | submitChoice windowId choice =>
    simp only [verdict, GameState.windowById_seenBy]
    cases gs.windowById windowId with
    | none => rfl
    | some e =>
      obtain ⟨frameId, ⟨id, respondentId, timeoutMs, resolved, deadline, body⟩⟩ := e
      cases body with
      | choice body =>
        by_cases hseat : respondentId = seat
        · simp [Window.seenBy, hseat]
        · simp [Window.seenBy, hseat, Ne.symm hseat, Window.isOpen]
      | _ => rfl
  | passWindow windowId =>
    simp only [verdict, GameState.windowById_seenBy]
    cases gs.windowById windowId with
    | none => rfl
    | some e =>
      obtain ⟨frameId, ⟨id, respondentId, timeoutMs, resolved, deadline, body⟩⟩ := e
      cases body with
      | choice body =>
        simp only [Option.map_some, Window.seenBy]
        split <;> rfl
      | _ => rfl

/-- The check of a played item, read in one piece. -/
theorem Action.canExecute_playItem (b : Board) (itemId heroId : String) :
    Action.canExecute T b ⟨seat, .playItem itemId heroId⟩ =
      match b.players.get? seat with
      | none => .error (.thrown s!"{seat} is not seated at this game")
      | some player => .ok <|
        if player.actionPoints < 1 then .refused .noActionPoints
        else if itemId ∈ player.hand then canEquip T b seat itemId heroId
        else .refused .cardNotInHand := by
  simp only [canExecute, ActionKind.canExecute, Board.hasInHand, Board.requirePlayer,
    ActionKind.cost, Bind.bind, Except.bind, Pure.pure, Except.pure]
  cases b.players.get? seat with
  | none => rfl
  | some player =>
    by_cases hprice : player.actionPoints < 1
    · simp [hprice]
    · by_cases hhand : itemId ∈ player.hand <;> simp [hprice, hhand]

/-- Two alike games answer the play of an item alike, unless the hero's owner is asked for. -/
theorem Command.verdict_playItem {gs gs' : GameState} {now now' : Nat} {itemId heroId : String}
    (halike : gs.seenBy seat = gs'.seenBy seat) :
    (Command.action (.playItem itemId heroId)).verdict T now gs seat =
        (Command.action (.playItem itemId heroId)).verdict T now' gs' seat ↔
      ∀ heroId' ∈ (Command.action (.playItem itemId heroId)).asksOwner T gs seat,
        gs.board.standing seat heroId' = gs'.board.standing seat heroId' := by
  have hboard : gs.board.seenBy seat (gs.shownTo seat) = gs'.board.seenBy seat (gs'.shownTo seat) :=
    congrArg GameState.board halike
  have hphase : gs'.board.gamePhase = gs.board.gamePhase :=
    show (gs'.board.seenBy seat (gs'.shownTo seat)).gamePhase = _ by rw [← hboard]; rfl
  have hcurrent : gs'.board.currentPlayerId = gs.board.currentPlayerId :=
    show (gs'.board.seenBy seat (gs'.shownTo seat)).currentPlayerId = _ by rw [← hboard]; rfl
  have hparties : gs.board.parties = gs'.board.parties :=
    show (gs.board.seenBy seat (gs.shownTo seat)).parties = _ by rw [hboard]; rfl
  have hbusy : gs'.isBusy = gs.isBusy := by
    rw [← gs'.isBusy_seenBy seat, ← halike, gs.isBusy_seenBy]
  have hplayer : gs'.board.players.get? seat = gs.board.players.get? seat := by
    rw [← gs'.board.get?_players_seenBy seat (gs'.shownTo seat), ← hboard,
      Board.get?_players_seenBy]
  have hinj := canEquip_inj T seat itemId heroId hparties
  simp only [verdict, asksOwner, hphase, hcurrent, hbusy, Action.canExecute_playItem, hplayer]
  by_cases hover : gs.board.gamePhase = .concluded
  · simp [hover]
  by_cases hturn : some seat = gs.board.currentPlayerId
  on_goal 2 => simp [hover, hturn]
  cases hidle : gs.isBusy with
  | true => simp [hover, hturn, ActionKind.isReactable]
  | false =>
    cases gs.board.players.get? seat with
    | none => simp [hover, hturn]
    | some player =>
      by_cases hprice : player.actionPoints < 1
      · simp [hover, hturn, hprice]
      · by_cases hhand : itemId ∈ player.hand
        · have hprice' : 1 ≤ player.actionPoints := Int.not_lt.1 hprice
          simp only [hover, hturn, hprice, hprice', hhand, ActionKind.isReactable, if_false,
            if_true, ne_eq, not_true_eq_false, not_false_eq_true, Bool.and_false,
            Bool.false_eq_true, Option.any_some, decide_true, and_self, true_and, Except.ok.injEq,
            hinj, Option.mem_def, Option.ite_none_right_eq_some, Option.some.injEq]
          exact ⟨fun h heroId' hasked => hasked.2 ▸ h hasked.1.1 hasked.1.2,
            fun h htype hhero => h heroId ⟨⟨htype, hhero⟩, rfl⟩⟩
        · simp [hover, hturn, hprice, hhand]

/-- Two games that are alike for a seat answer a command of its alike, if they answer it at all,
exactly if it does not ask for the owner of a hero that is differently placed. -/
theorem route_alike {rng : Nat → Nat} {em em' : Emit} {fuel fuel' : Nat} {w w' v v' : World}
    {command : Command} {answer answer' : RequestResult} (halike : AlikeFor seat w w')
    (h : (route T em fuel seat command).run w = .ok answer v)
    (h' : (route { T with rng } em' fuel' seat command).run w' = .ok answer' v') :
    answer = answer' ↔ ∀ heroId ∈ command.asksOwner T w.gs seat,
      w.gs.board.standing seat heroId = w'.gs.board.standing seat heroId := by
  have hverdict : command.verdict T w.now w.gs seat = .ok answer := route_answers _ _ _ _ _ h
  have hverdict' : command.verdict T w'.now w'.gs seat = .ok answer' := by
    refine Eq.trans ?_ (route_answers _ _ _ _ _ h')
    cases command <;> rfl
  have hiff : answer = answer' ↔
      command.verdict T w.now w.gs seat = command.verdict T w'.now w'.gs seat := by
    rw [hverdict, hverdict', Except.ok.injEq]
  rw [hiff]
  by_cases hitem : ∃ itemId heroId, command = .action (.playItem itemId heroId)
  · obtain ⟨itemId, heroId, rfl⟩ := hitem
    exact Command.verdict_playItem halike.gs
  · have hne : ∀ itemId heroId, command ≠ .action (.playItem itemId heroId) :=
      fun itemId heroId heq => hitem ⟨itemId, heroId, heq⟩
    have hnone : command.asksOwner T w.gs seat = none := by
      unfold Command.asksOwner
      split
      · exact absurd rfl (hne _ _)
      · rfl
    rw [hnone, ← Command.verdict_seenBy _ _ hne, halike.gs, halike.now,
      Command.verdict_seenBy _ _ hne]
    simp

end

/-- The answer to a command, if it returns one. -/
def answerTo (T : Table) (fuel : Nat) (seat : String) (command : Command) (w : World) :
    Option RequestResult :=
  match (route T (emit T fuel) fuel seat command).run w with
  | .ok answer _ => some answer
  | .error .. => none

/-- A command that is answered returned with that answer. -/
theorem answerTo_eq_some {T : Table} {fuel : Nat} {seat : String} {command : Command} {w : World}
    {answer : RequestResult} (h : answerTo T fuel seat command w = some answer) :
    ∃ v, (route T (emit T fuel) fuel seat command).run w = .ok answer v := by
  unfold answerTo at h
  split at h
  · cases h
    exact ⟨_, ‹_›⟩
  · cases h

/-- A table where the first seat is dealt an item and the second one a hero. -/
def heroHidden : GameSetup :=
  tableForTwo 1 [⟨"item-001", "item-001", "base", .item false none⟩, heroCard "hero-001" .fighter 8,
    heroCard "hero-002" .thief 8, heroCard "hero-003" .thief 8] []

/-- The shuffle that deals the second seat the second hero instead of the first. -/
def otherHero (n : Nat) : Nat := if n = 1 then 1 else heroHidden.rng n

/-- Asked for a hero in the deck, both games answer that it stands in no party; asked for the hero
that one of them hides in a hand, that one answers differently. -/
theorem heroHidden_played :
    ((heroHidden.play 40 []).any fun w =>
      (GameSetup.play { heroHidden with rng := otherHero } 40 []).any fun w' =>
        decide (AlikeFor "A" w w') &&
        answerTo heroHidden.table 40 "A" (.action (.playItem "item-001" "hero-001")) w =
          some (.refused .notYourHero) &&
        answerTo { heroHidden.table with rng := otherHero } 40 "A"
          (.action (.playItem "item-001" "hero-001")) w' = some (.refused .heroNotInParty) &&
        answerTo heroHidden.table 40 "A" (.action (.playItem "item-001" "hero-003")) w =
          some (.refused .heroNotInParty) &&
        answerTo { heroHidden.table with rng := otherHero } 40 "A"
          (.action (.playItem "item-001" "hero-003")) w' = some (.refused .heroNotInParty) &&
        w.gs.board.standing "A" "hero-003" = w'.gs.board.standing "A" "hero-003") = true := by
  decide +kernel

/-- Two tables that are alike for a seat, and differ in a card it has not seen. -/
theorem route_alike_heroHidden : ∃ w w', Reach heroHidden w ∧
    Reach { heroHidden with rng := otherHero } w' ∧ AlikeFor "A" w w' ∧
    ∃ answer answer' v v',
      (route heroHidden.table (emit heroHidden.table 40) 40 "A"
        (.action (.playItem "item-001" "hero-003"))).run w = .ok answer v ∧
      (route { heroHidden.table with rng := otherHero }
        (emit { heroHidden.table with rng := otherHero } 40) 40 "A"
        (.action (.playItem "item-001" "hero-003"))).run w' = .ok answer' v' ∧
      answer = answer' := by
  obtain ⟨w, h, hplayed⟩ := Reach.of_play _ _ _ _ heroHidden_played
  obtain ⟨w', h', hplayed⟩ := Reach.of_play _ _ _ _ hplayed
  simp only [Bool.and_eq_true, decide_eq_true_eq] at hplayed
  obtain ⟨⟨⟨⟨⟨halike, -⟩, -⟩, hanswer⟩, hanswer'⟩, hstanding⟩ := hplayed
  obtain ⟨v, hrun⟩ := answerTo_eq_some hanswer
  obtain ⟨v', hrun'⟩ := answerTo_eq_some hanswer'
  refine ⟨w, w', h, h', halike, _, _, v, v', hrun, hrun', (route_alike halike hrun hrun').2 ?_⟩
  intro heroId hasked
  obtain ⟨-, hhero⟩ := Option.ite_none_right_eq_some.1 hasked
  cases hhero
  exact hstanding

/-- The two games differ in a card of the other seat's hand and in the deck, and the play of an item
tells them apart. -/
theorem not_alike_heroHidden : ∃ w w', Reach heroHidden w ∧
    Reach { heroHidden with rng := otherHero } w' ∧ AlikeFor "A" w w' ∧
    ∃ answer answer' v v',
      (route heroHidden.table (emit heroHidden.table 40) 40 "A"
        (.action (.playItem "item-001" "hero-001"))).run w = .ok answer v ∧
      (route { heroHidden.table with rng := otherHero }
        (emit { heroHidden.table with rng := otherHero } 40) 40 "A"
        (.action (.playItem "item-001" "hero-001"))).run w' = .ok answer' v' ∧
      answer ≠ answer' := by
  obtain ⟨w, h, hplayed⟩ := Reach.of_play _ _ _ _ heroHidden_played
  obtain ⟨w', h', hplayed⟩ := Reach.of_play _ _ _ _ hplayed
  simp only [Bool.and_eq_true, decide_eq_true_eq] at hplayed
  obtain ⟨⟨⟨⟨⟨halike, hanswer⟩, hanswer'⟩, -⟩, -⟩, -⟩ := hplayed
  obtain ⟨v, hrun⟩ := answerTo_eq_some hanswer
  obtain ⟨v', hrun'⟩ := answerTo_eq_some hanswer'
  exact ⟨w, w', h, h', halike, _, _, v, v', hrun, hrun', by decide⟩

end HereToSlaughter
