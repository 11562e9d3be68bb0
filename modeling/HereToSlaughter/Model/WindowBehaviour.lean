import HereToSlaughter.Model.Doors

/-!
# What windows do

Opening, answering, settling and cancelling a window. A window announces itself before it is
inserted into its frame; it settles by deciding the outcome, releasing or restoring its frame, and
announcing `FrameResolved`, which wakes what waited on the frame. A choice always releases; a
frame that holds one question per seat settles with the last of them.

Reference: `reactions/{modifiable-roll,modifier,attack,challenge,choice,card-choice,player-choice,
monster-choice,value-choice,task-choice}-window.ts`, `pipelines/reaction-manager.ts`,
`GameState.conclude`.
-/

namespace HereToSlaughter

open EngineM

/-! ## Opening -/

/-- `WINDOW_SHARE` of the configured countdown, rounded to whole milliseconds. -/
def timeoutFor (config : GameConfig) : ReactionWindowType → Nat
  | .attack => config.reactionCountdownMs * 2
  | .valueChoice => (config.reactionCountdownMs * 6 + 5) / 10
  | _ => config.reactionCountdownMs

/-- What a hero roll that stands as a pass announces: the hero whose effect may ask for its target.
Once per window. -/
def RollBody.standing (body : RollBody) : Option String :=
  match body.subject with
  | .hero rollReq heroId =>
    if body.asked || body.getFinalRoll.lt (.int rollReq) then none else some heroId
  | .monster _ => none

/-- The standing bonuses a roll opens with: `ModifiableRollWindow.open`. -/
def RollSubject.openingBonuses (b : Board) (rollerId : String) (subject : RollSubject) :
    List RollBonus :=
  match subject with
  | .hero _ heroId =>
    (b.getEffects .rollBonus rollerId (some heroId) (some .heroEffect)).map Effect.toBonus
  | .monster _ => (b.getEffects .rollBonus rollerId none (some .attack)).map Effect.toBonus

def RollSubject.type : RollSubject → ReactionWindowType
  | .hero .. => .modifier
  | .monster _ => .attack

section
variable (T : Table) (em : Emit)

/-- `openWindow` for a roll: nothing when the frame is not open. The window's announcements go out
from its constructor, before it is inserted. -/
def openRoll (frameId : Nat) (rollerId : String) (subject : RollSubject) (baseRoll : Int) :
    EngineM Unit := do
  if (← getGs).frames.has frameId then
    let id ← freshId
    let bonuses := subject.openingBonuses (← getGs).board rollerId
    em (.reactionWindowOpened subject.type rollerId frameId)
    let now ← EngineM.now
    let timeoutMs := timeoutFor T.config subject.type
    let body : RollBody := { subject, baseRoll, bonuses }
    match body.standing with
    | none =>
      modifyGs (GameState.addWindow frameId
        { id, respondentId := rollerId, timeoutMs, deadline := now + timeoutMs
          body := .roll body })
    | some heroId =>
      em (.rollPassing rollerId heroId)
      modifyGs (GameState.addWindow frameId
        { id, respondentId := rollerId, timeoutMs, deadline := now + timeoutMs
          body := .roll { body with asked := true } })
  else pure ()

/-- `openWindow` for a challenge. The clock is zero when nothing may contest the card. -/
def openChallenge (frameId : Nat) (challengedId cardId : String) : EngineM Unit := do
  if (← getGs).frames.has frameId then
    let id ← freshId
    let timeoutMs := timeoutFor T.config .challenge
    let clockMs :=
      if (← getGs).board.canBeChallenged T.cards challengedId cardId then timeoutMs else 0
    em (.reactionWindowOpened .challenge challengedId frameId (some cardId))
    let now ← EngineM.now
    modifyGs (GameState.addWindow frameId
      { id, respondentId := challengedId, timeoutMs, deadline := now + clockMs
        body := .challenge { cardId, clockMs } })
  else pure ()

/-- The fields of a choice's opening payload that a rule can match on. -/
def ChoiceBody.openedEvent (body : ChoiceBody) (respondentId : String) (frameId : Nat) :
    GameEvent :=
  match body.kind with
  | .task question =>
    .reactionWindowOpened .taskChoice respondentId frameId question.cardId question.ctxSeed
  | kind => .reactionWindowOpened kind.type respondentId frameId

/-- `openWindow` for a choice. A choice with nothing to choose from settles on a zero timer. -/
def openChoice (frameId : Nat) (respondentId : String) (body : ChoiceBody) : EngineM Unit := do
  if (← getGs).frames.has frameId then
    let id ← freshId
    em (body.openedEvent respondentId frameId)
    let now ← EngineM.now
    let timeoutMs := timeoutFor T.config body.kind.type
    modifyGs (GameState.addWindow frameId
      { id, respondentId, timeoutMs
        deadline := now + (if body.options = [] then 0 else timeoutMs)
        body := .choice body })
  else pure ()

end

/-! ## Rolls -/

section
variable (T : Table) (em : Emit)

/-- `announceStanding` of a window that stands in its frame. -/
def announceStanding (w : Window) (body : RollBody) : EngineM Unit :=
  match body.standing with
  | none => pure ()
  | some heroId => do
    modifyGs (GameState.modifyWindow w.id fun w => match w.body with
      | .roll body => { w with body := .roll { body with asked := true } }
      | _ => w)
    em (.rollPassing w.respondentId heroId)

/-- The body of a roll once a submission has landed in it: the bonus, and what the roller gets
back for being modified by somebody else. -/
def RollBody.withBonus (bonus : RollBonus) (counter : List RollBonus)
    (body : RollBody) : RollBody :=
  { body with bonuses := body.bonuses ++ [bonus] ++ counter, passes := [] }

/-- `ModifiableRollWindow.submitReaction`. An answer meant for a choice names neither a value nor a
card nor a target, and lands all the same. -/
def submitToRoll (frameId : Nat) (w : Window) (body : RollBody) (playerId : String)
    (value : Option Int) (cardId targetPlayerId : Option String) : EngineM RequestResult := do
  match targetPlayerId.map w.acceptsModifierFor with
  | some (.refused reason) => return .refused reason
  | _ =>
    let counter := (← getGs).board.counterBonusesFor w.respondentId playerId
    let bonus : RollBonus := ⟨cardId, match value with | some n => .int n | none => .nan⟩
    let body' := body.withBonus bonus counter
    modifyGs (GameState.modifyWindow w.id fun w => { w with body := .roll body' })
    em (.modifierApplied playerId value cardId body'.getFinalRoll)
    let now ← EngineM.now
    modifyGs (GameState.modifyWindow w.id (Window.resetTimer now))
    modifyGs (GameState.restartQuestionsAfter now frameId)
    announceStanding em w body'
    return .accepted

/-- `settle` of `ModifierWindow` and `AttackWindow`: what the number means. -/
def settleRoll (frameId : Nat) (w : Window) (body : RollBody) : EngineM Unit := do
  match body.subject with
  | .hero rollReq heroId =>
    if body.getFinalRoll.lt (.int rollReq) then
      restoreFrame frameId
      em (.rollFailed w.respondentId heroId)
    else
      releaseFrame frameId
      em (.rollSuccess w.respondentId heroId body.targetSeed)
  | .monster monsterId =>
    match (T.cards.get? monsterId).map Card.data with
    | some (.monster data) =>
      match data.trySlay body.getFinalRoll with
      | .slay =>
        releaseFrame frameId
        slayMonster em monsterId w.respondentId
      | .fightBack =>
        restoreFrame frameId
        em (.monsterFoughtBack w.respondentId monsterId)
      | .miss => restoreFrame frameId
    | _ => restoreFrame frameId

/-- `ModifiableRollWindow.resolve`. The clock runs again while a question stands over the roll. -/
def resolveRoll (frameId : Nat) (w : Window) (body : RollBody) : EngineM Unit := do
  let now ← EngineM.now
  if (← getGs).hasOpenFramesAfter frameId then
    modifyGs (GameState.modifyWindow w.id (Window.resetTimer now))
  else
    modifyGs (GameState.restartWindowsOutside now frameId)
    modifyGs (GameState.modifyWindow w.id Window.close)
    em (.reactionWindowClosed w.getType w.respondentId frameId (some body.getFinalRoll))
    settleRoll T em frameId w body
    em (.frameResolved frameId [⟨CTX_FINAL_ROLL, .number body.getFinalRoll⟩])

/-! ## Challenges -/

/-- `standingBonuses`: what a player carries into a contest. Only the challenger's roll is a roll
to challenge. -/
def contestBonuses (b : Board) (playerId : String) (rollContext : Option RollContext) :
    List RollBonus :=
  (b.getEffects .rollBonus playerId none rollContext).map Effect.toBonus

/-- `startChallenge`, through `submitReaction` of a challenge. -/
def startChallenge (w : Window) (body : ChallengeBody) (challengerId : String) :
    EngineM RequestResult := do
  if body.challenged then return .refused .challengeAlreadyStarted
  else
    let challengerRoll ← roll2Dice T.rng
    let challengedRoll ← roll2Dice T.rng
    let b := (← getGs).board
    let body' : ChallengeBody :=
      { body with
        challenged := true, challengerId := some challengerId, passes := []
        challengerRoll, challengedRoll
        challengerBonuses := contestBonuses b challengerId (some .challenge)
        challengedBonuses := contestBonuses b w.respondentId none }
    modifyGs (GameState.modifyWindow w.id fun w => { w with body := .challenge body' })
    em (.challengeStarted challengerId w.respondentId body.cardId challengerRoll challengedRoll)
    modifyGs (GameState.modifyWindow w.id (Window.resetTimer (← EngineM.now)))
    return .accepted

/-- The body of a contest once a bonus has landed on one side. -/
def ChallengeBody.withBonus (targetPlayerId : String) (bonuses : List RollBonus)
    (body : ChallengeBody) : ChallengeBody :=
  if body.challengerId = some targetPlayerId then
    { body with challengerBonuses := body.challengerBonuses ++ bonuses, passes := [] }
  else { body with challengedBonuses := body.challengedBonuses ++ bonuses, passes := [] }

/-- `ChallengeWindow.submitReaction` of a modifier. -/
def submitToChallenge (w : Window) (body : ChallengeBody) (playerId : String) (value : Int)
    (cardId targetPlayerId : String) : EngineM RequestResult := do
  match w.acceptsModifierFor targetPlayerId with
  | .refused reason => return .refused reason
  | .accepted =>
    let counter := (← getGs).board.counterBonusesFor targetPlayerId playerId
    let body' := body.withBonus targetPlayerId (⟨some cardId, .int value⟩ :: counter)
    modifyGs (GameState.modifyWindow w.id fun w => { w with body := .challenge body' })
    em (.modifierAppliedToChallenge playerId value targetPlayerId body'.challengerTotal
      body'.challengedTotal)
    modifyGs (GameState.modifyWindow w.id (Window.resetTimer (← EngineM.now)))
    return .accepted

/-- `ChallengeWindow.resolve`: an uncontested card plays; a contest is won by the higher total, and
a defeated card goes to the discard pile after the board has gone back. -/
def resolveChallenge (frameId : Nat) (w : Window) (body : ChallengeBody) : EngineM Unit := do
  let now ← EngineM.now
  if (← getGs).hasOpenFramesAfter frameId then
    modifyGs (GameState.modifyWindow w.id (Window.resetTimer now))
  else
    modifyGs (GameState.modifyWindow w.id Window.close)
    modifyGs (GameState.restartWindowsOutside now frameId)
    em (.reactionWindowClosed .challenge w.respondentId frameId none (some body.cardId))
    if body.challenged then
      em (.challengeResolved w.respondentId (body.challengerId.getD "") body.cardId
        body.challengedWins)
      if body.challengedWins then
        releaseFrame frameId
        modifyBoard (Board.markCardChallenged body.cardId)
      else
        restoreFrame frameId
        modifyBoard (Board.addToDiscardPile body.cardId)
    else releaseFrame frameId
    em (.frameResolved frameId [] (some body.cardId))

/-! ## Choices -/

/-- `defaultChoice`: what silence picks. `index` is the random number a card choice draws. -/
def ChoiceBody.defaultChoice (index : Nat) (body : ChoiceBody) : Option Pick :=
  match body.kind with
  | .player | .monster => none
  | .card _ => body.options[index]?
  | .value bias =>
    match bias with
    | .highest => (Pick.nums body.options).max?.map .num
    | .lowest => (Pick.nums body.options).min?.map .num
  | .task question => some (.id (question.silent.getD DISMISS))

/-- `isStillValid`: the pick re-checked as the window settles. -/
def ChoiceBody.isStillValid (b : Board) (body : ChoiceBody) (choice : Pick) : Bool :=
  match body.kind, choice with
  | .player, .id playerId => b.isSeated playerId
  | .card _, .id cardId | .monster, .id cardId => T.cards.has cardId
  | .player, .num _ | .card _, .num _ | .monster, .num _ => false
  | .value _, _ | .task _, _ => true

/-- `canSubmit`: an offered monster must still be attackable when it is picked. -/
def ChoiceBody.canSubmit (b : Board) (respondentId : String) (body : ChoiceBody)
    (choice : Pick) : Bool :=
  match body.kind, choice with
  | .monster, .id monsterId => (b.canAttackMonster T.cards respondentId monsterId).isAccepted
  | .monster, .num _ => false
  | _, _ => true

/-- `announceOutcome` of `TaskChoiceWindow`: every label announces itself, `DISMISS` excepted. -/
def announceOutcome (respondentId : String) (body : ChoiceBody) : EngineM Unit :=
  match body.kind, body.picked with
  | .task question, some (.id picked) =>
    if picked = DISMISS then pure ()
    else
      let label := if picked = CONFIRM then question.confirms.getD picked else picked
      em (.taskConfirmed respondentId question.sourceCardId label question.ctxSeed)
  | _, _ => pure ()

/-- The choice windows of a frame, in the order they were opened: `frameChoices`. -/
def GameState.frameChoices (gs : GameState) (frameId : Nat) : List (Window × ChoiceBody) :=
  match gs.frames.get? frameId with
  | none => []
  | some frame => frame.windows.filterMap fun w => match w.body with
    | .choice body => some (w, body)
    | _ => none

/-- The question a choice's detail names, for the notice of a lapse. -/
def ChoiceBody.askedQuestion (body : ChoiceBody) : Option String :=
  match body.kind with
  | .task question => question.question
  | _ => body.question

/-- The pick a choice settles on: the one that was submitted or what silence picks, dropped when
it has gone stale. -/
def ChoiceBody.settledPick (b : Board) (index : Nat) (body : ChoiceBody) : Option Pick :=
  (body.picked.or (body.defaultChoice index)).filter (body.isStillValid T b)

/-- The random number a lapsing card choice draws; the others draw none. -/
def drawDefault (body : ChoiceBody) : EngineM Nat :=
  match body.kind, body.picked, body.options with
  | .card _, none, option :: rest => random T.rng (option :: rest).length
  | _, _, _ => pure 0

/-- `ChoiceWindow.resolve`. The last window of its frame releases it and wakes the pipeline with
every window's pick; the others just close. -/
def resolveChoice (frameId : Nat) (w : Window) (body : ChoiceBody) : EngineM Unit := do
  let now ← EngineM.now
  modifyGs (GameState.restartWindowsOutside now frameId)
  let index ← drawDefault T body
  let settled := { body with picked := body.settledPick T (← getGs).board index }
  modifyGs (GameState.modifyWindow w.id fun w =>
  { w with resolved := true, body := .choice settled })
  if body.picked.isNone && (settled.picked.isNone || body.kind.picksAtRandom) then
    modifyGs (GameState.noteChoiceLapse
      { windowId := w.id, respondentId := w.respondentId, type := body.kind.type
        random := settled.picked.isSome, question := body.askedQuestion })
  else pure ()
  let all := (← getGs).frameChoices frameId
  let last := all.all fun choice => choice.1.id = w.id || !choice.1.isOpen
  if last then releaseFrame frameId else pure ()
  em (.reactionWindowClosed body.kind.type w.respondentId frameId)
  announceOutcome em w.respondentId settled
  if last then em (.frameResolved frameId (all.filterMap fun choice => choice.2.contextWrite))
  else pure ()

/-- `ChoiceWindow.submitReaction`. A pick the window never offered settles it on what silence
picks, and is refused. -/
def submitToChoice (frameId : Nat) (w : Window) (body : ChoiceBody) (playerId : String)
    (choice : Option Pick) : EngineM RequestResult := do
  if playerId ≠ w.respondentId then return .refused .wrongRespondent
  else match choice.filter (body.options.contains ·) with
    | none =>
      resolveChoice T em frameId w body
      return .refused .notAnOption
    | some pick =>
      if body.canSubmit T (← getGs).board w.respondentId pick then
        resolveChoice T em frameId w { body with picked := some pick }
        return .accepted
      else fail (s!"{body.kind.constructorName}: {pick.toText} was offered and is no longer " ++
        "legal — an offered option must stay legal while the window is open.")

/-! ## Any window -/

/-- `resolve`: nothing happens to a window that has closed. -/
def resolve (frameId : Nat) (w : Window) : EngineM Unit :=
  if w.resolved then pure ()
  else match w.body with
    | .roll body => resolveRoll T em frameId w body
    | .challenge body => resolveChallenge em frameId w body
    | .choice body => resolveChoice T em frameId w body

/-- `cancel`: close without an outcome. -/
def cancel (frameId : Nat) (w : Window) : EngineM Unit := do
  modifyGs (GameState.modifyWindow w.id Window.close)
  em (.reactionWindowClosed w.getType w.respondentId frameId none none true)

/-- The open windows with their frames, in the order `GameState.openWindows` lists them. -/
def GameState.openWindowsByFrame (gs : GameState) : List (Nat × Window) :=
  gs.frames.entries.flatMap fun (frameId, frame) =>
    (frame.windows.filter Window.isOpen).map fun w => (frameId, w)

/-- `GameState.conclude`: the phase and the winner, every open window cancelled, and nothing left
to resolve. -/
def conclude (winnerId : String) : EngineM Unit := do
  let gs ← getGs
  mark (.concluded winnerId gs)
  modifyBoard fun b => { b with gamePhase := .concluded, winnerId := some winnerId }
  forEach (fun e => cancel em e.1 e.2) gs.openWindowsByFrame
  modifyGs fun gs => { gs with frames := .empty, pipelines := [] }

end

end HereToSlaughter
