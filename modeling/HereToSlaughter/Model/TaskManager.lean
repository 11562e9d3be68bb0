import HereToSlaughter.Model.Lifecycle
import HereToSlaughter.Model.Tasks

/-!
# The task manager

The pipeline stack. For every event: the effects it ends are retired, the pipelines waiting on a
frame that resolved are woken, a pipeline is pushed for every rule the event starts, and the stack
is drained. `draining` tells a fresh start from a re-entry: an event that goes out while a step
runs only pushes, and the loop already going reaches what it pushed.

Reference: `pipelines/task-manager.ts`.
-/

namespace HereToSlaughter

open EngineM

/-! ## Which rules to check -/

/-- `pushCardAbility`: the entries registered for a card. -/
def cardAbilities (rules : Rules) (cardId ownerId : String) : List AbilitySource :=
  (rules.abilities cardId).map fun rule =>
    { trigger := rule.trigger, steps := rule.steps, sourceCardId := cardId, ownerId
      system := false }

/-- `pushRules`: rules nobody printed, sourced to the card they are about. -/
def systemRules (rules : List GameRule) (cardId ownerId : String) : List AbilitySource :=
  rules.map fun rule =>
    { trigger := rule.trigger, steps := rule.steps, sourceCardId := cardId, ownerId
      system := true }

/-- The sources of one seat's party: leader, slain monsters, heroes with their gear, instance
pile. -/
def partySources (rules : Rules) (b : Board) (playerId : String) (party : Party) :
    List AbilitySource :=
  cardAbilities rules party.leaderId playerId ++
    party.monsterIds.flatMap (fun monsterId => cardAbilities rules monsterId playerId) ++
    party.heroIds.flatMap (fun heroId =>
      cardAbilities rules heroId playerId ++ systemRules rules.heroRules heroId playerId ++
        match b.getEquippedItem heroId with
        | none => []
        | some itemId => cardAbilities rules itemId playerId) ++
    party.instanceCardIds.flatMap fun instanceId =>
      cardAbilities rules instanceId playerId ++
        systemRules rules.instanceRules instanceId playerId

/-- `NO_OWNER`: a monster in the pile is nobody's. -/
def NO_OWNER := ""

/-- `abilitySources`: every rule in play, seat by seat, then the face-up monsters. -/
def abilitySources (rules : Rules) (b : Board) : List AbilitySource :=
  b.players.keys.flatMap (fun playerId =>
      match b.parties.get? playerId with
      | none => []
      | some party => partySources rules b playerId party) ++
    b.monsterPile.flatMap fun monsterId => cardAbilities rules monsterId NO_OWNER

/-! ## Starting pipelines -/

/-- The context a source starts with on an event: what the event carries, and for a rule about a
seat's own card the seat that acted on it. -/
def AbilitySource.context (source : AbilitySource) (event : GameEvent) : AbilityContext :=
  let ctx := event.payload.ctxSeed.foldl (fun ctx write => ctx.set write.1 write.2)
    (AbilityContext.new source.sourceCardId (ownerFor source event))
  if source.trigger.scope = .targetsOwner then
    ctx.set CTX_CHOSEN_PLAYER (.ids [event.playerId]) else ctx

/-- The sources an event starts, the named card's own before the onlookers'. -/
def matchedSources (rules : Rules) (b : Board) (event : GameEvent) : List AbilitySource :=
  let matched := (abilitySources rules b).filter fun source => triggerMatches b source event
  let isOwn (source : AbilitySource) : Bool :=
    event.payload.cardId = some source.sourceCardId && source.sourceCardId ≠ ""
  matched.filter isOwn ++ matched.filter fun source => !isOwn source

/-- `add`: the first one listed ends on top. -/
def addPipelines (event : GameEvent) (sources : List AbilitySource) : EngineM Unit :=
  forEach (fun source => do
    let pid ← freshId
    modifyGs (GameState.pushPipeline
      { pid, steps := source.steps, ctx := source.context event, system := source.system }))
    sources.reverse

/-- The context writes a resolved frame carries, applied in order. -/
def AbilityContext.write (writes : List ContextWrite) (ctx : AbilityContext) : AbilityContext :=
  writes.foldl (fun ctx write => ctx.set write.key write.value) ctx

/-- What waited on a frame is woken with the outcome on its context. -/
def GameState.wake (frameId : Nat) (writes : List ContextWrite) (gs : GameState) : GameState :=
  { gs with pipelines := gs.pipelines.map fun p =>
      if p.pausedOn = some frameId then { p with pausedOn := none, ctx := p.ctx.write writes }
      else p }

/-- The wake of a `FrameResolved`; nothing for any other event. -/
def wakeOn (event : GameEvent) : EngineM Unit :=
  match event.type, event.payload.frameId with
  | .frameResolved, some frameId => modifyGs (GameState.wake frameId event.payload.result)
  | _, _ => pure ()

/-! ## Draining -/

/-- `step.constructor.name`. -/
def Task.constructorName : Task → String
  | .draw .. | .drawNamed .. => "DrawTask"
  | .returnToDeckTop _ => "ReturnToDeckTopTask"
  | .discard .. => "DiscardTask"
  | .discardEach => "DiscardEachTask"
  | .tradeHands _ => "TradeHandsTask"
  | .pullCard _ => "PullCardTask"
  | .applyEffect _ => "ApplyEffectTask"
  | .reveal .. => "RevealTask"
  | .destroy .. => "DestroyTask"
  | .sacrificeEach => "SacrificeEachTask"
  | .giveHero .. => "GiveHeroTask"
  | .sacrifice .. => "SacrificeTask"
  | .stealFromParty _ => "StealFromPartyTask"
  | .playItem .. => "PlayItemTask"
  | .retrieveCard .. => "RetrieveCardTask"
  | .retrieveEach => "RetrieveEachTask"
  | .returnAllItems => "ReturnAllItemsTask"
  | .playMagic _ => "PlayMagicTask"
  | .disposeInstanceCard => "DisposeInstanceCardTask"
  | .applyModifier => "ApplyModifierTask"
  | .playHero _ => "PlayHeroTask"
  | .redrawHand => "RedrawHandTask"
  | .rollOnHero _ => "RollOnHeroTask"
  | .targetRoll .. => "TargetRollTask"
  | .gainActionPoints _ => "GainActionPointsTask"
  | .attackMonster _ => "AttackMonsterTask"
  | .startChallenge => "StartChallengeTask"
  | .cardTypeCondition .. => "CardTypeCondition"
  | .choosePlayer .. => "ChoosePlayerTask"
  | .chooseCard .. => "ChooseCardTask"
  | .chooseCardEach .. => "ChooseCardEachTask"
  | .chooseMonster _ => "ChooseMonsterTask"
  | .chooseValue .. => "ChooseValueTask"
  | .confirm _ => "ConfirmTask"
  | .chooseAction _ => "ChooseActionTask"

/-- `popPipeline`. -/
def GameState.popPipeline (gs : GameState) : GameState := { gs with pipelines := gs.pipelines.tail }

/-- `pauseOn`: the pipeline is parked until its frame resolves. Throws on a frame that is not open,
for nothing would ever wake it. -/
def pauseOn (pid frameId : Nat) (step : Task) : EngineM Unit := do
  let gs ← getGs
  if gs.frames.has frameId then
    mark (.suspended pid frameId)
    modifyGs (GameState.modifyPipeline pid fun p => { p with pausedOn := some frameId })
  else fail s!"{step.constructorName} returned frameId \"{frameId}\", which is not an open frame."

/-- Run a program with `draining` set, and unset it whatever happens: the `try … finally` of
`drain`. -/
def whileDraining (act : EngineM Unit) : EngineM Unit := fun w =>
  match act { w with draining := true } with
  | .ok a w => .ok a { w with draining := false }
  | .error e w => .error e { w with draining := false }

section
variable (T : Table) (em : Emit)

/-- `announceIfCardIsDone`: a card's last printed pipeline has left the stack. -/
def announceIfCardIsDone (spent : AbilityPipeline) : EngineM Unit := do
  if spent.system then pure ()
  else if (← getGs).pipelines.any fun p => !p.system && p.ctx.sourceCardId = spent.ctx.sourceCardId
    then pure ()
  else em (.abilityDone spent.ctx.ownerId spent.ctx.sourceCardId)

/-- One step taken off the pipeline on top and run, its context kept: the frame it suspended on. -/
def runStep (fuel : Nat) (top : AbilityPipeline) (step : Task) (rest : List Task) :
    EngineM (Option Nat) := do
  modifyGs (GameState.modifyPipeline top.pid fun p => { p with steps := rest })
  let (ctx, frameId) ← step.execute T em fuel top.ctx
  modifyGs (GameState.modifyPipeline top.pid fun p => { p with ctx })
  return frameId

/-- The loop of `drain` with `nextStep` inlined: until the stack is empty, its top is paused, or a
step suspends. -/
def drainLoop : Nat → EngineM Unit
  | 0 => throw .outOfFuel
  | fuel + 1 => do
    match (← getGs).pipelines with
    | [] => pure ()
    | top :: _ =>
      if top.pausedOn.isSome then pure ()
      else match top.steps with
        | [] =>
          modifyGs GameState.popPipeline
          announceIfCardIsDone em top
          drainLoop fuel
        | step :: rest =>
          match ← runStep T em fuel top step rest with
          | some frameId => pauseOn top.pid frameId step
          | none => drainLoop fuel

/-- `TaskManager.drain`. -/
def drain (fuel : Nat) : EngineM Unit := do
  if (← get).draining then pure () else whileDraining (drainLoop T em fuel)

/-- `TaskManager.onEvent`. -/
def TaskManager.onEvent (fuel : Nat) (event : GameEvent) : EngineM Unit := do
  if (← getGs).board.gamePhase = .concluded then pure ()
  else
    sweepExpired T.cards em event
    wakeOn event
    addPipelines event (matchedSources T.rules (← getGs).board event)
    drain T em fuel

end

end HereToSlaughter
