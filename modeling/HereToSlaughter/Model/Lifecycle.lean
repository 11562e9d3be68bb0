import HereToSlaughter.Model.Doors

/-!
# When an event starts a rule, and when one ends an effect

`triggerMatches` and `ownerFor` say which rules an event starts and whose run each is;
`isEffectExpired` and `sweepExpired` retire the effects an event ends, before its triggers are
matched.

Reference: `abilities/ability-lifecycle.ts`, `abilities/expiries.ts`.
-/

namespace HereToSlaughter

open EngineM

/-- `AbilitySource`: one rule to check against an event, and who owns it. -/
structure AbilitySource where
  trigger : AbilityTrigger
  steps : List Task
  sourceCardId : String
  ownerId : String
  system : Bool

/-- The scope half of `triggerMatches`. -/
def scopeMatches (b : Board) (source : AbilitySource) (event : GameEvent) : Bool :=
  match source.trigger.scope with
  | .selfCard | .attacker => event.payload.cardId = some source.sourceCardId
  | .carrierCard =>
    match event.payload.cardId with
    | none => false
    | some cardId => b.getEquippedItem cardId = some source.sourceCardId
  | .ownerEvent => event.playerId = source.ownerId
  | .ownerTurn => b.currentPlayerId = some source.ownerId
  | .anyone => true
  | .targetsOwner =>
    match event.payload.targetedCardId with
    | none => false
    | some targeted =>
      b.getCardOwner targeted = some source.ownerId && event.playerId ≠ source.ownerId

/-- `triggerMatches`. -/
def triggerMatches (b : Board) (source : AbilitySource) (event : GameEvent) : Bool :=
  source.trigger.on = event.type &&
    (source.trigger.when_.isNone || source.trigger.when_ = event.payload.label) &&
    scopeMatches b source event

/-- `ownerFor`: the attacker the event names under that scope, else whoever holds the card. -/
def ownerFor (source : AbilitySource) (event : GameEvent) : String :=
  if source.trigger.scope = .attacker then event.playerId else source.ownerId

/-- The event type an expiry waits for. -/
def EffectExpiry.on : EffectExpiry → GameEventType
  | .untilEndOfTurn => .turnEnded
  | .untilOwnersNextTurn => .turnStarted
  | .untilSourceLeavesParty | .whileClassInParty _ => .heroRemovedFromParty
  | .untilUnequipped => .itemUnequipped

/-- `shouldExpire` of each lifetime; the end of a turn needs no check. -/
def EffectExpiry.shouldExpire (cards : Cards) (b : Board) (effect : Effect) (event : GameEvent) :
    EffectExpiry → Bool
  | .untilEndOfTurn => true
  | .untilOwnersNextTurn => event.payload.playerId = some effect.ownerId
  | .untilSourceLeavesParty | .untilUnequipped =>
    event.payload.cardId = some effect.sourceCardId
  | .whileClassInParty heroClass =>
    !(b.heroIds effect.ownerId).any fun heroId => b.getHeroClass cards heroId = some heroClass

/-- `isEffectExpired`. -/
def isEffectExpired (cards : Cards) (b : Board) (effect : Effect) (event : GameEvent) : Bool :=
  effect.expiry.any fun expiry =>
    expiry.on = event.type && expiry.shouldExpire cards b effect event

/-- The effects an event ends, per seat in seat order. -/
def expiredEffects (cards : Cards) (b : Board) (event : GameEvent) : List (String × Effect) :=
  b.players.entries.flatMap fun (playerId, player) =>
    (player.effects.filter fun effect => isEffectExpired cards b effect event).map
      fun effect => (playerId, effect)

/-- `sweepExpired`: decides, then prunes, then announces. -/
def sweepExpired (cards : Cards) (em : Emit) (event : GameEvent) : EngineM Unit := do
  let expired := expiredEffects cards (← getGs).board event
  modifyBoard fun b => expired.foldl (fun b e => b.removeEffect e.1 e.2.id) b
  forEach (fun e => em (.effectExpired e.2.ownerId e.2.sourceCardId)) expired

end HereToSlaughter
