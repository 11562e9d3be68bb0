import HereToSlaughter.Model.Events

/-!
# Reaction windows

The eight window classes of `server/src/game/reactions` as data, and the methods of theirs that
only read or write the window itself. What a window does to the game when it opens, takes an
answer or settles is in `Model/WindowBehaviour.lean`.

A window has a body: one roll and a requirement (`ModifiableRollWindow`, with the hero or the
monster the roll is about), two rolls over a contested card (`ChallengeWindow`), or a question
with options (`ChoiceWindow` and its five subclasses).
-/

namespace HereToSlaughter

open Lib

/-- `ValueBias`. -/
inductive ValueBias
  | highest | lowest
  deriving DecidableEq

/-- What a roll window is about: the fields `ModifierWindow` and `AttackWindow` add to their
base. -/
inductive RollSubject
  | hero (rollReq : Int) (heroId : String)
  | monster (monsterId : String)
  deriving DecidableEq

/-- The fields of `ModifiableRollWindow`. `asked` is `ModifierWindow`'s own. -/
structure RollBody where
  subject : RollSubject
  baseRoll : Int
  bonuses : List RollBonus := []
  targets : OrderedMap String (List Pick × Zone) := .empty
  passes : List String := []
  asked : Bool := false

/-- The fields of `ChallengeWindow`. `clockMs` is zero when nothing may contest the card. -/
structure ChallengeBody where
  cardId : String
  clockMs : Nat
  challenged : Bool := false
  challengerId : Option String := none
  challengerRoll : Int := 0
  challengedRoll : Int := 0
  challengerBonuses : List RollBonus := []
  challengedBonuses : List RollBonus := []
  passes : List String := []

/-- The record a confirm or a choice of action hands to `TaskChoiceWindow`. -/
structure Question where
  confirms : Option String := none
  actions : Option (List String) := none
  silent : Option String := none
  question : Option String := none
  sourceCardId : String
  cardId : Option String := none
  ctxSeed : CtxSeed := []

/-- Which subclass of `ChoiceWindow`, with the fields it adds. -/
inductive ChoiceKind
  | player
  | card (slot : String)
  | monster
  | value (bias : ValueBias)
  | task (question : Question)

/-- The fields of `ChoiceWindow`; `sourceCardId` and `question` are its opening detail. -/
structure ChoiceBody where
  kind : ChoiceKind
  options : List Pick
  picked : Option Pick := none
  sourceCardId : Option String := none
  question : Option String := none

/-- A window's body, by class. -/
inductive WindowBody
  | roll (body : RollBody)
  | challenge (body : ChallengeBody)
  | choice (body : ChoiceBody)

/-- `IReactionWindow`: what every window has. Its timer is its `deadline`. -/
structure Window where
  id : Nat
  respondentId : String
  timeoutMs : Nat
  resolved : Bool := false
  deadline : Nat
  body : WindowBody

def CONFIRM := "confirm"
def DISMISS := "dismiss"

/-! ## Rolls -/

/-- `roll + bonuses.reduce((sum, b) => sum + b.amount, 0)`. -/
def total (roll : Int) (bonuses : List RollBonus) : JsNumber :=
  (JsNumber.int roll).add (bonuses.foldl (fun sum b => sum.add b.amount) (.int 0))

/-- `ModifiableRollWindow.getFinalRoll`. -/
def RollBody.getFinalRoll (body : RollBody) : JsNumber := total body.baseRoll body.bonuses

/-- `ModifiableRollWindow.targetSeed`: the chosen targets as the seed of the effect's context. -/
def RollBody.targetSeed (body : RollBody) : CtxSeed :=
  body.targets.entries.map fun target => (target.1, .list target.2.1)

/-- `ChallengeWindow.total` for the challenger's side. -/
def ChallengeBody.challengerTotal (body : ChallengeBody) : JsNumber :=
  total body.challengerRoll body.challengerBonuses

/-- `ChallengeWindow.total` for the defender's side. -/
def ChallengeBody.challengedTotal (body : ChallengeBody) : JsNumber :=
  total body.challengedRoll body.challengedBonuses

/-- The contested card is defended when the defender's total is the higher one. -/
def ChallengeBody.challengedWins (body : ChallengeBody) : Bool :=
  body.challengerTotal.lt body.challengedTotal

/-! ## Choices -/

/-- The labels a question offers, `CONFIRM` and `DISMISS` when it names none. -/
def Question.options (question : Question) : List Pick :=
  (question.actions.getD [CONFIRM, DISMISS]).map .id

/-- `resultKey` of the five choice windows; `none` is `NO_CONTEXT_RESULT`. -/
def ChoiceKind.resultKey : ChoiceKind → Option String
  | .player => some CTX_CHOSEN_PLAYER
  | .card slot => some slot
  | .monster => some CTX_CHOSEN_CARD
  | .value _ => some CTX_CHOSEN_VALUE
  | .task _ => none

def ChoiceKind.type : ChoiceKind → ReactionWindowType
  | .player => .playerChoice
  | .card _ => .cardChoice
  | .monster => .monsterChoice
  | .value _ => .valueChoice
  | .task _ => .taskChoice

/-- `constructor.name`. -/
def ChoiceKind.constructorName : ChoiceKind → String
  | .player => "PlayerChoiceWindow"
  | .card _ => "CardChoiceWindow"
  | .monster => "MonsterChoiceWindow"
  | .value _ => "ValueChoiceWindow"
  | .task _ => "TaskChoiceWindow"

/-- `picksAtRandom`: only a card choice, and the monster choice that extends it. -/
def ChoiceKind.picksAtRandom : ChoiceKind → Bool
  | .card _ | .monster => true
  | _ => false

/-- `ChoiceWindow.picks`. -/
def ChoiceBody.picks (body : ChoiceBody) : List Pick := body.picked.toList

/-- `ChoiceWindow.contextWrite`. -/
def ChoiceBody.contextWrite (body : ChoiceBody) : Option ContextWrite :=
  body.kind.resultKey.map fun key => { key, value := .list body.picks }

/-! ## Windows -/

namespace Window

def getType (w : Window) : ReactionWindowType :=
  match w.body with
  | .roll body => match body.subject with
    | .hero .. => .modifier
    | .monster _ => .attack
  | .challenge _ => .challenge
  | .choice body => body.kind.type

def isOpen (w : Window) : Bool := !w.resolved

/-- `subjectCardId`: the card a challenge is about; a roll and a choice are about none. -/
def subjectCardId (w : Window) : Option String :=
  match w.body with
  | .challenge body => some body.cardId
  | _ => none

/-- `RESTORING_WINDOWS`: the windows whose settlement may restore their frame. -/
def isRestoring (w : Window) : Bool :=
  match w.getType with
  | .challenge | .modifier | .attack => true
  | _ => false

/-- `getOptions`. -/
def options (w : Window) : List Pick :=
  match w.body with
  | .choice body => body.options
  | _ => []

/-- `isOptional`: a task choice offering `DISMISS`. -/
def isOptional (w : Window) : Bool :=
  match w.body with
  | .choice { kind := .task _, options, .. } => options.contains (.id DISMISS)
  | _ => false

/-- `isPassable`: a roll or a challenge. -/
def isPassable (w : Window) : Bool :=
  match w.body with
  | .choice _ => false
  | _ => true

/-- `canPass`: any seat on a roll, any but the defender before a contest has started. -/
def canPass (w : Window) (playerId : String) : Bool :=
  match w.body with
  | .roll _ => true
  | .challenge body => body.challenged || playerId ≠ w.respondentId
  | .choice _ => false

def passedBy (w : Window) : List String :=
  match w.body with
  | .roll body => body.passes
  | .challenge body => body.passes
  | .choice _ => []

/-- A member added to a set that keeps its order. -/
def insertPass (playerId : String) (passes : List String) : List String :=
  if playerId ∈ passes then passes else passes ++ [playerId]

/-- `IPassableWindow.pass`. -/
def pass (playerId : String) (w : Window) : Window :=
  match w.body with
  | .roll body => { w with body := .roll { body with passes := insertPass playerId body.passes } }
  | .challenge body =>
    { w with body := .challenge { body with passes := insertPass playerId body.passes } }
  | .choice _ => w

/-- `isModifiable`: a window a bonus can go into. -/
def isModifiable (w : Window) : Bool :=
  match w.body with
  | .choice _ => false
  | _ => true

/-- `acceptsModifierFor`: only the roller on a roll, either side of a contest that has begun. -/
def acceptsModifierFor (w : Window) (playerId : String) : RequestResult :=
  match w.body with
  | .roll _ => if playerId ≠ w.respondentId then .refused .targetNotRolling else .accepted
  | .challenge body =>
    if !body.challenged then .refused .challengeNotStarted
    else if some playerId ≠ body.challengerId ∧ playerId ≠ w.respondentId then
      .refused .targetNotInChallenge
    else .accepted
  | .choice _ => .refused .noModifiableWindow

/-- `valueBiasFor`: helping yourself or not on a roll, which side was pushed in a contest. -/
def valueBiasFor (w : Window) (playerId targetPlayerId : String) : ValueBias :=
  match w.body with
  | .challenge _ => if targetPlayerId = w.respondentId then .lowest else .highest
  | _ => if targetPlayerId = playerId then .highest else .lowest

/-- The wait a reset gives back: `clockMs` for a challenge, the timeout for the others. -/
def clockMs (w : Window) : Nat :=
  match w.body with
  | .challenge body => body.clockMs
  | .choice body => if body.options = [] then 0 else w.timeoutMs
  | .roll _ => w.timeoutMs

/-- `resetTimer`: the full wait again. -/
def resetTimer (now : Nat) (w : Window) : Window := { w with deadline := now + w.clockMs }

/-- `restartClock`: the full wait again, unless the window is closed or has nothing to wait for. -/
def restartClock (now : Nat) (w : Window) : Window :=
  if w.resolved then w
  else match w.body with
    | .roll _ => w.resetTimer now
    | .challenge body => if body.clockMs = 0 then w else w.resetTimer now
    | .choice body => if body.options = [] then w else w.resetTimer now

/-- The passes of a window given back. -/
def clearPasses (w : Window) : Window :=
  match w.body with
  | .roll body => { w with body := .roll { body with passes := [] } }
  | .challenge body => { w with body := .challenge { body with passes := [] } }
  | .choice _ => w

/-- `cardSpent`: the window waits for the card, and everyone gets another look. -/
def cardSpent (now : Nat) (w : Window) : Window := w.clearPasses.resetTimer now

/-- `targetChosen`: the table sees the target, and everyone gets another look. -/
def targetChosen (now : Nat) (key : String) (picks : List Pick) (zone : Zone) (w : Window) :
    Window :=
  match w.body with
  | .roll body =>
    resetTimer now
      { w with body := .roll { body with targets := body.targets.set key (picks, zone),
                                         passes := [] } }
  | _ => w

/-- The window closed: `_resolved` set. -/
def close (w : Window) : Window := { w with resolved := true }

end Window

end HereToSlaughter
