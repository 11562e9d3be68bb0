import HereToSlaughter.Model.World

/-!
# The game log

The table's story: every event as it fired, and the line it is told by. A line names a card only
to the seats that saw it; `entriesFor` is what one seat reads.

Reference: `views/game-log.ts`.
-/

namespace HereToSlaughter

open EngineM

/-- What a line is worded with: the names of the seats and of the cards. -/
structure Names where
  name : String → String
  card : String → String

/-- The names as the board and the card table have them; an id nobody knows reads as itself. -/
def namesOf (cards : Cards) (b : Board) : Names where
  name id := ((b.players.get? id).map Player.name).getD id
  card id := ((cards.get? id).map Card.name).getD id

/-- `String(id)` of a payload field. -/
def text (field : Option String) : String := field.getD "undefined"

/-- `signed`. -/
def signed (value : Option Int) : String :=
  match value with
  | none => "NaN"
  | some n => if 0 < n then s!"+{n}" else toString n

/-- `${n}` of a payload field that is a number. -/
def numberText (field : Option Int) : String := (field.map toString).getD "undefined"

/-- `${n}` of a total. -/
def totalText (field : Option JsNumber) : String := (field.map JsNumber.toText).getD "undefined"

/-- A line the whole table reads alike. -/
def line (text : String) : Option LogLine := some { text }

/-- `logLine`: how a player would tell of the event, nothing for the engine's own bookkeeping. -/
def logLine (names : Names) (event : GameEvent) : Option LogLine :=
  let p := event.payload
  let who := names.name event.playerId
  let name (id : Option String) : String := names.name (text id)
  let card (id : Option String) : String := names.card (text id)
  match event.type with
  | .gameStarted => line "The game begins"
  | .gameEnded => line s!"{name p.winnerId} wins the game"
  | .turnStarted => line s!"{who}'s turn"
  | .turnEnded => line s!"{who} ended their turn"
  | .cardDrawn =>
    some { text := s!"{who} drew a card"
           seen := some ([event.playerId], s!"{who} drew {card p.cardId}") }
  | .heroAddedToParty =>
    if p.reason = some "Played" then line s!"{who} played {card p.cardId}"
    else if p.reason = some "Given" then line s!"{card p.cardId} joined {who}'s party"
    else none
  | .magicPlayed => line s!"{who} played {card p.cardId}"
  | .itemEquippedToHero => line s!"{who} equipped {card p.cardId} to {card p.heroId}"
  | .itemUnequipped => line s!"{card p.cardId} came off {card p.heroId}"
  | .leaderActivated => line s!"{who} activated {card p.cardId}"
  | .diceRolled => line s!"{who} rolled a {numberText p.baseRoll} for {card p.cardId}"
  | .modifierPlayed =>
    some { text := (s!"{who} played {card p.cardId} ({signed p.value}) on " ++
      s!"{name p.targetPlayerId}'s roll")
           soundWindowId := p.windowId }
  | .modifierApplied =>
    match p.targetPlayerId with
    | none => line s!"{signed p.value} to the roll: now {totalText p.finalRoll}"
    | some target =>
      line (s!"{signed p.value} to {names.name target}: the challenge stands " ++
        s!"{totalText p.challengerTotal} to {totalText p.defenderTotal}")
  | .reactionWindowClosed =>
    match p.windowType, p.finalRoll with
    | some .modifier, some roll | some .attack, some roll =>
      if p.cancelled then none else line s!"{who}'s roll settles at {roll.toText}"
    | _, _ => none
  | .rollSuccess => line s!"{who} succeeded: {card p.cardId}'s effect goes off"
  | .rollFailed => line s!"{who} failed the roll on {card p.cardId}"
  | .monsterSlain => line s!"{who} slew {card p.cardId}"
  | .monsterFoughtBack => line s!"{card p.cardId} fought back against {who}"
  | .challengePlayed => line s!"{who} challenged {card p.targetedCardId} with {card p.cardId}"
  | .challengeStarted =>
    line (s!"Challenge over {card p.cardId}: {name p.challengerId} rolled " ++
      s!"{numberText p.challengerRoll}, {name p.defenderId} rolled {numberText p.defenderRoll}")
  | .challengeResolved =>
    if p.defenderWins then line s!"{name p.defenderId} won the challenge: {card p.cardId} is played"
    else line s!"{name p.challengerId} won the challenge: {card p.cardId} is discarded"
  | .cardDiscarded => line s!"{who} discarded {card p.cardId}"
  | .heroSacrificed => line s!"{who} sacrificed {card p.cardId}"
  | .heroDestroyed => line s!"{who}'s {card p.cardId} was destroyed"
  | .heroStolen => line s!"{name p.toPlayerId} stole {card p.cardId} from {name p.fromPlayerId}"
  | .cardPulled =>
    some { text := s!"{name p.toPlayerId} took a card from {name p.fromPlayerId}'s hand"
           seen := some ([text p.toPlayerId, text p.fromPlayerId],
             s!"{name p.toPlayerId} took {card p.cardId} from {name p.fromPlayerId}'s hand") }
  | .cardRetrieved =>
    let source := if p.from = some "Discard" then "the discard pile" else "a hero"
    line s!"{who} took {card p.cardId} back from {source}"
  | .handsTraded => line s!"{who} and {name p.withPlayerId} traded hands"
  | .cardsRevealed =>
    let shown := String.intercalate ", " (p.cardIds.map names.card)
    if p.toAll then line s!"Revealed to the table: {shown}"
    else
      let plural := if p.cardIds.length = 1 then "" else "s"
      some { text := s!"{who} looked at {p.cardIds.length} card{plural}"
             seen := some ([event.playerId], s!"{who} looked at {shown}") }
  | .effectApplied => line s!"{card p.sourceCardId}'s effect is on {who}"
  | _ => none

/-- `GameLog.onEvent`. -/
def GameLog.onEvent (cards : Cards) (event : GameEvent) : EngineM Unit :=
  modify fun w => { w with
    log := w.log ++ [{ «at» := w.now, event, line := logLine (namesOf cards w.gs.board) event }] }

/-- One line as a seat reads it: `GameLogEntry`. -/
structure LogEntry where
  seq : Nat
  «at» : Nat
  playerId : String
  text : String
  soundWindowId : Option Nat
  deriving DecidableEq

/-- The wording of a line for one seat. -/
def LogLine.readBy (viewerId : String) (line : LogLine) : String :=
  match line.seen with
  | some (seats, seenText) => if viewerId ∈ seats then seenText else line.text
  | none => line.text

/-- `GameLog.entriesFor`: the whole story as one seat may read it, numbered as it was told. -/
def entriesFor (log : List LogRecord) (viewerId : String) : List LogEntry :=
  (log.filterMap fun record => record.line.map fun line => (record, line)).mapIdx
    fun i entry =>
      { seq := i + 1, «at» := entry.1.at, playerId := entry.1.event.playerId
        text := entry.2.readBy viewerId, soundWindowId := entry.2.soundWindowId }

end HereToSlaughter
