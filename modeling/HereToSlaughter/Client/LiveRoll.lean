import HereToSlaughter.Client.Shown
import HereToSlaughter.Runs.Basic

/-!
# The roll the screen calls

The client reads the roll the table is watching off its view (`liveRollOf`) and calls it while it is
still open (`rollOutcome`); the server decides it when the window closes (`MonsterCard.trySlay`).
The rule is written twice. For monsters slain by high totals the two agree on every number; for
monsters slain by low totals the client reads the two thresholds the other way round, and the two
agree only on totals that lie on one side of both (`attackOutcome_iff`).

A total that is no number does not survive the wire. The client adds up the entries that did.

Reference: `client/src/board/{liveRoll,viewTargets}.ts`.
-/

namespace HereToSlaughter

/-! ## What survives the wire -/

/-- A number as JSON carries it: `NaN` arrives as `null`. -/
def JsNumber.wire : JsNumber → Option Int
  | .int n => some n
  | .nan => none

/-- `RollBonusView`. -/
structure RollBonusView where
  cardSource : String
  amount : Int
  deriving DecidableEq

/-- `bonusesOf`: the entries whose amount is a number. -/
def bonusesOf (bonuses : List RollBonus) : List RollBonusView :=
  bonuses.filterMap fun bonus => bonus.amount.wire.map fun amount =>
    { cardSource := bonus.cardSource.getD "", amount }

/-- `bonusTotal`. -/
def bonusTotal (bonuses : List RollBonusView) : Int :=
  bonuses.foldl (fun sum bonus => sum + bonus.amount) 0

/-! ## The roll on the screen -/

/-- `LiveRoll`. -/
structure LiveRoll where
  windowId : Nat
  type : ReactionWindowType
  rollerId : String
  baseRoll : Int
  bonuses : List RollBonusView
  finalRoll : Int
  rollReq : Option Int
  subjectId : Option String
  targetPlayerIds : List String

/-- `subjectIdOf`: the card of a challenge, the hero or the monster of a roll. -/
def PendingWindowView.subjectId (window : PendingWindowView) : Option String :=
  window.cardId.or <| match window.detail with
    | some (.roll detail) => match detail.subject with
      | .hero _ heroId => some heroId
      | .monster monsterId => some monsterId
    | _ => none

/-- The loop body of `liveRollOf`: the roll of one window. -/
def PendingWindowView.liveRoll (window : PendingWindowView) : Option LiveRoll :=
  if window.type = .modifier ∨ window.type = .attack then
    match window.detail with
    | some (.roll detail) =>
      let bonuses := bonusesOf detail.bonuses
      some
        { windowId := window.windowId
          type := window.type
          rollerId := detail.rollerId
          baseRoll := detail.baseRoll
          bonuses
          finalRoll := detail.finalRoll.wire.getD (detail.baseRoll + bonusTotal bonuses)
          rollReq := match detail.subject with
            | .hero rollReq _ => some rollReq
            | .monster _ => none
          subjectId := window.subjectId
          targetPlayerIds := detail.targets.map Prod.fst }
    | _ => none
  else none

namespace PlayerView

/-- `liveRollOf`. -/
def liveRollOf (view : PlayerView) : Option LiveRoll :=
  view.pendingWindows.findSome? PendingWindowView.liveRoll

end PlayerView

/-! ## Calling it -/

/-- `RollOutcome`. -/
inductive RollOutcome
  | success | failure | none
  deriving DecidableEq

/-- The half of `rollOutcome` that reads a monster's two thresholds. -/
def MonsterCardData.attackOutcome (data : MonsterCardData) (finalRoll : Int) : RollOutcome :=
  match data.rollCompareMode with
  | .lowToWin =>
    if finalRoll ≤ data.lowerReq then .success
    else if data.higherReq ≤ finalRoll then .failure else .none
  | .highToWin =>
    if data.higherReq ≤ finalRoll then .success
    else if finalRoll ≤ data.lowerReq then .failure else .none

/-- `rollOutcome`. -/
def rollOutcome (roll : LiveRoll) (view : PlayerView) : RollOutcome :=
  match roll.rollReq with
  | some rollReq => if rollReq ≤ roll.finalRoll then .success else .failure
  | none => match (view.cardById roll.subjectId).map Card.data with
    | some (.monster data) => data.attackOutcome roll.finalRoll
    | _ => .none

/-- What the server's three outcomes are called on the screen. -/
def RollResult.called : RollResult → RollOutcome
  | .slay => .success
  | .fightBack => .failure
  | .miss => .none

/-! ## The server's side -/

/-- What `AttackWindow.settle` decides: the monster reads the number, and a card that is no monster
is missed. -/
def attackResult (cards : Cards) (monsterId : String) (finalRoll : JsNumber) : RollResult :=
  match (cards.get? monsterId).map Card.data with
  | some (.monster data) => data.trySlay finalRoll
  | _ => .miss

/-- What `AttackWindow.settle` does about it. -/
def settleAttack (em : Emit) (frameId : Nat) (w : Window) (monsterId : String) :
    RollResult → EngineM Unit
  | .slay => do
    EngineM.releaseFrame frameId
    EngineM.slayMonster em monsterId w.respondentId
  | .fightBack => do
    EngineM.restoreFrame frameId
    em (.monsterFoughtBack w.respondentId monsterId)
  | .miss => EngineM.restoreFrame frameId

/-- A roll on a monster is settled by what the attack comes to. -/
theorem settleRoll_attack (T : Table) (em : Emit) (frameId : Nat) (w : Window) {body : RollBody}
    {monsterId : String} (h : body.subject = .monster monsterId) :
    settleRoll T em frameId w body =
      settleAttack em frameId w monsterId (attackResult T.cards monsterId body.getFinalRoll) := by
  unfold settleRoll
  rw [h]
  dsimp only [attackResult]
  cases (T.cards.get? monsterId).map Card.data with
  | none => rfl
  | some data =>
    cases data with
    | monster data => cases data.trySlay body.getFinalRoll <;> rfl
    | _ => rfl

/-! ## Where the two agree -/

/-- The total the client adds up. -/
def RollBody.shownTotal (body : RollBody) : Int :=
  body.baseRoll + bonusTotal (bonusesOf body.bonuses)

/-- When the client calls a roll the way the server will settle it. -/
def MonsterCardData.CalledAlike (data : MonsterCardData) (body : RollBody) : Prop :=
  match body.getFinalRoll with
  | .int total =>
    data.rollCompareMode = .highToWin ∨ (total ≤ data.lowerReq ↔ total ≤ data.higherReq)
  | .nan => data.lowerReq < body.shownTotal ∧ body.shownTotal < data.higherReq

namespace MonsterCardData

variable {data : MonsterCardData} {total : Int}

/-- On a number the two rules agree for high totals, and for low ones on one side of both
thresholds. -/
theorem attackOutcome_iff : data.attackOutcome total = (data.trySlay (.int total)).called ↔
    data.rollCompareMode = .highToWin ∨ (total ≤ data.lowerReq ↔ total ≤ data.higherReq) := by
  cases hmode : data.rollCompareMode with
  | highToWin =>
    simp only [attackOutcome, trySlay, hmode, JsNumber.le, true_or, iff_true, decide_eq_true_eq]
    by_cases hslay : data.higherReq ≤ total
    · simp [hslay, RollResult.called]
    · by_cases hback : total ≤ data.lowerReq <;> simp [hslay, hback, RollResult.called]
  | lowToWin =>
    simp only [attackOutcome, trySlay, hmode, JsNumber.le, decide_eq_true_eq, reduceCtorEq,
      false_or]
    by_cases hlow : total ≤ data.lowerReq
    · by_cases hhigh : total ≤ data.higherReq
      · simp [hlow, hhigh, RollResult.called]
      · by_cases hat : data.lowerReq ≤ total <;> simp [hlow, hhigh, hat, RollResult.called]
    · have hback : data.lowerReq ≤ total := by omega
      by_cases hhigh : total ≤ data.higherReq
      · by_cases hat : data.higherReq ≤ total <;> simp [hlow, hhigh, hat, RollResult.called]
      · have hfail : data.higherReq ≤ total := by omega
        simp [hlow, hhigh, hback, hfail, RollResult.called]

/-- A total that is no number misses, and the client agrees between the two thresholds. -/
theorem attackOutcome_nan : data.attackOutcome total = (data.trySlay .nan).called ↔
    data.lowerReq < total ∧ total < data.higherReq := by
  have hmiss : (data.trySlay .nan).called = .none := by
    cases hmode : data.rollCompareMode <;> simp [trySlay, hmode, JsNumber.le, RollResult.called]
  rw [hmiss, attackOutcome]
  cases data.rollCompareMode with
  | highToWin =>
    by_cases hslay : data.higherReq ≤ total
    · simp [hslay, Int.not_lt.2 hslay]
    · by_cases hback : total ≤ data.lowerReq
      · simp [hslay, hback, Int.not_lt.2 hback]
      · simp [hslay, hback, Int.not_le.1 hslay, Int.not_le.1 hback]
  | lowToWin =>
    by_cases hlow : total ≤ data.lowerReq
    · simp [hlow, Int.not_lt.2 hlow]
    · by_cases hhigh : data.higherReq ≤ total
      · simp [hlow, hhigh, Int.not_lt.2 hhigh]
      · simp [hlow, hhigh, Int.not_le.1 hlow, Int.not_le.1 hhigh]

end MonsterCardData

/-- The roll a seat's screen shows for an attack. -/
theorem liveRoll_attack {cards : Cards} {b : Board} {playerId monsterId : String} {win : Window}
    {body : RollBody}
    (hbody : win.body = .roll body) (hsubject : body.subject = .monster monsterId) :
    ∃ roll, (pendingWindowView cards b playerId win).liveRoll = some roll ∧ roll.rollReq = none ∧
      roll.subjectId = some monsterId ∧
      roll.finalRoll = body.getFinalRoll.wire.getD body.shownTotal := by
  have htype : win.getType = .attack := by simp [Window.getType, hbody, hsubject]
  have hcard : win.subjectCardId = none := by simp [Window.subjectCardId, hbody]
  refine ⟨_, by simp [PendingWindowView.liveRoll, pendingWindowView, htype, TABLE_WINDOWS,
    Window.detail, hbody]; rfl, ?_, ?_, rfl⟩
  · simp [RollBody.detail, hsubject]
  · simp [PendingWindowView.subjectId, hcard, RollBody.detail, hsubject]

/-- The client calls an attack roll on a monster its screen shows the way the server settles it
exactly when the monster is slain by high totals or the total lies on one side of both thresholds,
and, where the total is no number, when what the client adds up lies between them. -/
theorem rollOutcome_attack_iff {setup : GameSetup} {w : World} {playerId monsterId : String}
    {view : PlayerView} {win : Window} {body : RollBody}
    (hview : playerView setup.table w playerId = .ok view) (hbody : win.body = .roll body)
    (hsubject : body.subject = .monster monsterId)
    (hshown : monsterId ∈ view.allCards.map Card.id) :
    ∃ roll, (pendingWindowView setup.table.cards w.gs.board playerId win).liveRoll = some roll ∧
      (rollOutcome roll view =
          (attackResult setup.table.cards monsterId body.getFinalRoll).called ↔
        ∀ data, (setup.table.cards.get? monsterId).map Card.data = some (.monster data) →
          data.CalledAlike body) := by
  obtain ⟨roll, hroll, hreq, hsubjectId, hfinal⟩ :
      ∃ roll, (pendingWindowView setup.table.cards w.gs.board playerId win).liveRoll =
        some roll ∧ _ :=
    liveRoll_attack hbody hsubject
  refine ⟨roll, hroll, ?_⟩
  have hfound := (playerView_ok hview).cardById setup.labelled hshown
  simp only [rollOutcome, hreq, hsubjectId, hfound, attackResult]
  cases (setup.table.cards.get? monsterId).map Card.data with
  | none => simp [RollResult.called]
  | some data =>
    cases data with
    | monster data =>
      simp only [Option.some.injEq, CardData.monster.injEq, forall_eq']
      cases htotal : body.getFinalRoll with
      | int total =>
        simp only [hfinal, htotal, JsNumber.wire, Option.getD_some, MonsterCardData.CalledAlike]
        exact MonsterCardData.attackOutcome_iff
      | nan =>
        simp only [hfinal, htotal, JsNumber.wire, Option.getD_none, MonsterCardData.CalledAlike]
        exact MonsterCardData.attackOutcome_nan
    | _ => simp [RollResult.called]

/-- A table for two whose first monster is slain by low totals. -/
def lowMonster : GameSetup :=
  let setup := tableForTwo 0 [] [2, 2]
  { setup with cards := setup.cards.map fun card =>
      if card.id = "monster-1" then { card with data := .monster ⟨8, 4, .lowToWin, []⟩ } else card }

/-- The roll of an attack window, and the monster it is about. -/
def Window.attack? (win : Window) : Option (RollBody × String) :=
  match win.body with
  | .roll body => match body.subject with
    | .monster monsterId => some (body, monsterId)
    | .hero .. => none
  | _ => none

/-- An attack is a roll on a monster. -/
theorem Window.attack?_eq_some {win : Window} {body : RollBody} {monsterId : String}
    (h : win.attack? = some (body, monsterId)) :
    win.body = .roll body ∧ body.subject = .monster monsterId := by
  unfold attack? at h
  split at h
  · split at h
    · cases h
      exact ⟨‹_›, ‹_›⟩
    · cases h
  · cases h

/-- Six has been thrown against a monster that four or less slays and that fights back from
eight. -/
theorem lowMonster_played :
    ((lowMonster.play 40 [.command "A" (.action (.attackMonster "monster-1"))]).any fun w =>
      (playerView lowMonster.table w "B").toOption.any fun view =>
        w.gs.openWindows.any fun win => win.attack?.any fun attack =>
          decide (attack.2 ∈ w.gs.board.monsterPile) &&
          ((pendingWindowView lowMonster.table.cards w.gs.board "B" win).liveRoll).any fun roll =>
            rollOutcome roll view ≠
              (attackResult lowMonster.table.cards attack.2
              attack.1.getFinalRoll).called) = true := by
  decide +kernel

/-- The state that was reached, the screen of the second seat and the attack on it. -/
theorem lowMonster_attacked : ∃ w view win body monsterId, Reach lowMonster w ∧
    playerView lowMonster.table w "B" = .ok view ∧ win ∈ w.gs.openWindows ∧
    win.body = .roll body ∧ body.subject = .monster monsterId ∧
    monsterId ∈ view.allCards.map Card.id ∧
    ∃ roll, (pendingWindowView lowMonster.table.cards w.gs.board "B" win).liveRoll = some roll ∧
      rollOutcome roll view ≠
        (attackResult lowMonster.table.cards monsterId body.getFinalRoll).called := by
  obtain ⟨w, h, hplayed⟩ := Reach.of_play _ _ _ _ lowMonster_played
  obtain ⟨view, hview, hplayed⟩ := Option.any_eq_true _ _ |>.1 hplayed
  obtain ⟨win, hwin, hplayed⟩ := List.any_eq_true.1 hplayed
  obtain ⟨⟨body, monsterId⟩, hattack, hplayed⟩ := Option.any_eq_true _ _ |>.1 hplayed
  obtain ⟨hrow, hplayed⟩ := Bool.and_eq_true _ _ |>.mp hplayed
  obtain ⟨roll, hroll, hne⟩ := Option.any_eq_true _ _ |>.1 hplayed
  obtain ⟨hbody, hsubject⟩ := Window.attack?_eq_some hattack
  have hview := Lib.ok_of_toOption hview
  have hshown := (playerView_ok hview).monster_shown lowMonster.labelled (of_decide_eq_true hrow)
  exact ⟨w, view, win, body, monsterId, h, hview, hwin, hbody, hsubject, hshown, roll, hroll,
    by simpa using hne⟩

/-- A monster that wants a low total, with a roll open on it. -/
theorem rollOutcome_attack_iff_lowMonster : ∃ w view win body monsterId roll, Reach lowMonster w ∧
    playerView lowMonster.table w "B" = .ok view ∧ win ∈ w.gs.openWindows ∧
    (pendingWindowView lowMonster.table.cards w.gs.board "B" win).liveRoll = some roll ∧
    (rollOutcome roll view =
        (attackResult lowMonster.table.cards monsterId (RollBody.getFinalRoll body)).called ↔
      ∀ data, (lowMonster.table.cards.get? monsterId).map Card.data = some (.monster data) →
        data.CalledAlike body) := by
  obtain ⟨w, view, win, body, monsterId, h, hview, hwin, hbody, hsubject, hshown, -⟩ :=
    lowMonster_attacked
  obtain ⟨roll, hroll, hiff⟩ := rollOutcome_attack_iff hview hbody hsubject hshown
  exact ⟨w, view, win, body, monsterId, roll, h, hview, hwin, hroll, hiff⟩

/-- The client calls a roll that misses a success. -/
theorem not_rollOutcome_lowMonster : ∃ w view win body monsterId roll, Reach lowMonster w ∧
    playerView lowMonster.table w "B" = .ok view ∧ win ∈ w.gs.openWindows ∧
    win.body = .roll body ∧ body.subject = .monster monsterId ∧
    (pendingWindowView lowMonster.table.cards w.gs.board "B" win).liveRoll = some roll ∧
    rollOutcome roll view ≠
      (attackResult lowMonster.table.cards monsterId body.getFinalRoll).called := by
  obtain ⟨w, view, win, body, monsterId, h, hview, hwin, hbody, hsubject, -, roll, hroll, hne⟩ :=
    lowMonster_attacked
  exact ⟨w, view, win, body, monsterId, roll, h, hview, hwin, hbody, hsubject, hroll, hne⟩

end HereToSlaughter
