import HereToSlaughter.Writes.Basic

/-!
# What windows write

Opening, answering, settling and cancelling a window passes none: a bonus, a contest and a target
give its passes back, a settlement closes it, and a refused settlement only starts its clock again.

Reference: `reactions/*.ts`, `GameState.conclude`.
-/

namespace HereToSlaughter

open Lib EngineM

/-! ## Windows before they stand -/

section
variable (T : Table) (em : Emit)

/-- What `openRoll` does between the draw of the id and the insertion. -/
def preparedRoll (frameId : Nat) (rollerId : String) (subject : RollSubject) (baseRoll : Int)
    (id : Nat) : EngineM Window := do
  let bonuses := subject.openingBonuses (← getGs).board rollerId
  em (.reactionWindowOpened subject.type rollerId frameId)
  let now ← EngineM.now
  let timeoutMs := timeoutFor T.config subject.type
  let body : RollBody := { subject, baseRoll, bonuses }
  let v : Window :=
    { id, respondentId := rollerId, timeoutMs, deadline := now + timeoutMs, body := .roll body }
  match body.standing with
  | none => return v
  | some heroId =>
    em (.rollPassing rollerId heroId)
    return { v with body := .roll { body with asked := true } }

/-- What `openChallenge` does between the draw of the id and the insertion. -/
def preparedChallenge (frameId : Nat) (challengedId cardId : String) (id : Nat) :
    EngineM Window := do
  let timeoutMs := timeoutFor T.config .challenge
  let clockMs :=
    if (← getGs).board.canBeChallenged T.cards challengedId cardId then timeoutMs else 0
  em (.reactionWindowOpened .challenge challengedId frameId (some cardId))
  let now ← EngineM.now
  return { id, respondentId := challengedId, timeoutMs, deadline := now + clockMs
           body := .challenge { cardId, clockMs } }

/-- What `openChoice` does between the draw of the id and the insertion. -/
def preparedChoice (frameId : Nat) (respondentId : String) (body : ChoiceBody) (id : Nat) :
    EngineM Window := do
  em (body.openedEvent respondentId frameId)
  let now ← EngineM.now
  let timeoutMs := timeoutFor T.config body.kind.type
  return { id, respondentId, timeoutMs
           deadline := now + (if body.options = [] then 0 else timeoutMs)
           body := .choice body }

/-- A roll opens as any window does. -/
theorem openRoll_eq (frameId : Nat) (rollerId : String) (subject : RollSubject) (baseRoll : Int) :
    openRoll T em frameId rollerId subject baseRoll = (do
      if (← getGs).frames.has frameId then
        inserting frameId (preparedRoll T em frameId rollerId subject baseRoll)
      else pure ()) := by
  unfold openRoll inserting preparedRoll
  refine bind_congr fun gs => if_congr Iff.rfl (bind_congr fun id => ?_) rfl
  simp only [bind_assoc]
  refine bind_congr fun gs => bind_congr fun _ => bind_congr fun now => ?_
  cases hstands : RollBody.standing
      { subject, baseRoll, bonuses := subject.openingBonuses gs.board rollerId } with
  | none => simp only [pure_bind]
  | some heroId => simp only [bind_assoc, pure_bind]

/-- So does a challenge. -/
theorem openChallenge_eq (frameId : Nat) (challengedId cardId : String) :
    openChallenge T em frameId challengedId cardId = (do
      if (← getGs).frames.has frameId then
        inserting frameId (preparedChallenge T em frameId challengedId cardId)
      else pure ()) := by
  unfold openChallenge inserting preparedChallenge
  refine bind_congr fun gs => if_congr Iff.rfl (bind_congr fun id => ?_) rfl
  simp only [bind_assoc, pure_bind]

/-- So does a question. -/
theorem openChoice_eq (frameId : Nat) (respondentId : String) (body : ChoiceBody) :
    openChoice T em frameId respondentId body = (do
      if (← getGs).frames.has frameId then
        inserting frameId (preparedChoice T em frameId respondentId body)
      else pure ()) := by
  unfold openChoice inserting preparedChoice
  refine bind_congr fun gs => if_congr Iff.rfl (bind_congr fun id => ?_) rfl
  simp only [bind_assoc, pure_bind]

variable {T em}

/-- What `openRoll` prepares carries the id it drew, and nobody has passed it. -/
theorem prepares_roll (frameId : Nat) (rollerId : String) (subject : RollSubject) (baseRoll : Int) :
    Prepares (preparedRoll T em frameId rollerId subject baseRoll) := by
  intro id w v w' h
  obtain ⟨gs, t, -, h⟩ := ran_of_bind h
  obtain ⟨_, t, -, h⟩ := ran_of_bind h
  obtain ⟨now, t, -, h⟩ := ran_of_bind h
  cases hstands : RollBody.standing
      { subject, baseRoll, bonuses := subject.openingBonuses gs.board rollerId } with
  | none =>
    simp only [hstands] at h
    cases h
    exact ⟨rfl, rfl⟩
  | some heroId =>
    simp only [hstands] at h
    obtain ⟨_, t, -, h⟩ := ran_of_bind h
    cases h
    exact ⟨rfl, rfl⟩

/-- What `openChallenge` prepares carries the id it drew, and nobody has passed it. -/
theorem prepares_challenge (frameId : Nat) (challengedId cardId : String) :
    Prepares (preparedChallenge T em frameId challengedId cardId) := by
  intro id w v w' h
  obtain ⟨gs, t, -, h⟩ := ran_of_bind h
  obtain ⟨_, t, -, h⟩ := ran_of_bind h
  obtain ⟨now, t, -, h⟩ := ran_of_bind h
  cases h
  exact ⟨rfl, rfl⟩

/-- What `openChoice` prepares carries the id it drew, and nobody has passed it. -/
theorem prepares_choice (frameId : Nat) (respondentId : String) (body : ChoiceBody) :
    Prepares (preparedChoice T em frameId respondentId body) := by
  intro id w v w' h
  obtain ⟨_, t, -, h⟩ := ran_of_bind h
  obtain ⟨now, t, -, h⟩ := ran_of_bind h
  cases h
  exact ⟨rfl, rfl⟩

end

namespace Writes

/-! ## Opening -/

section
variable {r : World → World → Prop} [Allows r] {thrown : Prop} {T : Table} {em : Emit}
  (hem : ∀ event, Along thrown r (em event))
include hem

/-- `openRoll` inserts one fresh window, where its frame is still open. -/
theorem openRoll (frameId : Nat) (rollerId : String) (subject : RollSubject) (baseRoll : Int) :
    Along thrown r (HereToSlaughter.openRoll T em frameId rollerId subject baseRoll) := by
  rw [openRoll_eq]
  refine .bind getGs fun _ =>
    .ite (Allows.opens frameId (fun id => ?_) (prepares_roll _ _ _ _)) (.pure ())
  refine .bind getGs fun _ => .bind (hem _) fun _ => .bind now fun _ => ?_
  dsimp only
  split
  · exact .pure _
  · exact .bind (hem _) fun _ => .pure _

/-- `openChallenge` inserts one fresh window, where its frame is still open. -/
theorem openChallenge (frameId : Nat) (challengedId cardId : String) :
    Along thrown r (HereToSlaughter.openChallenge T em frameId challengedId cardId) := by
  rw [openChallenge_eq]
  refine .bind getGs fun _ => .ite
    (Allows.opens frameId (fun id => ?_) (prepares_challenge _ _ _)) (.pure ())
  exact .bind getGs fun _ => .bind (hem _) fun _ => .bind now fun _ => .pure _

/-- `openChoice` inserts one fresh window, where its frame is still open. -/
theorem openChoice (frameId : Nat) (respondentId : String) (body : ChoiceBody) :
    Along thrown r (HereToSlaughter.openChoice T em frameId respondentId body) := by
  rw [openChoice_eq]
  refine .bind getGs fun _ =>
    .ite (Allows.opens frameId (fun id => ?_) (prepares_choice _ _ _)) (.pure ())
  exact .bind (hem _) fun _ => .bind now fun _ => .pure _

end

/-! ## Rolls -/

section
variable {r : World → World → Prop} [AllowsChange r] {thrown : Prop} {T : Table} {em : Emit}
  (hem : ∀ event, Along thrown r (em event))
include hem

/-- A roll that stands to pass is announced; the note of it on the window leaves the passes
alone. -/
theorem announceStanding (win : Window) (body : RollBody) :
    Along thrown r (HereToSlaughter.announceStanding em win body) := by
  unfold HereToSlaughter.announceStanding
  split
  · exact .pure ()
  · refine .bind (window _ fun v => ?_) fun _ => hem _
    rcases v with ⟨_, _, _, _, _, body⟩
    cases body with
    | roll => exact ⟨rfl, fun h => h, fun _ => .inr ⟨rfl, rfl⟩⟩
    | challenge | choice => exact .refl

/-- A bonus on a roll gives the passes back and starts the clock again. -/
theorem submitToRoll (frameId : Nat) (win : Window) (body : RollBody) (playerId : String)
    (value : Option Int) (cardId targetPlayerId : Option String) :
    Along thrown r (HereToSlaughter.submitToRoll em frameId win body playerId value cardId
      targetPlayerId) := by
  unfold HereToSlaughter.submitToRoll
  split
  · exact .pure _
  · refine .bind getGs fun gs => .bind (window _ fun v => ?_) fun _ => .bind (hem _) fun _ => ?_
    · exact ⟨rfl, fun h => h, fun _ => .inl rfl⟩
    · refine .bind now fun _ => .bind (window _ fun v => .resetTimer _) fun _ => ?_
      refine .bind (modifies fun _ => .restart _ _) fun _ => ?_
      exact .bind (announceStanding hem _ _) fun _ => .pure _

/-- What a roll does once its window has closed: its frame is let go or rolled back, as the total
has it. -/
theorem settleRoll (frameId : Nat) (win : Window) (body : RollBody) :
    Along thrown r (HereToSlaughter.settleRoll T em frameId win body) := by
  unfold HereToSlaughter.settleRoll
  split
  · exact .ite (.bind (restoreFrame _) fun _ => hem _) (.bind (releaseFrame _) fun _ => hem _)
  · split
    · split
      · exact .bind (releaseFrame _) fun _ => slayMonster hem _ _
      · exact .bind (restoreFrame _) fun _ => hem _
      · exact restoreFrame _
    · exact restoreFrame _

/-- A roll under a newer frame has its clock started again; any other closes and is settled. -/
theorem resolveRoll (frameId : Nat) (win : Window) (body : RollBody) :
    Along thrown r (HereToSlaughter.resolveRoll T em frameId win body) := by
  refine .bind now fun _ => .bind getGs fun _ => .ite (window _ fun v => .resetTimer _) ?_
  refine .bind (restart _ _) fun _ => .bind (window _ fun v => .close) fun _ => ?_
  exact .bind (hem _) fun _ => .bind (settleRoll hem _ _ _) fun _ => hem _

/-! ## Challenges -/

/-- A contest that starts gives the passes back: both have dice to look at now. -/
theorem startChallenge (win : Window) (body : ChallengeBody) (challengerId : String) :
    Along thrown r (HereToSlaughter.startChallenge T em win body challengerId) := by
  refine .ite (.pure _) ?_
  refine .bind (roll2Dice _) fun _ => .bind (roll2Dice _) fun _ => .bind getGs fun _ => ?_
  refine .bind (window _ fun v => ⟨rfl, fun h => h, fun _ => .inl rfl⟩) fun _ => ?_
  refine .bind (hem _) fun _ => .bind now fun _ => ?_
  exact .bind (window _ fun v => .resetTimer _) fun _ => .pure _

/-- A bonus on a contest gives the passes back and starts the clock again. -/
theorem submitToChallenge (win : Window) (body : ChallengeBody) (playerId : String) (value : Int)
    (cardId targetPlayerId : String) :
    Along thrown r (HereToSlaughter.submitToChallenge em win body playerId value cardId
      targetPlayerId) := by
  unfold HereToSlaughter.submitToChallenge
  split
  · exact .pure _
  · refine .bind getGs fun _ =>
      .bind (window _ fun v => ⟨rfl, fun h => h, fun _ => .inl ?_⟩) fun _ => ?_
    · dsimp only [Window.passedBy, ChallengeBody.withBonus]
      split <;> rfl
    · refine .bind (hem _) fun _ => .bind now fun _ => ?_
      exact .bind (window _ fun v => .resetTimer _) fun _ => .pure _

/-- What a contest does once its window has closed. -/
theorem settleChallenge (frameId : Nat) (win : Window) (body : ChallengeBody) :
    Along thrown r (do
      em (.reactionWindowClosed .challenge win.respondentId frameId none (some body.cardId))
      if body.challenged then
        em (.challengeResolved win.respondentId (body.challengerId.getD "") body.cardId
          body.challengedWins)
        if body.challengedWins then
          EngineM.releaseFrame frameId
          EngineM.modifyBoard (Board.markCardChallenged body.cardId)
        else
          EngineM.restoreFrame frameId
          EngineM.modifyBoard (Board.addToDiscardPile body.cardId)
      else EngineM.releaseFrame frameId
      em (.frameResolved frameId [] (some body.cardId))) := by
  refine .bind (hem _) fun _ => .ite ?_ (.bind (releaseFrame _) fun _ => hem _)
  refine .bind (hem _) fun _ => .ite ?_ ?_
  · exact .bind (releaseFrame _) fun _ =>
      .bind (door fun b => .markCardChallenged b _) fun _ => hem _
  · exact .bind (restoreFrame _) fun _ => .bind (door fun b => .addToDiscardPile b _) fun _ => hem _

/-- A contest under a newer frame has its clock started again; any other closes and is settled. -/
theorem resolveChallenge (frameId : Nat) (win : Window) (body : ChallengeBody) :
    Along thrown r (HereToSlaughter.resolveChallenge em frameId win body) := by
  refine .bind now fun _ => .bind getGs fun _ => .ite (window _ fun v => .resetTimer _) ?_
  refine .bind (window _ fun v => .close) fun _ => .bind (restart _ _) fun _ => ?_
  exact settleChallenge hem frameId win body

/-! ## Choices -/

omit [AllowsChange r] in
/-- The label picked is announced, and nothing else is written. -/
theorem announceOutcome (respondentId : String) (body : ChoiceBody) :
    Along thrown r (HereToSlaughter.announceOutcome em respondentId body) := by
  unfold HereToSlaughter.announceOutcome
  split
  · exact .ite (.pure ()) (hem _)
  · exact .pure ()

omit hem in
/-- A question nobody answered draws an index where its default is drawn. -/
theorem drawDefault (body : ChoiceBody) : Along thrown r (HereToSlaughter.drawDefault T body) := by
  unfold HereToSlaughter.drawDefault
  split
  · exact random _ _
  · exact .pure 0

/-- What a question does once its window has closed. -/
theorem settleChoice (frameId : Nat) (win : Window) (body settled : ChoiceBody) :
    Along thrown r (do
      if body.picked.isNone && (settled.picked.isNone || body.kind.picksAtRandom) then
        EngineM.modifyGs (GameState.noteChoiceLapse
          { windowId := win.id, respondentId := win.respondentId, type := body.kind.type
            random := settled.picked.isSome, question := body.askedQuestion })
      else pure ()
      let all := (← EngineM.getGs).frameChoices frameId
      let last := all.all fun choice => choice.1.id = win.id || !choice.1.isOpen
      if last then EngineM.releaseFrame frameId else pure ()
      em (.reactionWindowClosed body.kind.type win.respondentId frameId)
      HereToSlaughter.announceOutcome em win.respondentId settled
      if last then em (.frameResolved frameId (all.filterMap fun choice => choice.2.contextWrite))
      else pure ()) := by
  extract_lets rest
  have hrest : Along thrown r (rest ()) := by
    refine .bind getGs fun gs => ?_
    extract_lets all last say
    have hsay : Along thrown r (say ()) :=
      .bind (hem _) fun _ => .bind (announceOutcome hem _ _) fun _ => .ite (hem _) (.pure ())
    exact .ite (.bind (releaseFrame _) fun _ => hsay) hsay
  exact .ite (.bind (state (fun _ => rfl) fun _ => rfl) fun _ => hrest) hrest

/-- A question closes with its answer or with its default, and is settled. -/
theorem resolveChoice (frameId : Nat) (win : Window) (body : ChoiceBody) :
    Along thrown r (HereToSlaughter.resolveChoice T em frameId win body) := by
  refine .bind now fun _ => .bind (restart _ _) fun _ => .bind (drawDefault body) fun index => ?_
  refine .bind getGs fun gs => .bind (window _ fun v => ?_) fun _ => ?_
  · exact ⟨rfl, fun h => (nomatch h), fun h => (nomatch h)⟩
  · exact settleChoice hem frameId win body _

/-- An answer to a question settles it. -/
theorem submitToChoice (frameId : Nat) (win : Window) (body : ChoiceBody) (playerId : String)
    (choice : Option Pick) :
    Along thrown r (HereToSlaughter.submitToChoice T em frameId win body playerId choice) := by
  refine .ite (.pure _) ?_
  split
  · exact .bind (resolveChoice hem _ _ _) fun _ => .pure _
  · exact .bind getGs fun _ => .ite (.bind (resolveChoice hem _ _ _) fun _ => .pure _) (fail _)

/-! ## Any window -/

/-- Any window is resolved as its kind has it; a closed one is left as it is. -/
theorem resolve (frameId : Nat) (win : Window) :
    Along thrown r (HereToSlaughter.resolve T em frameId win) := by
  refine .ite (.pure ()) ?_
  split
  · exact resolveRoll hem _ _ _
  · exact resolveChallenge hem _ _ _
  · exact resolveChoice hem _ _ _

/-- A window's timer writes what its settlement writes. -/
theorem windowLapse (windowId : Nat) :
    Along thrown r (HereToSlaughter.windowLapse T em windowId) := by
  refine .bind getGs fun gs => ?_
  split
  · exact .pure ()
  · exact .bind now fun _ => .ite (resolve hem _ _) (.pure ())

/-- A cancelled window closes, and that is announced. -/
theorem cancel (frameId : Nat) (win : Window) :
    Along thrown r (HereToSlaughter.cancel em frameId win) :=
  .bind (window _ fun _ => .close) fun _ => hem _

/-- The game concludes: the winner is named, every open window is cancelled, and the frames go. -/
theorem conclude (winnerId : String) : Along thrown r (HereToSlaughter.conclude em winnerId) :=
  .bind getGs fun _ => .bind (mark rfl) fun _ => .bind (door fun _ => .single (.phase ..)) fun _ =>
    .bind (forEach (fun _ => cancel hem _ _) _) fun _ => modifies fun _ => .clear

end

end Writes

end HereToSlaughter
