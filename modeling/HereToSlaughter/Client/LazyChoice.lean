import HereToSlaughter.Client.LiveRoll
import HereToSlaughter.Client.Playable

/-!
# Lazy choice

The answers a lazy player almost always gives are given for them (`lazyMove`): a value, a steal
instead of a destroy, a free draw, and a skip of the table's windows when nothing is left to decide.
A skip for want of a card goes by one wanted type. The engine decides on modifiers and on challenges
separately, so the skip may give up a challenge that a roll stands beside
(`LazySkip.gives_up_nothing_iff`).

Reference: `client/src/board/{lazyChoice,playable}.ts`, `openChoice` of
`client/src/board/choicePrompt.tsx`, `reactions/play-{modifier,challenge}-reaction.ts`.
-/

namespace HereToSlaughter

open Lib

/-- `LazyMove['kind']`. -/
inductive LazyMoveKind
  | skip | submit
  deriving DecidableEq

/-- `LazyMove`. -/
structure LazyMove where
  kind : LazyMoveKind
  windowId : Nat
  choice : Option Pick := none
  key : String

/-- `PREFERRED_ACTION`. -/
def PREFERRED_ACTION := "Steal it instead"

namespace PendingWindowView

variable (window : PendingWindowView)

/-- `keyOf`. -/
def keyOf : String :=
  let windowId := window.windowId
  let deadline := window.deadline
  s!"{windowId}:{deadline}"

/-- `detail?.confirms`, when it is a string. -/
def confirms : Option String :=
  match window.detail with
  | some (.choice detail) => detail.confirms
  | _ => none

/-- `detail?.bias`. -/
def bias : Option ValueBias :=
  match window.detail with
  | some (.choice detail) => detail.bias
  | _ => none

/-- `isDrawOffer`: the label has "draw" in it, in whatever case. -/
def isDrawOffer : Bool :=
  ((window.confirms.getD "").toList.map Char.toLower).tails.any "draw".toList.isPrefixOf

/-- The numbers among the options. -/
def numbers : List Int :=
  (window.options.getD []).filterMap fun option => match option with
    | .num n => some n
    | .id _ => none

end PendingWindowView

/-- `lazyModifierValue`: the value of the biggest impact. -/
def lazyModifierValue (values : List Int) : Option Int :=
  match values.max?, values.min? with
  | some up, some down =>
    if values.length = 1 then values.head?
    else if up ≤ 0 then some down
    else if 0 ≤ down then some up
    else if -down ≤ up then some up else some down
  | _, _ => none

/-! ## The move -/

namespace PlayerView

variable (view : PlayerView)

/-- `openChoice`: the question put to this seat. -/
def openChoice : Option PendingWindowView :=
  view.pendingWindows.find? fun window => window.isYours && window.type ∉ TABLE_WINDOWS

/-- The window wants a card of one type and this seat holds none. -/
def emptyHanded : Bool := view.reactionCardType.isSome && !view.holdsAnswer

/-- The roll is this seat's and already clears its requirement. -/
def alreadyClear : Bool :=
  view.liveRollOf.any fun roll =>
    roll.rollerId = view.playerId && roll.rollReq.any (· ≤ roll.finalRoll)

/-- The roll is another seat's and already lost. -/
def alreadyLost : Bool :=
  view.liveRollOf.any fun roll =>
    roll.rollerId ≠ view.playerId && rollOutcome roll view = .failure

/-- The answer to a value somebody waits for. -/
def valueMove : Option LazyMove :=
  (view.pendingWindows.find? fun window =>
      window.isYours && window.type = .valueChoice && window.options.any (· ≠ [])).bind fun value =>
    match value.numbers.max?, value.numbers.min? with
    | some highest, some lowest =>
      -- in a contest the magnitude decides, not the bias
      let contested := view.pendingWindows.any fun window =>
        window.type = .challenge && window.challenged
      let swing := if contested then lazyModifierValue value.numbers else none
      some
        { kind := .submit, windowId := value.windowId, key := value.keyOf
          choice := some (.num (swing.getD
            (if value.bias = some .lowest then lowest else highest))) }
    | _, _ => none

/-- The steal instead of the destroy. -/
def actionMove : Option LazyMove :=
  (view.pendingWindows.find? fun window =>
      window.isYours && window.type = .taskChoice &&
        window.options.any (·.contains (.id PREFERRED_ACTION))).map fun action =>
    { kind := .submit, windowId := action.windowId, key := action.keyOf
      choice := some (.id PREFERRED_ACTION) }

/-- A free card is taken. -/
def drawMove : Option LazyMove :=
  (view.pendingWindows.find? fun window =>
      window.isYours && window.optional && window.isDrawOffer).map fun draw =>
    { kind := .submit, windowId := draw.windowId, key := draw.keyOf, choice := some (.id CONFIRM) }

/-- The table's windows are given up. -/
def skipMove : Option LazyMove :=
  if view.openChoice.isSome then none
  else
    (view.passableWindows.head?).bind fun windowId =>
      (view.pendingWindows.find? (·.windowId = windowId)).bind fun window =>
        if view.emptyHanded || view.alreadyClear || view.alreadyLost then
          some { kind := .skip, windowId, key := window.keyOf }
        else none

/-- `lazyMove`: questions put to this seat come before the table's business. -/
def lazyMove : Option LazyMove :=
  if view.phase ≠ .turns then none
  else view.valueMove <|> view.actionMove <|> view.drawMove <|> view.skipMove

/-- The lazy move is a skip, for want of a card. -/
def LazySkip : Prop :=
  view.emptyHanded = true ∧ ∃ move, view.lazyMove = some move ∧ move.kind = .skip

end PlayerView

/-! ## What the server takes -/

/-- A window a bonus may land in: a roll, or a contest that has begun. -/
def Window.takesBonus (win : Window) : Bool :=
  match win.body with
  | .roll _ => true
  | .challenge body => body.challenged
  | .choice _ => false

/-- The contest the engine finds still waits for a challenger, and the seat may be the one. -/
def GameState.contestable (now : Nat) (gs : GameState) (playerId : String) : Bool :=
  match gs.openContest with
  | none => false
  | some (_, win) => match win.body with
    | .challenge body =>
      now < win.deadline && body.clockMs ≠ 0 &&
        !gs.board.cardsChallengedThisTurn.contains body.cardId &&
        !body.challenged && win.respondentId ≠ playerId
    | _ => false

section
variable {T : Table} {gs : GameState} {now : Nat} {playerId cardId : String}

/-- The check for a card reads the hand. -/
theorem hasInHand_ok {b : Board} {inHand : Bool} (h : b.hasInHand playerId cardId = .ok inHand) :
    inHand = (b.hand playerId).contains cardId := by
  obtain ⟨player, hplayer, h⟩ := ok_of_bind h
  cases h
  unfold Board.requirePlayer at hplayer
  split at hplayer
  · cases hplayer
    simp [Board.hand, *]
  · cases hplayer

/-- Who holds a card is seated. -/
theorem seated_of_mem_hand {b : Board} (hcard : cardId ∈ b.hand playerId) :
    ∃ player, b.players.get? playerId = some player := by
  unfold Board.hand at hcard
  cases hplayer : b.players.get? playerId with
  | none => simp [hplayer] at hcard
  | some player => exact ⟨player, rfl⟩

/-- The engine takes a challenge with any card of the hand, as long as the contest waits for one. -/
theorem canPlayChallenge_accepted_iff : canPlayChallenge now gs playerId cardId = .ok .accepted ↔
    cardId ∈ gs.board.hand playerId ∧ gs.contestable now playerId = true := by
  by_cases hcard : cardId ∈ gs.board.hand playerId
  · obtain ⟨player, hplayer⟩ := seated_of_mem_hand hcard
    have hinHand := Board.hasInHand_of_mem hplayer hcard
    simp only [canPlayChallenge, GameState.contestable, hinHand, bind, Except.bind, if_true, hcard,
      true_and]
    cases gs.openContest with
    | none => simp [pure, Except.pure]
    | some found =>
      obtain ⟨frameId, win⟩ := found
      dsimp only
      cases win.body with
      | roll | choice => simp [pure, Except.pure]
      | challenge body =>
        dsimp only
        by_cases hlate : win.deadline ≤ now
        · simp [hlate, Nat.not_lt.2 hlate, pure, Except.pure]
        · have hearly : now < win.deadline := Nat.lt_of_not_le hlate
          by_cases hclock : body.clockMs = 0
          · simp [hclock, pure, Except.pure]
          · simp only [hlate, hclock, or_self, if_false]
            split_ifs <;> simp_all [pure, Except.pure]
  · refine iff_of_false (fun h => ?_) fun h => hcard h.1
    obtain ⟨inHand, hinHand, h⟩ := ok_of_bind h
    have hheld := hasInHand_ok hinHand
    cases inHand with
    | false => cases h
    | true => exact hcard (by simpa using hheld.symm)

/-- The window found is open, and takes modifiers. -/
theorem mem_openWindows_of_modifiable {frameId : Nat} {win : Window}
    (h : gs.findOpenModifiableWindow = some (frameId, win)) :
    win ∈ gs.openWindows ∧ win.isModifiable = true := by
  obtain ⟨type, -, hfound⟩ := List.exists_of_findSome?_eq_some h
  obtain ⟨hfound, hopen⟩ := Option.filter_eq_some_iff.1 hfound
  rw [Bool.and_eq_true] at hopen
  obtain ⟨⟨F, frame⟩, hframe, hfirst⟩ := Option.bind_eq_some_iff.1 hfound
  obtain ⟨found, hwin, heq⟩ := Option.map_eq_some_iff.1 hfirst
  cases heq
  exact ⟨List.mem_flatMap.2 ⟨frame, OrderedMap.mem_values_iff.2 ⟨frameId,
    List.mem_of_find?_eq_some hframe⟩, List.mem_filter.2 ⟨List.mem_of_find?_eq_some hwin, hopen.1⟩⟩,
    hopen.2⟩

/-- A modifier lands where a bonus may. -/
theorem takesBonus_of_aimModifier {target : Option String} {aimed : String}
    (h : gs.aimModifier target = .ok aimed) : ∃ win ∈ gs.openWindows, win.takesBonus = true := by
  unfold GameState.aimModifier at h
  cases hfound : gs.findOpenModifiableWindow with
  | none => rw [hfound] at h; cases h
  | some found =>
    obtain ⟨frameId, win⟩ := found
    obtain ⟨hmem, hmodifiable⟩ := mem_openWindows_of_modifiable hfound
    refine ⟨win, hmem, ?_⟩
    cases hbody : win.body with
    | roll body => simp [Window.takesBonus, hbody]
    | choice body => simp [Window.isModifiable, hbody] at hmodifiable
    | challenge body =>
      simp only [Window.takesBonus, hbody]
      cases hstarted : body.challenged with
      | true => rfl
      | false =>
        rw [hfound] at h
        simp [Window.getType, Window.acceptsModifierFor, hbody, hstarted] at h

/-- A modifier that is taken is a modifier of the hand, and lands where a bonus may. -/
theorem canPlayModifier_accepted {value : Int} {target : Option String}
    (h : canPlayModifier T gs playerId cardId value target = .ok .accepted) :
    cardId ∈ gs.board.hand playerId ∧
      (∃ values, (T.cards.get? cardId).map Card.data = some (.modifier values)) ∧
      ∃ win ∈ gs.openWindows, win.takesBonus = true := by
  obtain ⟨inHand, hinHand, h⟩ := ok_of_bind h
  have hheld := hasInHand_ok hinHand
  cases inHand with
  | false => cases h
  | true =>
    simp only [if_true] at h
    split at h
    · rename_i values hvalues
      split at h
      · split at h
        · exact ⟨by simpa using hheld.symm, ⟨values, hvalues⟩, takesBonus_of_aimModifier ‹_›⟩
        · cases h
      · cases h
    · cases h

end

/-! ## What is given up -/

section
variable {T : Table} {w : World} {playerId : String} {view : PlayerView}

/-- The screen takes a modifier where a bonus may land. -/
theorem PlayerView.Shows.takesModifier (h : view.Shows T w playerId) :
    view.takesModifier = true ↔ ∃ win ∈ w.gs.openWindows, win.takesBonus = true := by
  rw [PlayerView.takesModifier, h.pendingWindows, List.any_map, List.any_eq_true]
  refine exists_congr fun win => and_congr_right fun _ => ?_
  cases hbody : win.body with
  | roll body => cases hsubject : body.subject <;> simp [pendingWindowView, Window.takesBonus,
      Window.getType, hbody, hsubject]
  | challenge body =>
    simp [pendingWindowView, Window.takesBonus, Window.getType, hbody, PendingWindowView.challenged,
      TABLE_WINDOWS, Window.detail, ChallengeBody.detail]
  | choice body =>
    cases hkind : body.kind <;> simp [pendingWindowView, Window.takesBonus, Window.getType, hbody,
      ChoiceKind.type, hkind]

/-- The wanted card: a modifier where one may land, a challenge elsewhere. -/
theorem PlayerView.reactionCardType_eq_some {answers : CardType}
    (h : view.reactionCardType = some answers) :
    if view.takesModifier = true then answers = .modifier else answers = .challenge := by
  unfold PlayerView.reactionCardType at h
  split_ifs at h ⊢ <;> simp_all

/-- A seat with nothing to answer with holds no card of the wanted type. -/
theorem PlayerView.Shows.emptyHanded (h : view.Shows T w playerId) {answers : CardType}
    (hwanted : view.reactionCardType = some answers) (hempty : view.emptyHanded = true)
    {cardId : String} (hcard : cardId ∈ w.gs.board.hand playerId) :
    ∀ card, T.cards.get? cardId = some card → card.getType ≠ answers := by
  intro card hget htype
  obtain ⟨shown, hshown, hget'⟩ := h.hand_card hcard
  cases hget.symm.trans hget'
  have hnone : view.holdsAnswer = false := by
    simpa [PlayerView.emptyHanded, hwanted] using hempty
  simp only [PlayerView.holdsAnswer, hwanted, List.any_eq_false, decide_eq_true_eq] at hnone
  exact hnone card hshown htype

/-- A lazy skip for want of a card gives up nothing the server would have taken from the seat
exactly when no bonus may land anywhere, or no contest waits for the seat, or the seat holds no
challenge card. -/
theorem PlayerView.LazySkip.gives_up_nothing_iff (hview : playerView T w playerId = .ok view)
    (hskip : view.LazySkip) :
    ((∀ cardId value target,
        canPlayModifier T w.gs playerId cardId value target ≠ .ok .accepted) ∧
      ∀ cardId, T.cards.typeOf cardId = some .challenge →
        canPlayChallenge w.now w.gs playerId cardId ≠ .ok .accepted) ↔
    ((∃ win ∈ w.gs.openWindows, win.takesBonus = true) → w.gs.contestable w.now playerId = true →
      ∀ cardId ∈ w.gs.board.hand playerId, T.cards.typeOf cardId ≠ some .challenge) := by
  have hshows := playerView_ok hview
  obtain ⟨answers, hwanted⟩ : ∃ answers, view.reactionCardType = some answers := by
    have hempty := hskip.1
    rw [PlayerView.emptyHanded, Bool.and_eq_true] at hempty
    exact Option.isSome_iff_exists.1 hempty.1
  have hholds : ∀ cardId ∈ w.gs.board.hand playerId, ∀ card, T.cards.get? cardId = some card →
      card.getType ≠ answers := fun _ => hshows.emptyHanded hwanted hskip.1
  constructor
  · rintro ⟨-, hchallenge⟩ - hcontest cardId hcard htype
    exact hchallenge cardId htype (canPlayChallenge_accepted_iff.2 ⟨hcard, hcontest⟩)
  · intro hnone
    refine ⟨fun cardId value target haccepted => ?_, fun cardId htype haccepted => ?_⟩
    · -- a modifier is wanted, and the seat would hold one
      obtain ⟨hcard, ⟨values, hvalues⟩, hbonus⟩ := canPlayModifier_accepted haccepted
      obtain ⟨card, hget, hdata⟩ := Option.map_eq_some_iff.1 hvalues
      have hmodifier : answers = .modifier := by
        simpa [hshows.takesModifier.2 hbonus] using PlayerView.reactionCardType_eq_some hwanted
      exact hholds cardId hcard card hget (by simp [Card.getType, hdata, hmodifier])
    · obtain ⟨hcard, hcontest⟩ := canPlayChallenge_accepted_iff.1 haccepted
      by_cases hbonus : ∃ win ∈ w.gs.openWindows, win.takesBonus = true
      · exact hnone hbonus hcontest cardId hcard htype
      · -- a challenge is wanted, and the seat would hold one
        have hno : ¬ view.takesModifier = true := fun h => hbonus (hshows.takesModifier.1 h)
        have hchallenge : answers = .challenge := by
          simpa [hno] using PlayerView.reactionCardType_eq_some hwanted
        obtain ⟨card, hget, hcardType⟩ := Option.map_eq_some_iff.1 htype
        exact hholds cardId hcard card hget (hcardType.trans hchallenge.symm)

end

/-- A table where a challenge can stand over a roll: the first seat may take a card whenever a
modifier is played, and play the magic cards it draws. -/
def serpentAndOrthus : GameSetup :=
  let setup := tableForTwo 1 [⟨"modifier-078", "modifier-078", "base", .modifier [2]⟩,
    ⟨"challenge-1", "challenge-1", "base", .challenge⟩,
    ⟨"magic-100", "magic-100", "base", .magic⟩] [5, 5, 5, 5, 1, 1]
  { setup with
    config := { setup.config with actionPointsPerTurn := 6 }
    cards := setup.cards.map fun card =>
      if card.id = "monster-1" then { card with id := "monster-125" }
      else if card.id = "monster-2" then { card with id := "monster-131" } else card }

/-- The first seat slays both, attacks the third monster, modifies its own roll, draws and plays
what it drew. -/
def magicOverRoll : List Input :=
  [.command "A" (.action (.attackMonster "monster-125")), .command "B" (.passWindow 1),
   .command "A" (.passWindow 1), .command "A" (.action (.attackMonster "monster-131")),
   .command "B" (.passWindow 3), .command "A" (.passWindow 3),
   .command "A" (.action (.attackMonster "monster-3")),
   .command "A" (.applyModifier "modifier-078" 2 none),
   .command "A" (.submitChoice 10 (some (.id CONFIRM))),
   .command "A" (.submitChoice 15 (some (.id CONFIRM)))]

/-- The second seat holds a challenge card and would skip. -/
theorem magicOverRoll_played :
    ((serpentAndOrthus.play 60 magicOverRoll).any fun w =>
      (playerView serpentAndOrthus.table w "B").toOption.any fun view => view.emptyHanded &&
        view.lazyMove.any (fun move => move.kind = .skip) &&
        w.gs.contestable w.now "B" && (w.gs.board.hand "B").contains "challenge-1" &&
        decide (serpentAndOrthus.table.cards.typeOf "challenge-1" = some .challenge)) = true := by
  decide +kernel

/-- A roll is open, a magic card stands to be challenged over it, and the seat holds a challenge.
-/
theorem magicOverRoll_reached : ∃ w view, Reach serpentAndOrthus w ∧
    playerView serpentAndOrthus.table w "B" = .ok view ∧ view.LazySkip ∧
    serpentAndOrthus.table.cards.typeOf "challenge-1" = some .challenge ∧
    canPlayChallenge w.now w.gs "B" "challenge-1" = .ok .accepted := by
  obtain ⟨w, h, hplayed⟩ := Reach.of_play _ _ _ _ magicOverRoll_played
  obtain ⟨view, hview, hplayed⟩ := Option.any_eq_true _ _ |>.1 hplayed
  simp only [Bool.and_eq_true, decide_eq_true_eq, List.contains_iff_mem] at hplayed
  obtain ⟨⟨⟨⟨hempty, hmove⟩, hcontest⟩, hcard⟩, htype⟩ := hplayed
  obtain ⟨move, hmove, hkind⟩ := Option.any_eq_true _ _ |>.1 hmove
  exact ⟨w, view, h, ok_of_toOption hview, ⟨hempty, move, hmove, by simpa using hkind⟩, htype,
    canPlayChallenge_accepted_iff.2 ⟨hcard, hcontest⟩⟩

/-- Skipping there gives the challenge up. -/
theorem PlayerView.LazySkip.gives_up_nothing_iff_magicOverRoll :
    ∃ w view, Reach serpentAndOrthus w ∧
    playerView serpentAndOrthus.table w "B" = .ok view ∧ view.LazySkip ∧
    (((∀ cardId value target,
        canPlayModifier serpentAndOrthus.table w.gs "B" cardId value target ≠ .ok .accepted) ∧
      ∀ cardId, serpentAndOrthus.table.cards.typeOf cardId = some .challenge →
        canPlayChallenge w.now w.gs "B" cardId ≠ .ok .accepted) ↔
    ((∃ win ∈ w.gs.openWindows, win.takesBonus = true) → w.gs.contestable w.now "B" = true →
      ∀ cardId ∈ w.gs.board.hand "B",
        serpentAndOrthus.table.cards.typeOf cardId ≠ some .challenge)) := by
  obtain ⟨w, view, h, hview, hskip, -⟩ := magicOverRoll_reached
  exact ⟨w, view, h, hview, hskip, hskip.gives_up_nothing_iff hview⟩

/-- A challenge the server would have taken is given up. -/
theorem not_gives_up_nothing_magicOverRoll : ∃ w view, Reach serpentAndOrthus w ∧
    playerView serpentAndOrthus.table w "B" = .ok view ∧ view.LazySkip ∧
    ∃ cardId, serpentAndOrthus.table.cards.typeOf cardId = some .challenge ∧
      canPlayChallenge w.now w.gs "B" cardId = .ok .accepted := by
  obtain ⟨w, view, h, hview, hskip, htype, haccepted⟩ := magicOverRoll_reached
  exact ⟨w, view, h, hview, hskip, "challenge-1", htype, haccepted⟩

end HereToSlaughter
