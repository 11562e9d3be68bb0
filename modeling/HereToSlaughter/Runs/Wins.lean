import HereToSlaughter.Machine.Wins
import HereToSlaughter.Model.BaseGameCards
import HereToSlaughter.Runs.Basic

/-!
# Wins are declared when they are due

At every rest with nothing pending a seat that wins has won; the winner is the first seat that won
on a board no frame could take back, and nobody wins after it. That is so as long as no input throws
half-way: the game engine hears of an event after the task manager, and hears nothing of one in
which a step throws, nor does the table get another that makes it look.

Reference: `game-engine.ts`, `conditions/win-conditions.ts`.
-/

namespace HereToSlaughter

open Lib EngineM

variable {setup : GameSetup} {w : World}

/-- The number of conclusions a history tells of. -/
theorem length_verdicts : ∀ history : List Mark,
    (verdicts history).length = history.countP Mark.isVerdict
  | [] => rfl
  | m :: history => by
    cases m <;> simp [verdicts, List.countP_cons, Mark.isVerdict, length_verdicts history]

/-- What holds of the win conditions wherever a table rests. -/
theorem Reach.won (h : Reach setup w) :
    ∃ k, Won setup.table (k, w.shape) ∧ Sound setup.table.cards (k, w.shape) ∧
    Rest k w := by
  obtain ⟨hvalid, k, hpath, hrest⟩ := h.machine
  exact ⟨k, Won.path hvalid.sound setup.won_origin hpath,
    (outerSystem setup.printedTable).inv_of_path hpath hvalid.sound, hrest⟩

/-- In a run in which no input throws half-way, whoever wins while nothing is pending has won; the
game is concluded once, over a board with nothing pending, for the first seat in the order that won
there; and the winner stays. -/
theorem Course.wins_when_due (hcourse : Course setup (Whole setup.table) w) :
    (w.gs.hasPendingOutcome = false → setup.config.winConditions ≠ [] →
      ∀ seat ∈ w.gs.board.seats, winsBy setup.table w.gs.board seat = true →
        w.gs.board.gamePhase = .concluded) ∧
    (∀ winnerId gs, .concluded winnerId gs ∈ w.history →
      gs.hasPendingOutcome = false ∧ (∃ before after,
        gs.board.seats = before ++ winnerId :: after ∧ gs.board.seats = w.playerOrder ∧
        winsBy setup.table gs.board winnerId = true ∧
        ∀ seat ∈ before, winsBy setup.table gs.board seat = false) ∧
      w.gs.board.gamePhase = .concluded ∧ w.gs.board.winnerId = some winnerId) ∧
    (w.gs.board.gamePhase = .concluded → ∃ winnerId gs, .concluded winnerId gs ∈ w.history) ∧
    w.history.countP Mark.isVerdict ≤ 1 ∧
    (∀ w', Later setup.table w w' → w.gs.board.gamePhase = .concluded →
      w'.gs.board.gamePhase = .concluded ∧ w'.gs.board.winnerId = w.gs.board.winnerId) := by
  have h : Reach setup w := course_whole_iff.1 hcourse
  obtain ⟨k, hwon, hsound, hrest⟩ := h.won
  have hmarked : w.gs.board.gamePhase = .concluded →
      ∃ winnerId gs, .concluded winnerId gs ∈ w.history := fun hover => by
    obtain ⟨⟨winnerId, gs⟩, hmem⟩ := List.exists_mem_of_ne_nil _ (hwon.verdict.atEnd.1 hover)
    exact ⟨winnerId, gs, mem_verdicts.1 hmem⟩
  refine ⟨fun hpending hconditions seat hseat hwins => ?_, fun winnerId gs hmem => ?_, hmarked, ?_,
    fun w' hlater hover => ?_⟩
  · obtain hpending' | hover | hnone := hwon.judged (hrest.going.rested rfl).checked
    · rw [GameState.hasPendingOutcome_shape, hpending] at hpending'
      cases hpending'
    · exact hover
    · rw [checkWinConditions,
        if_neg (show ¬ setup.table.config.winConditions = [] from hconditions),
        List.find?_eq_none] at hnone
      exact absurd hwins (hnone seat hseat)
  · have hmem := mem_verdicts.2 hmem
    obtain ⟨hpending, hseats, hwins⟩ := hwon.verdict.due _ _ hmem
    obtain ⟨before, after, horder, hwinner, hbefore⟩ := checkWinConditions_some hwins
    exact ⟨hpending, ⟨before, after, horder, hseats, hwinner, hbefore⟩,
      hwon.verdict.atEnd.2 (List.ne_nil_of_mem hmem), hwon.verdict.winner _ _ hmem⟩
  · rw [← length_verdicts]
    obtain hnone | ⟨winnerId, gs, hone⟩ := hwon.verdict.once
    · rw [show verdicts w.history = [] from hnone]; exact Nat.zero_le _
    · rw [show verdicts w.history = [_] from hone]; exact Nat.le_refl _
  · obtain ⟨winnerId, gs, hmem⟩ := hmarked hover
    obtain ⟨hreach, hvalid, k₁, k₂, hpath, hpath', -, -⟩ := h.later hlater
    have hmem' : .concluded winnerId gs ∈ w'.history := (history_suffix hpath').subset hmem
    obtain ⟨k', hwon', -, -⟩ := hreach.won
    have hwinner' := hwon'.verdict.winner _ _ (mem_verdicts.2 hmem')
    exact ⟨hwon'.verdict.atEnd.2 (List.ne_nil_of_mem (mem_verdicts.2 hmem')),
      hwinner'.trans (hwon.verdict.winner _ _ (mem_verdicts.2 hmem)).symm⟩

/-- A table at which two classes win. -/
def twoClassesWin : GameSetup :=
  { tableForTwo 1 [heroCard "hero-001" .fighter 8, heroCard "hero-002" .thief 8] [] with
    config := { startingHandSize := 1, winConditions := [⟨.partyClasses, 2⟩] } }

/-- The first seat's hero is its second class. -/
theorem twoClassesWin_played :
    ((twoClassesWin.play 40 [.command "A" (.action (.playHero "hero-001")),
        .command "B" (.passWindow 1)]).any fun w =>
      w.gs.board.gamePhase = .concluded ∧ (announced w.history).any GameEvent.isEnd) = true := by
  decide +kernel

/-- Two classes win. -/
theorem Course.wins_twoClassesWin : ∃ w, Course twoClassesWin (Whole twoClassesWin.table) w ∧
    w.gs.board.gamePhase = .concluded ∧ ∃ winnerId gs, .concluded winnerId gs ∈ w.history ∧
      gs.hasPendingOutcome = false ∧ w.gs.board.winnerId = some winnerId := by
  obtain ⟨w, h, hplayed⟩ := Reach.of_play _ _ _ _ twoClassesWin_played
  obtain ⟨hover, -⟩ := of_decide_eq_true hplayed
  have hcourse := course_whole_iff.2 h
  obtain ⟨-, hmarks, hmarked, -⟩ := hcourse.wins_when_due
  obtain ⟨winnerId, gs, hmem⟩ := hmarked hover
  obtain ⟨hpending, -, -, hwinner⟩ := hmarks winnerId gs hmem
  exact ⟨w, hcourse, hover, winnerId, gs, hmem, hpending, hwinner⟩

/-! ## A win nobody looks at -/

/-- The printed cards with these ids. -/
def printedCards (ids : List String) : List Card :=
  ids.filterMap fun id => baseGameCards.find? fun card => card.id = id

/-- A table for two with the printed rules and win conditions. The first seat has a ranger for a
leader and heroes of four more classes, and the second has the bard it lacks. -/
def badAxeTable : GameSetup where
  playerIds := ["A", "B"]
  config := { startingHandSize := 7 }
  cards := printedCards
    ["leader-116", "leader-117", "monster-125", "monster-126", "monster-131",
     "hero-033", "hero-017", "hero-025", "hero-001", "item-064", "item-065", "item-074",
     "hero-044", "modifier-077", "modifier-078", "modifier-079", "modifier-094", "challenge-102",
     "item-075", "magic-051", "magic-055", "magic-049", "item-073"]
  rng := keepOrder [18, 3, 2, 2] [5, 5, 5, 5, 3, 2, 5, 5, 0, 0]

/-- A hero is played, goes unchallenged, and is not rolled on. -/
def playsHero (playerId otherId heroId : String) (contest question : Nat) : List Input :=
  [.command playerId (.action (.playHero heroId)), .command otherId (.passWindow contest),
   .command playerId (.submitChoice question (some (.id DISMISS)))]

/-- A monster is slain. -/
def slaysMonster (playerId monsterId : String) (roll : Nat) : List Input :=
  [.command playerId (.action (.attackMonster monsterId)), .command "A" (.passWindow roll),
   .command "B" (.passWindow roll)]

/-- A modifier of the second seat lets the first draw a magic, by Crowned Serpent, and play it, by
Orthus. -/
def drawsMagic (modifierId : String) (value : Int) (serpent orthus : Nat) : List Input :=
  [.command "B" (.applyModifier modifierId value none),
   .command "A" (.submitChoice serpent (some (.id CONFIRM))),
   .command "A" (.submitChoice orthus (some (.id CONFIRM)))]

/-- Both monsters are slain, and Bad Axe is rolled on: 7, where 8 is asked for. -/
def badAxeRolled : List Input :=
  playsHero "A" "B" "hero-033" 3 6 ++ playsHero "A" "B" "hero-017" 8 11 ++
  playsHero "A" "B" "hero-025" 13 16 ++ playsHero "B" "A" "hero-044" 18 21 ++
  [.command "B" (.action .endTurn)] ++ slaysMonster "A" "monster-125" 23 ++
  [.command "A" (.action .endTurn), .command "B" (.action .endTurn)] ++
  slaysMonster "A" "monster-131" 25 ++
  [.command "A" (.action (.playHero "hero-001")), .command "B" (.passWindow 27),
   .command "A" (.submitChoice 30 (some (.id CONFIRM)))]

/-- Over the open roll an Entangling Trap steals the bard; while the contest of an Enchanted Spell
stands, a Destructive Spell destroys Bad Axe and the roll comes to 9; the contest is lost, and Bad
Axe is back. All but the last pass of the roll. -/
def badAxeReturns : List Input :=
  badAxeRolled ++ drawsMagic "modifier-077" (-2) 38 43 ++
  [.command "B" (.passWindow 46), .command "A" (.submitChoice 49 (some (.id "item-064"))),
   .command "A" (.submitChoice 51 (some (.id "item-065"))),
   .command "A" (.submitChoice 53 (some (.id "hero-044")))] ++
  drawsMagic "modifier-078" (-2) 59 64 ++ drawsMagic "modifier-079" 2 72 77 ++
  [.command "B" (.passWindow 80), .command "A" (.submitChoice 83 (some (.id "item-074"))),
   .command "A" (.submitChoice 85 (some (.id "hero-001"))),
   .command "B" (.applyModifier "modifier-094" 4 none),
   .command "A" (.submitChoice 91 (some (.id DISMISS))), .command "B" (.challenge "challenge-102"),
   .command "A" (.passWindow 67), .command "B" (.passWindow 67), .command "A" (.passWindow 33)]

/-- The roll succeeds with nobody chosen to be destroyed: `DestroyTask` throws, and the table is
left with a seat that wins, nothing pending and the game going on. -/
theorem badAxeReturns_played : ((badAxeTable.play 60 badAxeReturns).any <|
    throwsInto badAxeTable.table 60 "B" (.passWindow 33) fun w =>
      !w.gs.hasPendingOutcome && w.gs.board.gamePhase ≠ .concluded &&
        w.gs.board.seats.any (winsBy badAxeTable.table w.gs.board)) = true := by
  decide +kernel

/-- Bad Axe throws half-way, and the table goes on with a winner nobody has looked for. -/
theorem not_won_badAxeReturns : ∃ w, Course badAxeTable (fun _ _ _ => True) w ∧
    ¬ (w.gs.hasPendingOutcome = false → badAxeTable.config.winConditions ≠ [] →
      ∀ seat ∈ w.gs.board.seats, winsBy badAxeTable.table w.gs.board seat = true →
        w.gs.board.gamePhase = .concluded) := by
  obtain ⟨w, hcourse, hleft⟩ := Course.of_play _ _ _ _ _ _ badAxeReturns_played
  rw [Bool.and_eq_true, Bool.and_eq_true, Bool.not_eq_true', decide_eq_true_eq] at hleft
  obtain ⟨⟨hpending, hphase⟩, hany⟩ := hleft
  obtain ⟨seat, hseat, hwins⟩ := List.any_eq_true.1 hany
  exact ⟨w, hcourse, fun hdue => hphase (hdue hpending (by decide) seat hseat hwins)⟩

end HereToSlaughter
