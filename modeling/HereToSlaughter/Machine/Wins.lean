import HereToSlaughter.Machine.Deal

/-!
# When the game is won

The win conditions are looked at again whenever they could have come true (`Judged`), and the game
is concluded once at most, on a board no open frame could still take back (`Verdict`).
-/

namespace HereToSlaughter

open Lib

/-- The conclusions of a history. -/
def verdicts : List Mark → List (String × GameState)
  | [] => []
  | .concluded winnerId gs :: history => (winnerId, gs) :: verdicts history
  | _ :: history => verdicts history

/-- The mark tells of a conclusion. -/
def Mark.isVerdict : Mark → Bool
  | .concluded .. => true
  | _ => false

/-- A verdict is on record as a conclusion. -/
theorem mem_verdicts {winnerId : String} {gs : GameState} : ∀ {history : List Mark},
    (winnerId, gs) ∈ verdicts history ↔ .concluded winnerId gs ∈ history
  | [] => by simp [verdicts]
  | m :: history => by
    have ih := @mem_verdicts winnerId gs history
    cases m <;> simp [verdicts, ih]

/-- The classes of a party are read off the parties. -/
theorem Board.getPartyClasses_congr {cards : Cards} {b b' : Board} {playerId : String}
    (h : b'.parties = b.parties) :
    b'.getPartyClasses cards playerId = b.getPartyClasses cards playerId := by
  have hitem : b'.getEquippedItem = b.getEquippedItem := by
    funext heroId
    simp only [getEquippedItem, h]
  have hclass : b'.getHeroClass cards = b.getHeroClass cards := by
    funext heroId
    simp only [getHeroClass, hitem]
  simp only [getPartyClasses, getLeaderClass, getHeroClasses, heroIds, hclass, h]

/-- Who wins is read off the seats and their parties. -/
theorem checkWinConditions_congr {T : Table} {b b' : Board} (hseats : b'.seats = b.seats)
    (hparties : b'.parties = b.parties) : checkWinConditions T b' = checkWinConditions T b := by
  have hwins : winsBy T b' = winsBy T b := by
    funext playerId
    simp only [winsBy, WinConditionConfig.isMetBy, Board.getPartyClasses_congr hparties, hparties]
  rw [checkWinConditions, checkWinConditions, hwins, hseats]

/-- The winner is the first seat that wins. -/
theorem checkWinConditions_some {T : Table} {b : Board} {winnerId : String}
    (h : checkWinConditions T b = some winnerId) : ∃ before after,
      b.seats = before ++ winnerId :: after ∧ winsBy T b winnerId = true ∧
        ∀ seat ∈ before, winsBy T b seat = false := by
  unfold checkWinConditions at h
  split at h
  · cases h
  · obtain ⟨hwins, before, after, hseats, hbefore⟩ := List.find?_eq_some_iff_append.1 h
    exact ⟨before, after, hseats, hwins, fun seat hseat => by simpa using hbefore seat hseat⟩

/-- The state of a mark has a pending outcome when the shape does. -/
theorem GameState.Matches.hasPendingOutcome {gs : GameState} {s : Shape} (h : gs.Matches s) :
    gs.hasPendingOutcome = s.hasPendingOutcome := by
  rw [Shape.hasPendingOutcome, ← h.frames]
  simp only [GameState.hasPendingOutcome, frameShapes, OrderedMap.values, List.any_map,
    Function.comp_def, GameFrame.shape_mayRestore]

/-! ## Looking in time -/

/-- What nobody has looked at since is not due: an outcome is open, the game is over, or nobody
wins. -/
def Judged (T : Table) (x : Control × Shape) : Prop :=
  x.1.unchecked = false → x.2.hasPendingOutcome = true ∨ x.2.board.gamePhase = .concluded ∨
    checkWinConditions T x.2.board = none

/-- While the game's windows are being cancelled it is over. -/
def Clearing (x : Control × Shape) : Prop :=
  x.1.clearing = true → x.2.board.gamePhase = .concluded

namespace Clearing

variable {T : Table} {x y : Control × Shape}

/-- Only a conclusion begins to cancel windows, and no step takes it back meanwhile. -/
theorem outer (h : Clearing x) (hstep : Outer T x y) : Clearing y := by
  cases hstep with
  | inner hstep =>
    cases hstep with
    | edit hedit => exact fun hc => hedit.verdict.1.trans (h hc)
    | declare => exact fun _ => rfl
    | clear => exact fun hc => (nomatch hc)
    | _ => exact h
  | release hk | restore hk | startTurn hk | spend _ hk =>
    exact fun hc => (nomatch hk.clearing.symm.trans hc)
  | _ => exact h

end Clearing

namespace Judged

variable {T : Table} {x y : Control × Shape}

/-- Parties and frames have stayed as they were. -/
theorem congr {k k' : Control} {s s' : Shape} (h : Judged T (k, s))
    (hunchecked : k'.unchecked = k.unchecked) (hframes : s'.frames = s.frames)
    (hphase : s'.board.gamePhase = s.board.gamePhase) (hseats : s'.board.seats = s.board.seats)
    (hparties : s'.board.parties = s.board.parties) : Judged T (k', s') := by
  intro hu
  have := h (hunchecked ▸ hu)
  rw [Shape.hasPendingOutcome, hframes, hphase, checkWinConditions_congr hseats hparties]
  exact this

/-- A frame that gets a restoring window may be rolled back. -/
theorem mayRestore_insert {f : FrameShape} {w : WindowShape} (hopen : w.resolved = false)
    (hrestoring : w.isRestoring = true) : (f.addWindow w).mayRestore = true := by
  simp [FrameShape.mayRestore, FrameShape.addWindow, WindowShape.isOpen, hopen, hrestoring]

/-- Within a drain whatever touches a party or settles a frame leaves the board to be looked at
again. -/
theorem inner (h : Judged T x) (hclearing : Clearing x) (hseats : Seats x.2) (hseats' : Seats y.2)
    (hstep : Inner T x y) : Judged T y := by
  cases hstep with
  | edit hedit =>
    rename_i k s fl b
    have hsame : b.seats = s.board.seats :=
      hseats'.board.players.trans hseats.board.players.symm
    have hparties : k.unchecked = true ∨ b.parties = s.board.parties := by
      cases hedit with
      | move _ _ hcheck => exact hcheck.symm
      | pile _ _ _ hcheck | dispose _ _ _ hcheck => exact .inl hcheck
      | _ => exact .inr rfl
    rcases hparties with hu | hparties
    · exact fun hn => (nomatch hu.symm.trans hn)
    · exact h.congr rfl rfl hedit.verdict.1 hsame hparties
  | equip _ _ _ _ hcheck => exact fun hn => (nomatch hcheck.symm.trans hn)
  | «open» =>
    -- a frame without a window may still restore the board
    intro _
    refine .inl (List.any_eq_true.2 ?_)
    dsimp only
    unfold insertFrame
    split
    · obtain ⟨f, hf, hid⟩ := List.any_eq_true.1 ‹_›
      exact ⟨_, List.mem_map_of_mem hf, by rw [if_pos (by simpa using hid)]; rfl⟩
    · exact ⟨_, List.mem_append_right _ List.mem_cons_self, rfl⟩
  | insert _ _ hopen _ _ hcheck =>
    rename_i k s o reserved w
    rcases hcheck with hrestoring | hu
    · refine fun hn => (h hn).imp_left fun hpending => List.any_eq_true.2 ?_
      obtain ⟨f, hf, hmay⟩ := List.any_eq_true.1 hpending
      refine ⟨_, List.mem_map_of_mem hf, ?_⟩
      split
      · exact mayRestore_insert hopen hrestoring
      · exact hmay
    · exact fun hn => (nomatch hu.symm.trans hn)
  | doubt => exact fun hn => (nomatch hn)
  | check hdone =>
    rcases hdone with hover | hpending | hnone
    · exact fun _ => .inr (.inl hover)
    · exact fun _ => .inl hpending
    · exact fun _ => .inr (.inr hnone)
  | declare => exact fun _ => .inr (.inl rfl)
  | cancel _ hc | clear hc => exact fun _ => .inr (.inl (hclearing hc))
  | _ => exact h

/-- Between drains a frame that settles leaves it to be looked at again. -/
theorem outer (h : Judged T x) (hclearing : Clearing x) (hseats : Seats x.2) (hseats' : Seats y.2)
    (hstep : Outer T x y) : Judged T y := by
  cases hstep with
  | inner hstep => exact h.inner hclearing hseats hseats' hstep
  | spend | closeOne | closeLast | release | restore => exact fun hn => (nomatch hn)
  | startTurn =>
    exact h.congr rfl rfl rfl (hseats'.board.players.trans hseats.board.players.symm) rfl
  | _ => exact h

end Judged

/-! ## One verdict -/

/-- The game has been concluded once, on a board with nothing pending, for the first seat that won
there; or not at all. -/
structure Verdict (T : Table) (x : Control × Shape) : Prop where
  once : verdicts x.2.history = [] ∨ ∃ winnerId gs, verdicts x.2.history = [(winnerId, gs)]
  due : ∀ winnerId gs, (winnerId, gs) ∈ verdicts x.2.history → gs.hasPendingOutcome = false ∧
    gs.board.seats = x.2.playerOrder ∧ checkWinConditions T gs.board = some winnerId
  atEnd : x.2.board.gamePhase = .concluded ↔ verdicts x.2.history ≠ []
  winner : ∀ winnerId gs, (winnerId, gs) ∈ verdicts x.2.history → x.2.board.winnerId = some winnerId

namespace Verdict

variable {T : Table} {x y : Control × Shape}

/-- The verdict and what it is about have not changed. -/
theorem congr {k k' : Control} {s s' : Shape} (h : Verdict T (k, s))
    (hhistory : verdicts s'.history = verdicts s.history) (horder : s'.playerOrder = s.playerOrder)
    (hphase : s'.board.gamePhase = s.board.gamePhase)
    (hwinner : s'.board.winnerId = s.board.winnerId) : Verdict T (k', s') := by
  refine ⟨?_, ?_, ?_, ?_⟩
  · rw [hhistory]; exact h.once
  · rw [hhistory, horder]; exact h.due
  · rw [hhistory, hphase]; exact h.atEnd
  · rw [hhistory, hwinner]; exact h.winner

/-- Within a drain a verdict is given on a board with nothing pending, and only where none was
given. -/
theorem inner (h : Verdict T x) (hseats : Seats x.2) (hstep : Inner T x y) : Verdict T y := by
  cases hstep with
  | edit hedit => exact h.congr rfl rfl hedit.verdict.1 hedit.verdict.2
  | declare hgs hclearing hphase hpending hwins =>
    rename_i k s gs winnerId
    have hnone : verdicts s.history = [] := by
      by_contra hsome
      exact hphase (h.atEnd.2 hsome)
    have hhistory : verdicts (.concluded winnerId gs :: s.history) = [(winnerId, gs)] := by
      rw [verdicts, hnone]
    refine ⟨.inr ⟨winnerId, gs, hhistory⟩, ?_, ?_, ?_⟩
    · rw [hhistory]
      rintro _ _ hmem
      cases List.mem_singleton.1 hmem
      exact ⟨hgs.hasPendingOutcome.trans hpending, hgs.board ▸ hseats.board.players,
        hgs.board ▸ hwins⟩
    · simp [hhistory]
    · rw [hhistory]
      rintro _ _ hmem
      cases List.mem_singleton.1 hmem
      rfl
  | _ => exact h.congr rfl rfl rfl rfl

/-- Between drains none is given, and a rollback keeps the one there is. -/
theorem outer (h : Verdict T x) (hseats : Seats x.2) (hstack : Stack x.1 x.2)
    (hstep : Outer T x y) : Verdict T y := by
  cases hstep with
  | inner hstep => exact h.inner hseats hstep
  | release =>
    rename_i k s gs gs' f subject hk hsettling hf hgs hgs'
    have hrest := GameState.putAway_rest (s.spentInto f) s.board
    exact h.congr rfl rfl (congrArg Board.gamePhase hrest :) (congrArg Board.winnerId hrest :)
  | restore =>
    -- the snapshot holds the same verdict
    rename_i k s gs gs' f subject hk hsettling hf hgs hgs' hflow
    have hrest := GameState.takeBack_rest (s.spentInto f) f.snapshot
    obtain hclearing | ⟨hphase, hwinner⟩ := hstack.verdicts f hf
    · exact nomatch hk.clearing.symm.trans hclearing
    · exact h.congr rfl rfl (.trans (congrArg Board.gamePhase hrest :) hphase)
        (.trans (congrArg Board.winnerId hrest :) hwinner)
  | _ => exact h.congr rfl rfl rfl rfl

end Verdict

/-! ## The end of the game -/

/-- The event a mark tells of. -/
def Mark.event? : Mark → Option GameEvent
  | .emitted event _ => some event
  | _ => none

/-- The events of a history, newest first. -/
def announced (history : List Mark) : List GameEvent := history.filterMap Mark.event?

/-- The event ends the game. -/
def GameEvent.isEnd (event : GameEvent) : Bool := event.type = .gameEnded

/-- The end of the game has gone out once at most for every conclusion. -/
structure Heralded (history : List Mark) : Prop where
  once : (announced history).countP GameEvent.isEnd ≤ (verdicts history).length
  awaited : AwaitsEnd history →
    (announced history).countP GameEvent.isEnd < (verdicts history).length

namespace Heralded

variable {T : Table} {x y : Control × Shape}

/-- The end of the game goes out only when it is awaited. -/
theorem cons {m : Mark} {history : List Mark} (h : Heralded history)
    (hm : ∀ event, m.event? = some event → event.type = .gameEnded → AwaitsEnd history) :
    Heralded (m :: history) := by
  cases m with
  | emitted event gs =>
    by_cases hend : event.type = .gameEnded
    · refine ⟨?_, fun hawaits => absurd hend hawaits.1⟩
      simpa [announced, Mark.event?, GameEvent.isEnd, hend, verdicts] using
        Nat.succ_le_of_lt (h.awaited (hm event rfl hend))
    · refine ⟨?_, fun hawaits => ?_⟩
      · simpa [announced, Mark.event?, GameEvent.isEnd, hend, verdicts] using h.once
      · simpa [announced, Mark.event?, GameEvent.isEnd, hend, verdicts] using h.awaited hawaits.2
  | concluded winnerId gs => exact ⟨Nat.le_succ_of_le h.once, fun _ => Nat.lt_succ_of_le h.once⟩
  | _ => exact ⟨h.once, h.awaited⟩

/-- The end of the game is announced only right after a verdict. -/
theorem inner (h : Heralded x.2.history) (hstep : Inner T x y) : Heralded y.2.history := by
  cases hstep with
  | announce event hgs hflow hstart hend hover =>
    exact h.cons fun _ hevent hended => hover (Option.some.inj hevent ▸ hended)
  | equip | «open» | pause | declare => exact h.cons fun _ hevent => (nomatch hevent)
  | _ => exact h

/-- Between drains it is not announced. -/
theorem outer (h : Heralded x.2.history) (hstep : Outer T x y) : Heralded y.2.history := by
  cases hstep with
  | inner hstep => exact h.inner hstep
  | endTurn | startTurn =>
    refine h.cons fun _ hevent hended => ?_
    cases hevent
    cases hended
  | spend | release | restore | enqueue | execute => exact h.cons fun _ hevent => (nomatch hevent)
  | _ => exact h

end Heralded

/-! ## Along a run -/

/-- What a run keeps of its win conditions. -/
structure Won (T : Table) (x : Control × Shape) : Prop where
  clearing : Clearing x
  judged : Judged T x
  verdict : Verdict T x
  heralded : Heralded x.2.history

/-- What each step keeps a run keeps. -/
theorem Won.path {T : PrintedTable} {x y : Control × Shape} (hsound : Sound T.cards x)
    (h : Won T.toTable x) (hpath : (outerSystem T).Path x y) : Won T.toTable y := by
  have hboth : Sound T.cards y ∧ Won T.toTable y := by
    refine Relation.ReflTransGen.invariant
      (I := fun z => Sound T.cards z ∧ Won T.toTable z) ?_ hpath
      ⟨hsound, h⟩
    rintro x y ⟨hsound, h⟩ hstep
    have hsound' : Sound T.cards y := Sound.outer T hsound hstep
    exact ⟨hsound', h.clearing.outer hstep,
      h.judged.outer h.clearing hsound.seats hsound'.seats hstep,
      h.verdict.outer hsound.seats hsound.stack hstep, h.heralded.outer hstep⟩
  exact hboth.2

/-- A deal has been concluded by nobody. -/
theorem GameSetup.won_origin (setup : GameSetup) : Won setup.table setup.origin where
  clearing hc := nomatch hc
  judged hu := nomatch hu
  verdict := ⟨.inl rfl, fun _ _ hmem => (nomatch hmem),
    ⟨fun hc => (nomatch hc), fun hn => absurd rfl hn⟩,
    fun _ _ hmem => (nomatch hmem)⟩
  heralded := ⟨Nat.le_refl _, fun hawaits => nomatch hawaits⟩

end HereToSlaughter
