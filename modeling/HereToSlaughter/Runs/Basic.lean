import HereToSlaughter.Refine.Inputs

/-!
# Tables at rest

What is known of a state that a table can rest in: the machine has come to it with nothing
half-way. And a way to play a game on concrete inputs, for the runs on which a property fails.
-/

namespace HereToSlaughter

open Lib EngineM

variable {setup : GameSetup} {w : World}

/-! ## At rest -/

/-- A state a table can rest in satisfies the invariant, with nothing half-way. -/
theorem Reach.sound (h : Reach setup w) : ∃ k, Sound setup.table.cards (k, w.shape) ∧ Rest k w := by
  obtain ⟨hvalid, k, hpath, hrest⟩ := h.machine
  exact ⟨k, (outerSystem setup.printedTable).inv_of_path hpath hvalid.sound, hrest⟩

/-- At rest every open frame holds an open window. -/
theorem Rest.windowed {cards : Cards} {k : Control} (hsound : Sound cards (k, w.shape))
    (hrest : Rest k w) :
    ∀ f ∈ w.shape.frames, f.hasOpenWindow = true :=
  hrest.calm.windowed hsound

/-! ## Later on -/

/-- Some inputs later. -/
def Later (T : Table) : World → World → Prop :=
  Relation.ReflTransGen fun w w' => ∃ input, Step T w input w'

/-- A run that goes on is a path of the machine that goes on. -/
theorem Reach.later {w' : World} (h : Reach setup w) (hlater : Later setup.table w w') :
    Reach setup w' ∧ setup.Valid ∧ ∃ k k',
    (outerSystem setup.printedTable).Path setup.origin (k, w.shape) ∧
      (outerSystem setup.printedTable).Path (k, w.shape) (k', w'.shape) ∧ Rest k w ∧
      Rest k' w' := by
  induction hlater with
  | refl =>
    obtain ⟨hvalid, k, hpath, hrest⟩ := h.machine
    exact ⟨h, hvalid, k, k, hpath, .refl, hrest, hrest⟩
  | tail _ hstep ih =>
    obtain ⟨input, hstep⟩ := hstep
    obtain ⟨hreach, hvalid, k, k', hpath, hpath', hrest, hrest'⟩ := ih
    refine ⟨hreach.step hstep, hvalid, k, ?_⟩
    cases hstep with
    | ok hrun =>
      have hsound := (outerSystem setup.printedTable).inv_of_path (hpath.trans hpath') hvalid.sound
      obtain ⟨k'', hpath'', hrest''⟩ := Goes.handle (T := setup.printedTable) hrest' hsound hrun
      exact ⟨k'', hpath, hpath'.trans hpath'', hrest, hrest''⟩
    | threw => exact ⟨k', hpath, hpath', hrest, hrest'⟩

/-- Nobody changes places. -/
theorem playerOrder_path {T : PrintedTable} {x y : Control × Shape} (h : (outerSystem T).Path x y) :
    y.2.playerOrder = x.2.playerOrder := by
  induction h with
  | refl => rfl
  | tail _ hstep ih =>
    refine .trans ?_ ih
    cases hstep with
    | inner hstep => exact (SameTurn.inner hstep).playerOrder
    | _ => rfl

/-! ## Playing -/

/-- The inputs handled one after the other, as long as none throws. -/
def playOn (T : Table) (fuel : Nat) : List Input → World → Option World
  | [], w => some w
  | input :: inputs, w =>
    match (handle T fuel input).run w with
    | .ok _ w' => playOn T fuel inputs w'
    | .error _ _ => none

/-- A game dealt, started and played. -/
def GameSetup.play (setup : GameSetup) (fuel : Nat) (inputs : List Input) : Option World :=
  match createGame setup with
  | .error _ => none
  | .ok w =>
    match (startGame setup fuel).run w with
    | .ok _ w' => playOn setup.table fuel inputs w'
    | .error _ _ => none

/-- Inputs that are played lead to a later state. -/
theorem Later.of_playOn {T : Table} {fuel : Nat} : ∀ {inputs : List Input} {w w' : World},
    playOn T fuel inputs w = some w' → Later T w w'
  | [], _, _, hplay => Option.some.inj hplay ▸ .refl
  | input :: inputs, w, w', hplay => by
    unfold playOn at hplay
    split at hplay
    · exact .head ⟨input, .ok ‹_›⟩ (Later.of_playOn hplay)
    · cases hplay

/-- A game that was played reached the state it ended in. -/
theorem Reach.of_play (setup : GameSetup) (fuel : Nat) (inputs : List Input) (P : World → Bool)
    (h : (setup.play fuel inputs).any P = true) : ∃ w, Reach setup w ∧ P w = true := by
  obtain ⟨w, hplay, hp⟩ := Option.any_eq_true _ _ |>.1 h
  refine ⟨w, ?_, hp⟩
  unfold GameSetup.play at hplay
  split at hplay
  · cases hplay
  · split at hplay
    · exact ((Reach.start ‹_› ‹_›).later (.of_playOn hplay)).1
    · cases hplay

/-- The command throws, and leaves the table in a state with a property. -/
def throwsInto (T : Table) (fuel : Nat) (playerId : String) (command : Command) (P : World → Bool)
    (w : World) : Bool :=
  match (handle T fuel (.command playerId command)).run w with
  | .error (.thrown _) w' => P w'
  | _ => false

/-- A table plays on from the state a command that threw has left it in. -/
theorem Course.of_play (setup : GameSetup) (fuel : Nat) (inputs : List Input) (playerId : String)
    (command : Command) (P : World → Bool)
    (h : (setup.play fuel inputs).any (throwsInto setup.table fuel playerId command P) = true) :
    ∃ w, Course setup (fun _ _ _ => True) w ∧ P w = true := by
  obtain ⟨w, hreach, hthrows⟩ := Reach.of_play _ _ _ _ h
  have hcourse : Course setup (fun _ _ _ => True) w :=
    (course_whole_iff.2 hreach).weaken fun _ _ _ _ => trivial
  unfold throwsInto at hthrows
  split at hthrows
  · next message w' hrun => exact ⟨w', hcourse.step trivial (.threw hrun), hthrows⟩
  · cases hthrows

/-- The draws of a table whose decks of these sizes keep their order as they are shuffled, followed
by what is thrown afterwards. -/
def keepOrder (sizes throws : List Nat) (n : Nat) : Nat :=
  let stay := sizes.flatMap fun size => (List.range size).reverse.dropLast
  ((stay ++ throws)[n]?).getD 0

/-- A hero of the base set. -/
def heroCard (id : String) (heroClass : HeroClass) (rollReq : Int) : Card :=
  ⟨id, id, "base", .hero heroClass rollReq⟩

/-- A table for two whose cards are dealt as they are listed: the first seat gets the first cards
of the deck. -/
def tableForTwo (startingHandSize : Nat) (deckCards : List Card) (throws : List Nat) :
    GameSetup where
  playerIds := ["A", "B"]
  config := { startingHandSize }
  cards :=
    [⟨"leader-A", "leader-A", "base", .leader .wizard⟩,
     ⟨"leader-B", "leader-B", "base", .leader .fighter⟩] ++
    ["monster-1", "monster-2", "monster-3"].map
      (fun id => ⟨id, id, "base", .monster ⟨4, 8, .highToWin, []⟩⟩) ++ deckCards
  rng := keepOrder [deckCards.length, 3, 2, 2] throws

end HereToSlaughter
