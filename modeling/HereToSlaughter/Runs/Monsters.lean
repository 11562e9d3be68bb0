import HereToSlaughter.Runs.Rest
import HereToSlaughter.Writes.Sustained

/-!
# Monsters and leaders

A monster comes off the deck in the order of the deal, lies face up in the row, and goes from there
to the party that slays it. Nothing else moves one, and nothing moves a leader at all; a frame that
is restored goes back to a board that had them all. So every monster of the deal is in one place,
the row is full for as long as the deck has a monster left, and a seat keeps the leader it was
dealt.

Reference: `pipelines/game-state.ts`, `setup/create-game.ts`.
-/

namespace HereToSlaughter

open Lib

/-! ## Where monsters and leaders are -/

namespace Board

/-- The monsters that have been slain, party by party. -/
def slain (b : Board) : List String := b.parties.values.flatMap Party.monsterIds

/-- The leader each seat plays with. -/
def leaders (b : Board) : List (String × String) :=
  b.parties.entries.map fun e => (e.1, e.2.leaderId)

/-- The leader of a seat is read off the list. -/
theorem leader_eq (parties : OrderedMap String Party) (playerId : String) :
    (parties.get? playerId).map Party.leaderId =
      ((parties.entries.map fun e => (e.1, e.2.leaderId)).find?
        fun e => e.1 = playerId).map Prod.snd := by
  rw [OrderedMap.get?, List.find?_map, Option.map_map, Option.map_map]
  rfl

/-- Every monster of the deck lies in one place, and every seat has the leader it was dealt. -/
structure Stocked (deck : List String) (leaders : List (String × String)) (b : Board) : Prop where
  monsters : (b.slain ++ b.monsterPile ++ b.monsterDeck).Perm deck
  /-- Monsters come off the top. -/
  deck : b.monsterDeck <:+ deck
  row : b.monsterPile.length = min MONSTER_ROW_SIZE (b.monsterPile.length + b.monsterDeck.length)
  leaders : b.leaders = leaders

variable {b b' : Board} {deck : List String} {leaders : List (String × String)}

/-- Only the monsters and the leaders count. -/
theorem Stocked.congr (h : b.Stocked deck leaders) (hdeck : b'.monsterDeck = b.monsterDeck)
    (hpile : b'.monsterPile = b.monsterPile) (hslain : b'.slain = b.slain)
    (hleaders : b'.leaders = b.leaders) : b'.Stocked deck leaders :=
  ⟨by rw [hslain, hpile, hdeck]; exact h.monsters, by rw [hdeck]; exact h.deck,
    by rw [hpile, hdeck]; exact h.row, hleaders.trans h.leaders⟩

/-- A party is written to, and keeps its leader and its monsters. -/
theorem slain_modifyParty (playerId : String) {f : Party → Party}
    (hf : ∀ p, (f p).leaderId = p.leaderId ∧ (f p).monsterIds = p.monsterIds) :
    (b.modifyParty playerId f).slain = b.slain ∧
    (b.modifyParty playerId f).leaders = b.leaders := by
  have hone : ∀ e : String × Party,
      (if e.1 = playerId then f e.2 else e.2).leaderId = e.2.leaderId ∧
      (if e.1 = playerId then f e.2 else e.2).monsterIds = e.2.monsterIds := by
    intro e
    split
    · exact hf e.2
    · exact ⟨rfl, rfl⟩
  constructor
  · simp [slain, modifyParty, OrderedMap.values, List.flatMap_map, hone]
  · simp [leaders, modifyParty, Function.comp_def, hone]

/-- A monster that is slain is added to the party. -/
theorem slain_addMonster {playerId : String} (hparty : b.parties.has playerId = true)
    (cardId : String) :
    (b.modifyParty playerId (Party.addMonster cardId)).slain.Perm (cardId :: b.slain) := by
  obtain ⟨party, hfound⟩ := Option.isSome_iff_exists.1
    (OrderedMap.get?_isSome.2 (OrderedMap.has_iff.1 hparty))
  obtain ⟨rest, hb, hb'⟩ :=
    OrderedMap.flatMap_modify hfound (Party.addMonster cardId) Party.monsterIds
  have hadded : ((Party.addMonster cardId party).monsterIds ++ rest).Perm
      (cardId :: (party.monsterIds ++ rest)) := by
    rw [Party.addMonster, List.append_assoc]
    exact List.perm_middle
  exact hb'.trans (hadded.trans (hb.symm.cons cardId))

/-- A monster slain leaves the row for the party, and the next of the deck takes its place. -/
theorem Stocked.slayMonster (h : b.Stocked deck leaders) (hdistinct : deck.Nodup) {cardId : String}
    {playerId : String} (hface : cardId ∈ b.monsterPile) (hparty : b.parties.has playerId = true) :
    (b.slayMonster cardId playerId).Stocked deck leaders := by
  let drawn : Board := { b with
    monsterPile := b.monsterDeck.head?.toList ++ b.monsterPile.filter (· ≠ cardId)
    monsterDeck := b.monsterDeck.tail }
  have hslain : (b.slayMonster cardId playerId).slain.Perm (cardId :: b.slain) :=
    slain_addMonster (b := drawn) hparty cardId
  have hall : (b.slain ++ b.monsterPile ++ b.monsterDeck).Nodup := h.monsters.nodup_iff.2 hdistinct
  have htaken :=
    perm_drop (i := b.monsterDeck) hface (List.nodup_append.1 (List.nodup_append.1 hall).1).2.1
  have hnext : b.monsterDeck.head?.toList ++ b.monsterDeck.tail = b.monsterDeck := by
    cases b.monsterDeck <;> rfl
  refine ⟨?_, (List.tail_suffix _).trans h.deck, ?_, ?_⟩
  · -- the card goes from the row to the party, and the next one up closes the row
    refine List.Perm.trans ?_ h.monsters
    calc ((b.slayMonster cardId playerId).slain ++ drawn.monsterPile ++ drawn.monsterDeck).Perm
          ((cardId :: b.slain) ++ drawn.monsterPile ++ drawn.monsterDeck) :=
        (hslain.append_right _).append_right _
      List.Perm _ (b.slain ++ (b.monsterPile.filter (· ≠ cardId) ++
          cardId :: (b.monsterDeck.head?.toList ++ b.monsterDeck.tail))) := by
        refine List.perm_iff_count.2 fun x => ?_
        simp only [drawn, List.count_append, List.count_cons]
        omega
      List.Perm _ (b.slain ++ b.monsterPile ++ b.monsterDeck) := by
        rw [hnext, List.append_assoc]
        exact htaken.append_left _
  · have hrow := h.row
    have hlength := htaken.length_eq
    simp only [List.length_append, List.length_cons] at hlength
    change (b.monsterDeck.head?.toList ++ b.monsterPile.filter (· ≠ cardId)).length =
      min MONSTER_ROW_SIZE
        ((b.monsterDeck.head?.toList ++ b.monsterPile.filter (· ≠ cardId)).length +
          b.monsterDeck.tail.length)
    cases hdeck : b.monsterDeck with
    | nil =>
      simp only [hdeck, List.length_nil] at hrow
      simp only [List.head?_nil, Option.toList_none, List.nil_append, List.tail_nil,
        List.length_nil]
      omega
    | cons next rest =>
      simp only [hdeck, List.length_cons] at hrow
      simp only [List.head?_cons, Option.toList_some, List.singleton_append, List.tail_cons,
        List.length_cons]
      omega
  · refine Eq.trans ?_ h.leaders
    have hkept : ∀ e : String × Party,
        (if e.1 = playerId then Party.addMonster cardId e.2 else e.2).leaderId = e.2.leaderId := by
      intro e
      split <;> rfl
    simp [Board.leaders, Board.slayMonster, modifyParty, Function.comp_def, hkept]

/-- No door but that one moves a monster. -/
theorem Stocked.door (h : b.Stocked deck leaders) (hdistinct : deck.Nodup) (hdoor : Door b b') :
    b'.Stocked deck leaders := by
  cases hdoor with
  | hand | points | retire | piles | turn | phase => exact h.congr rfl rfl rfl rfl
  | party playerId hf =>
    obtain ⟨hslain, hleaders⟩ := slain_modifyParty (b := b) playerId hf
    exact h.congr rfl rfl hslain hleaders
  | slay playerId hface hparty => exact h.slayMonster hdistinct hface hparty

/-- So every board keeps its monsters, whatever is written. -/
theorem Stocked.sustained (leaders : List (String × String)) (hdistinct : deck.Nodup) :
    Sustained fun w => ∀ b ∈ w.gs.boards, b.Stocked deck leaders :=
  .of_boards (fun hdoor h => h.door hdistinct hdoor) fun _ h => h.congr rfl rfl rfl rfl

end Board

/-! ## The deal -/

namespace Board

/-- The row is laid off the top of the deck. -/
theorem monsters_dealMonsters : ∀ (n : Nat) (b : Board), n ≤ b.monsterDeck.length →
    (b.dealMonsters n).monsterDeck = b.monsterDeck.drop n ∧
      (b.dealMonsters n).monsterPile = (b.monsterDeck.take n).reverse ++ b.monsterPile
  | 0, b, _ => ⟨rfl, rfl⟩
  | n + 1, b, hn => by
    cases hdeck : b.monsterDeck with
    | nil =>
      rw [hdeck] at hn
      cases hn
    | cons next rest =>
      rw [hdeck, List.length_cons] at hn
      obtain ⟨hrest, hpile⟩ := monsters_dealMonsters n
        { b with monsterPile := b.monsterDeck.head?.toList ++ b.monsterPile
                 monsterDeck := b.monsterDeck.tail }
                 (by rw [hdeck]; exact Nat.le_of_succ_le_succ hn)
      rw [dealMonsters, hrest, hpile, hdeck]
      simp

/-- Dealing a hand moves no monster. -/
theorem monsters_dealHand (playerId : String) : ∀ (n : Nat) (b : Board),
    (b.dealHand playerId n).monsterDeck = b.monsterDeck ∧
      (b.dealHand playerId n).monsterPile = b.monsterPile
  | 0, _ => ⟨rfl, rfl⟩
  | n + 1, b => by
    unfold dealHand
    split
    · exact ⟨rfl, rfl⟩
    · exact monsters_dealHand playerId n _

/-- Nor does dealing every hand. -/
theorem monsters_dealHands (size : Nat) : ∀ (seats : List String) (b : Board),
    (b.dealHands size seats).monsterDeck = b.monsterDeck ∧
      (b.dealHands size seats).monsterPile = b.monsterPile
  | [], _ => ⟨rfl, rfl⟩
  | playerId :: seats, b => by
    obtain ⟨hdeck, hpile⟩ := monsters_dealHands size seats (b.dealHand playerId size)
    obtain ⟨hdeck', hpile'⟩ := monsters_dealHand playerId size b
    exact ⟨hdeck.trans hdeck', hpile.trans hpile'⟩

end Board

namespace GameSetup

variable {setup : GameSetup}

/-- The monster deck is a shuffle of the monsters. -/
theorem monsterDeck_perm (setup : GameSetup) : setup.monsterDeck.Perm setup.monsters :=
  Board.shuffle_perm ..

/-- Nobody has slain a monster yet. -/
theorem slain_board (h : setup.Valid) : setup.board.slain = [] := by
  rw [Board.slain, parties_board, OrderedMap.values, h.entries_parties]
  simp [List.flatMap_map]

/-- The dealt board has its monsters in the row and in the deck. -/
theorem stocked_board (h : setup.Valid) :
    setup.board.Stocked setup.monsterDeck setup.board.leaders := by
  have hmany : MONSTER_ROW_SIZE ≤ setup.monsterDeck.length := by
    rw [setup.monsterDeck_perm.length_eq]
    exact h.monsters
  obtain ⟨hdeck, hpile⟩ := Board.monsters_dealMonsters MONSTER_ROW_SIZE setup.seatedBoard hmany
  obtain ⟨hdeck', hpile'⟩ :=
    Board.monsters_dealHands setup.config.startingHandSize setup.playerOrder
    (setup.seatedBoard.dealMonsters MONSTER_ROW_SIZE)
  have hdealtDeck : setup.board.monsterDeck = setup.monsterDeck.drop MONSTER_ROW_SIZE :=
    hdeck'.trans hdeck
  have hdealtPile : setup.board.monsterPile = (setup.monsterDeck.take MONSTER_ROW_SIZE).reverse :=
    hpile'.trans (hpile.trans (List.append_nil _))
  refine ⟨?_, ?_, ?_, rfl⟩
  · rw [slain_board h, hdealtDeck, hdealtPile, List.nil_append]
    refine ((List.reverse_perm _).append_right _).trans ?_
    rw [List.take_append_drop]
  · rw [hdealtDeck]
    exact List.drop_suffix _ _
  · rw [hdealtDeck, hdealtPile, List.length_reverse, List.length_take, List.length_drop]
    omega

end GameSetup

/-! ## Over a run -/

section
variable {setup : GameSetup} {w : World} {meets : Nat → World → Input → Prop}

/-- Every board of every run is stocked as the deal was. -/
theorem Course.stocked (h : Course setup meets w) (hdistinct : setup.monsters.Nodup) :
    ∀ b ∈ w.gs.boards, b.Stocked setup.monsterDeck setup.board.leaders := by
  have := Board.Stocked.sustained setup.board.leaders
    (setup.monsterDeck_perm.nodup_iff.2 hdistinct)
  refine h.sustains
    (I := fun w => ∀ b ∈ w.gs.boards, b.Stocked setup.monsterDeck setup.board.leaders)
    fun hvalid b hb => ?_
  obtain rfl | ⟨e, he, -⟩ := GameState.mem_boards.1 hb
  · exact GameSetup.stocked_board hvalid
  · cases he

/-- Whatever is slain, rolled back and drawn: every monster of the deal is in one place, face up, in
the deck or slain by one seat; those in the deck are the last of the deal, in its order; the row is
full unless the deck is empty; and every seat has the leader it was dealt. So it is in every run,
also in one in which commands throw half-way. -/
theorem Course.monsters (h : Course setup meets w) (hdistinct : setup.monsters.Nodup) :
    (w.gs.board.slain ++ w.gs.board.monsterPile ++ w.gs.board.monsterDeck).Perm setup.monsters ∧
      w.gs.board.monsterDeck <:+ setup.monsterDeck ∧
      (w.gs.board.monsterDeck ≠ [] → w.gs.board.monsterPile.length = MONSTER_ROW_SIZE) ∧
      ∀ playerId, (w.gs.board.parties.get? playerId).map Party.leaderId =
        (setup.parties.get? playerId).map Party.leaderId := by
  have hstocked := h.stocked hdistinct _ (GameState.mem_boards.2 (.inl rfl))
  refine ⟨hstocked.monsters.trans setup.monsterDeck_perm, hstocked.deck, fun hdeck => ?_,
    fun playerId => ?_⟩
  · have hrow := hstocked.row
    have hpos := List.length_pos_iff.2 hdeck
    omega
  · have hleaders := hstocked.leaders
    rw [Board.leaders, Board.leaders, GameSetup.parties_board] at hleaders
    rw [Board.leader_eq, Board.leader_eq, hleaders]

end

/-- A throw of twelve slays what it attacks. -/
def monsterToSlay : GameSetup :=
  tableForTwo 1 [heroCard "hero-001" .fighter 2, heroCard "hero-002" .thief 8] [5, 5]

/-- A monster is attacked and slain. -/
theorem monsterToSlay_played : ((monsterToSlay.play 40
    [.command "A" (.action (.attackMonster "monster-1")), .command "A" (.passWindow 1),
     .command "B" (.passWindow 1)]).any fun w => w.gs.board.slain = ["monster-1"]) = true := by
  decide +kernel

/-- It lies with the party that slew it, and the rest where they were. -/
theorem Course.monsters_monsterToSlay : ∃ w, Course monsterToSlay (Whole monsterToSlay.table) w ∧
    w.gs.board.slain = ["monster-1"] ∧
    (w.gs.board.slain ++ w.gs.board.monsterPile ++ w.gs.board.monsterDeck).Perm
      monsterToSlay.monsters := by
  obtain ⟨w, h, hslain⟩ := Reach.of_play _ _ _ _ monsterToSlay_played
  have hcourse := course_whole_iff.2 h
  exact ⟨w, hcourse, of_decide_eq_true hslain, (hcourse.monsters (by decide)).1⟩

end HereToSlaughter
