import HereToSlaughter.Model.Board

/-!
# Where the cards lie

A card is loose when it lies in a deck, on a pile, in a hand, or in a party as a hero, a slain
monster or gear; it is fixed as a leader or on an instance pile. `Moves i b i' b'` says that the
board `b`, with the cards `i` in flight between two zones, becomes `b'` with `i'` in flight by
moving loose cards only: nothing else of the board changes, no loose card comes from nowhere, and
as long as no card id occurs twice none is lost either. Every door that moves cards is such a
move, and moves compose.
-/

namespace HereToSlaughter

open Lib

/-- The cards of a party that may leave it again. -/
def Party.loose (party : Party) : List String :=
  party.heroIds ++ party.monsterIds ++ party.equipment.values

/-- The cards of a party that no move touches. -/
def Party.fixed (party : Party) : List String := party.leaderId :: party.instanceCardIds

/-- A player without its hand. -/
def Player.unstocked (player : Player) : Player := { player with hand := [] }

/-- A party without its loose cards. -/
def Party.unstocked (party : Party) : Party where
  leaderId := party.leaderId
  instanceCardIds := party.instanceCardIds

namespace Board

/-- The cards that lie loose. -/
def loose (b : Board) : List String :=
  b.mainDeck ++ b.discardPile ++ b.monsterDeck ++ b.monsterPile ++
    b.players.values.flatMap Player.hand ++ b.parties.values.flatMap Party.loose

/-- The leaders and the instance piles. -/
def fixed (b : Board) : List String := b.parties.values.flatMap Party.fixed

/-- The board without its loose cards. -/
def unstocked (b : Board) : Board :=
  { b with
    players := b.players.mapValues fun _ => Player.unstocked
    parties := b.parties.mapValues fun _ => Party.unstocked
    mainDeck := [], discardPile := [], monsterDeck := [], monsterPile := [] }

/-- Every seat has its party, in the same order. -/
def Seated (b : Board) : Prop := b.parties.keys = b.players.keys

/-- Every card is loose or fixed. -/
theorem cardIds_perm (b : Board) : b.cardIds.Perm (b.fixed ++ b.loose) := by
  have hparties : (b.parties.values.flatMap Party.cardIds).Perm
      (b.fixed ++ b.parties.values.flatMap Party.loose) := by
    refine (List.Perm.flatMap_left _ fun party _ => ?_).trans
      (List.flatMap_append_perm b.parties.values Party.fixed Party.loose).symm
    rw [List.perm_iff_count]
    intro x
    simp only [Party.cardIds, Party.fixed, Party.loose, List.cons_append, List.count_cons,
      List.count_append]
    omega
  rw [List.perm_iff_count] at hparties ⊢
  intro x
  have := hparties x
  simp only [cardIds, loose, List.count_append] at this ⊢
  omega

/-- What is fixed does not hang on what is loose. -/
theorem fixed_unstocked (b : Board) : b.unstocked.fixed = b.fixed := by
  simp only [fixed, unstocked, OrderedMap.values, OrderedMap.entries_mapValues, List.flatMap_map,
    List.map_map, Function.comp_def]
  rfl

/-- A move leaves what is fixed as it is. -/
theorem fixed_congr {b b' : Board} (h : b'.unstocked = b.unstocked) : b'.fixed = b.fixed := by
  rw [← fixed_unstocked b', h, fixed_unstocked]

/-- Nor does who sits where. -/
theorem seated_unstocked (b : Board) : b.unstocked.Seated ↔ b.Seated := by
  simp [Seated, unstocked]

/-- A move leaves the seats as they are. -/
theorem seated_congr {b b' : Board} (h : b'.unstocked = b.unstocked) (hb : b.Seated) :
    b'.Seated := by
  rwa [← seated_unstocked, h, seated_unstocked]

end Board

/-! ## Moves -/

/-- The loose cards of `b` and those in flight become those of `b'`, and nothing else changes. -/
structure Moves (i : List String) (b : Board) (i' : List String) (b' : Board) : Prop where
  /-- The rest of the board stays. -/
  rest : b'.unstocked = b.unstocked
  /-- No card comes from nowhere. -/
  mem : ∀ x ∈ b'.loose ++ i', x ∈ b.loose ++ i
  /-- None is lost or copied, as long as none was there twice. -/
  perm : b.Seated → (b.fixed ++ b.loose ++ i).Nodup → (b'.loose ++ i').Perm (b.loose ++ i)

namespace Moves

variable {i i' i'' : List String} {b b' b'' : Board}

/-- Nothing moved is a move. -/
theorem refl : Moves i b i b := ⟨rfl, fun _ h => h, fun _ _ => .refl _⟩

/-- Two moves in a row are one; what is in flight between them is handed on. -/
theorem trans (h : Moves i b i' b') (h' : Moves i' b' i'' b'') : Moves i b i'' b'' where
  rest := h'.rest.trans h.rest
  mem x hx := h.mem x (h'.mem x hx)
  perm hseated hnodup := by
    have hperm := h.perm hseated hnodup
    refine (h'.perm (Board.seated_congr h.rest hseated) ?_).trans hperm
    rw [Board.fixed_congr h.rest, List.append_assoc]
    rw [List.append_assoc] at hnodup
    exact ((hperm.append_left b.fixed).nodup_iff).2 hnodup

/-- A move loses no card of the board, as long as none lies twice. -/
theorem cardIds (h : Moves i b i' b') (hseated : b.Seated) (hnodup : (b.cardIds ++ i).Nodup) :
    (b'.cardIds ++ i').Perm (b.cardIds ++ i) := by
  have hb := b.cardIds_perm.append_right i
  have hb' := b'.cardIds_perm.append_right i'
  have hperm := h.perm hseated (hb.nodup_iff.1 hnodup)
  rw [Board.fixed_congr h.rest, List.append_assoc] at hb'
  rw [List.append_assoc] at hb
  exact (hb'.trans (hperm.append_left b.fixed)).trans hb.symm

/-- A move that only touches a part of the loose cards. -/
theorem of_part {o n r : List String} (hrest : b'.unstocked = b.unstocked)
    (hb : b.loose.Perm (o ++ r)) (hb' : b'.loose.Perm (n ++ r))
    (hmem : ∀ x ∈ n ++ i', x ∈ o ++ i)
    (hperm : o.Nodup → (n ++ i').Perm (o ++ i)) : Moves i b i' b' where
  rest := hrest
  mem x hx := by
    have := hmem x
    simp only [List.mem_append, hb.mem_iff, hb'.mem_iff] at hx this ⊢
    grind
  perm _ hnodup := by
    have hold : o.Nodup := by
      have hloose := (List.nodup_append.1 (List.nodup_append.1 hnodup).1).2.1
      exact (List.nodup_append.1 (hb.nodup_iff.1 hloose)).1
    have hp := hperm hold
    rw [List.perm_iff_count] at hp hb hb' ⊢
    intro x
    have := hp x; have := hb x; have := hb' x
    simp only [List.count_append] at *
    omega

end Moves

/-! ## One card out of a list, or into it -/

section
variable {l i : List String} {x : String}

/-- A card taken out of a list and put in front of another comes from nowhere else. -/
theorem mem_drop (hx : x ∈ l) : ∀ y ∈ l.filter (· ≠ x) ++ x :: i, y ∈ l ++ i := by
  intro y hy
  simp only [List.mem_append, List.mem_filter, List.mem_cons] at hy ⊢
  rcases hy with ⟨hy, -⟩ | rfl | hy
  · exact .inl hy
  · exact .inl hx
  · exact .inr hy

/-- It is not lost either, if the list held it once: `filter` takes every copy out. -/
theorem perm_drop (hx : x ∈ l) (hl : l.Nodup) :
    (l.filter (· ≠ x) ++ x :: i).Perm (l ++ i) := by
  refine List.perm_middle.trans ?_
  rw [← List.cons_append]
  refine List.Perm.append_right i ?_
  have hfilter : l.filter (· ≠ x) = l.erase x := by
    rw [hl.erase_eq_filter]
    refine List.filter_congr fun y _ => ?_
    by_cases hy : y = x <;> simp [hy]
  rw [hfilter]
  exact (List.perm_cons_erase hx).symm

end

namespace Board

variable {b : Board} {playerId : String}

/-! ## Changing one hand or one party -/

/-- A change of one hand leaves every other loose card. -/
theorem loose_modifyPlayer {player : Player} (h : b.players.get? playerId = some player)
    (f : Player → Player) :
    ∃ rest, b.loose.Perm (player.hand ++ rest) ∧
      ({ b with players := b.players.modify playerId f } : Board).loose.Perm
        ((f player).hand ++ rest) := by
  obtain ⟨rest, hb, hb'⟩ := OrderedMap.flatMap_modify h f Player.hand
  refine ⟨b.mainDeck ++ b.discardPile ++ b.monsterDeck ++ b.monsterPile ++ rest ++
    b.parties.values.flatMap Party.loose, ?_, ?_⟩ <;>
  · rw [List.perm_iff_count] at hb hb' ⊢
    intro x
    have := hb x; have := hb' x
    simp only [loose, List.count_append] at *
    omega

/-- A change of one party leaves every other loose card. -/
theorem loose_modifyParty {party : Party} (h : b.parties.get? playerId = some party)
    (f : Party → Party) :
    ∃ rest, b.loose.Perm (party.loose ++ rest) ∧
      (b.modifyParty playerId f).loose.Perm ((f party).loose ++ rest) := by
  obtain ⟨rest, hb, hb'⟩ := OrderedMap.flatMap_modify h f Party.loose
  refine ⟨b.mainDeck ++ b.discardPile ++ b.monsterDeck ++ b.monsterPile ++
    b.players.values.flatMap Player.hand ++ rest, ?_, ?_⟩ <;>
  · rw [List.perm_iff_count] at hb hb' ⊢
    intro x
    have := hb x; have := hb' x
    simp only [loose, modifyParty, List.count_append] at *
    omega

/-- A change of a hand alone touches nothing but loose cards. -/
theorem unstocked_modifyPlayer {f : Player → Player}
    (h : ∀ player, (f player).unstocked = player.unstocked) :
    ({ b with players := b.players.modify playerId f } : Board).unstocked = b.unstocked := by
  have hplayers := OrderedMap.mapValues_modify_of_eq b.players playerId (f := f)
    (g := fun _ => Player.unstocked) h
  simp only [unstocked, hplayers]

/-- A change of a party that keeps its leader and its instance cards touches nothing but loose
cards. -/
theorem unstocked_modifyParty {f : Party → Party} (h : ∀ party, (f party).fixed = party.fixed) :
    (b.modifyParty playerId f).unstocked = b.unstocked := by
  have hparties := OrderedMap.mapValues_modify_of_eq b.parties playerId (f := f)
    (g := fun _ => Party.unstocked) fun party => by
      have hfixed := h party
      simp only [Party.fixed, List.cons.injEq] at hfixed
      simp only [Party.unstocked, hfixed.1, hfixed.2]
  simp only [unstocked, modifyParty, hparties]

/-- A card is in a hand of a player who sits at the table. -/
theorem mem_hand_iff {cardId : String} : cardId ∈ b.hand playerId ↔
    ∃ player, b.players.get? playerId = some player ∧ cardId ∈ player.hand := by
  rw [hand]
  cases b.players.get? playerId <;> simp

/-- Who is seated has a player. -/
theorem isSeated_iff : b.isSeated playerId = true ↔
    ∃ player, b.players.get? playerId = some player := by
  rw [isSeated, OrderedMap.has_iff, ← OrderedMap.get?_isSome, Option.isSome_iff_exists]

end Board

/-! ## The doors -/

namespace Moves

open Board

variable {i : List String} {b : Board} {playerId cardId : String}

/-- A card leaves the hand that holds it. -/
theorem removeFromHand (h : cardId ∈ b.hand playerId) :
    Moves i b (cardId :: i) (b.removeFromHand playerId cardId) := by
  obtain ⟨player, hplayer, hmem⟩ := mem_hand_iff.1 h
  obtain ⟨rest, hb, hb'⟩ := loose_modifyPlayer hplayer (Player.removeFromHand cardId)
  exact of_part (unstocked_modifyPlayer fun _ => rfl) hb hb' (mem_drop hmem) (perm_drop hmem)

/-- A card in flight goes into a hand that is seated. -/
theorem addToHand (h : b.isSeated playerId = true) :
    Moves (cardId :: i) b i (b.addToHand playerId cardId) := by
  obtain ⟨player, hplayer⟩ := isSeated_iff.1 h
  obtain ⟨rest, hb, hb'⟩ := loose_modifyPlayer hplayer (Player.addToHand cardId)
  refine of_part (unstocked_modifyPlayer fun _ => rfl) hb hb' ?_ fun _ => ?_
  · simp only [Player.addToHand, List.append_assoc, List.singleton_append]
    exact fun _ hx => hx
  · simp only [Player.addToHand, List.append_assoc, List.singleton_append]
    exact .refl _

/-- A card in flight lands on the discard pile. -/
theorem addToDiscardPile : Moves (cardId :: i) b i (b.addToDiscardPile cardId) := by
  refine of_part (o := []) (n := [cardId]) (r := b.loose) rfl (.refl _) ?_
    (fun _ hx => hx) (fun _ => .refl _)
  rw [List.perm_iff_count]
  intro x
  simp only [loose, Board.addToDiscardPile, List.count_append, List.count_cons, List.count_nil]
  omega

/-- A card leaves the discard pile. -/
theorem pickFromDiscardPile (h : cardId ∈ b.discardPile) :
    Moves i b (cardId :: i) (b.pickFromDiscardPile cardId) := by
  refine of_part (o := b.discardPile) (n := b.discardPile.filter (· ≠ cardId))
    (r := b.mainDeck ++ b.monsterDeck ++ b.monsterPile ++ b.players.values.flatMap Player.hand ++
      b.parties.values.flatMap Party.loose) rfl ?_ ?_ (mem_drop h) (perm_drop h) <;>
  · rw [List.perm_iff_count]
    intro x
    simp only [loose, Board.pickFromDiscardPile, List.count_append]
    omega

/-- A card leaves the main deck, from wherever in it. -/
theorem pickFromMainDeck (h : cardId ∈ b.mainDeck) :
    Moves i b (cardId :: i) (b.pickFromMainDeck cardId) := by
  refine of_part (o := b.mainDeck) (n := b.mainDeck.filter (· ≠ cardId))
    (r := b.discardPile ++ b.monsterDeck ++ b.monsterPile ++
      b.players.values.flatMap Player.hand ++ b.parties.values.flatMap Party.loose)
    rfl ?_ ?_ (mem_drop h) (perm_drop h) <;>
  · rw [List.perm_iff_count]
    intro x
    simp only [loose, Board.pickFromMainDeck, List.count_append]
    omega

/-- A card of the deck goes to its top; one that is not in it stays where it is. -/
theorem moveToMainDeckTop : Moves i b i (b.moveToMainDeckTop cardId) := by
  unfold Board.moveToMainDeckTop
  split
  · rename_i h
    refine (pickFromMainDeck h).trans (of_part (o := []) (n := [cardId])
      (r := (b.pickFromMainDeck cardId).loose) rfl (.refl _) ?_ (fun _ hx => hx)
      (fun _ => .refl _))
    rw [List.perm_iff_count]
    intro x
    simp only [loose, Board.pickFromMainDeck, List.count_append, List.count_cons, List.count_nil]
    omega
  · exact refl

/-- A card goes from its hand to the discard pile. -/
theorem discardFromHand (h : cardId ∈ b.hand playerId) :
    Moves i b i (b.discardFromHand playerId cardId) :=
  (removeFromHand h).trans addToDiscardPile

/-- A move seats nobody and unseats nobody. -/
theorem isSeated_congr {b' : Board} (h : b'.unstocked = b.unstocked) (playerId : String) :
    b'.isSeated playerId = b.isSeated playerId := by
  have hkeys : b'.players.keys = b.players.keys := by
    have := congrArg (fun b => b.players.keys) h
    simpa [unstocked] using this
  simp only [isSeated, OrderedMap.has_eq_decide, hkeys]

/-- A card goes from the hand that holds it to one that is seated. -/
theorem pullCard {toPlayerId : String} (h : cardId ∈ b.hand playerId)
    (hto : b.isSeated toPlayerId = true) :
    Moves i b i (b.pullCard playerId toPlayerId cardId) := by
  refine (removeFromHand h).trans (addToHand ?_)
  rwa [isSeated_congr (removeFromHand (i := i) h).rest]

/-- A named card goes from the deck to a hand that is seated. -/
theorem drawNamedIntoHand (h : cardId ∈ b.mainDeck) (hseated : b.isSeated playerId = true) :
    Moves i b i (b.drawNamedIntoHand playerId cardId) :=
  (pickFromMainDeck h).trans (addToHand hseated)

/-- A card goes from the discard pile to a hand that is seated. -/
theorem retrieveFromDiscard (h : cardId ∈ b.discardPile) (hseated : b.isSeated playerId = true) :
    Moves i b i ((b.pickFromDiscardPile cardId).addToHand playerId cardId) :=
  (pickFromDiscardPile h).trans (addToHand hseated)

end Moves

/-! ## Shuffling and drawing -/

namespace Board

/-- A swap rearranges; one with an index past the end does nothing. -/
theorem swap_perm (l : List String) (i j : Nat) : (swap l i j).Perm l := by
  unfold swap
  split
  · rename_i a b hi hj
    obtain ⟨hi', rfl⟩ := List.getElem?_eq_some_iff.1 hi
    obtain ⟨hj', rfl⟩ := List.getElem?_eq_some_iff.1 hj
    exact List.set_set_perm hi' hj'
  · exact .refl _

/-- Fisher and Yates only swap. -/
theorem shuffleFrom_perm (rng : Nat → Nat) :
    ∀ (i at_ : Nat) (l : List String), (shuffleFrom rng at_ i l).Perm l
  | 0, _, _ => .refl _
  | i + 1, at_, l => (shuffleFrom_perm rng i (at_ + 1) _).trans (swap_perm l _ _)

/-- So a shuffle rearranges, whatever the numbers drawn. -/
theorem shuffle_perm (rng : Nat → Nat) (at_ : Nat) (l : List String) :
    (shuffle rng at_ l).Perm l := shuffleFrom_perm rng _ at_ l

end Board

namespace Moves

open Board

variable {i : List String} {b b' : Board} {playerId cardId : String} {rng : Nat → Nat} {at_ : Nat}

/-- A rearrangement of the loose cards. -/
theorem of_perm (hrest : b'.unstocked = b.unstocked) (h : b'.loose.Perm b.loose) :
    Moves i b i b' :=
  of_part (o := []) (n := []) (r := b.loose) hrest (.refl _) h (fun _ hx => hx)
    (fun _ => .refl _)

/-- The discard pile, shuffled, becomes the deck when the deck has run out. -/
theorem refillMainDeck : Moves i b i (b.refillMainDeck rng at_) := by
  unfold Board.refillMainDeck
  split
  · rename_i hempty
    refine of_perm rfl ?_
    have hshuffle := List.perm_iff_count.1 (shuffle_perm rng at_ b.discardPile)
    rw [List.perm_iff_count]
    intro x
    simp only [loose, hempty, List.count_append, List.count_nil, hshuffle x]
    omega
  · exact refl

/-- The card on top leaves the deck, which is refilled if that was the last. -/
theorem drawFromMainDeck (h : b.drawFromMainDeck rng at_ = (some cardId, b')) :
    Moves i b (cardId :: i) b' := by
  obtain ⟨hhead, rfl⟩ := Prod.mk.inj h
  obtain ⟨rest, hdeck⟩ : ∃ rest, b.mainDeck = cardId :: rest := by
    cases hb : b.mainDeck with
    | nil => simp [hb] at hhead
    | cons a rest =>
      simp only [hb, List.head?_cons, Option.some.injEq] at hhead; exact ⟨rest, by rw [hhead]⟩
  have htake : Moves i b (cardId :: i) { b with mainDeck := b.mainDeck.tail } := ?_
  · exact htake.trans refillMainDeck
  refine of_part (o := [cardId]) (n := [])
    (r := ({ b with mainDeck := b.mainDeck.tail } : Board).loose) rfl ?_ (.refl _)
    (fun _ hx => hx) (fun _ => .refl _)
  rw [List.perm_iff_count]
  intro x
  simp only [loose, hdeck, List.tail_cons, List.count_append, List.count_cons, List.count_nil]
  omega

/-- A deck that has nothing to draw may still be refilled. -/
theorem drawFromMainDeck_none (h : b.drawFromMainDeck rng at_ = (none, b')) :
    Moves i b i b' := by
  obtain ⟨hhead, rfl⟩ := Prod.mk.inj h
  have hdeck : b.mainDeck = [] := List.head?_eq_none_iff.1 hhead
  have hb : ({ b with mainDeck := b.mainDeck.tail } : Board) = b := by
    rw [hdeck, List.tail_nil, ← hdeck]
  rw [hb]
  exact refillMainDeck

/-- A card goes from the top of the deck to a hand that is seated. -/
theorem drawIntoHand (hseated : b.isSeated playerId = true) :
    Moves i b i (b.drawIntoHand rng at_ playerId).2 := by
  unfold Board.drawIntoHand
  split
  · exact drawFromMainDeck_none ‹_›
  · rename_i b' hdraw
    have hmove := drawFromMainDeck (i := i) hdraw
    refine hmove.trans (addToHand ?_)
    rwa [isSeated_congr hmove.rest]

/-! ## Parties -/

/-- What a door does to the loose cards of one party it does to those of the board. -/
theorem partyDoor {i' : List String} {party : Party} {f : Party → Party}
    (hparty : b.parties.get? playerId = some party)
    (hfixed : ∀ party, (f party).fixed = party.fixed)
    (hmem : ∀ x ∈ (f party).loose ++ i', x ∈ party.loose ++ i)
    (hperm : party.loose.Nodup → ((f party).loose ++ i').Perm (party.loose ++ i)) :
    Moves i b i' (b.modifyParty playerId f) := by
  obtain ⟨rest, hb, hb'⟩ := loose_modifyParty hparty f
  exact of_part (unstocked_modifyParty hfixed) hb hb' hmem hperm

/-- A hero in flight joins a party. -/
theorem pushHero {party : Party} (hparty : b.parties.get? playerId = some party) :
    Moves (cardId :: i) b i (b.modifyParty playerId (Party.pushHero cardId)) := by
  have hperm : ((Party.pushHero cardId party).loose ++ i).Perm (party.loose ++ cardId :: i) := by
    rw [List.perm_iff_count]
    intro x
    simp only [Party.loose, Party.pushHero, List.count_append, List.count_cons, List.count_nil]
    omega
  exact partyDoor hparty (fun _ => rfl) (fun x hx => hperm.mem_iff.1 hx) fun _ => hperm

/-- A hero leaves its party. -/
theorem dropHero {party : Party} (hparty : b.parties.get? playerId = some party)
    (hhero : cardId ∈ party.heroIds) :
    Moves i b (cardId :: i) (b.modifyParty playerId (Party.dropHero cardId)) := by
  refine partyDoor hparty (fun _ => rfl) ?_ fun hnodup => ?_
  · intro x hx
    have := mem_drop (i := i) hhero x
    simp only [Party.loose, Party.dropHero, List.mem_append, List.mem_cons] at *
    grind
  · have hheroes : party.heroIds.Nodup := by
      simp only [Party.loose, List.append_assoc] at hnodup
      exact (List.nodup_append.1 hnodup).1
    have hdrop := List.perm_iff_count.1 (perm_drop (i := i) hhero hheroes)
    rw [List.perm_iff_count]
    intro x
    have := hdrop x
    simp only [Party.loose, Party.dropHero, List.count_append] at *
    omega

/-- An item in flight goes on a hero that carries none. -/
theorem equip {party : Party} {heroId : String} (hparty : b.parties.get? playerId = some party)
    (hempty : party.getEquippedItem heroId = none) :
    Moves (cardId :: i) b i (b.modifyParty playerId (Party.equipItem heroId cardId)) := by
  have hset := OrderedMap.entries_set_of_notMem (OrderedMap.get?_eq_none.1 hempty) cardId
  have hperm : ((Party.equipItem heroId cardId party).loose ++ i).Perm
      (party.loose ++ cardId :: i) := by
    rw [List.perm_iff_count]
    intro x
    simp only [Party.loose, Party.equipItem, OrderedMap.values, hset, List.map_append,
      List.count_append, List.count_cons, List.map_cons, List.map_nil, List.count_nil]
    omega
  exact partyDoor hparty (fun _ => rfl) (fun x hx => hperm.mem_iff.1 hx) fun _ => hperm

/-- An item leaves the hero that carries it. -/
theorem unequip {party : Party} {heroId : String} (hparty : b.parties.get? playerId = some party)
    (hitem : party.getEquippedItem heroId = some cardId) :
    Moves i b (cardId :: i) (b.modifyParty playerId (Party.unequipItem heroId)) := by
  have herase : party.equipment.values.Perm
      (cardId :: (Party.unequipItem heroId party).equipment.values) := by
    obtain ⟨before, after, hsplit, -⟩ := OrderedMap.entries_split hitem id
    have hnodup := party.equipment.nodup
    rw [hsplit, List.map_append, List.map_cons, List.nodup_append] at hnodup
    obtain ⟨-, hafter, hdisjoint⟩ := hnodup
    have hkeep : ∀ l : List (String × String), heroId ∉ l.map Prod.fst →
        l.filter (fun e => e.1 ≠ heroId) = l := by
      intro l hl
      refine List.filter_eq_self.2 fun e he => ?_
      have hne : e.1 ≠ heroId := fun hek => hl (hek ▸ List.mem_map_of_mem he)
      simpa using hne
    simp only [OrderedMap.values, Party.unequipItem, OrderedMap.entries_erase, hsplit,
      List.filter_append, List.filter_cons]
    rw [hkeep before (fun hk => hdisjoint heroId hk heroId (List.mem_cons_self) rfl),
      hkeep after (List.nodup_cons.1 hafter).1]
    simp
  have hcount := List.perm_iff_count.1 herase
  have hperm : ((Party.unequipItem heroId party).loose ++ cardId :: i).Perm
      (party.loose ++ i) := by
    rw [List.perm_iff_count]
    intro x
    have := hcount x
    simp only [Party.loose, Party.unequipItem, List.count_append, List.count_cons] at *
    omega
  exact partyDoor hparty (fun _ => rfl) (fun x hx => hperm.mem_iff.1 hx) fun _ => hperm

/-- Unequipping a hero that carries nothing moves nothing. -/
theorem unequip_none {party : Party} {heroId : String}
    (hparty : b.parties.get? playerId = some party) (hitem : party.getEquippedItem heroId = none) :
    Moves i b i (b.modifyParty playerId (Party.unequipItem heroId)) := by
  have hsame : Party.unequipItem heroId party = party := by
    have herase : party.equipment.erase heroId = party.equipment := by
      refine OrderedMap.ext (List.filter_eq_self.2 fun e he => ?_)
      have hkey := OrderedMap.get?_eq_none.1 hitem
      have hne : e.1 ≠ heroId := fun hek => hkey (hek ▸ OrderedMap.mem_keys_of_mem he)
      simpa using hne
    rw [Party.unequipItem, herase]
  exact partyDoor hparty (fun _ => rfl) (by rw [hsame]; exact fun _ hx => hx)
    (by rw [hsame]; exact fun _ => .refl _)

/-- A slain monster joins a party. -/
theorem addMonster {party : Party} (hparty : b.parties.get? playerId = some party) :
    Moves (cardId :: i) b i (b.modifyParty playerId (Party.addMonster cardId)) := by
  have hperm : ((Party.addMonster cardId party).loose ++ i).Perm
      (party.loose ++ cardId :: i) := by
    rw [List.perm_iff_count]
    intro x
    simp only [Party.loose, Party.addMonster, List.count_append, List.count_cons, List.count_nil]
    omega
  exact partyDoor hparty (fun _ => rfl) (fun x hx => hperm.mem_iff.1 hx) fun _ => hperm

/-- A monster goes from the row to the party that slew it, and the next of the deck takes its
place. -/
theorem slayMonster {party : Party} (h : cardId ∈ b.monsterPile)
    (hparty : b.parties.get? playerId = some party) :
    Moves i b i (b.slayMonster cardId playerId) := by
  have hrow : Moves i b (cardId :: i) { b with
      monsterPile := b.monsterDeck.head?.toList ++ b.monsterPile.filter (· ≠ cardId)
      monsterDeck := b.monsterDeck.tail } := ?_
  · exact hrow.trans (addMonster hparty)
  have hnext : b.monsterDeck = b.monsterDeck.head?.toList ++ b.monsterDeck.tail := by
    cases b.monsterDeck <;> rfl
  refine of_part (o := b.monsterPile) (n := b.monsterPile.filter (· ≠ cardId))
    (r := b.mainDeck ++ b.discardPile ++ b.monsterDeck ++
      b.players.values.flatMap Player.hand ++ b.parties.values.flatMap Party.loose)
    rfl ?_ ?_ (mem_drop h) (perm_drop h) <;>
  · rw [List.perm_iff_count]
    intro x
    have := congrArg (List.count x) hnext
    simp only [loose, List.count_append] at *
    omega

end Moves

/-! ## Trading hands -/

namespace Board

variable {b : Board} {playerId otherId cardId : String}

/-- Only the one hand loses the card. -/
theorem hand_removeFromHand (playerId otherId cardId : String) (b : Board) :
    (b.removeFromHand playerId cardId).hand otherId =
      if otherId = playerId then (b.hand otherId).filter (· ≠ cardId) else b.hand otherId := by
  simp only [hand, removeFromHand, OrderedMap.get?_modify]
  cases b.players.get? otherId with
  | none => simp
  | some player => split <;> simp [Player.removeFromHand]

/-- Only the one hand gains the card, and only if it is seated. -/
theorem hand_addToHand (playerId otherId cardId : String) (b : Board) :
    (b.addToHand playerId cardId).hand otherId =
      if otherId = playerId ∧ b.isSeated otherId = true then b.hand otherId ++ [cardId]
      else b.hand otherId := by
  simp only [hand, addToHand, isSeated, OrderedMap.has_eq_decide, OrderedMap.get?_modify]
  cases h : b.players.get? otherId with
  | none => simp [OrderedMap.get?_eq_none.1 h]
  | some player =>
    have hseated : otherId ∈ b.players.keys := OrderedMap.get?_isSome.1 (by simp [h])
    by_cases heq : otherId = playerId <;> simp [heq, Player.addToHand]
    exact heq ▸ hseated

/-- A pull takes nothing from a hand it does not pull from. -/
theorem mem_hand_pullCard {fromId toId c : String} (h : c ∈ b.hand otherId)
    (hne : otherId ≠ fromId) :
    c ∈ (b.pullCard fromId toId cardId).hand otherId := by
  rw [pullCard, hand_addToHand, hand_removeFromHand, if_neg hne]
  split
  · exact List.mem_append_left _ h
  · exact h

/-- A pull takes nothing but its card from the hand it pulls from. -/
theorem mem_hand_from_pullCard {fromId toId c : String} (h : c ∈ b.hand fromId) (hne : c ≠ cardId) :
    c ∈ (b.pullCard fromId toId cardId).hand fromId := by
  have hmem : c ∈ (b.removeFromHand fromId cardId).hand fromId := by
    rw [hand_removeFromHand, if_pos rfl]
    exact List.mem_filter.2 ⟨h, by simpa using hne⟩
  rw [pullCard, hand_addToHand]
  split
  · exact List.mem_append_left _ hmem
  · exact hmem

/-- The cards of a list out of one hand into another, in turn. -/
def pullCards (fromId toId : String) (cards : List String) (b : Board) : Board :=
  cards.foldl (fun b cardId => b.pullCard fromId toId cardId) b

/-- Nor do pulls of several cards take from another hand. -/
theorem mem_hand_pullCards {fromId toId c : String} (hne : otherId ≠ fromId) :
    ∀ {cards : List String} {b : Board}, c ∈ b.hand otherId →
      c ∈ (b.pullCards fromId toId cards).hand otherId
  | [], _, h => h
  | c' :: cards, b, h => by
    rw [pullCards, List.foldl_cons]
    exact mem_hand_pullCards hne (mem_hand_pullCard h hne)

/-- Pulls touch nothing but loose cards. -/
theorem unstocked_pullCards (fromId toId : String) :
    ∀ (cards : List String) (b : Board), (b.pullCards fromId toId cards).unstocked = b.unstocked
  | [], _ => rfl
  | c :: cards, b => by
    refine (unstocked_pullCards fromId toId cards _).trans ?_
    exact (unstocked_modifyPlayer (f := Player.addToHand c) fun _ => rfl).trans
      (unstocked_modifyPlayer (f := Player.removeFromHand c) fun _ => rfl)

/-- Pulls touch no party. -/
theorem parties_pullCards (fromId toId : String) :
    ∀ (cards : List String) (b : Board), (b.pullCards fromId toId cards).parties = b.parties
  | [], _ => rfl
  | c :: cards, b => parties_pullCards fromId toId cards (b.pullCard fromId toId c)

/-- Nor does a card put on top of the deck. -/
theorem parties_moveToMainDeckTop (cardId : String) (b : Board) :
    (b.moveToMainDeckTop cardId).parties = b.parties := by
  unfold moveToMainDeckTop
  split <;> rfl

/-- A card in a hand is loose. -/
theorem loose_of_mem_hand (h : cardId ∈ b.hand playerId) : cardId ∈ b.loose := by
  obtain ⟨player, hplayer, hmem⟩ := mem_hand_iff.1 h
  obtain ⟨rest, hb, -⟩ := loose_modifyPlayer hplayer id
  exact hb.mem_iff.2 (List.mem_append_left _ hmem)

/-- A hand holds no card twice where no loose card lies twice. -/
theorem nodup_hand (h : b.loose.Nodup) (playerId : String) : (b.hand playerId).Nodup := by
  rw [hand]
  cases hplayer : b.players.get? playerId with
  | none => simp
  | some player =>
    obtain ⟨rest, hb, -⟩ := loose_modifyPlayer hplayer id
    exact (List.nodup_append.1 (hb.nodup_iff.1 h)).1

/-- A pull puts nothing on the board that was not on it or named. -/
theorem mem_loose_pullCard {fromId toId x : String}
    (h : x ∈ (b.pullCard fromId toId cardId).loose) :
    x ∈ b.loose ∨ x = cardId := by
  have hremove : ∀ y ∈ (b.removeFromHand fromId cardId).loose, y ∈ b.loose := by
    intro y hy
    cases hplayer : b.players.get? fromId with
    | none =>
      have hsame : b.removeFromHand fromId cardId = b := by
        rw [removeFromHand, OrderedMap.modify_of_notMem (OrderedMap.get?_eq_none.1 hplayer)]
      rwa [hsame] at hy
    | some player =>
      obtain ⟨rest, hb, hb'⟩ := loose_modifyPlayer hplayer (Player.removeFromHand cardId)
      have := hb'.mem_iff.1 hy
      rw [hb.mem_iff]
      simp only [Player.removeFromHand, List.mem_append, List.mem_filter] at this ⊢
      exact this.imp And.left id
  cases hplayer : (b.removeFromHand fromId cardId).players.get? toId with
  | none =>
    have hsame : b.pullCard fromId toId cardId = b.removeFromHand fromId cardId := by
      rw [pullCard, addToHand, OrderedMap.modify_of_notMem (OrderedMap.get?_eq_none.1 hplayer)]
    exact .inl (hremove x (hsame ▸ h))
  | some player =>
    obtain ⟨rest, hb, hb'⟩ := loose_modifyPlayer hplayer (Player.addToHand cardId)
    have := hb'.mem_iff.1 h
    simp only [Player.addToHand, List.mem_append, List.mem_singleton] at this
    rcases this with (hx | rfl) | hx
    · exact .inl (hremove x (hb.mem_iff.2 (List.mem_append_left _ hx)))
    · exact .inr rfl
    · exact .inl (hremove x (hb.mem_iff.2 (List.mem_append_right _ hx)))

/-- What is loose after pulls was loose before them, or was pulled. -/
theorem mem_loose_pullCards {fromId toId x : String} :
    ∀ {cards : List String} {b : Board}, x ∈ (b.pullCards fromId toId cards).loose →
      x ∈ b.loose ∨ x ∈ cards
  | [], _, h => .inl h
  | c :: cards, b, h => by
    have hrest : x ∈ ((b.pullCard fromId toId c).pullCards fromId toId cards).loose := h
    rcases mem_loose_pullCards hrest with h | h
    · rcases mem_loose_pullCard h with h | rfl
      · exact .inl h
      · exact .inr List.mem_cons_self
    · exact .inr (List.mem_cons_of_mem _ h)

end Board

namespace Moves

open Board

variable {i : List String} {b : Board}

/-- Cards of one hand into another, each once. -/
theorem pullCards {fromId toId : String} :
    ∀ {cards : List String} {b : Board}, b.isSeated toId = true → cards.Nodup →
      (∀ c ∈ cards, c ∈ b.hand fromId) → Moves i b i (b.pullCards fromId toId cards)
  | [], _, _, _, _ => refl
  | c :: cards, b, hto, hnodup, hmem => by
    obtain ⟨hc, hrest⟩ := List.nodup_cons.1 hnodup
    have hpull := pullCard (i := i) (hmem c List.mem_cons_self) hto
    refine hpull.trans (pullCards (by rwa [isSeated_congr hpull.rest]) hrest fun d hd => ?_)
    exact mem_hand_from_pullCard (hmem d (List.mem_cons_of_mem _ hd)) fun hdc => hc (hdc ▸ hd)

/-- Two hands change owners. The second hand is read before the first has been moved into it, so
nothing is moved back. -/
theorem tradeHands {ownerId otherId : String} (hne : otherId ≠ ownerId)
    (howner : b.isSeated ownerId = true) (hother : b.isSeated otherId = true) :
    Moves i b i ((b.pullCards ownerId otherId (b.hand ownerId)).pullCards otherId ownerId
      (b.hand otherId)) where
  rest := (unstocked_pullCards ..).trans (unstocked_pullCards ..)
  mem x hx := by
    simp only [List.mem_append] at hx ⊢
    refine hx.imp (fun hx => ?_) id
    rcases mem_loose_pullCards hx with hx | hx
    · rcases mem_loose_pullCards hx with hx | hx
      · exact hx
      · exact loose_of_mem_hand hx
    · exact loose_of_mem_hand hx
  perm hseated hnodup := by
    have hloose : b.loose.Nodup := (List.nodup_append.1 (List.nodup_append.1 hnodup).1).2.1
    have hmine : Moves i b i (b.pullCards ownerId otherId (b.hand ownerId)) :=
      pullCards hother (nodup_hand hloose ownerId) fun _ h => h
    refine (hmine.trans (pullCards ?_ (nodup_hand hloose otherId) fun c hc => ?_)).perm
      hseated hnodup
    · rwa [isSeated_congr hmine.rest]
    · exact mem_hand_pullCards hne hc

end Moves

/-! ## Gear by its owner -/

namespace Board

variable {b : Board} {heroId itemId : String}

/-- A hero in some party carries the item. -/
def Carries (b : Board) (heroId itemId : String) : Prop :=
  ∃ playerId party, b.parties.get? playerId = some party ∧ heroId ∈ party.heroIds ∧
    party.getEquippedItem heroId = some itemId

/-- The item a hero wears is carried by it. -/
theorem carries_of_getEquippedItem (h : b.getEquippedItem heroId = some itemId) :
    b.Carries heroId itemId := by
  unfold getEquippedItem at h
  split at h
  · rename_i party hfind
    obtain ⟨playerId, hentry⟩ := OrderedMap.mem_values_iff.1 (List.mem_of_find?_eq_some hfind)
    refine ⟨playerId, party, OrderedMap.get?_eq_some.2 hentry, ?_, h⟩
    simpa using List.find?_some hfind
  · cases h

/-- The carrier of an item carries it. -/
theorem carries_of_getItemCarrier (h : b.getItemCarrier itemId = some heroId) :
    b.Carries heroId itemId := by
  obtain ⟨party, hparty, hfind⟩ := List.exists_of_findSome?_eq_some h
  obtain ⟨playerId, hentry⟩ := OrderedMap.mem_values_iff.1 hparty
  refine ⟨playerId, party, OrderedMap.get?_eq_some.2 hentry, List.mem_of_find?_eq_some hfind, ?_⟩
  simpa using List.find?_some hfind

/-- The cards of a party are on the board. -/
theorem mem_cardIds_of_party {playerId x : String} {party : Party}
    (hparty : b.parties.get? playerId = some party) (hx : x ∈ party.cardIds) :
    x ∈ b.parties.values.flatMap Party.cardIds :=
  List.mem_flatMap.2 ⟨party, OrderedMap.mem_values_iff.2 ⟨_, OrderedMap.get?_eq_some.1 hparty⟩, hx⟩

/-- What `holds` finds lies in the hand or in the party of the seat. -/
theorem mem_of_holds {playerId cardId : String} {player : Player}
    (h : b.holds playerId player cardId = true) :
    cardId ∈ player.hand ∨ ∃ party, b.parties.get? playerId = some party ∧
    cardId ∈ party.cardIds := by
  unfold holds at h
  rw [Bool.or_eq_true] at h
  rcases h with h | h
  · exact .inl (by simpa using h)
  · split at h
    · cases h
    · rename_i party hparty
      refine .inr ⟨party, hparty, ?_⟩
      simp only [Bool.or_eq_true, beq_iff_eq, List.contains_iff_mem, List.any_eq_true,
        decide_eq_true_eq] at h
      simp only [Party.cardIds, List.mem_cons, List.mem_append, List.cons_append]
      rcases h with (((h | h) | ⟨heroId, -, h⟩) | h) | h
      · exact .inl h.symm
      · simp [h]
      · have := OrderedMap.mem_values_iff.2 ⟨heroId, OrderedMap.get?_eq_some.1 h⟩
        simp [this]
      · simp [h]
      · simp [h]

/-- On a board where no card lies twice, a hero's owner is the seat whose party it stands in. -/
theorem getCardOwner_of_heroIds (hseated : b.Seated) (hnodup : b.cardIds.Nodup)
    {playerId : String} {party : Party} (hparty : b.parties.get? playerId = some party)
    (hhero : heroId ∈ party.heroIds) : b.getCardOwner heroId = some playerId := by
  have hcard : heroId ∈ party.cardIds := by simp [Party.cardIds, hhero]
  have hplayer : ∃ player, b.players.get? playerId = some player := by
    rw [← Option.isSome_iff_exists, OrderedMap.get?_isSome, ← hseated, ← OrderedMap.get?_isSome,
      hparty]
    rfl
  obtain ⟨player, hplayer⟩ := hplayer
  have hholds : b.holds playerId player heroId = true := by simp [holds, hparty, hhero]
  have hfound : (b.players.entries.find? fun e => b.holds e.1 e.2 heroId).isSome := by
    rw [List.find?_isSome]
    exact ⟨_, OrderedMap.get?_eq_some.1 hplayer, hholds⟩
  obtain ⟨e, he⟩ := Option.isSome_iff_exists.1 hfound
  have hown : e.1 = playerId := by
    have hmem := List.mem_of_find?_eq_some he
    have hfinds : b.holds e.1 e.2 heroId = true := by simpa using List.find?_some he
    rw [cardIds, List.nodup_append] at hnodup
    obtain ⟨hrest, hparties, hdisjoint⟩ := hnodup
    rcases mem_of_holds hfinds with hhand | ⟨party', hparty', hcard'⟩
    · refine absurd rfl (hdisjoint heroId ?_ heroId (mem_cardIds_of_party hparty hcard))
      refine List.mem_append_right _ (List.mem_flatMap.2 ⟨e.2, ?_, hhand⟩)
      exact OrderedMap.mem_values_iff.2 ⟨_, hmem⟩
    · by_contra hne
      exact OrderedMap.disjoint_of_nodup hparties (OrderedMap.get?_eq_some.1 hparty')
        (OrderedMap.get?_eq_some.1 hparty) hne hcard' hcard
  rw [getCardOwner, he, Option.map_some, hown]

/-- A loose card of a party is loose on the board. -/
theorem loose_of_mem_party {playerId x : String} {party : Party}
    (hparty : b.parties.get? playerId = some party) (hx : x ∈ party.loose) : x ∈ b.loose := by
  obtain ⟨rest, hb, -⟩ := loose_modifyParty hparty id
  exact hb.mem_iff.2 (List.mem_append_left _ hx)

/-- Emptying a slot puts nothing on the board. -/
theorem mem_loose_unequipItem {x : String} (h : x ∈ (b.unequipItem heroId).loose) :
    x ∈ b.loose := by
  unfold unequipItem at h
  split at h
  · exact h
  · rename_i ownerId _
    cases hparty : b.parties.get? ownerId with
    | none =>
      rwa [modifyParty, OrderedMap.modify_of_notMem (OrderedMap.get?_eq_none.1 hparty)] at h
    | some party =>
      obtain ⟨rest, hb, hb'⟩ := loose_modifyParty hparty (Party.unequipItem heroId)
      have := hb'.mem_iff.1 h
      rw [hb.mem_iff]
      simp only [Party.loose, Party.unequipItem, OrderedMap.values, OrderedMap.entries_erase,
        List.mem_append, List.mem_map, List.mem_filter] at this ⊢
      grind

end Board

/-- A hero's gear off, wherever the seat that owns the hero keeps it. -/
theorem Moves.unequipItem {i : List String} {b : Board} {heroId itemId : String}
    (h : b.Carries heroId itemId) : Moves i b (itemId :: i) (b.unequipItem heroId) := by
  obtain ⟨playerId, party, hparty, hhero, hitem⟩ := h
  refine ⟨?_, fun x hx => ?_, fun hseated hnodup => ?_⟩
  · unfold Board.unequipItem
    split
    · rfl
    · exact Board.unstocked_modifyParty fun _ => rfl
  · simp only [List.mem_append, List.mem_cons] at hx ⊢
    rcases hx with hx | rfl | hx
    · exact .inl (Board.mem_loose_unequipItem hx)
    · refine .inl (Board.loose_of_mem_party hparty ?_)
      have := OrderedMap.mem_values_iff.2 ⟨heroId, OrderedMap.get?_eq_some.1 hitem⟩
      simp [Party.loose, this]
    · exact .inr hx
  · have hcards := b.cardIds_perm.nodup_iff.2 (List.nodup_append.1 hnodup).1
    rw [Board.unequipItem, Board.getCardOwner_of_heroIds hseated hcards hparty hhero]
    exact (Moves.unequip hparty hitem).perm hseated hnodup

/-! ## Instance piles -/

namespace Board

variable {b : Board} {playerId cardId : String}

/-- A card onto an instance pile, or off it. -/
theorem cardIds_addInstanceCard {party : Party} (hparty : b.parties.get? playerId = some party) :
    (b.addInstanceCard playerId cardId).cardIds.Perm (cardId :: b.cardIds) := by
  obtain ⟨rest, hb, hb'⟩ :=
    OrderedMap.flatMap_modify hparty (Party.addInstanceCard cardId) Party.cardIds
  rw [List.perm_iff_count] at hb hb' ⊢
  intro x
  have := hb x; have := hb' x
  simp only [cardIds, addInstanceCard, Party.cardIds, Party.addInstanceCard, List.count_append,
    List.count_cons, List.cons_append, List.count_nil] at *
  omega

/-- An instance card leaves its party and is then nowhere. -/
theorem cardIds_removeInstanceCard {party : Party} (hparty : b.parties.get? playerId = some party)
    (hmem : cardId ∈ party.instanceCardIds) (hnodup : b.cardIds.Nodup) :
    b.cardIds.Perm (cardId :: (b.removeInstanceCard playerId cardId).cardIds) := by
  obtain ⟨rest, hb, hb'⟩ :=
    OrderedMap.flatMap_modify hparty (Party.removeInstanceCard cardId) Party.cardIds
  have hpile : party.instanceCardIds.Nodup := by
    have hparties := (List.nodup_append.1 hnodup).2.1
    have hcards := (List.nodup_append.1 (hb.nodup_iff.1 hparties)).1
    simp only [Party.cardIds, List.cons_append, List.append_assoc, List.nodup_cons] at hcards
    grind
  have hdrop := List.perm_iff_count.1 (perm_drop (i := []) hmem hpile)
  rw [List.perm_iff_count] at hb hb' ⊢
  intro x
  have := hb x; have := hb' x; have := hdrop x
  simp only [cardIds, removeInstanceCard, Party.cardIds, Party.removeInstanceCard,
    List.count_append, List.count_cons, List.cons_append, List.count_nil] at *
  omega

/-- A card put on the pile is one more card on the board. -/
theorem cardIds_addToDiscardPile :
    (b.addToDiscardPile cardId).cardIds.Perm (cardId :: b.cardIds) := by
  rw [List.perm_iff_count]
  intro x
  simp only [cardIds, addToDiscardPile, List.count_append, List.count_cons]
  omega

end Board

end HereToSlaughter
