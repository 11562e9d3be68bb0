import HereToSlaughter.Machine.Ledger
import HereToSlaughter.Runs.Basic

/-!
# Cards stand where they belong

No card is lost or copied as frames settle, as long as what a restored frame takes back lay in
those hands when it opened and no item goes over another. What stands in a party stands there by
its type, as long as what is played and spent is what it is played and spent as; and gear stays
with the heroes that carry it, as long as it is put on heroes that stand in the party.

Reference: `actions/play-{hero,magic,item}-action.ts`, `tasks/item-tasks.ts`,
`state-structures/party.ts`.
-/

namespace HereToSlaughter

open Lib EngineM

variable {setup : GameSetup} {w : World}

/-! ## Types -/

/-- What the mark tells of was played or spent as what it is. -/
def Mark.ByType (cards : Cards) : Mark → Prop
  | .executed ⟨_, .playHero cardId⟩ _ _ => cards.typeOf cardId = some .hero
  | .executed ⟨_, .playMagic cardId⟩ _ _ => cards.typeOf cardId = some .magic
  | .spent _ cardId _ _ => cards.typeOf cardId = some .magic ∨
      cards.typeOf cardId = some .modifier ∨ cards.typeOf cardId = some .challenge
  | _ => True

instance (cards : Cards) : DecidablePred (Mark.ByType cards)
  | .executed ⟨_, .playHero _⟩ _ _ | .executed ⟨_, .playMagic _⟩ _ _ =>
    inferInstanceAs (Decidable (_ = _))
  | .spent .. => inferInstanceAs (Decidable (_ ∨ _ ∨ _))
  | .executed ⟨_, .drawCard⟩ _ _ | .executed ⟨_, .playItem ..⟩ _ _
  | .executed ⟨_, .rollOnHero _⟩ _ _ | .executed ⟨_, .rollOnLeader _⟩ _ _
  | .executed ⟨_, .attackMonster _⟩ _ _ | .executed ⟨_, .reDraw⟩ _ _ | .executed ⟨_, .endTurn⟩ _ _
  | .emitted .. | .opened .. | .released .. | .restored .. | .equipped .. | .queued ..
  | .suspended .. | .concluded .. => inferInstanceAs (Decidable True)

/-- When every card was played by its type, what an action played as a hero is one. -/
theorem PlayedAs.typeOf {cards : Cards} {history : List Mark} {type : CardType}
    {kind : String → ActionKind} {cardId : String} (h : PlayedAs cards type kind history cardId)
    (hkind : ∀ playerId turn gs, Mark.executed ⟨playerId, kind cardId⟩ turn gs ∈ history →
      cards.typeOf cardId = some type) : cards.typeOf cardId = some type :=
  h.elim id fun ⟨playerId, turn, gs, hmem⟩ => hkind playerId turn gs hmem

/-- As long as heroes are played as heroes, magic as magic, modifiers and challenges are spent, and
no input throws half-way, the heroes of a party are heroes, its gear is items, and its instance pile
holds magic cards and the modifiers and challenges that were spent. -/
theorem Reach.zones_typed (h : Reach setup w) (htypes : ∀ m ∈ w.history, m.ByType setup.table.cards)
    {playerId : String} {party : Party} (hparty : w.gs.board.parties.get? playerId = some party) :
    (∀ heroId ∈ party.heroIds, setup.table.cards.typeOf heroId = some .hero) ∧
    (∀ itemId ∈ party.equipment.values, setup.table.cards.typeOf itemId = some .item) ∧
    ∀ cardId ∈ party.instanceCardIds, setup.table.cards.typeOf cardId = some .magic ∨
      ((setup.table.cards.typeOf cardId = some .modifier ∨
        setup.table.cards.typeOf cardId = some .challenge) ∧
        ∃ spenderId frameId gs, .spent spenderId cardId frameId gs ∈ w.history) := by
  obtain ⟨k, hsound, -⟩ := h.sound
  obtain ⟨hheroes, hgear, hinstances⟩ := hsound.typed.board playerId party hparty
  refine ⟨fun heroId hmem => ?_, fun itemId hmem => ?_, fun cardId hmem => ?_⟩
  · exact (hheroes heroId hmem).typeOf fun _ _ _ hplayed => htypes _ hplayed
  · obtain ⟨e, he, rfl⟩ := List.mem_map.1 hmem
    exact hgear e he
  · obtain hmagic | ⟨spenderId, frameId, gs, hspent⟩ := hinstances cardId hmem
    · exact .inl (hmagic.typeOf fun _ _ _ hplayed => htypes _ hplayed)
    · obtain hmagic | hreaction := htypes _ hspent
      · exact .inl hmagic
      · exact .inr ⟨hreaction, spenderId, frameId, gs, hspent⟩

/-- A hand with a magic card and a hero, at a table where a throw of five is to come. -/
def magicInHand : GameSetup :=
  tableForTwo 2 [⟨"magic-055", "magic-055", "base", .magic⟩, heroCard "hero-001" .fighter 8,
    heroCard "hero-002" .thief 8, heroCard "hero-003" .thief 8] []

/-- The hero is played, or the magic card is played as one. -/
theorem magicInHand_played :
    ((magicInHand.play 40 [.command "A" (.action (.playHero "hero-001"))]).any fun w =>
      decide (∀ m ∈ w.history, m.ByType magicInHand.table.cards) &&
        (w.gs.board.parties.get? "A").any fun party => party.heroIds = ["hero-001"]) = true ∧
    ((magicInHand.play 40 [.command "A" (.action (.playHero "magic-055"))]).any fun w =>
      (w.gs.board.parties.get? "A").any fun party => party.heroIds.contains "magic-055") = true ∧
    magicInHand.table.cards.typeOf "magic-055" ≠ some .hero := by
  decide +kernel

/-- A hero played as a hero stands in the party. -/
theorem Reach.zones_typed_heroPlayed : ∃ w, Reach magicInHand w ∧
    ∃ party, w.gs.board.parties.get? "A" = some party ∧ party.heroIds = ["hero-001"] ∧
      ∀ heroId ∈ party.heroIds, magicInHand.table.cards.typeOf heroId = some .hero := by
  obtain ⟨w, h, hplayed⟩ := Reach.of_play _ _ _ _ magicInHand_played.1
  simp only [Bool.and_eq_true, decide_eq_true_eq] at hplayed
  obtain ⟨party, hparty, hheroes⟩ := Option.any_eq_true _ _ |>.1 hplayed.2
  exact ⟨w, h, party, hparty, by simpa using hheroes, (h.zones_typed hplayed.1 hparty).1⟩

/-- A magic card played as a hero stands there too. -/
theorem not_zones_typed_magicAsHero : ∃ w, Reach magicInHand w ∧
    ∃ party, w.gs.board.parties.get? "A" = some party ∧
      ¬ ∀ heroId ∈ party.heroIds, magicInHand.table.cards.typeOf heroId = some .hero := by
  obtain ⟨-, hplayed, htype⟩ := magicInHand_played
  obtain ⟨w, h, hmem⟩ := Reach.of_play _ _ _ _ hplayed
  obtain ⟨party, hparty, hmem⟩ := Option.any_eq_true _ _ |>.1 hmem
  exact ⟨w, h, party, hparty, fun hall => htype (hall "magic-055" (by simpa using hmem))⟩

/-! ## Every card in one place -/

/-- At rest every card that was dealt lies on the board, as long as the run was fair. -/
theorem Reach.ledger (h : Reach setup w) (hdeal : setup.board.cardIds.Nodup)
    (hfair : ∀ m ∈ w.history, m.Fair) : ∃ k, Ledger setup.board.cardIds (k, w.shape) ∧
      Sound setup.table.cards (k, w.shape) ∧ Rest k w := by
  obtain ⟨hvalid, k, hpath, hrest⟩ := h.machine
  refine ⟨k, ?_, (outerSystem setup.printedTable).inv_of_path hpath hvalid.sound, hrest⟩
  refine Ledger.path hdeal hvalid.sound ⟨?_, ?_, ?_, ?_, ?_⟩ hpath hfair
  · exact (List.append_nil _).symm ▸ .refl _
  · exact fun f hf => absurd hf List.not_mem_nil
  · exact fun F subject hc => (nomatch (show Settling.none = .closing F subject from hc))
  · exact fun F c hc => (nomatch (show Settling.none = .closing F (some c) from hc))
  · exact fun m hm => absurd hm List.not_mem_nil

/-- A fair run in which no input throws half-way loses no card and copies none: not at rest, not as
a frame is released, and not as one is restored and the card it was about is discarded. -/
theorem Reach.settles (h : Reach setup w) (hdeal : setup.board.cardIds.Nodup)
    (hfair : ∀ m ∈ w.history, m.Fair) :
    w.gs.board.cardIds.Perm setup.board.cardIds ∧
    (∀ frameId before after, .released frameId before after ∈ w.history →
      after.board.cardIds.Perm setup.board.cardIds) ∧
    ∀ frameId before after, .restored frameId before after ∈ w.history →
      (before.subjectOf frameId = none → after.board.cardIds.Perm setup.board.cardIds) ∧
      ∀ cardId, before.subjectOf frameId = some cardId →
        (after.board.addToDiscardPile cardId).cardIds.Perm setup.board.cardIds := by
  obtain ⟨k, hledger, -, hrest⟩ := h.ledger hdeal hfair
  refine ⟨?_, fun F before after hmem => hledger.marks _ hmem, fun F before after hmem => ?_⟩
  · have hboard := hledger.board
    rwa [hrest.calm.clear.inFlight, List.append_nil] at hboard
  · have hmark : Mark.Conserves _ (.restored F before after) := hledger.marks _ hmem
    rw [Mark.Conserves] at hmark
    refine ⟨fun hnone => ?_, fun cardId hsome => ?_⟩
    · rwa [hnone, Option.toList_none, List.append_nil] at hmark
    · rw [hsome] at hmark
      exact (Board.cardIds_addToDiscardPile.trans (List.perm_append_singleton _ _).symm).trans hmark

/-- Cloaked Sage leads the first party, and draws a card as its seat plays magic. -/
def sageAtTable : GameSetup where
  playerIds := ["A", "B"]
  config := { startingHandSize := 1 }
  cards :=
    [⟨"leader-120", "leader-120", "base", .leader .wizard⟩,
     ⟨"leader-B", "leader-B", "base", .leader .fighter⟩] ++
    ["monster-1", "monster-2", "monster-3"].map
      (fun id => ⟨id, id, "base", .monster ⟨4, 8, .highToWin, []⟩⟩) ++
    [⟨"magic-055", "magic-055", "base", .magic⟩,
    ⟨"challenge-102", "challenge-102", "base", .challenge⟩,
     ⟨"modifier-077", "modifier-077", "base", .modifier [4, -4]⟩, heroCard "hero-001" .thief 8]
  rng := keepOrder [4, 3, 2, 2] [5, 5, 0, 0]

/-- The magic is challenged, and its player spoils its own throw, with a card drawn before or after
the magic was played. `windowId` is the window of the contest. -/
def contestLost (windowId : Nat) : List Input :=
  [.command "A" (.action (.playMagic "magic-055")), .command "B" (.challenge "challenge-102"),
   .command "A" (.applyModifier "modifier-077" (-4) (some "A")), .tick 5000, .windowLapse windowId]

/-- A modifier that was in hand before the magic was played. -/
def modifierInHand : GameSetup :=
  tableForTwo 2 [⟨"magic-055", "magic-055", "base", .magic⟩,
    ⟨"modifier-077", "modifier-077", "base", .modifier [4, -4]⟩,
    ⟨"challenge-102", "challenge-102", "base", .challenge⟩, heroCard "hero-001" .thief 8] [5, 5]

/-- The modifier is spent into the contest, and was in hand before or was drawn for the magic. -/
theorem contestLost_played :
    (modifierInHand.board.cardIds.Nodup ∧
    ((modifierInHand.play 60 (contestLost 1)).any fun w =>
      decide (∀ m ∈ w.history, m.Fair) && w.history.any fun
        | .restored frameId before _ => (before.subjectOf frameId).isSome
        | _ => false) = true) ∧
    sageAtTable.board.cardIds.Nodup ∧
    ((sageAtTable.play 60 (contestLost 2)).any fun w => w.history.any fun
      | .restored frameId before after => (before.subjectOf frameId).any fun cardId =>
          decide ¬ (after.board.addToDiscardPile cardId).cardIds.Nodup
      | _ => false) = true := by
  decide +kernel

/-- A contest that was lost, with a modifier spent on it that lay in the hand when the frame
opened. -/
theorem Reach.settles_modifierInHand : ∃ w, Reach modifierInHand w ∧
    ∃ frameId before after cardId, .restored frameId before after ∈ w.history ∧
      before.subjectOf frameId = some cardId ∧
      (after.board.addToDiscardPile cardId).cardIds.Perm modifierInHand.board.cardIds := by
  obtain ⟨hdeal, hplayed⟩ := contestLost_played.1
  obtain ⟨w, h, hplayed⟩ := Reach.of_play _ _ _ _ hplayed
  rw [Bool.and_eq_true, decide_eq_true_eq] at hplayed
  obtain ⟨-, -, hrestored⟩ := h.settles hdeal hplayed.1
  obtain ⟨m, hmem, hm⟩ := List.any_eq_true.1 hplayed.2
  cases m with
  | restored frameId before after =>
    obtain ⟨cardId, hsubject⟩ := Option.isSome_iff_exists.1 hm
    exact ⟨w, h, frameId, before, after, cardId, hmem, hsubject,
      (hrestored frameId before after hmem).2 cardId hsubject⟩
  | _ => cases hm

/-- A modifier that was drawn while the frame was open, and spent into it, lies on the discard pile
and in the deck once the frame is restored. -/
theorem not_settles_drawnAndSpent : sageAtTable.board.cardIds.Nodup ∧
    ∃ w, Reach sageAtTable w ∧ ∃ frameId before after cardId,
      .restored frameId before after ∈ w.history ∧ before.subjectOf frameId = some cardId ∧
      ¬ (after.board.addToDiscardPile cardId).cardIds.Perm sageAtTable.board.cardIds := by
  obtain ⟨hdeal, hplayed⟩ := contestLost_played.2
  obtain ⟨w, h, hmark⟩ := Reach.of_play _ _ _ _ hplayed
  refine ⟨hdeal, w, h, ?_⟩
  obtain ⟨m, hmem, hm⟩ := List.any_eq_true.1 hmark
  cases m with
  | restored frameId before after =>
    obtain ⟨cardId, hsubject, hcopied⟩ := Option.any_eq_true _ _ |>.1 hm
    exact ⟨frameId, before, after, cardId, hmem, hsubject,
      fun hperm => of_decide_eq_true hcopied (hperm.nodup_iff.2 hdeal)⟩
  | _ => cases hm

/-! ## Gear -/

namespace Board

variable {b : Board} {playerId otherId heroId itemId : String} {party other : Party}

/-- What a party wears lies nowhere else, on a board where no card lies twice. -/
theorem worn_once (hnodup : b.cardIds.Nodup) (hparty : b.parties.get? playerId = some party)
    (hitem : itemId ∈ party.equipment.values) :
    (∀ otherId other, b.parties.get? otherId = some other → itemId ∈ other.equipment.values →
      otherId = playerId) ∧
    (∀ otherId, itemId ∉ b.hand otherId) ∧ itemId ∉ b.mainDeck ∧ itemId ∉ b.monsterDeck ∧
      itemId ∉ b.discardPile ∧ ∀ otherId, itemId ∉ b.instanceCardIds otherId := by
  obtain ⟨hrest, hparties, hdisjoint⟩ := List.nodup_append.1 hnodup
  have hentry := OrderedMap.get?_eq_some.1 hparty
  have hcard : itemId ∈ party.cardIds := List.mem_append_right _ hitem
  have hnot : ∀ x ∈ b.mainDeck ++ b.discardPile ++ b.monsterDeck ++ b.monsterPile ++
      b.players.values.flatMap Player.hand, x ≠ itemId := fun x hx =>
    hdisjoint x hx itemId (mem_cardIds_of_party hparty hcard)
  refine ⟨fun otherId other hother hworn => ?_, fun otherId hhand => ?_, fun hmem => ?_,
    fun hmem => ?_, fun hmem => ?_, fun otherId hpile => ?_⟩
  · by_contra hne
    exact OrderedMap.disjoint_of_nodup hparties hentry (OrderedMap.get?_eq_some.1 hother)
      (Ne.symm hne) hcard (List.mem_append_right _ hworn)
  · obtain ⟨player, hplayer, hmem⟩ := mem_hand_iff.1 hhand
    refine hnot itemId (List.mem_append_right _ (List.mem_flatMap.2 ⟨player, ?_, hmem⟩)) rfl
    exact OrderedMap.mem_values_iff.2 ⟨_, OrderedMap.get?_eq_some.1 hplayer⟩
  · exact hnot itemId (by simp [hmem]) rfl
  · exact hnot itemId (by simp [hmem]) rfl
  · exact hnot itemId (by simp [hmem]) rfl
  · rw [instanceCardIds] at hpile
    cases hother : b.parties.get? otherId with
    | none => simp [hother] at hpile
    | some other =>
      have hpile : itemId ∈ other.instanceCardIds := by simpa [hother] using hpile
      have hcard' : itemId ∈ other.cardIds := by simp [Party.cardIds, hpile]
      by_cases heq : otherId = playerId
      · subst heq
        cases hparty.symm.trans hother
        rw [List.nodup_flatMap] at hparties
        have hown := hparties.1 party (OrderedMap.mem_values_iff.2 ⟨_, hentry⟩)
        exact (List.nodup_append.1 hown).2.2 itemId (List.mem_append_right _ hpile) itemId hitem rfl
      · exact OrderedMap.disjoint_of_nodup hparties hentry (OrderedMap.get?_eq_some.1 hother)
          (Ne.symm heq) hcard hcard'

end Board

/-- Nobody wears anything at the deal. -/
theorem GameSetup.housed_origin (setup : GameSetup) (hvalid : setup.Valid) :
    Everywhere (fun history b => (∀ m ∈ history, m.Houses) → b.Housed) setup.origin.2 := by
  refine ⟨fun _ playerId party hparty => ?_, fun f hf => absurd hf List.not_mem_nil⟩
  have hparty : setup.board.parties.get? playerId = some party := hparty
  rw [GameSetup.parties_board setup, OrderedMap.get?_eq_some, hvalid.entries_parties] at hparty
  obtain ⟨⟨_, leaderId⟩, -, heq⟩ := List.mem_map.1 hparty
  cases heq
  exact fun heroId hkey => absurd hkey List.not_mem_nil

/-- As long as the run is fair, no input throws half-way and gear goes on heroes of the party it is
kept in, every slot of a party belongs to one of its heroes, and what is worn is worn once and lies
nowhere else. -/
theorem Reach.gear_housed (h : Reach setup w) (hdeal : setup.board.cardIds.Nodup)
    (hfair : ∀ m ∈ w.history, m.Fair) (hhouses : ∀ m ∈ w.history, m.Houses)
    {playerId : String} {party : Party} (hparty : w.gs.board.parties.get? playerId = some party) :
    (∀ heroId ∈ party.equipment.keys, heroId ∈ party.heroIds) ∧
    ∀ heroId itemId, party.getEquippedItem heroId = some itemId →
      (∀ otherId other otherHeroId, w.gs.board.parties.get? otherId = some other →
        other.getEquippedItem otherHeroId = some itemId → otherId = playerId ∧
        otherHeroId = heroId) ∧
      (∀ otherId, itemId ∉ w.gs.board.hand otherId) ∧ itemId ∉ w.gs.board.mainDeck ∧
      itemId ∉ w.gs.board.monsterDeck ∧ itemId ∉ w.gs.board.discardPile ∧
      ∀ otherId, itemId ∉ w.gs.board.instanceCardIds otherId := by
  obtain ⟨hvalid, k', hpath, -⟩ := h.machine
  have hhoused : Everywhere _ w.shape :=
    Everywhere.path (Board.Housed.keeps _) (setup.housed_origin hvalid) hpath
  obtain ⟨k, hledger, -, -⟩ := h.ledger hdeal hfair
  have hnodup := hledger.nodup hdeal
  refine ⟨hhoused.board hhouses playerId party hparty, fun heroId itemId hitem => ?_⟩
  have hvalue : ∀ {p : Party} {h : String}, p.getEquippedItem h = some itemId →
      itemId ∈ p.equipment.values := fun hget =>
    OrderedMap.mem_values_iff.2 ⟨_, OrderedMap.get?_eq_some.1 hget⟩
  obtain ⟨honce, hplaces⟩ := Board.worn_once hnodup hparty (hvalue hitem)
  refine ⟨fun otherId other otherHeroId hother hworn => ?_, hplaces⟩
  obtain rfl := honce otherId other hother (hvalue hworn)
  cases hparty.symm.trans hother
  -- one party wears an item once
  have hparties := (List.nodup_append.1 hnodup).2.1
  rw [List.nodup_flatMap] at hparties
  have hown := hparties.1 party (OrderedMap.mem_values_iff.2 ⟨_, OrderedMap.get?_eq_some.1 hparty⟩)
  have hvalues : (party.equipment.entries.map Prod.snd).Nodup := (List.nodup_append.1 hown).2.1
  exact ⟨rfl, congrArg Prod.fst (List.inj_on_of_nodup_map hvalues (OrderedMap.get?_eq_some.1 hworn)
    (OrderedMap.get?_eq_some.1 hitem) rfl)⟩

/-- A hero and an item in the first hand. -/
def heroAndItem : GameSetup :=
  tableForTwo 2 [heroCard "hero-001" .fighter 8, ⟨"item-001", "item-001", "base", .item false none⟩,
    heroCard "hero-002" .thief 8, heroCard "hero-003" .thief 8] []

/-- The item is played on the hero, once it lies on the board or while it is still in hand. -/
theorem heroAndItem_played : heroAndItem.board.cardIds.Nodup ∧
    ((heroAndItem.play 60
      [.command "A" (.action (.playHero "hero-001")), .command "B" (.passWindow 1),
       .command "A" (.submitChoice 4 (some (.id DISMISS))),
       .command "A" (.action (.playItem "item-001" "hero-001"))]).any fun w =>
      decide ((∀ m ∈ w.history, m.Fair) ∧ ∀ m ∈ w.history, m.Houses) &&
        (w.gs.board.parties.get? "A").any fun party =>
          party.getEquippedItem "hero-001" = some "item-001") = true ∧
    ((heroAndItem.play 40 [.command "A" (.action (.playItem "item-001" "hero-001"))]).any fun w =>
      (w.gs.board.parties.get? "A").any fun party : Party =>
        decide ("hero-001" ∈ party.equipment.keys ∧ "hero-001" ∉ party.heroIds)) = true := by
  decide +kernel

/-- An item on a hero of its own party. -/
theorem Reach.gear_housed_onBoard : ∃ w, Reach heroAndItem w ∧
    ∃ party, w.gs.board.parties.get? "A" = some party ∧
      party.getEquippedItem "hero-001" = some "item-001" ∧ "hero-001" ∈ party.heroIds ∧
      "item-001" ∉ w.gs.board.discardPile := by
  obtain ⟨hdeal, hplayed, -⟩ := heroAndItem_played
  obtain ⟨w, h, hplayed⟩ := Reach.of_play _ _ _ _ hplayed
  rw [Bool.and_eq_true, decide_eq_true_eq] at hplayed
  obtain ⟨party, hparty, hworn⟩ := Option.any_eq_true _ _ |>.1 hplayed.2
  have hworn := of_decide_eq_true hworn
  obtain ⟨hhoused, honce⟩ := h.gear_housed hdeal hplayed.1.1 hplayed.1.2 hparty
  obtain ⟨-, -, -, -, hdiscard, -⟩ := honce "hero-001" "item-001" hworn
  exact ⟨w, h, party, hparty, hworn,
    hhoused _ (OrderedMap.get?_isSome.1 (Option.isSome_of_mem hworn)), hdiscard⟩

/-- An item goes on a hero that is still in hand. -/
theorem not_gear_housed_inHand : ∃ w, Reach heroAndItem w ∧
    ∃ party, w.gs.board.parties.get? "A" = some party ∧
      ∃ heroId ∈ party.equipment.keys, heroId ∉ party.heroIds := by
  obtain ⟨w, h, hworn⟩ := Reach.of_play _ _ _ _ heroAndItem_played.2.2
  obtain ⟨party, hparty, hworn⟩ := Option.any_eq_true _ _ |>.1 hworn
  exact ⟨w, h, party, hparty, "hero-001", of_decide_eq_true hworn⟩

end HereToSlaughter
