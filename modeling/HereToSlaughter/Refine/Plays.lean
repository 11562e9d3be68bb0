import HereToSlaughter.Refine.Doors

/-!
# Plays and heroes, as the machine sees them

The mechanics the steps and the actions share: a card out of the hand, a frame, the card on the
table and the window over it; a roll; a question; heroes and their gear from one party to another.

Reference: `tasks/*.ts`, `state-structures/party.ts`.
-/

namespace HereToSlaughter

open Lib EngineM

/-! ## The frame a program opened -/

/-- The step that runs has opened what a play returns. -/
def Control.suspendOn (opened : Option Nat) (k : Control) : Control :=
  { k with running := k.running.map fun r => { r with opened } }

/-- A play that opened nothing leaves the step as it was. -/
theorem Control.suspendOn_none {k : Control} (h : ∀ r, k.running = some r → r.opened = none) :
    k.suspendOn none = k := by
  rcases k with ⟨_, _, _, _, running, _, _, _, _, _⟩
  cases running with
  | none => rfl
  | some r => simp only [suspendOn, Option.map_some, ← h r rfl]

/-- A step that opened nothing is suspended on nothing. -/
theorem MayOpen.unopened {d : Mode} {k₀ k : Control} {s t : World} (hmay : MayOpen k₀ t)
    (h : At d k₀ k s) : At d (k₀.suspendOn none) k s := by
  rw [Control.suspendOn_none fun r hr => (hmay.running r hr).1]
  exact h

section
variable {T : PrintedTable} {em : Emit} {d : Mode} {k₀ k : Control} {s : World}

/-- What a play is for the machine: it returns the frame it opened, if any. -/
abbrev Plays (T : PrintedTable) (d : Mode) (k₀ : Control) (m : EngineM (Option Nat)) (k : Control)
    (s : World) : Prop :=
  Runs T m (fun opened k' s' => At d (k₀.suspendOn opened) k' s') k s

/-- The ghost of a program that has opened a frame, as the program knows it. -/
structure Opened (k₀ k₁ : Control) (frameId : Nat) : Prop where
  suspended : { k₁ with opening := k₀.opening } = k₀.suspendOn (some frameId)
  fresh : ∀ o ∈ k₀.opening, o.frameId ≠ frameId
  playing : k₁.between = .playing
  landed : k₁.inFlight = []
  paid : k₁.due = none

/-- `openFrame`, of a program that opens no other. -/
theorem Runs.openOne (h : At d k₀ k s) (hmay : MayOpen k₀ s) {Q : Nat → Control → World → Prop}
    (hQ : ∀ (k₁ k' : Control) s', Opened k₀ k₁ s.nextId →
      At d { k₁ with opening := ⟨s.nextId, none, false⟩ :: k₀.opening } k' s' →
      s'.gs.board = s.gs.board → Q s.nextId k' s') : Runs T EngineM.openFrame Q k s :=
  openFrame none h hmay.toOnTop hmay.paid hmay.landed fun k' s' hfresh h' hboard _ =>
    hQ (k₀.suspendOn (some s.nextId)) k' s'
    ⟨rfl, hfresh, hmay.playing, hmay.landed, hmay.paid⟩ h' hboard

/-- The end of a play: its frame has its window. -/
theorem Filled.played {frameId : Nat} {subject : Option String} {k₁ : Control}
    (h : Filled d k₁ frameId subject k₀.opening k s)
    (hk : { k₁ with opening := k₀.opening } = k₀.suspendOn (some frameId)) :
    Plays T d k₀ (pure (some frameId)) k s :=
  h.done fun _ h' => .pure (hk ▸ h')

/-! ## Heroes and gear -/

/-- An item in flight goes into a slot, and a mark says so. -/
theorem Inner.equipAt {playerId heroId itemId : String} {fl : List String} {party : Party}
    (h : At d k₀ k s) (hfl : k₀.inFlight = itemId :: fl)
    (hparty : s.gs.board.parties.get? playerId = some party)
    (hitem : T.cards.typeOf itemId = some .item) :
    ∃ k', (innerSystem T).Path (k, s.shape) (k', World.shape { s with
        gs := s.gs.modifyBoard (Board.modifyParty playerId (Party.equipItem heroId itemId))
        history := .equipped playerId heroId itemId s.gs :: s.history }) ∧
      At d.loose { k₀ with inFlight := fl } k' { s with
        gs := s.gs.modifyBoard (Board.modifyParty playerId (Party.equipItem heroId itemId))
        history := .equipped playerId heroId itemId s.gs :: s.history } := by
  obtain ⟨hgoing, flow, unchecked, rfl⟩ := h
  refine ⟨{ k₀ with inFlight := fl, flow, unchecked := true }, ?_, ?_, flow, true, rfl⟩
  · exact .head Inner.doubt (.single (Inner.equip s.gs_matches hparty hfl hitem rfl))
  · exact hgoing.loosely rfl rfl rfl rfl rfl

namespace Runs

section Playing
variable (hem : Hears T d em)
include hem

/-- An item in flight goes on a hero of a party, and says so. -/
theorem equipInParty {playerId heroId itemId announcedAs : String} {fl : List String}
    (h : At d k₀ k s) (hfl : k₀.inFlight = itemId :: fl)
    (hitem : T.cards.typeOf itemId = some .item) (hspeaks : Speaks d { k₀ with inFlight := fl }) :
    Runs T (EngineM.equipInParty em playerId heroId itemId announcedAs)
      (fun _ k' s' => At d { k₀ with inFlight := fl } k' s') k s := by
  refine .bind (getParty fun party hparty => .bind (.reads rfl ?_))
  obtain ⟨k₁, hpath, h₁⟩ := Inner.equipAt (T := T) h hfl hparty hitem
  exact .together rfl rfl hpath (hem.speaks h₁ hspeaks rfl fun _ _ h₂ _ => h₂)

/-- `Party.addHero`: a hero in flight joins a party, and the items it brought join it. -/
theorem addHero {playerId heroId reason : String} {carried : Option String} {fl : List String}
    (h : At d k₀ k s) (hfl : k₀.inFlight = heroId :: (carried.toList ++ fl))
    (hhero : PlayedAs T.cards .hero .playHero s.history heroId)
    (hgear : ∀ itemId ∈ carried, T.cards.typeOf itemId = some .item)
    (hspeaks : Speaks d { k₀ with inFlight := carried.toList ++ fl }) :
    Runs T (EngineM.addHero em playerId heroId reason carried)
      (fun _ k' s' => At d { k₀ with inFlight := fl } k' s') k s := by
  have hpush : ∀ {party : Party}, s.gs.board.parties.get? playerId = some party →
      Moves k₀.inFlight s.gs.board (carried.toList ++ fl)
        (s.gs.board.modifyParty playerId (Party.pushHero heroId)) := by
    intro party hparty
    rw [hfl]
    exact .pushHero hparty
  refine .bind (.bind (getParty fun party hparty => moves h (hpush hparty) (.enlist hhero)
    fun k₁ h₁ => ?_))
  refine .bind (hem.speaks h₁ hspeaks rfl fun k₂ s₂ h₂ _ => ?_)
  cases carried with
  | none => exact .pure h₂
  | some itemId =>
    have hspeaks' : Speaks d { k₀ with inFlight := fl } :=
      ⟨hspeaks.playing, hspeaks.landed.imp id fun hnil => (List.append_eq_nil_iff.1 hnil).2,
        hspeaks.paid⟩
    exact (equipInParty hem h₂ rfl (hgear itemId rfl) hspeaks' :)

end Playing

/-- `Party.removeHero`, inside a drain: the hero and its gear are in flight. -/
theorem removeHero {playerId heroId reason : String} (hem : Hears T .inside em)
    (h : At .inside k₀ k s)
    (hplaying : k₀.between = .playing) (hpaid : k₀.due = none)
    (hhero : heroId ∈ s.gs.board.heroIds playerId) :
    Runs T (EngineM.removeHero em playerId heroId reason) (fun carried k' s' =>
      At .inside { k₀ with inFlight := heroId :: (carried.toList ++ k₀.inFlight) } k' s' ∧
      PlayedAs T.cards .hero .playHero s'.history heroId ∧
      ∀ itemId ∈ carried, T.cards.typeOf itemId = some .item) k s := by
  refine .assuming fun hsound => ?_
  have htyped := hsound.typed.board
  refine (Runs.remembers (Q := fun carried k' s' =>
    At .inside { k₀ with inFlight := heroId :: (carried.toList ++ k₀.inFlight) } k' s' ∧
      ∃ party, s.gs.board.parties.get? playerId = some party ∧
        carried = party.getEquippedItem heroId) ?_).mono fun carried k' s' hs => ?_
  rotate_left
  · obtain ⟨⟨hat, party, hparty, rfl⟩, hsuffix⟩ := hs
    obtain ⟨hheroes, hgear, -⟩ := htyped playerId party hparty
    refine ⟨hat, (hheroes heroId ?_).mono fun m hm => hsuffix.subset hm, fun itemId hitem => ?_⟩
    · simpa [Board.heroIds, hparty] using hhero
    · exact hgear _ (OrderedMap.get?_eq_some.1 hitem)
  refine .bind (getParty fun party hparty => ?_)
  have hmem : heroId ∈ (party.unequipItem heroId).heroIds := by
    simpa [Board.heroIds, hparty, Party.unequipItem] using hhero
  -- the party is still there with its hero once the gear is off
  have hdrop : ∀ (carried : Option String) {k₁ : Control} {s₁ : World},
      At .inside { k₀ with inFlight := carried.toList ++ k₀.inFlight } k₁ s₁ →
      s₁.gs.board.parties.get? playerId = some (party.unequipItem heroId) →
      Runs T (do
        EngineM.modifyBoard (Board.modifyParty playerId (Party.dropHero heroId))
        em (.heroRemovedFromParty playerId heroId reason)
        return carried) (fun carried' k' s' =>
          At .inside { k₀ with inFlight := heroId :: (carried'.toList ++ k₀.inFlight) } k' s' ∧
          carried' = carried) k₁ s₁ := by
    intro carried k₁ s₁ h₁ hparty₁
    have hbare : (party.unequipItem heroId).getEquippedItem heroId = none :=
      OrderedMap.get?_erase_self ..
    refine .bind (moves h₁ (.dropHero hparty₁ hmem) (.dismiss hparty₁ hbare) fun k₂ h₂ => ?_)
    exact .bind (hem.speaks h₂ (.inside hplaying hpaid) rfl fun _ _ h₃ _ => .pure ⟨h₃, rfl⟩)
  have hparty' :
    (s.gs.board.modifyParty playerId (Party.unequipItem heroId)).parties.get? playerId =
      some (party.unequipItem heroId) := by
    simp [Board.modifyParty, hparty]
  cases hcarried : party.getEquippedItem heroId with
  | none =>
    refine .bind
      (moves h (.unequip_none hparty hcarried) (.follows (.strip _ heroId)) fun k₁ h₁ => ?_)
    exact (hdrop none h₁ hparty').mono fun _ _ _ hs =>
      ⟨hs.1, party, hparty, hs.2.trans hcarried.symm⟩
  | some itemId =>
    refine .bind (moves h (.unequip hparty hcarried) (.follows (.strip _ heroId)) fun k₁ h₁ => ?_)
    refine .bind (hem.speaks h₁ (.inside hplaying hpaid) rfl fun k₂ s₂ h₂ hheard => ?_)
    refine (hdrop (some itemId) h₂ ?_).mono fun _ _ _ hs =>
      ⟨hs.1, party, hparty, hs.2.trans hcarried.symm⟩
    rw [hheard.parties rfl]
    exact hparty'

end Runs

/-! ## Plays -/

/-- Who owns a hero does not change when another card leaves a hand. -/
theorem Board.getCardOwner_removeFromHand {b : Board} {playerId cardId heroId : String}
    (hne : heroId ≠ cardId) (h : (b.getCardOwner heroId).isSome) :
    ((b.removeFromHand playerId cardId).getCardOwner heroId).isSome := by
  simp only [getCardOwner, Option.isSome_map, List.find?_isSome] at h ⊢
  obtain ⟨⟨seat, player⟩, hmem, hholds⟩ := h
  have hmem' : (seat, if seat = playerId then player.removeFromHand cardId else player) ∈
      (b.removeFromHand playerId cardId).players.entries := by
    simp only [removeFromHand, OrderedMap.entries_modify, List.mem_map]
    exact ⟨_, hmem, rfl⟩
  refine ⟨_, hmem', ?_⟩
  simp only [holds, Bool.or_eq_true, List.contains_iff_mem] at hholds ⊢
  refine hholds.imp (fun hhand => ?_) id
  split
  · simpa [Player.removeFromHand, hne] using hhand
  · exact hhand

/-- Whose a card is, is read off players and parties. -/
theorem Board.getCardOwner_congr {b b' : Board} (hplayers : b'.players = b.players)
    (hparties : b'.parties = b.parties) (cardId : String) :
    b'.getCardOwner cardId = b.getCardOwner cardId := by
  simp only [getCardOwner, holds, hplayers, hparties]

/-- An item that may be equipped is no hero. -/
theorem ne_of_canEquip {b : Board} {playerId itemId heroId : String}
    (h : (canEquip T.toTable b playerId itemId heroId).isAccepted = true) : heroId ≠ itemId := by
  rintro rfl
  unfold canEquip at h
  split at h
  · rename_i hdata
    simp [isHero, hdata, RequestResult.isAccepted] at h
  · cases h

/-- A hero by its data is one by its type. -/
theorem typeOf_hero {cards : Cards} {cardId : String} (h : isHero cards cardId = true) :
    cards.typeOf cardId = some .hero := by
  unfold isHero at h
  split at h
  · rename_i hdata
    obtain ⟨card, hcard, hhero⟩ := Option.map_eq_some_iff.1 hdata
    simp [Cards.typeOf, hcard, Card.getType, hhero]
  · cases h

/-- So is a magic card. -/
theorem typeOf_magic {cards : Cards} {cardId : String}
    (h : (cards.get? cardId).map Card.data = some .magic) : cards.typeOf cardId = some .magic := by
  obtain ⟨card, hcard, hmagic⟩ := Option.map_eq_some_iff.1 h
  simp [Cards.typeOf, hcard, Card.getType, hmagic]

/-- What may be equipped is an item. -/
theorem typeOf_of_canEquip {b : Board} {playerId itemId heroId : String}
    (h : (canEquip T.toTable b playerId itemId heroId).isAccepted = true) :
    T.cards.typeOf itemId = some .item := by
  unfold canEquip at h
  split at h
  · rename_i hdata
    obtain ⟨card, hcard, hitem⟩ := Option.map_eq_some_iff.1 hdata
    simp [Cards.typeOf, hcard, Card.getType, hitem]
  · cases h

namespace Runs
variable (hem : Hears T d em) (h : At d k₀ k s) (hmay : MayOpen k₀ s)
include hem h hmay

/-- The opening moves of a play: the card leaves the hand, says so, and a frame opens about it. -/
theorem playFrame {α : Type} {playerId cardId : String} {next : Nat → EngineM α}
    (hcard : cardId ∈ s.gs.board.hand playerId) {Q : α → Control → World → Prop}
    (hQ : ∀ frameId (k₁ k' : Control) s', Opened k₀ k₁ frameId →
      At d { k₁ with
        opening := ⟨frameId, some cardId, false⟩ :: k₀.opening
        inFlight := cardId :: k₁.inFlight } k' s' →
      s'.gs.board.players = (s.gs.board.removeFromHand playerId cardId).players →
      s'.gs.board.parties = s.gs.board.parties → s.history <:+ s'.history →
      Runs T (next frameId) Q k' s') :
    Runs T (do
      EngineM.removeFromHand playerId cardId
      em (.cardRemovedFromHand playerId cardId)
      let frameId ← EngineM.openFrame
      next frameId) Q k s := by
  refine .bind (removeFromHand h hcard fun k₁ s₁ h₁ hgs₁ hhistory₁ => .bind ?_)
  have hmay₁ : OnTop { k₀ with inFlight := cardId :: k₀.inFlight } s₁ :=
    ⟨hmay.playing, by rw [hgs₁]; exact hmay.running, by rw [hgs₁]; exact hmay.action⟩
  -- over an empty stack the event has nothing to run, and inside a drain it runs nothing
  have hminds : Minds T d .cardRemovedFromHand
    { k₀ with inFlight := cardId :: k₀.inFlight } s₁ := by
    by_cases hd : d = .inside
    · exact .inl hd
    · refine .inr (.inr ⟨quiet_cardRemovedFromHand T, ?_⟩)
      rw [hgs₁]
      exact hmay.action (h.running.symm.trans (h.going.outside hd))
  have hallows := Control.allows_playing hmay₁.playing hmay.paid T.rules .cardRemovedFromHand
  refine (hem _ _ _ _ h₁ rfl hallows hminds).remembers.mono
    fun _ k₂ s₂ ⟨⟨h₂, hheard⟩, hsuffix₂⟩ => ?_
  obtain ⟨hmay₂, hplayers₂, hparties₂⟩ := hheard.quiet (quiet_cardRemovedFromHand T) hmay₁
  have hsubject : cardId :: k₀.inFlight = [cardId] := by rw [hmay.landed]
  refine .bind
    (openFrame (some cardId) h₂ hmay₂ hmay.paid hsubject fun k₃ s₃ hfresh h₃ hboard₃ hsuffix₃ => ?_)
  refine hQ _ (k₀.suspendOn (some s₂.nextId)) k₃ s₃
    ⟨rfl, hfresh, hmay.playing, hmay.landed, hmay.paid⟩ h₃ ?_ ?_
    ?_
  · rw [hboard₃, hplayers₂, hgs₁]; rfl
  · rw [hboard₃, hparties₂, hgs₁]; rfl
  · exact hhistory₁ ▸ hsuffix₂.trans hsuffix₃

/-- `PlayHero.playHero`. -/
theorem playHero {playerId cardId : String} (hcard : cardId ∈ s.gs.board.hand playerId)
    (hhero : PlayedAs T.cards .hero .playHero s.history cardId) :
    Plays T d k₀ (HereToSlaughter.playHero T.toTable em playerId cardId) k s := by
  refine .bind (.reads rfl (.ite (fun _ => ?_) fun _ => .pure (hmay.unopened h)))
  refine playFrame hem h hmay hcard fun F k₁ k₂ s₂ hk h₂ _ _ hsuffix => .bind ?_
  refine (addHero hem h₂ rfl (hhero.mono fun _ hm => hsuffix.subset hm) (fun _ hi => by cases hi)
    ⟨hk.playing, by exact .inr hk.landed, hk.paid⟩).mono fun _ k₃ s₃ h₃ => .bind ?_
  exact (openChallenge hem h₃ rfl hk.fresh ⟨hk.playing, .inr hk.landed, hk.paid⟩ rfl).mono
    fun _ _ _ h₄ => h₄.played hk.suspended

/-- `PlayMagic.playMagic`. -/
theorem playMagic {playerId cardId : String} (hcard : cardId ∈ s.gs.board.hand playerId)
    (hmagic : PlayedAs T.cards .magic .playMagic s.history cardId) :
    Plays T d k₀ (HereToSlaughter.playMagic T.toTable em playerId cardId) k s := by
  refine .bind (.reads rfl (.ite (fun _ => ?_) fun _ => .pure (hmay.unopened h)))
  refine playFrame hem h hmay hcard fun F k₁ k₂ s₂ hk h₂ _ _ hsuffix => .bind ?_
  have hmagic₂ := hmagic.mono fun _ hm => hsuffix.subset hm
  refine .bind (getParty fun party hparty =>
    edit h₂ (.pile hparty h₂.inFlight hmagic₂ rfl) fun k₃ h₃ => ?_)
  refine .bind (hem.speaks h₃ ⟨hk.playing, .inr hk.landed, hk.paid⟩ rfl fun k₄ s₄ h₄ _ => .bind ?_)
  exact (openChallenge hem h₄ rfl hk.fresh ⟨hk.playing, .inr hk.landed, hk.paid⟩ rfl).mono
    fun _ _ _ h₅ => h₅.played hk.suspended

/-- `PlayItem.playItem`, of an item that may be equipped. -/
theorem playItem {playerId itemId heroId : String} (hcard : itemId ∈ s.gs.board.hand playerId)
    (hequip : (canEquip T.toTable s.gs.board playerId itemId heroId).isAccepted = true) :
    Plays T d k₀ (HereToSlaughter.playItem T.toTable em playerId itemId heroId) k s := by
  refine .bind (.reads rfl (.ite (fun howned => ?_) fun _ => .pure (hmay.unopened h)))
  simp only [Bool.and_eq_true] at howned
  split
  · exact fail
  · refine playFrame hem h hmay hcard
      fun F k₁ k₂ s₂ hk h₂ hplayers hparties _ => .bind (.bind (.reads rfl ?_))
    have hsome := @Board.getCardOwner_removeFromHand _ playerId _ _
      (ne_of_canEquip hequip) howned.2
    rw [← Board.getCardOwner_congr hplayers hparties] at hsome
    obtain ⟨ownerId, howner⟩ := Option.isSome_iff_exists.1 hsome
    rw [howner]
    refine .bind (getParty fun party hparty => .bind (.reads rfl ?_))
    obtain ⟨k₃, hpath, h₃⟩ := Inner.equipAt (T := T) h₂ rfl hparty (typeOf_of_canEquip hequip)
    refine .runs rfl hpath ?_
    refine .bind
      (hem.speaks h₃ ⟨hk.playing, .inr hk.landed, hk.paid⟩ rfl fun k₄ s₄ h₄ _ => .bind ?_)
    exact (openChallenge hem h₄ rfl hk.fresh ⟨hk.playing, .inr hk.landed, hk.paid⟩ rfl).mono
      fun _ _ _ h₅ => h₅.played hk.suspended

/-- A roll opens its frame and its window. -/
theorem rollFrame {rollerId : String} {rolled : RollSubject} {baseRoll : Int} :
    Plays T d k₀ (do
      let frameId ← EngineM.openFrame
      HereToSlaughter.openRoll T.toTable em frameId rollerId rolled baseRoll
      return some frameId) k s := by
  refine .bind (openOne h hmay fun k₁ k₂ s₂ hk h₂ _ => .bind ?_)
  exact (openRoll hem h₂ rfl hk.fresh ⟨hk.playing, .inr hk.landed, hk.paid⟩ rfl).mono
    fun _ _ _ h₃ => h₃.played hk.suspended

/-- `AttackMonster.attackMonster`. -/
theorem attackMonster {playerId monsterId : String} :
    Plays T d k₀ (HereToSlaughter.attackMonster T.toTable em playerId monsterId) k s := by
  unfold HereToSlaughter.attackMonster
  split
  · refine .bind (roll2Dice h fun _ s₁ h₁ hgs₁ => .bind ?_)
    refine hem.speaks h₁.loosen hmay.speaks rfl fun k₂ s₂ h₂ hheard => ?_
    have hmay₂ := (hheard.quiet (quiet_diceRolled T) (hmay.toOnTop.congr (.inl (by rw [hgs₁])))).1
    exact rollFrame hem h₂ ⟨hmay₂, hmay.landed, hmay.paid⟩
  · exact .pure (hmay.unopened h)

omit hmay in
/-- `RollOnHero.rollOnHero`, by a step, or by the action whose slot is due. -/
theorem rollOnHero {playerId heroId : String} (hon : OnTop k₀ s) (hlanded : k₀.inFlight = [])
    (hdue : k₀.due = none ∨ k₀.due = some heroId ∧ isHero T.cards heroId = true) :
    Plays T d { k₀ with due := none }
    (HereToSlaughter.rollOnHero T.toTable em playerId heroId) k s := by
  unfold HereToSlaughter.rollOnHero
  split
  · refine .bind (roll2Dice h fun _ s₁ h₁ hgs₁ => .bind ?_)
    refine (hem _ _ _ _ h₁.loosen rfl ((quiet_diceRolled T).allowed _) (.inr (.inl hlanded))).mono
      fun _ k₂ s₂ hs => .bind ?_
    have hon₂ := (hs.2.quiet (quiet_diceRolled T) (hon.congr (.inl (by rw [hgs₁])))).1
    refine markAbilityUsed hs.1 (fun otherId hother => ?_) fun k₃ h₃ => rollFrame hem h₃
      ⟨⟨hon₂.playing, hon₂.running, hon₂.action⟩, hlanded, rfl⟩
    obtain hnone | ⟨hsome, -⟩ := hdue
    · cases hnone.symm.trans hother
    · exact Option.some.inj (hother.symm.trans hsome)
  · rename_i hdata
    have hnone : k₀.due = none := by
      refine hdue.resolve_right fun hhero => ?_
      have hhero' := hhero.2
      unfold isHero at hhero'
      split at hhero'
      · exact hdata _ _ ‹_›
      · cases hhero'
    have hmay : MayOpen { k₀ with due := none } s := ⟨⟨hon.1, hon.2, hon.3⟩, hlanded, rfl⟩
    refine .pure (hmay.unopened ?_)
    rw [← hnone]
    exact h

end Runs

end

end HereToSlaughter
