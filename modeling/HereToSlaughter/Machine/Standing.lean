import HereToSlaughter.Machine.Step

/-!
# Who stands where

Two facts about the parties of a board, kept on the board and in every snapshot. What stands in a
party stands there by its type: its heroes are hero cards, its gear is items, its instance piles
hold magic cards and cards that were spent, except for cards that an action played as what they
are not (`Party.Typed`). And as long as gear goes on heroes of the party it is kept in, every slot
of a party belongs to one of its heroes (`Board.Housed`).

What a step does to a board it does in few ways, so a fact about boards is followed through the
machine once (`Everywhere.outer`), for every fact that survives those few.
-/

namespace HereToSlaughter

open Lib

/-! ## Facts about every board -/

/-- A fact about boards, told over a history, that everything a step does to a board keeps. -/
structure Keeps (T : Table) (P : List Mark → Board → Prop) : Prop where
  grow : ∀ {history b} (m : Mark), P history b → P (m :: history) b
  of_parties : ∀ {history b b'}, P history b → b'.parties = b.parties → P history b'
  edit : ∀ {k s fl b}, P s.history s.board → Edit T k s fl b → P s.history b
  equip : ∀ {s : Shape} {gs : GameState} {playerId heroId itemId : String} {party : Party},
    P s.history s.board → gs.Matches s → s.board.parties.get? playerId = some party →
    T.cards.typeOf itemId = some .item → P (.equipped playerId heroId itemId gs :: s.history)
      (s.board.modifyParty playerId (Party.equipItem heroId itemId))
  spend : ∀ {history b} (playerId cardId : String) (frameId : Nat) (gs : GameState),
    P history b →
    P (.spent playerId cardId frameId gs :: history) (b.addInstanceCard playerId cardId)
  putAway : ∀ {history b} (playerId cardId : String),
    P history b → P history (b.removeInstanceCard playerId cardId)

/-- The fact holds of the board and of every snapshot. -/
structure Everywhere (P : List Mark → Board → Prop) (s : Shape) : Prop where
  board : P s.history s.board
  snapshots : ∀ f ∈ s.frames, P s.history f.snapshot

namespace Everywhere

variable {T : Table} {P : List Mark → Board → Prop} {s s' : Shape} {x y : Control × Shape}

/-- No snapshot is new. -/
theorem congr (h : Everywhere P s) (hboard : P s'.history s'.board)
    (hgrow : ∀ b, P s.history b → P s'.history b)
    (hframes : ∀ f ∈ s'.frames, ∃ g ∈ s.frames, f.snapshot = g.snapshot) : Everywhere P s' := by
  refine ⟨hboard, fun f hf => ?_⟩
  obtain ⟨g, hg, hsnapshot⟩ := hframes f hf
  rw [hsnapshot]
  exact hgrow _ (h.snapshots g hg)

/-- What is kept everywhere each step of a drain keeps: a new snapshot is of the board. -/
theorem inner (hP : Keeps T P) (h : Everywhere P x.2) (hstep : Inner T x y) : Everywhere P y.2 := by
  have hsame : ∀ {fs : List FrameShape}, ∀ f ∈ fs, ∃ g ∈ fs, f.snapshot = g.snapshot :=
    fun f hf => ⟨f, hf, rfl⟩
  have hgrow : ∀ m b, P x.2.history b → P (m :: x.2.history) b := fun m _ => hP.grow m
  cases hstep with
  | announce | pause => exact h.congr (hgrow _ _ h.board) (hgrow _) hsame
  | edit hedit =>
    rename_i k s fl b
    exact ⟨hP.edit (s := s) h.board hedit, h.snapshots⟩
  | equip hgs hparty _ hitem => exact h.congr (hP.equip h.board hgs hparty hitem) (hgrow _) hsame
  | «open» =>
    refine ⟨hgrow _ _ h.board, fun f hf => ?_⟩
    dsimp only at hf
    unfold insertFrame at hf
    split at hf
    · obtain ⟨g, hg, rfl⟩ := List.mem_map.1 hf
      split
      · exact hgrow _ _ h.board
      · exact hgrow _ _ (h.snapshots g hg)
    · rcases List.mem_append.1 hf with hf | hf
      · exact hgrow _ _ (h.snapshots f hf)
      · rw [List.mem_singleton.1 hf]
        exact hgrow _ _ h.board
  | insert =>
    refine h.congr h.board (fun _ hb => hb) fun f hf => ?_
    obtain ⟨g, hg, rfl⟩ := List.mem_map.1 hf
    refine ⟨g, hg, ?_⟩
    split <;> rfl
  | declare => exact h.congr (hgrow _ _ (hP.of_parties h.board rfl)) (hgrow _) hsame
  | cancel =>
    refine h.congr h.board (fun _ hb => hb) fun f hf => ?_
    obtain ⟨g, hg, rfl⟩ := List.mem_map.1 hf
    exact ⟨g, hg, rfl⟩
  | clear => exact h.congr h.board (fun _ hb => hb) fun f hf => absurd hf List.not_mem_nil
  | _ => exact ⟨h.1, h.2⟩

/-- What a released frame puts away. -/
theorem released (hP : Keeps T P) {history : List Mark} (spent : List (String × String)) :
    ∀ {b : Board}, P history b → P history (GameState.putAway spent b) := by
  induction spent with
  | nil => exact fun h => h
  | cons s spent ih => exact fun h => ih (hP.of_parties (hP.putAway s.2 s.1 h) rfl)

/-- What a restored frame takes back touches no party. -/
theorem restored (hP : Keeps T P) {history : List Mark} (spent : List (String × String)) :
    ∀ {b : Board}, P history b → P history (GameState.takeBack spent b) := by
  induction spent with
  | nil => exact fun h => h
  | cons s spent ih => exact fun h => ih (hP.of_parties h rfl)

/-- So does each step between drains: a rollback takes a snapshot back, and spends its cards. -/
theorem outer (hP : Keeps T P) (h : Everywhere P x.2) (hstep : Outer T x y) : Everywhere P y.2 := by
  have hsame : ∀ {fs : List FrameShape}, ∀ f ∈ fs, ∃ g ∈ fs, f.snapshot = g.snapshot :=
    fun f hf => ⟨f, hf, rfl⟩
  have hfilter : ∀ {fs : List FrameShape} {p : FrameShape → Bool}, ∀ f ∈ fs.filter p,
      ∃ g ∈ fs, f.snapshot = g.snapshot := fun f hf => ⟨f, (List.mem_filter.1 hf).1, rfl⟩
  have hgrow : ∀ m b, P x.2.history b → P (m :: x.2.history) b := fun m _ => hP.grow m
  cases hstep with
  | inner hstep => exact h.inner hP hstep
  | spend =>
    rename_i k s gs playerId cardId frameId _ _ _ _ _ _ _
    have hboard : P s.history (s.board.removeFromHand playerId cardId) := hP.of_parties h.board rfl
    exact h.congr (hP.spend playerId cardId frameId gs hboard) (hgrow _) hsame
  | closeOne | closeLast =>
    refine h.congr h.board (fun _ hb => hb) fun f hf => ?_
    obtain ⟨g, hg, rfl⟩ := List.mem_map.1 hf
    exact ⟨g, hg, rfl⟩
  | release => exact h.congr (hgrow _ _ (released hP _ h.board)) (hgrow _) hfilter
  | restore hk hsettling hf =>
    exact h.congr (hgrow _ _ (restored hP _ (h.snapshots _ hf))) (hgrow _) hfilter
  | enqueue | execute => exact h.congr (hgrow _ _ h.board) (hgrow _) hsame
  | endTurn | startTurn => exact h.congr (hgrow _ _ (hP.of_parties h.board rfl)) (hgrow _) hsame
  | _ => exact ⟨h.1, h.2⟩

end Everywhere

/-! ## Types -/

/-- A play that is on record stays on record. -/
theorem PlayedAs.mono {cards : Cards} {type : CardType} {kind : String → ActionKind}
    {history history' : List Mark} {cardId : String} (h : PlayedAs cards type kind history cardId)
    (hsub : ∀ m ∈ history, m ∈ history') : PlayedAs cards type kind history' cardId :=
  h.imp id fun ⟨playerId, turn, gs, hmem⟩ => ⟨playerId, turn, gs, hsub _ hmem⟩

/-- What stands in a party stands there by its type, or an action put it there. -/
structure Party.Typed (cards : Cards) (history : List Mark) (party : Party) : Prop where
  heroes : ∀ heroId ∈ party.heroIds, PlayedAs cards .hero .playHero history heroId
  gear : ∀ e ∈ party.equipment.entries, cards.typeOf e.2 = some .item
  instances : ∀ cardId ∈ party.instanceCardIds, PlayedAs cards .magic .playMagic history cardId ∨
    ∃ playerId frameId gs, Mark.spent playerId cardId frameId gs ∈ history

/-- Every party of a board is so. -/
def Board.Typed (cards : Cards) (history : List Mark) (b : Board) : Prop :=
  ∀ playerId party, b.parties.get? playerId = some party → party.Typed cards history

namespace Board.Typed

variable {cards : Cards} {history history' : List Mark} {b b' : Board} {playerId cardId : String}

/-- A longer history types what a shorter one does. -/
theorem mono (h : b.Typed cards history) (hsub : ∀ m ∈ history, m ∈ history') :
    b.Typed cards history' := fun playerId party hparty =>
  ⟨fun heroId hmem => ((h playerId party hparty).heroes heroId hmem).mono hsub,
    (h playerId party hparty).gear,
    fun cardId hmem => ((h playerId party hparty).instances cardId hmem).imp (·.mono hsub)
      fun ⟨spenderId, frameId, gs, hspent⟩ => ⟨spenderId, frameId, gs, hsub _ hspent⟩⟩

/-- Only the parties count. -/
theorem of_parties (h : b.Typed cards history) (hparties : b'.parties = b.parties) :
    b'.Typed cards history := fun playerId party hparty => h playerId party (hparties ▸ hparty)

/-- One party changes. -/
theorem modify {f : Party → Party} (h : b.Typed cards history)
    (hparties : b'.parties = b.parties.modify playerId f)
    (hf : ∀ party : Party, party.Typed cards history → (f party).Typed cards history) :
    b'.Typed cards history := by
  intro otherId party' hparty'
  rw [hparties, OrderedMap.get?_modify, Option.map_eq_some_iff] at hparty'
  obtain ⟨party, hparty, rfl⟩ := hparty'
  split
  · exact hf party (h otherId party hparty)
  · exact h otherId party hparty

/-- A board that follows another is typed as that one is. -/
theorem follows (h : b.Typed cards history) (hfollows : b.Follows b') : b'.Typed cards history := by
  intro playerId party' hparty'
  obtain ⟨party, hparty, hheroes, hinstances, hgear⟩ := hfollows playerId party' hparty'
  obtain ⟨h₁, h₂, h₃⟩ := h playerId party hparty
  exact ⟨hheroes ▸ h₁, fun e he => h₂ e (hgear e he), hinstances ▸ h₃⟩

/-- A hero that joins does so by its type or by an action; one that leaves changes nothing. -/
theorem musters (h : b.Typed cards history) (hmusters : Musters cards history b b') :
    b'.Typed cards history := by
  cases hmusters with
  | follows hfollows => exact h.follows hfollows
  | enlist hhero =>
    refine h.modify rfl fun party hp => ⟨fun heroId hmem => ?_, hp.gear, hp.instances⟩
    rcases List.mem_append.1 hmem with hmem | hmem
    · exact hp.heroes heroId hmem
    · exact List.mem_singleton.1 hmem ▸ hhero
  | dismiss =>
    exact h.modify rfl fun party hp =>
      ⟨fun heroId hmem => hp.heroes heroId (List.mem_filter.1 hmem).1, hp.gear, hp.instances⟩

/-- A card laid before a party was played as magic, or spent. -/
theorem addInstanceCard (h : b.Typed cards history)
    (hcard : PlayedAs cards .magic .playMagic history cardId ∨
      ∃ playerId frameId gs, Mark.spent playerId cardId frameId gs ∈ history) :
    (b.addInstanceCard playerId cardId).Typed cards history := by
  refine h.modify rfl fun party hp => ⟨hp.heroes, hp.gear, fun x hmem => ?_⟩
  rcases List.mem_append.1 hmem with hmem | hmem
  · exact hp.instances x hmem
  · exact List.mem_singleton.1 hmem ▸ hcard

/-- A card taken away from before a party leaves the rest typed. -/
theorem removeInstanceCard (h : b.Typed cards history) :
    (b.removeInstanceCard playerId cardId).Typed cards history :=
  h.modify rfl fun _ hp =>
    ⟨hp.heroes, hp.gear, fun x hmem => hp.instances x (List.mem_filter.1 hmem).1⟩

/-- An item put on is an item. -/
theorem equip {heroId itemId : String} (h : b.Typed cards history)
    (hitem : cards.typeOf itemId = some .item) :
    (b.modifyParty playerId (Party.equipItem heroId itemId)).Typed cards history := by
  refine h.modify rfl fun party hp => ⟨hp.heroes, fun e he => ?_, hp.instances⟩
  rcases OrderedMap.mem_entries_set he with he | rfl
  · exact hp.gear e he
  · exact hitem

/-- Every edit keeps the parties typed. -/
theorem edit {T : Table} {k : Control} {s : Shape} {fl : List String}
    (h : s.board.Typed T.cards s.history) (hedit : Edit T k s fl b) :
    b.Typed T.cards s.history := by
  cases hedit with
  | move _ hmusters => exact h.musters hmusters
  | pile _ _ hmagic => exact h.addInstanceCard (.inl hmagic)
  | dispose => exact h.removeInstanceCard.of_parties rfl
  | _ => exact h.of_parties rfl

/-- So parties are typed everywhere, as the history grows. -/
theorem keeps (T : Table) : Keeps T (Board.Typed T.cards) where
  grow _ h := h.mono fun _ hm => List.mem_cons_of_mem _ hm
  of_parties h hparties := h.of_parties hparties
  edit h hedit := h.edit hedit
  equip h _ _ hitem := (h.equip hitem).mono fun _ hm => List.mem_cons_of_mem _ hm
  spend playerId _ frameId gs h :=
    (h.mono fun _ hm => List.mem_cons_of_mem _ hm).addInstanceCard
      (.inr ⟨playerId, frameId, gs, List.mem_cons_self⟩)
  putAway _ _ h := h.removeInstanceCard

end Board.Typed

/-! ## Gear -/

/-- The item that the mark tells of went on a hero of the party it is kept in. -/
def Mark.Houses : Mark → Prop
  | .equipped playerId heroId _ gs => heroId ∈ gs.board.heroIds playerId
  | _ => True

instance : DecidablePred Mark.Houses
  | .equipped .. => inferInstanceAs (Decidable (_ ∈ _))
  | .emitted .. | .opened .. | .released .. | .restored .. | .spent .. | .queued .. | .executed ..
  | .suspended .. | .concluded .. => inferInstanceAs (Decidable True)

/-- Every slot of a party belongs to one of its heroes. -/
def Board.Housed (b : Board) : Prop :=
  ∀ playerId party, b.parties.get? playerId = some party →
    ∀ heroId ∈ party.equipment.keys, heroId ∈ party.heroIds

namespace Board.Housed

variable {b b' : Board} {playerId : String}

/-- Only the parties count. -/
theorem of_parties (h : b.Housed) (hparties : b'.parties = b.parties) : b'.Housed :=
  fun playerId party hparty => h playerId party (hparties ▸ hparty)

/-- One party changes. -/
theorem modify {f : Party → Party} (h : b.Housed)
    (hparties : b'.parties = b.parties.modify playerId f)
    (hf : ∀ party, b.parties.get? playerId = some party →
      (∀ heroId ∈ party.equipment.keys, heroId ∈ party.heroIds) →
      ∀ heroId ∈ (f party).equipment.keys, heroId ∈ (f party).heroIds) : b'.Housed := by
  intro otherId party' hparty'
  rw [hparties, OrderedMap.get?_modify, Option.map_eq_some_iff] at hparty'
  obtain ⟨party, hparty, rfl⟩ := hparty'
  split
  · subst otherId
    exact hf party hparty (h playerId party hparty)
  · exact h otherId party hparty

/-- A hero that joins has no slot yet, and one that leaves has none left. -/
theorem musters {cards : Cards} {history : List Mark} (h : b.Housed)
    (hmusters : Musters cards history b b') : b'.Housed := by
  cases hmusters with
  | follows hfollows =>
    intro playerId party' hparty' heroId hkey
    obtain ⟨party, hparty, hheroes, -, hgear⟩ := hfollows playerId party' hparty'
    obtain ⟨e, he, rfl⟩ := List.mem_map.1 hkey
    exact hheroes ▸ h playerId party hparty e.1 (List.mem_map_of_mem (hgear e he))
  | enlist =>
    exact h.modify rfl fun party _ hp heroId hkey => List.mem_append_left _ (hp heroId hkey)
  | dismiss hparty hbare =>
    -- a hero without gear has no slot to leave behind
    refine h.modify rfl fun party hparty' hp heroId hkey => ?_
    cases hparty.symm.trans hparty'
    refine List.mem_filter.2 ⟨hp heroId hkey, decide_eq_true fun heq => ?_⟩
    exact OrderedMap.get?_eq_none.1 hbare (heq ▸ hkey)

/-- An item that goes on a hero of the party goes into a slot of the party. -/
theorem equip {heroId itemId : String} (h : b.Housed) (hhero : heroId ∈ b.heroIds playerId) :
    (b.modifyParty playerId (Party.equipItem heroId itemId)).Housed := by
  refine h.modify rfl fun party hparty hp otherId hkey => ?_
  obtain ⟨e, he, rfl⟩ := List.mem_map.1 hkey
  rcases OrderedMap.mem_entries_set he with he | rfl
  · exact hp e.1 (List.mem_map_of_mem he)
  · simpa [Board.heroIds, hparty, Party.equipItem] using hhero

/-- So gear is housed everywhere, as long as every equip of the history housed it. -/
theorem keeps (T : Table) :
    Keeps T fun history b => (∀ m ∈ history, m.Houses) → b.Housed where
  grow _ h hall := h fun m hm => hall m (List.mem_cons_of_mem _ hm)
  of_parties h hparties hall := (h hall).of_parties hparties
  edit h hedit hall := by
    cases hedit with
    | move _ hmusters => exact (h hall).musters hmusters
    | pile | dispose => exact (h hall).modify rfl fun _ _ hp => hp
    | _ => exact (h hall).of_parties rfl
  equip h hgs _ _ hall := by
    refine (h fun m hm => hall m (List.mem_cons_of_mem _ hm)).equip ?_
    exact hgs.board ▸ hall _ List.mem_cons_self
  spend _ _ _ _ h hall :=
    (h fun m hm => hall m (List.mem_cons_of_mem _ hm)).modify rfl fun _ _ hp => hp
  putAway _ _ h hall := (h hall).modify rfl fun _ _ hp => hp

end Board.Housed

end HereToSlaughter
