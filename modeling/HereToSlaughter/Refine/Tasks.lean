import HereToSlaughter.Refine.Windows

/-!
# Steps, as the machine sees them

Every step that the loop of a drain runs keeps to the machine, and leaves it where it was but for
the frame the step suspended on. One lemma for each class of `tasks/`; `Task.execute` is assembled
from them at the end.

Reference: `tasks/*.ts`.
-/

namespace HereToSlaughter

open Lib EngineM

/-- A reveal changes nothing but what is shown. -/
theorem GameState.revealTo_all (seats cardIds : List String) (source : RevealSource) :
    ∀ gs : GameState,
    (seats.foldl (fun gs seat => gs.revealTo seat cardIds source) gs).board = gs.board ∧
      (seats.foldl (fun gs seat => gs.revealTo seat cardIds source) gs).frames = gs.frames ∧
      (seats.foldl (fun gs seat => gs.revealTo seat cardIds source) gs).pipelines =
      gs.pipelines := by
  induction seats with
  | nil => exact fun _ => ⟨rfl, rfl, rfl⟩
  | cons seat seats ih => exact fun gs => ih (gs.revealTo seat cardIds source)

section
variable {T : PrintedTable} {em : Emit} {k₀ k : Control} {s : World} {ctx : AbilityContext}

/-- What a step is for the machine: it returns the frame it suspended on, if any. -/
abbrev Steps (T : PrintedTable) (k₀ : Control) (m : EngineM StepResult) (k : Control)
    (s : World) : Prop :=
  Runs T m (fun res k' s' => At .inside (k₀.suspendOn res.2) k' s') k s

namespace Runs

/-- A loop that keeps what it finds. -/
theorem collect {α β : Type} {act : α → EngineM (Option β)} {P : Control → World → Prop}
    (hact : ∀ a k s, P k s → Runs T (act a) (fun _ => P) k s) :
    ∀ {l : List α} {k : Control} {s : World}, P k s →
      Runs T (HereToSlaughter.collect act l) (fun _ => P) k s
  | [], _, _, hP => .pure hP
  | a :: _, _, _, hP => .bind ((hact a _ _ hP).mono fun _ _ _ hP₁ =>
      .bind ((collect hact hP₁).mono fun _ _ _ hP₂ => .pure hP₂))

/-- The seats that were asked, with their picks. -/
theorem askedPicks {Q : List (String × String) → Control → World → Prop} (hQ : ∀ l, Q l k s) :
    Runs T (HereToSlaughter.askedPicks ctx) Q k s :=
  .bind (requireSlot fun _ => .pure (hQ _))

section
variable (hem : Hears T .inside em) (h : At .inside k₀ k s) (hmay : MayOpen k₀ s)
include hem h hmay

/-! ## Cards in hands and decks -/

/-- `DrawTask` opens nothing and leaves the machine where it was. -/
theorem drawTask {fuel : Nat} {count : Int} {executor : Executor} :
    Steps T k₀ (HereToSlaughter.drawTask T.toTable em fuel ctx count executor) k s := by
  refine .bind (.reads rfl ?_)
  split
  · exact .pure (hmay.unopened h)
  · exact .bind ((drawCards hem hmay.speaks h).mono fun _ _ _ h₁ => .pure (hmay.unopened h₁))

/-- `DrawNamedTask`, one named card after the other. -/
theorem drawNamedTask {key : String} {executor : Executor} :
    Steps T k₀ (HereToSlaughter.drawNamedTask em ctx key executor) k s := by
  refine .bind (.reads rfl ?_)
  split
  · exact .pure (hmay.unopened h)
  · refine .bind ((collect (P := At .inside k₀) (fun cardId k s h => ?_) h).mono
      fun _ _ _ h₁ => .pure (hmay.unopened h₁))
    exact .bind ((drawNamedIntoHand hem h hmay.speaks).mono fun _ _ _ h₁ =>
      .ite (fun _ => .pure h₁) fun _ => .pure h₁)

omit hem in
/-- `ReturnToDeckTopTask` is one move of a loose card. -/
theorem returnToDeckTopTask {key : String} :
    Steps T k₀ (HereToSlaughter.returnToDeckTopTask ctx key) k s := by
  unfold HereToSlaughter.returnToDeckTopTask
  split
  · exact .pure (hmay.unopened h)
  · exact .bind (moves h .moveToMainDeckTop
    (.follows (.of_parties (Board.parties_moveToMainDeckTop ..))) fun _ h₁ =>
      .pure (hmay.unopened h₁))

/-- `DiscardTask`, of a card its hand still holds. -/
theorem discardTask {fromKey : String} {executor : Executor} :
    Steps T k₀ (HereToSlaughter.discardTask em ctx fromKey executor) k s := by
  refine .bind (requireSlot fun cards => ?_)
  dsimp only
  split
  · refine .bind (.reads rfl (.ite (fun _ => ?_) fun _ => .pure (hmay.unopened h)))
    exact .bind ((discardFromHand hem h hmay.speaks).mono fun _ _ _ h₁ => .pure (hmay.unopened h₁))
  · exact .pure (hmay.unopened h)

/-- `DiscardEachTask`, one seat after the other. -/
theorem discardEachTask : Steps T k₀ (HereToSlaughter.discardEachTask em ctx) k s := by
  refine .bind (askedPicks fun _ => .bind ((collect (P := At .inside k₀) (fun e k s h => ?_) h).mono
    fun _ _ _ h₁ => .pure (hmay.unopened h₁)))
  refine .bind (.reads rfl (.ite (fun _ => ?_) fun _ => .pure h))
  exact .bind ((discardFromHand hem h hmay.speaks).mono fun _ _ _ h₁ => .pure h₁)

/-- `TradeHandsTask` is one move of two hands, and then an event. -/
theorem tradeHandsTask {fromKey : String} :
    Steps T k₀ (HereToSlaughter.tradeHandsTask em ctx fromKey) k s := by
  refine .bind (requireSlot fun _ => ?_)
  split
  · exact .pure (hmay.unopened h)
  · refine .bind (.reads rfl (.ite (fun hseats => ?_) fun _ => .pure (hmay.unopened h)))
    obtain ⟨hne, howner, hother⟩ := hseats
    refine .bind (moves h (.tradeHands hne howner hother) ?_ fun k₁ h₁ => .bind ?_)
    · exact .follows (.of_parties ((Board.parties_pullCards ..).trans (Board.parties_pullCards ..)))
    exact hem.speaks h₁ (.inside hmay.playing hmay.paid) rfl fun _ _ h₂ _ =>
      .pure (hmay.unopened h₂)

omit hmay in
/-- The pulls out of one hand. -/
theorem pullFrom {toPlayerId fromPlayerId : String} (hplaying : k₀.between = .playing)
    (hpaid : k₀.due = none) {n : Nat} :
    Runs T (HereToSlaughter.pullFrom T.toTable em toPlayerId fromPlayerId n)
      (fun _ k' s' => At .inside k₀ k' s') k s := by
  induction n generalizing k s with
  | zero => exact .pure h
  | succ n ih =>
    refine .bind (.reads rfl (.ite (fun _ => .pure h) fun _ => ?_))
    refine .bind (random h fun index s₁ h₁ hgs₁ => ?_)
    split
    · exact .pure h₁
    · rename_i cardId hcard
      refine .bind (requirePlayer fun _ _ => .bind (requirePlayer fun player hplayer => .bind ?_))
      have hhand : cardId ∈ s₁.gs.board.hand fromPlayerId := by
        rw [hgs₁]; exact List.mem_of_getElem? hcard
      have hpull := Moves.pullCard (i := k₀.inFlight) hhand (Board.isSeated_iff.2 ⟨player, hplayer⟩)
      refine moves h₁ hpull (.follows (.of_parties rfl)) fun k₂ h₂ => .bind ?_
      refine hem.speaks h₂ (.inside hplaying hpaid) rfl fun k₃ s₃ h₃ _ => .bind ?_
      exact (ih h₃).mono fun _ _ _ h₄ => .pure h₄

omit hmay in
/-- The pulls out of several hands, by induction on the hands. -/
theorem pullFromAll {count : Nat} (hplaying : k₀.between = .playing) (hpaid : k₀.due = none)
    {hands : List String} :
    Runs T (HereToSlaughter.pullFromAll T.toTable em ctx count hands)
      (fun _ k' s' => At .inside k₀ k' s') k s := by
  induction hands generalizing k s with
  | nil => exact .pure h
  | cons _ _ ih =>
    exact .bind ((pullFrom hem h hplaying hpaid).mono fun _ _ _ h₁ =>
      .bind ((ih h₁).mono fun _ _ _ h₂ => .pure h₂))

/-- `PullCardTask` reads whose hands it pulls from, and then pulls. -/
theorem pullCardTask {spec : PullSpec} :
    Steps T k₀ (HereToSlaughter.pullCardTask T.toTable em ctx spec) k s := by
  have hhands : Runs T (pullHands T.toTable ctx spec) (fun _ k' s' => At .inside k₀ k' s') k s := by
    refine .bind (.reads rfl (.ite (fun _ => ?_) fun _ => .pure h))
    split
    · exact .pure h
    · exact .bind (requireSlot fun _ => .pure h)
  refine .bind (hhands.mono fun _ _ _ h₁ => .bind ?_)
  exact (pullFromAll hem h₁ hmay.playing hmay.paid).mono fun _ _ _ h₂ => .pure (hmay.unopened h₂)

/-- `RedrawHandTask` opens nothing. -/
theorem redrawHandTask {fuel : Nat} :
    Steps T k₀ (HereToSlaughter.redrawHandTask T.toTable em fuel ctx) k s :=
  .bind ((redrawHand hem hmay.speaks h).mono fun _ _ _ h₁ => .pure (hmay.unopened h₁))

/-! ## Points and looks -/

omit hem in
/-- `GainActionPointsTask` is the one step that gains points: the gain is charged to the step that
runs. -/
theorem gainActionPointsTask {amount : Int} {r : Running} (hrun : k₀.running = some r)
    (htask : r.task = .gainActionPoints amount) :
    Steps T k₀ (HereToSlaughter.gainActionPointsTask ctx amount) k s := by
  refine .bind (.bind (requirePlayer fun _ _ => ?_))
  exact note h (.gain ctx.ownerId (h.running.trans hrun) htask) fun h₁ =>
    .pure (hmay.unopened h₁)

/-- `RevealTask` touches neither the board nor the shape of the frames. -/
theorem revealTask {subject : RevealSubject} {toAll : Bool} :
    Steps T k₀ (HereToSlaughter.revealTask T.toTable em ctx subject toAll) k s := by
  refine .bind (.reads rfl (.ite (fun _ => .pure (hmay.unopened h)) fun _ => .bind ?_))
  obtain ⟨hboard, hframes, hpipelines⟩ := s.gs.revealTo_all
    (if toAll then s.gs.board.seats else [ctx.ownerId]) _ _
  refine hiddenGs h hboard ?_ (congrArg (List.map AbilityPipeline.shape) hpipelines)
    fun h₁ => .bind ?_
  · simp only [GameState.frameShapes, hframes]
  refine hem.speaks h₁ (.inside hmay.playing hmay.paid) rfl fun k₂ s₂ h₂ _ => .bind ?_
  exact hidden h₂ rfl rfl fun h₃ => .pure (hmay.unopened h₃)

end

/-! ## Questions -/

section
variable (hem : Hears T .inside em) (h : At .inside k₀ k s) (hmay : MayOpen k₀ s)
include hem h hmay

/-- A question opens a frame, fills it with one window, and suspends the step on it. -/
theorem ask {respondentId : String} {body : ChoiceBody} :
    Steps T k₀ (HereToSlaughter.ask T.toTable em ctx respondentId body) k s := by
  refine .bind (openOne h hmay fun k₁ k₂ s₂ hk h₂ _ => .bind ?_)
  refine (openChoice hem h₂ rfl hk.fresh ⟨hk.playing, .inr hk.landed, hk.paid⟩ rfl rfl).mono
    fun _ k₃ s₃ h₃ => ?_
  exact h₃.done fun k₄ h₄ => .pure (hk.suspended ▸ h₄)

/-- A step that asks one executor suspends on its question, or goes on where nobody is asked. -/
theorem askTask {subjectKey : Option String} {executor : Executor} {question : Question} :
    Steps T k₀ (HereToSlaughter.askTask T.toTable em ctx subjectKey executor question) k s := by
  refine .ite (fun _ => .pure (hmay.unopened h)) fun _ => ?_
  split
  · exact .pure (hmay.unopened h)
  · exact ask hem h hmay

/-- `ChoosePlayerTask` asks. -/
theorem choosePlayerTask {filter : PlayerFilter} :
    Steps T k₀ (HereToSlaughter.choosePlayerTask T.toTable em ctx filter) k s :=
  .bind (.reads rfl (ask hem h hmay))

/-- `ChooseMonsterTask` asks. -/
theorem chooseMonsterTask : Steps T k₀ (HereToSlaughter.chooseMonsterTask T.toTable em ctx) k s :=
  .bind (.reads rfl (ask hem h hmay))

/-- `ChooseValueTask` asks. -/
theorem chooseValueTask {values : List Int} :
    Steps T k₀ (HereToSlaughter.chooseValueTask T.toTable em ctx values) k s :=
  .bind (.reads rfl (ask hem h hmay))

/-- `ChooseCardTask` asks, unless what it rests on came to nothing. -/
theorem chooseCardTask {filter : CardFilter} {options : ChooseCardOptions} :
    Steps T k₀ (HereToSlaughter.chooseCardTask T.toTable em ctx filter options) k s := by
  unfold HereToSlaughter.chooseCardTask
  extract_lets rest
  have hrest : ∀ required, Steps T k₀ (rest required) k s := by
    intro required
    refine .ite (fun _ => .pure (hmay.unopened h)) fun _ => ?_
    split
    · exact .pure (hmay.unopened h)
    · exact .bind (.reads rfl (ask hem h hmay))
  split
  · exact .bind (.pure (hrest _))
  · split
    · exact .bind fail
    · exact .bind (.pure (hrest _))

/-- `ChooseCardEachTask` fills one frame with a window for each seat. With no seat to ask it opens
no frame, so none stays empty. -/
theorem chooseCardEachTask {seats : PlayerFilter} {filter : CardFilter} {question : Option String} :
    Steps T k₀ (HereToSlaughter.chooseCardEachTask T.toTable em ctx seats filter question) k s := by
  refine .bind (.reads rfl ?_)
  dsimp only
  refine .ite (fun _ => .pure (hmay.unopened h)) fun hseats => ?_
  refine .bind (openOne h hmay fun k₁ k₂ s₂ hk h₂ _ => .bind ?_)
  obtain ⟨seatId, rest, hcons⟩ := List.exists_cons_of_ne_nil hseats
  rw [hcons]
  -- the first window fills the frame, and every other one finds it filled
  refine .bind
    (.bind (.reads rfl
      ((openChoice hem h₂ rfl hk.fresh ⟨hk.playing, .inr hk.landed, hk.paid⟩ rfl rfl).mono
        fun _ k₃ s₃ h₃ => ?_)))
  refine (forEach (P := Filled .inside k₁ s.nextId none k₀.opening) h₃ fun _ _ k s h => ?_).mono
    fun _ k₄ s₄ h₄ => ?_
  · obtain ⟨shown, h, -⟩ := h
    exact .bind (.reads rfl
      (openChoice hem h rfl hk.fresh ⟨hk.playing, .inr hk.landed, hk.paid⟩ rfl rfl))
  · exact h₄.done fun k₅ h₅ => .pure (hk.suspended ▸ h₅)

end

/-! ## Heroes on the table -/

section
variable (hem : Hears T .inside em) (h : At .inside k₀ k s) (hplaying : k₀.between = .playing)
  (hpaid : k₀.due = none)
include hem h hplaying hpaid

/-- `decoyTakesTheHit`: nothing has happened, or the doll lies on the discard pile. -/
theorem decoyTakesTheHit {ownerId heroId : String} :
    Runs T (HereToSlaughter.decoyTakesTheHit em ownerId heroId) (fun taken k' s' =>
      At .inside k₀ k' s' ∧ (taken = false → k' = k ∧ s' = s)) k s := by
  refine .bind (.reads rfl ?_)
  dsimp only
  split
  · exact .pure ⟨h, fun _ => ⟨rfl, rfl⟩⟩
  · rename_i decoy hdecoy
    have hitem : s.gs.board.getEquippedItem heroId = some decoy.sourceCardId := by
      simpa using List.find?_some hdecoy
    refine .bind (moves h (.unequipItem (Board.carries_of_getEquippedItem hitem))
      (.follows (.unequipItem heroId)) fun k₁ h₁ => ?_)
    refine .bind (hem.speaks h₁ (.inside hplaying hpaid) rfl fun k₂ s₂ h₂ _ => .bind ?_)
    exact moves h₂ .addToDiscardPile (.follows (.of_parties rfl)) fun k₃ h₃ =>
      .pure ⟨h₃, fun ht => (nomatch ht)⟩

/-- A hero and its gear onto the discard pile. -/
theorem heroToDiscard {ownerId heroId reason : String}
    (hhero : heroId ∈ s.gs.board.heroIds ownerId) :
    Runs T (HereToSlaughter.heroToDiscard em ownerId heroId reason)
      (fun _ k' s' => At .inside k₀ k' s') k s := by
  refine .bind ((removeHero hem h hplaying hpaid hhero).mono fun carried k₁ s₁ h₁ => .bind ?_)
  refine moves h₁.1 .addToDiscardPile (.follows (.of_parties rfl)) fun k₂ h₂ => ?_
  cases carried with
  | none => exact .pure h₂
  | some itemId =>
    exact .bind (moves h₂ .addToDiscardPile (.follows (.of_parties rfl)) fun k₃ h₃ => .pure h₃)

/-- `sacrificeHero`, of a hero its seat still has. -/
theorem sacrificeHero {seatId heroId : String} :
    Runs T (HereToSlaughter.sacrificeHero em seatId heroId)
    (fun _ k' s' => At .inside k₀ k' s') k s := by
  refine .bind (getParty fun _ _ => .bind (.reads rfl (.ite (fun hhero => ?_) fun _ => .pure h)))
  refine .bind ((decoyTakesTheHit hem h hplaying hpaid).mono fun taken k₁ s₁ h₁ => ?_)
  refine .ite (fun _ => .pure h₁.1) fun htaken => ?_
  obtain ⟨rfl, rfl⟩ := h₁.2 (by simpa using htaken)
  refine .bind ((heroToDiscard hem h hplaying hpaid hhero).mono fun _ k₂ s₂ h₂ => ?_)
  exact hem.speaks h₂ (.inside hplaying hpaid) rfl fun _ _ h₃ _ => h₃

end

section
variable (hem : Hears T .inside em) (h : At .inside k₀ k s) (hmay : MayOpen k₀ s)
include hem h hmay

/-- `destroyHero`, of a hero its party still has. -/
theorem destroyHero {ownerId heroId : String} (hhero : heroId ∈ s.gs.board.heroIds ownerId) :
    Steps T k₀ (HereToSlaughter.destroyHero em ctx ownerId heroId) k s := by
  refine .bind ((heroToDiscard hem h hmay.playing hmay.paid hhero).mono fun _ k₁ s₁ h₁ => .bind ?_)
  refine hem.speaks h₁ (.inside hmay.playing hmay.paid) rfl fun k₂ s₂ h₂ _ => ?_
  split
  · exact .pure (hmay.unopened h₂)
  · exact .pure (hmay.unopened h₂)

/-- `DestroyTask`: where no decoy takes the hit nothing has changed yet, so the hero is still
there. -/
theorem destroyTask {fromKey : String} {replaceable : Bool} :
    Steps T k₀ (HereToSlaughter.destroyTask T.toTable em ctx fromKey replaceable) k s := by
  refine .bind (requireSlot fun _ => .bind (.reads rfl ?_))
  dsimp only
  split
  · exact .pure (hmay.unopened h)
  · rename_i heroId ownerId _
    refine .ite (fun _ => .pure (hmay.unopened h)) fun hstands => ?_
    have hhero : heroId ∈ s.gs.board.heroIds ownerId := by
      by_contra hn
      exact hstands (.inl hn)
    refine .bind ((decoyTakesTheHit hem h hmay.playing hmay.paid).mono fun taken k₁ s₁ h₁ => ?_)
    refine .ite (fun _ => .pure (hmay.unopened h₁.1)) fun htaken => .bind ?_
    obtain ⟨rfl, rfl⟩ := h₁.2 (by simpa using htaken)
    refine .reads rfl ?_
    split
    · exact destroyHero hem h hmay hhero
    · refine .ite (fun _ => ?_) fun _ => destroyHero hem h hmay hhero
      exact askTask hem h hmay

/-- `SacrificeEachTask`, one seat after the other. -/
theorem sacrificeEachTask : Steps T k₀ (HereToSlaughter.sacrificeEachTask em ctx) k s :=
  .bind (askedPicks fun _ => .bind ((forEach (P := At .inside k₀) h fun _ _ _ _ h =>
    sacrificeHero hem h hmay.playing hmay.paid).mono fun _ _ _ h₁ => .pure (hmay.unopened h₁)))

/-- `SacrificeTask`, of the chosen hero. -/
theorem sacrificeTask {fromKey : String} {executor : Executor} :
    Steps T k₀ (HereToSlaughter.sacrificeTask em ctx fromKey executor) k s := by
  refine .bind (requireSlot fun _ => ?_)
  split
  · exact .bind ((sacrificeHero hem h hmay.playing hmay.paid).mono fun _ _ _ h₁ =>
      .pure (hmay.unopened h₁))
  · exact .pure (hmay.unopened h)

/-- `GiveHeroTask`: the hero is in flight between the two parties, with what it carries. -/
theorem giveHeroTask {heroKey toKey : String} :
    Steps T k₀ (HereToSlaughter.giveHeroTask em ctx heroKey toKey) k s := by
  refine .bind (requireSlot fun _ => .bind (requireSlot fun _ => ?_))
  split
  · refine .bind (.reads rfl (.ite (fun hgive => ?_) fun _ => .pure (hmay.unopened h)))
    refine .bind
      ((removeHero hem h hmay.playing hmay.paid hgive.2.2).mono fun carried k₁ s₁ h₁ => ?_)
    obtain ⟨h₁, hhero, hgear⟩ := h₁
    exact .bind ((addHero hem h₁ rfl hhero hgear (.inside hmay.playing hmay.paid)).mono
      fun _ k₂ s₂ h₂ => .pure (hmay.unopened h₂))
  · exact .pure (hmay.unopened h)

/-- `StealFromPartyTask`: the hero is in flight between the two parties, with what it carries. -/
theorem stealFromPartyTask {fromKey : String} :
    Steps T k₀ (HereToSlaughter.stealFromPartyTask em ctx fromKey) k s := by
  refine .bind (requireSlot fun _ => .bind (.reads rfl ?_))
  dsimp only
  split
  · exact .pure (hmay.unopened h)
  · rename_i heroId fromPlayerId _
    refine .ite (fun _ => .pure (hmay.unopened h)) fun hstands => ?_
    have hhero : heroId ∈ s.gs.board.heroIds fromPlayerId := by
      by_contra hn
      exact hstands (.inr (.inr hn))
    refine .bind
      ((removeHero hem h hmay.playing hmay.paid hhero).mono fun carried k₁ s₁ h₁ => .bind ?_)
    obtain ⟨h₁, hplayed, hgear⟩ := h₁
    refine (addHero hem h₁ rfl hplayed hgear (.inside hmay.playing hmay.paid)).mono
      fun _ k₂ s₂ h₂ => .bind ?_
    exact hem.speaks h₂ (.inside hmay.playing hmay.paid) rfl fun _ _ h₃ _ =>
      .pure (hmay.unopened h₃)

end

/-! ## Items and magic -/

section
variable (hem : Hears T .inside em) (h : At .inside k₀ k s)
include hem h

/-- `retrieve`. -/
theorem retrieve (hplaying : k₀.between = .playing) (hpaid : k₀.due = none)
    {cardId ownerId : String} {to_ : RetrieveTo} :
    Runs T (HereToSlaughter.retrieve em cardId ownerId to_)
    (fun _ k' s' => At .inside k₀ k' s') k s := by
  refine .bind (.reads rfl (.ite (fun hdiscard => .ite (fun hseated => ?_) fun _ => .pure h)
    fun _ => ?_))
  · refine .bind (moves h (.retrieveFromDiscard hdiscard hseated) (.follows (.of_parties rfl))
      fun k₁ h₁ => ?_)
    exact hem.speaks h₁ (.inside hplaying hpaid) rfl fun _ _ h₂ _ => h₂
  · split
    · rename_i carrierId hcarrier
      split
      · exact .pure h
      · dsimp only
        refine .ite (fun _ => ?_) fun _ => .pure h
        have hcarries := Board.carries_of_getItemCarrier hcarrier
        refine .bind (moves h (.unequipItem hcarries) (.follows (.unequipItem carrierId))
          fun k₁ h₁ => .bind ?_)
        refine hem.speaks h₁ (.inside hplaying hpaid) rfl fun k₂ s₂ h₂ _ => .bind ?_
        refine (addToHand h₂ rfl).mono fun _ k₃ s₃ h₃ => ?_
        exact hem.speaks h₃ (.inside hplaying hpaid) rfl fun _ _ h₄ _ => h₄
    · split
      · exact .pure h
      · rename_i holderId hholder
        refine .ite (fun hpull => ?_) fun _ => .pure h
        have hhand : cardId ∈ s.gs.board.hand holderId := by
          obtain ⟨e, he, rfl⟩ := Option.map_eq_some_iff.1 hholder
          have hcontains : cardId ∈ e.2.hand := by simpa using List.find?_some he
          exact Board.mem_hand_iff.2
            ⟨e.2, OrderedMap.get?_eq_some.2 (List.mem_of_find?_eq_some he), hcontains⟩
        refine .bind
          (moves h (.pullCard hhand hpull.2) (.follows (.of_parties rfl)) fun k₁ h₁ => ?_)
        exact hem.speaks h₁ (.inside hplaying hpaid) rfl fun _ _ h₂ _ => h₂

/-- `ApplyEffectTask`: no rule starts on what it announces, so it may run before the first turn. -/
theorem applyEffectTask {spec : EffectSpec} {r : Running} (hrun : k₀.running = some r)
    (htask : r.task = .applyEffect spec) (hopened : r.opened = none) :
    Steps T k₀ (HereToSlaughter.applyEffectTask em ctx spec) k s := by
  have hdone : ∀ {k' s'}, At .inside k₀ k' s' → At .inside (k₀.suspendOn none) k' s' := by
    intro k' s' h'
    rwa [Control.suspendOn_none fun r' hr' => by rw [hrun] at hr'; cases hr'; exact hopened]
  refine .bind (.reads rfl (.bind (.acts (l := k) (t := { s with nextId := s.nextId + 1 }) rfl
    (Inner.idle (s.nextId + 1) (Nat.le_succ _)) ?_)))
  have h₁ : At .inside k₀ k { s with nextId := s.nextId + 1 } := h.congr rfl
  refine .ite (fun _ => ?_) fun _ => fail
  refine .bind (note h₁ (.install (h.running.trans hrun) htask rfl rfl) fun h₂ => .bind ?_)
  refine (hem _ _ _ _ h₂ rfl ((quiet_effectApplied T).allowed _) (.inl rfl)).mono
    fun _ k₃ s₃ h₃ => ?_
  exact .pure (hdone h₃.1)

omit hem in
/-- `DisposeInstanceCardTask`, which announces nothing. -/
theorem disposeInstanceCardTask (hfresh : ∀ r, k₀.running = some r → r.opened = none) :
    Steps T k₀ (HereToSlaughter.disposeInstanceCardTask ctx) k s := by
  have hdone : ∀ {k' s'}, At .inside k₀ k' s' → At .inside (k₀.suspendOn none) k' s' := by
    intro k' s' h'
    rwa [Control.suspendOn_none hfresh]
  refine .bind (getParty fun party hparty => .bind (.reads rfl (.ite (fun hcard => ?_)
    fun _ => .pure (hdone h))))
  obtain ⟨hmem, hspent⟩ := hcard
  refine .bind (note h (.dispose hparty hmem ?_ (h.going.inside rfl).2) fun h₁ => .pure (hdone h₁))
  rw [GameState.isSpentInOpenFrame_shape]
  simpa using hspent

/-- `GameState.applyModifier`. -/
theorem applyModifier (hplaying : k₀.between = .playing) (hpaid : k₀.due = none)
    {playerId cardId targetPlayerId : String}
    {value : Int} : Runs T (HereToSlaughter.applyModifier em playerId value cardId targetPlayerId)
      (fun _ k' s' => At .inside k₀ k' s') k s := by
  refine .bind (.reads rfl ?_)
  split
  · exact .pure h
  · rename_i frameId w hfound
    have hw := (GameState.hasWindow_findOpenModifiableWindow hfound).1
    refine .ite (fun _ => ?_) fun _ => .pure h
    split
    · exact .bind ((submitToRoll hem h (.inside hplaying hpaid) hw ‹_›).mono
        fun _ _ _ h₁ => .pure h₁)
    · exact .bind ((submitToChallenge hem h (.inside hplaying hpaid) hw ‹_›).mono
        fun _ _ _ h₁ => .pure h₁)
    · exact .pure h

end

section
variable (hem : Hears T .inside em) (h : At .inside k₀ k s) (hmay : MayOpen k₀ s)
include hem h hmay

/-- `RetrieveCardTask`, of the first card of its slot. -/
theorem retrieveCardTask {fromKey : String} {to_ : RetrieveTo} :
    Steps T k₀ (HereToSlaughter.retrieveCardTask em ctx fromKey to_) k s := by
  refine .bind (requireSlot fun _ => ?_)
  split
  · exact .pure (hmay.unopened h)
  · exact .bind ((retrieve hem h hmay.playing hmay.paid).mono fun _ _ _ h₁ =>
      .pure (hmay.unopened h₁))

/-- `RetrieveEachTask`, one seat after the other. -/
theorem retrieveEachTask : Steps T k₀ (HereToSlaughter.retrieveEachTask em ctx) k s :=
  .bind (askedPicks fun _ => .bind ((forEach (P := At .inside k₀) h fun _ _ _ _ h =>
    retrieve hem h hmay.playing hmay.paid).mono fun _ _ _ h₁ => .pure (hmay.unopened h₁)))

/-- `ReturnAllItemsTask`, one item after the other. -/
theorem returnAllItemsTask : Steps T k₀ (HereToSlaughter.returnAllItemsTask em ctx) k s :=
  .bind (.reads rfl (.bind ((forEach (P := At .inside k₀) h fun _ _ _ _ h =>
    retrieve hem h hmay.playing hmay.paid).mono fun _ _ _ h₁ => .pure (hmay.unopened h₁))))

omit hem h hmay in
/-- A play of a step, with the context it returns beside the frame. -/
theorem played {m : EngineM (Option Nat)} (h : Plays T .inside k₀ m k s) :
    Steps T k₀ (do return (ctx, ← m)) k s :=
  .bind (h.mono fun _ _ _ h₁ => .pure h₁)

/-! ## Rolls and contests -/

omit hem in
/-- `TargetRollTask` changes the body of a window, which the machine does not see. -/
theorem targetRollTask {key : String} {zone : Zone} :
    Steps T k₀ (HereToSlaughter.targetRollTask ctx key zone) k s := by
  refine .bind (.reads rfl (.bind (.reads rfl ?_)))
  split
  · exact .pure (hmay.unopened h)
  · exact .bind (touch h (Window.shape_targetChosen _ _ _ _) fun _ h₁ _ _ =>
      .pure (hmay.unopened h₁))

/-- `ApplyModifierTask` opens no frame. -/
theorem applyModifierTask : Steps T k₀ (HereToSlaughter.applyModifierTask em ctx) k s := by
  unfold HereToSlaughter.applyModifierTask
  split
  · exact fail
  · split
    · exact .bind ((applyModifier hem h hmay.playing hmay.paid).mono fun _ _ _ h₁ =>
        .pure (hmay.unopened h₁))
    · exact .pure (hmay.unopened h)

/-- `StartChallengeTask` starts a contest that stands already, and opens no frame. -/
theorem startChallengeTask :
    Steps T k₀ (HereToSlaughter.startChallengeTask T.toTable em ctx) k s := by
  refine .bind (.reads rfl ?_)
  split
  · rename_i frameId w hfound
    split
    · refine .ite (fun _ => ?_) fun _ => .pure (hmay.unopened h)
      have hw := (GameState.hasWindow_firstWindowOfType hfound).1
      exact .bind ((startChallenge hem h hmay.speaks hw ‹_›).mono fun _ _ _ h₁ =>
        .pure (hmay.unopened h₁))
    · exact .pure (hmay.unopened h)
  · exact .pure (hmay.unopened h)

/-- `CardTypeConditionTask` only speaks. -/
theorem cardTypeConditionTask {cardType : CardType} {sourceKey label : String} :
    Steps T k₀ (HereToSlaughter.cardTypeConditionTask T.toTable em ctx cardType sourceKey label)
      k s := by
  unfold HereToSlaughter.cardTypeConditionTask
  split
  · exact .pure (hmay.unopened h)
  · exact .bind (hem.speaks h (.inside hmay.playing hmay.paid) rfl fun _ _ h₁ _ =>
      .pure (hmay.unopened h₁))

/-- `PlayItemTask` suspends on the contest over the item. -/
theorem playItemTask {itemKey heroKey : String} :
    Steps T k₀ (HereToSlaughter.playItemTask T.toTable em ctx itemKey heroKey) k s := by
  refine .bind (requireSlot fun _ => .bind (requireSlot fun _ => ?_))
  split
  · refine .bind (.reads rfl (.ite (fun hplay => ?_) fun _ => .pure (hmay.unopened h)))
    exact played (playItem hem h hmay hplay.1 hplay.2)
  · exact .pure (hmay.unopened h)

/-- `PlayMagicTask` suspends on the contest over the card. -/
theorem playMagicTask {fromKey : String} :
    Steps T k₀ (HereToSlaughter.playMagicTask T.toTable em ctx fromKey) k s := by
  refine .bind (requireSlot fun _ => ?_)
  split
  · exact .pure (hmay.unopened h)
  · refine .bind (.reads rfl (.ite (fun hplay => ?_) fun _ => .pure (hmay.unopened h)))
    exact played (playMagic hem h hmay hplay.2 (.inl (typeOf_magic hplay.1)))

/-- `PlayHeroTask` suspends on the contest over the hero. -/
theorem playHeroTask {fromKey : String} :
    Steps T k₀ (HereToSlaughter.playHeroTask T.toTable em ctx fromKey) k s := by
  refine .bind (requireSlot fun _ => ?_)
  split
  · exact .pure (hmay.unopened h)
  · refine .bind (.reads rfl (.ite (fun hplay => ?_) fun _ => .pure (hmay.unopened h)))
    exact played (playHero hem h hmay hplay.2 (.inl (typeOf_hero hplay.1)))

/-- `RollOnHeroTask` suspends on the roll. -/
theorem rollOnHeroTask {fromKey : Option String} :
    Steps T k₀ (HereToSlaughter.rollOnHeroTask T.toTable em ctx fromKey) k s := by
  unfold HereToSlaughter.rollOnHeroTask
  extract_lets rest
  have hrest : ∀ heroId, Steps T k₀ (rest heroId) k s := by
    intro heroId
    cases heroId with
    | none => exact .pure (hmay.unopened h)
    | some heroId =>
      refine .bind (.reads rfl (.ite (fun _ => ?_) fun _ => .pure (hmay.unopened h)))
      have hplay : Plays T .inside { k₀ with due := none }
          (HereToSlaughter.rollOnHero T.toTable em ctx.ownerId heroId) k s :=
        rollOnHero hem h hmay.toOnTop hmay.landed (.inl hmay.paid)
      rw [← hmay.paid] at hplay
      exact played hplay
  split
  · exact .bind (.pure (hrest (some ctx.sourceCardId)))
  · exact .bind (.map (requireSlot fun ids => hrest ids.head?))

/-- `AttackMonsterTask` suspends on the roll. -/
theorem attackMonsterTask {fromKey : String} :
    Steps T k₀ (HereToSlaughter.attackMonsterTask T.toTable em ctx fromKey) k s := by
  refine .bind (requireSlot fun _ => ?_)
  split
  · exact .pure (hmay.unopened h)
  · refine .bind (.reads rfl (.ite (fun _ => ?_) fun _ => .pure (hmay.unopened h)))
    exact played (attackMonster hem h hmay)

end

/-! ## Every step -/

/-- `Task.execute`: the step the loop has taken keeps to the machine, a calm one before the first
turn too. -/
theorem execute {fuel : Nat} {r : Running} (hem : Hears T .inside em) (h : At .inside k₀ k s)
    (hrun : k₀.running = some r) (hopened : r.opened = none)
    (htop : s.gs.pipelines = [] ∨ s.gs.pipelines.head?.map AbilityPipeline.pid = some r.pid)
    (hlanded : k₀.inFlight = []) (hpaid : k₀.due = none)
    (hbetween : k₀.between = .playing ∨ r.task.isCalm = true) :
    Steps T k₀ (r.task.execute T.toTable em fuel ctx) k s := by
  have hfresh : ∀ r', k₀.running = some r' → r'.opened = none := by
    intro r' hr'
    rw [hrun] at hr'
    cases hr'
    exact hopened
  obtain ⟨pid, task, opened⟩ := r
  rcases hbetween with hplaying | hcalm
  · have hmay : MayOpen k₀ s := by
      refine ⟨⟨hplaying, fun r' hr' => ⟨hfresh r' hr', ?_⟩, fun hnone => ?_⟩, hlanded, hpaid⟩
      · rw [hrun] at hr'
        cases hr'
        exact htop
      · rw [hrun] at hnone
        cases hnone
    cases task with
    | draw => exact drawTask hem h hmay
    | drawNamed => exact drawNamedTask hem h hmay
    | returnToDeckTop => exact returnToDeckTopTask h hmay
    | discard => exact discardTask hem h hmay
    | discardEach => exact discardEachTask hem h hmay
    | tradeHands => exact tradeHandsTask hem h hmay
    | pullCard => exact pullCardTask hem h hmay
    | applyEffect => exact applyEffectTask hem h hrun rfl hopened
    | reveal => exact revealTask hem h hmay
    | destroy => exact destroyTask hem h hmay
    | sacrificeEach => exact sacrificeEachTask hem h hmay
    | giveHero => exact giveHeroTask hem h hmay
    | sacrifice => exact sacrificeTask hem h hmay
    | stealFromParty => exact stealFromPartyTask hem h hmay
    | playItem => exact playItemTask hem h hmay
    | retrieveCard => exact retrieveCardTask hem h hmay
    | retrieveEach => exact retrieveEachTask hem h hmay
    | returnAllItems => exact returnAllItemsTask hem h hmay
    | playMagic => exact playMagicTask hem h hmay
    | disposeInstanceCard => exact disposeInstanceCardTask h hfresh
    | applyModifier => exact applyModifierTask hem h hmay
    | playHero => exact playHeroTask hem h hmay
    | redrawHand => exact redrawHandTask hem h hmay
    | rollOnHero => exact rollOnHeroTask hem h hmay
    | targetRoll => exact targetRollTask h hmay
    | gainActionPoints => exact gainActionPointsTask h hmay hrun rfl
    | attackMonster => exact attackMonsterTask hem h hmay
    | startChallenge => exact startChallengeTask hem h hmay
    | cardTypeCondition => exact cardTypeConditionTask hem h hmay
    | choosePlayer => exact choosePlayerTask hem h hmay
    | chooseCard => exact chooseCardTask hem h hmay
    | chooseCardEach => exact chooseCardEachTask hem h hmay
    | chooseMonster => exact chooseMonsterTask hem h hmay
    | chooseValue => exact chooseValueTask hem h hmay
    | confirm => exact askTask hem h hmay
    | chooseAction => exact askTask hem h hmay
  · cases task with
    | applyEffect => exact applyEffectTask hem h hrun rfl hopened
    | disposeInstanceCard => exact disposeInstanceCardTask h hfresh
    | _ => cases hcalm

end Runs

end

end HereToSlaughter
