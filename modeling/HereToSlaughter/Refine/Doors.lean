import HereToSlaughter.Machine.Inner
import HereToSlaughter.Refine.Emission

/-!
# Doors and plays, as the machine sees them

A step and an action are made of the same parts: cards go through doors, events go out, frames and
windows open. Each part is followed here once, for both: `At d k₀` says that a program which began
with the ghost `k₀` has left it alone, whether the events it announces are heard inside a drain or
drain for themselves.

Reference: `pipelines/game-state.ts`, `pipelines/reaction-manager.ts`, `tasks/play-tasks.ts`,
`tasks/roll-tasks.ts`.
-/

namespace HereToSlaughter

open Lib EngineM

/-! ## Where a program stands -/

/-- An event from outside a drain has been worked off: the drain has stopped, and the win
conditions have been looked at. -/
structure Control.Rested (k : Control) : Prop where
  flow : k.flow ≠ .flowing
  checked : k.unchecked = false

/-- Where a program runs: inside a drain, outside of one with everything worked off, or outside of
one with an event still to come. -/
inductive Mode
  | inside
  | outside
  | amid

/-- Where a program runs once it has changed a party. -/
def Mode.loose : Mode → Mode
  | inside => inside
  | _ => amid

/-- Inside a drain the loop that is going minds what an event starts, and outside of one nothing
runs yet. -/
structure Going (d : Mode) (k : Control) (s : World) : Prop where
  draining : s.draining = true ↔ d = .inside
  clearing : k.clearing = false
  inside : d = .inside → k.flow = .flowing ∧ k.unchecked = true
  outside : d ≠ .inside → k.running = none
  rested : d = .outside → k.Rested

/-- A program that began with the ghost `k₀` stands at `k`: drains may have stopped, and the win
conditions may have been looked at. -/
structure At (d : Mode) (k₀ k : Control) (s : World) : Prop where
  going : Going d k s
  drift : ∃ flow unchecked, k = { k₀ with flow, unchecked }

/-- The pipeline on top runs, or an action over an empty stack. -/
structure OnTop (k : Control) (s : World) : Prop where
  playing : k.between = .playing
  running : ∀ r, k.running = some r → r.opened = none ∧
    (s.gs.pipelines = [] ∨ s.gs.pipelines.head?.map AbilityPipeline.pid = some r.pid)
  action : k.running = none → s.gs.pipelines = []

/-- A frame may open about nothing: what runs is on top, no card is in flight, and the action under
way has its slot. -/
structure MayOpen (k : Control) (s : World) : Prop extends OnTop k s where
  landed : k.inFlight = []
  paid : k.due = none

/-- Events may go out: a turn is on, no drain they set off finds a card in flight, and the action
under way has its slot. -/
structure Speaks (d : Mode) (k : Control) : Prop where
  playing : k.between = .playing
  landed : d = .inside ∨ k.inFlight = []
  paid : k.due = none

/-- Inside a step the engine may speak once a turn is on and its price is paid. -/
theorem Speaks.inside {k : Control} (h : k.between = .playing) (hpaid : k.due = none) :
    Speaks .inside k := ⟨h, .inl rfl, hpaid⟩

/-- What may open a frame may speak. -/
theorem MayOpen.speaks {d : Mode} {k : Control} {s : World} (h : MayOpen k s) : Speaks d k :=
  ⟨h.playing, .inr h.landed, h.paid⟩

/-- What an event leaves as it was. -/
structure Heard (T : PrintedTable) (d : Mode) (type : GameEventType) (k : Control) (s s' : World) :
    Prop where
  parties : d = .inside → s'.gs.board.parties = s.gs.board.parties
  quiet : T.rules.Quiet type → OnTop k s → OnTop k s' ∧
    s'.gs.board.players = s.gs.board.players ∧ s'.gs.board.parties = s.gs.board.parties

/-- A drain that the event sets off runs no step while a card is in flight. -/
def Minds (T : PrintedTable) (d : Mode) (type : GameEventType) (k : Control) (s : World) : Prop :=
  d = .inside ∨ k.inFlight = [] ∨ T.rules.Quiet type ∧ s.gs.pipelines = []

/-- An emitter whose events leave the program that announces them where it was. -/
def Hears (T : PrintedTable) (d : Mode) (em : Emit) : Prop :=
  ∀ event k₀ k s, At d.loose k₀ k s → event.type.isOrdinary = true → k₀.Allows T.rules event.type →
    Minds T d event.type k₀ s →
    Runs T (em event) (fun _ k' s' => At d k₀ k' s' ∧ Heard T d event.type k₀ s s') k s

namespace At

variable {d : Mode} {k₀ k : Control} {s : World}

/-- The turn is where it was. -/
theorem between (h : At d k₀ k s) : k.between = k₀.between := by
  obtain ⟨-, _, _, rfl⟩ := h; rfl

/-- The same cards are in flight. -/
theorem inFlight (h : At d k₀ k s) : k.inFlight = k₀.inFlight := by
  obtain ⟨-, _, _, rfl⟩ := h; rfl

/-- The same step runs. -/
theorem running (h : At d k₀ k s) : k.running = k₀.running := by
  obtain ⟨-, _, _, rfl⟩ := h; rfl

/-- The same slot is due. -/
theorem due (h : At d k₀ k s) : k.due = k₀.due := by
  obtain ⟨-, _, _, rfl⟩ := h; rfl

/-- A program stands where it began. -/
theorem start (h : Going d k s) : At d k k s := ⟨h, _, _, rfl⟩

/-- What the ghost does not depend on may change. -/
theorem congr {t : World} (h : At d k₀ k s) (hdraining : t.draining = s.draining) : At d k₀ k t :=
  ⟨⟨hdraining ▸ h.going.draining, h.going.clearing, h.going.inside, h.going.outside,
    h.going.rested⟩, h.drift⟩

/-- The program is told less than is known. -/
theorem loosen (h : At d k₀ k s) : At d.loose k₀ k s := by
  obtain ⟨⟨hdraining, hclearing, hinside, houtside, -⟩, hdrift⟩ := h
  cases d with
  | inside => exact ⟨⟨hdraining, hclearing, hinside, houtside, fun h => (nomatch h)⟩, hdrift⟩
  | outside | amid =>
    exact ⟨⟨hdraining.trans (by simp [Mode.loose]), hclearing, fun h => (nomatch h),
      fun _ => houtside (by simp), fun h => (nomatch h)⟩, hdrift⟩

end At

/-- Going on with a ghost that differs where it does not matter. -/
theorem Going.loosely {d : Mode} {k l : Control} {s t : World} (h : Going d k s)
    (hdraining : t.draining = s.draining) (hclearing : l.clearing = k.clearing)
    (hflow : l.flow = k.flow) (hunchecked : l.unchecked = true)
    (hrunning : l.running = k.running) : Going d.loose l t := by
  obtain ⟨hd, hc, hinside, houtside, -⟩ := h
  cases d with
  | inside =>
    exact ⟨hdraining ▸ hd, hclearing.trans hc, fun _ => ⟨hflow.trans (hinside rfl).1, hunchecked⟩,
      fun h => absurd rfl h, fun h => (nomatch h)⟩
  | outside | amid =>
    exact ⟨(hdraining ▸ hd).trans (by simp [Mode.loose]), hclearing.trans hc, fun h => (nomatch h),
      fun _ => hrunning.trans (houtside (by simp)), fun h => (nomatch h)⟩

/-- The stack may change as long as its top does not. -/
theorem OnTop.congr {k : Control} {s s' : World} (h : OnTop k s)
    (hstack : s'.gs.pipelines = s.gs.pipelines ∨ s'.gs.pipelines = []) : OnTop k s' := by
  rcases hstack with hstack | hstack
  · exact ⟨h.playing, fun r hr => hstack ▸ h.running r hr, fun hr => hstack ▸ h.action hr⟩
  · exact ⟨h.playing, fun r hr => ⟨(h.running r hr).1, .inl hstack⟩, fun _ => hstack⟩

/-- An emitter of a drain. -/
theorem PassiveEmit.hears {T : PrintedTable} {em : Emit} (hem : PassiveEmit T em) :
    Hears T .inside em := by
  rintro event k₀ k s ⟨hgoing, flow, unchecked, rfl⟩ hordinary hallows -
  obtain ⟨hflow, hunchecked⟩ := hgoing.inside rfl
  refine (hem event _ s ⟨hgoing.draining.2 rfl, hflow, hgoing.clearing, hunchecked⟩ hordinary
    ⟨hallows.before, hallows.ended, hallows.due⟩).mono ?_
  rintro _ k' s' ⟨rfl, hdraining, hparties, hplayers, hquiet⟩
  refine ⟨⟨⟨by simp [hdraining], hgoing.clearing, hgoing.inside, hgoing.outside,
      fun h => (nomatch h)⟩, flow, unchecked, rfl⟩, fun _ => hparties,
      fun hq hmay => ⟨hmay.congr (hquiet hq), hplayers hq, hparties⟩⟩

/-! ## The rules of a program -/

section
variable {T : PrintedTable} {em : Emit} {d : Mode} {k₀ k : Control} {s : World}

/-- What has been recorded stays recorded. -/
theorem Runs.remembers {α : Type} {m : EngineM α} {Q : α → Control → World → Prop}
    (h : Runs T m Q k s) : Runs T m (fun a k' s' => Q a k' s' ∧ s.history <:+ s'.history) k s :=
  h.along fun _ _ _ hpath hq => ⟨hq, history_suffix (outer_of_inner hpath)⟩

/-- An event of a turn goes out. -/
theorem Hears.speaks (hem : Hears T d em) (h : At d.loose k₀ k s) (hspeaks : Speaks d k₀)
    {event : GameEvent} (hordinary : event.type.isOrdinary = true)
    {Q : Unit → Control → World → Prop}
    (hQ : ∀ k' s', At d k₀ k' s' → Heard T d event.type k₀ s s' → Q () k' s') :
    Runs T (em event) Q k s :=
  (hem event k₀ k s h hordinary (Control.allows_playing hspeaks.playing hspeaks.paid ..)
    (hspeaks.landed.imp id .inl)).mono fun _ k' s' hs => hQ k' s' hs.1 hs.2

namespace Runs

/-- A change the shape does not show. -/
theorem hidden {f : World → World} (h : At d k₀ k s) (hshape : (f s).shape = s.shape)
    (hdraining : (f s).draining = s.draining) {Q : Unit → Control → World → Prop}
    (hQ : At d k₀ k (f s) → Q () k (f s)) : Runs T (modify f) Q k s :=
  .unseen rfl hshape (hQ (h.congr hdraining))

/-- A change of the game state that the shape does not show. -/
theorem hiddenGs {f : GameState → GameState} (h : At d k₀ k s)
    (hboard : (f s.gs).board = s.gs.board) (hframes : (f s.gs).frameShapes = s.gs.frameShapes)
    (hpipelines : (f s.gs).pipelineShapes = s.gs.pipelineShapes)
    {Q : Unit → Control → World → Prop}
    (hQ : At d k₀ k { s with gs := f s.gs } → Q () k { s with gs := f s.gs }) :
    Runs T (modifyGs f) Q k s :=
  hidden h (by simp only [World.shape, hboard, hframes, hpipelines]) rfl hQ

/-- An edit of the board. -/
theorem edit {f : Board → Board} {fl : List String} (h : At d k₀ k s)
    (hedit : Edit T.toTable { k with unchecked := true } s.shape fl (f s.gs.board))
    {Q : Unit → Control → World → Prop}
    (hQ : ∀ k', At d.loose { k₀ with inFlight := fl } k' { s with gs := s.gs.modifyBoard f } →
      Q () k' { s with gs := s.gs.modifyBoard f }) : Runs T (modifyBoard f) Q k s := by
  obtain ⟨hgoing, flow, unchecked, rfl⟩ := h
  exact .ghost Inner.doubt (.acts rfl (Inner.edit hedit)
    (hQ _ ⟨hgoing.loosely rfl rfl rfl rfl rfl, flow, true, rfl⟩))

/-- An edit that touches no party and no card in flight. -/
theorem note {f : Board → Board} (h : At d k₀ k s)
    (hedit : Edit T.toTable k s.shape k.inFlight (f s.gs.board)) {Q : Unit → Control → World → Prop}
    (hQ : At d k₀ k { s with gs := s.gs.modifyBoard f } →
      Q () k { s with gs := s.gs.modifyBoard f }) : Runs T (modifyBoard f) Q k s :=
  .acts rfl (Inner.edit hedit) (hQ (h.congr rfl))

/-- A card takes its slot of the turn, the one that is due if one is. -/
theorem markAbilityUsed {cardId : String} (h : At d k₀ k s)
    (hdue : ∀ otherId, k₀.due = some otherId → otherId = cardId) {Q : Unit → Control → World → Prop}
    (hQ : ∀ k', At d { k₀ with due := none } k'
        { s with gs := s.gs.modifyBoard (Board.markAbilityUsed cardId) } →
      Q () k' { s with gs := s.gs.modifyBoard (Board.markAbilityUsed cardId) }) :
    Runs T (modifyBoard (Board.markAbilityUsed cardId)) Q k s := by
  obtain ⟨hgoing, flow, unchecked, rfl⟩ := h
  refine .runs rfl
    (.head (Inner.edit (.use cardId)) (.single (Inner.paid fun otherId hother => ?_)))
    (hQ _ ⟨?_, flow, unchecked, rfl⟩)
  · rw [hdue otherId hother]
    exact List.mem_append_right _ List.mem_cons_self
  · exact ⟨hgoing.draining, hgoing.clearing, hgoing.inside, hgoing.outside,
      fun hd => ⟨(hgoing.rested hd).flow, (hgoing.rested hd).checked⟩⟩

/-- Cards move. -/
theorem moves {f : Board → Board} {fl : List String} (h : At d k₀ k s)
    (hmoves : Moves k₀.inFlight s.gs.board fl (f s.gs.board))
    (hmusters : Musters T.cards s.history s.gs.board (f s.gs.board))
    {Q : Unit → Control → World → Prop}
    (hQ : ∀ k', At d.loose { k₀ with inFlight := fl } k' { s with gs := s.gs.modifyBoard f } →
      Q () k' { s with gs := s.gs.modifyBoard f }) : Runs T (modifyBoard f) Q k s :=
  edit h (.move (h.inFlight ▸ hmoves) hmusters (.inr rfl)) hQ

/-- A random number is drawn. -/
theorem random {rng : Nat → Nat} {n : Nat} (h : At d k₀ k s) {Q : Nat → Control → World → Prop}
    (hQ : ∀ i s', At d k₀ k s' → s'.gs = s.gs → Q i k s') : Runs T (EngineM.random rng n) Q k s :=
  .unseen (t := { s with randomAt := s.randomAt + 1 }) rfl rfl (hQ _ _ (h.congr rfl) rfl)

/-- Two dice are rolled. -/
theorem roll2Dice {rng : Nat → Nat} (h : At d k₀ k s) {Q : Int → Control → World → Prop}
    (hQ : ∀ i s', At d k₀ k s' → s'.gs = s.gs → Q i k s') :
    Runs T (EngineM.roll2Dice rng) Q k s :=
  .bind (random h fun _ _ h₁ hgs₁ => .bind (random h₁ fun _ _ h₂ hgs₂ =>
    .pure (hQ _ _ h₂ (hgs₂.trans hgs₁))))

/-- A slot that some step wrote. -/
theorem requireSlot {ctx : AbilityContext} {key message : String}
    {Q : List String → Control → World → Prop}
    (hQ : ∀ ids, Q ids k s) : Runs T (HereToSlaughter.requireSlot ctx key message) Q k s := by
  unfold HereToSlaughter.requireSlot
  split
  · exact .pure (hQ _)
  · exact fail

/-! ## Frames and windows -/

/-- A frame opens over the board as it stands. -/
theorem openFrame (subject : Option String) (h : At d k₀ k s) (hmay : OnTop k₀ s)
    (hpaid : k₀.due = none) (hsubject : k₀.inFlight = subject.toList)
    {Q : Nat → Control → World → Prop}
    (hQ : ∀ k' s', (∀ o ∈ k₀.opening, o.frameId ≠ s.nextId) →
      At d (k₀.opens s.nextId subject) k' s' → s'.gs.board = s.gs.board →
      s.history <:+ s'.history → Q s.nextId k' s') :
    Runs T EngineM.openFrame Q k s := by
  obtain ⟨hgoing, flow, unchecked, rfl⟩ := h
  refine .assuming fun hsound => ?_
  have hstep : Inner T.toTable ({ k₀ with flow, unchecked }, s.shape)
      (({ k₀ with flow, unchecked } : Control).opens s.nextId subject,
        (({ s with nextId := s.nextId + 1 } : World).openFrame s.nextId).shape) := by
    have hframes := s.gs.frameShapes_addFrame s.nextId
    have hshape : (({ s with nextId := s.nextId + 1 } : World).openFrame s.nextId).shape =
        { s.shape with
          frames := insertFrame s.nextId s.gs.board s.gs.frameShapes
          nextId := s.nextId + 1
          history := .opened s.nextId s.gs :: s.history } := by
      simp only [World.openFrame, World.shape, hframes]
      rfl
    rw [hshape]
    refine Inner.open subject s.gs_matches hsubject ?_ ?_ ?_
    · simp [hmay.playing]
    · intro r hr
      refine ⟨(hmay.running r hr).1, (hmay.running r hr).2.imp ?_ ?_⟩
      · intro hnil
        simp [World.shape, GameState.pipelineShapes, hnil]
      · intro htop
        simpa [Shape.top, World.shape, GameState.pipelineShapes, Function.comp_def,
          AbilityPipeline.shape] using htop
    · intro hr
      exact ⟨by simp [World.shape, GameState.pipelineShapes, hmay.action hr], hmay.playing, hpaid⟩
  have hfresh : ∀ o ∈ k₀.opening, o.frameId ≠ s.nextId := fun o ho =>
    Nat.ne_of_lt (hsound.ids.opening_lt o ho)
  refine .runs rfl (.single hstep) (hQ _ _ hfresh ⟨⟨?_, ?_, ?_, ?_, ?_⟩, flow, unchecked, rfl⟩ rfl
    (List.suffix_cons _ _))
  · exact hgoing.draining
  · exact hgoing.clearing
  · exact hgoing.inside
  · intro hd
    have hnone : k₀.running = none := hgoing.outside hd
    simp [Control.opens, hnone]
  · exact fun hd => ⟨(hgoing.rested hd).flow, (hgoing.rested hd).checked⟩

/-- A window draws its id. -/
theorem reserve (h : At d k₀ k s) {Q : Nat → Control → World → Prop}
    (hQ : ∀ k' s', At d { k₀ with reserved := s.nextId :: k₀.reserved } k' s' → s'.gs = s.gs →
      Q s.nextId k' s') : Runs T freshId Q k s := by
  obtain ⟨hgoing, flow, unchecked, rfl⟩ := h
  refine .acts (t := { s with nextId := s.nextId + 1 }) rfl Inner.reserve
    (hQ _ _ ⟨?_, _, _, rfl⟩ rfl)
  exact ⟨hgoing.draining, hgoing.clearing, hgoing.inside, hgoing.outside,
    fun hd => ⟨(hgoing.rested hd).flow, (hgoing.rested hd).checked⟩⟩

/-- A window goes into the frame that waits for it. -/
theorem insert {o : Opening} {os : List Opening} {w : Window} (ho : k₀.opening = o :: os)
    (hfresh : ∀ o' ∈ os, o'.frameId ≠ o.frameId)
    (h : At d { k₀ with reserved := w.id :: k₀.reserved } k s) (hopen : w.resolved = false)
    (hsubject : w.subjectCardId = o.subject)
    (hcontest : w.subjectCardId.isSome → w.shape.isRestoring = true)
    (hcheck : w.shape.isRestoring = true ∨ d = .inside) {Q : Unit → Control → World → Prop}
    (hQ : ∀ k' s', At d { k₀ with opening := { o with shown := true } :: os } k' s' → Q () k' s') :
    Runs T (modifyGs (GameState.addWindow o.frameId w)) Q k s := by
  obtain ⟨hgoing, flow, unchecked, rfl⟩ := h
  have hstep := Inner.insert (T := T.toTable)
    (k := { k₀ with reserved := w.id :: k₀.reserved, flow, unchecked }) (s := s.shape)
    (o := o) (w := w.shape) rfl (ho ▸ List.mem_cons_self) hopen hsubject hcontest
    (hcheck.imp id fun hd => (hgoing.inside hd).2)
  have hshape : ({ s with gs := s.gs.addWindow o.frameId w } : World).shape =
      { s.shape with
        frames := modifyFrame o.frameId (FrameShape.addWindow w.shape) s.gs.frameShapes } := by
    simp only [World.shape, s.gs.frameShapes_addWindow]
    rfl
  have hopening : markShown o.frameId k₀.opening = { o with shown := true } :: os := by
    rw [ho, markShown, List.map_cons, if_pos rfl]
    refine congrArg _ ((List.map_congr_left fun o' ho' => ?_).trans (List.map_id os))
    rw [if_neg (hfresh o' ho'), id]
  simp only [hopening] at hstep
  refine .acts (t := { s with gs := s.gs.addWindow o.frameId w }) rfl (hshape ▸ hstep)
    (hQ _ _ ⟨⟨?_, ?_, ?_, ?_, ?_⟩, flow, unchecked, rfl⟩)
  · exact hgoing.draining
  · exact hgoing.clearing
  · exact hgoing.inside
  · exact hgoing.outside
  · exact fun hd => ⟨(hgoing.rested hd).flow, (hgoing.rested hd).checked⟩

end Runs

/-- A program that opened a frame has put a window into it, or found it gone. -/
def Filled (d : Mode) (k₀ : Control) (frameId : Nat) (subject : Option String)
    (os : List Opening) (k : Control) (s : World) : Prop :=
  ∃ shown, At d { k₀ with opening := ⟨frameId, subject, shown⟩ :: os } k s ∧
    (shown = true ∨ s.gs.frames.has frameId = false)

namespace Filled

variable {frameId : Nat} {subject : Option String} {os : List Opening}

/-- A frame that is no longer there holds whatever is said of its windows. -/
theorem found {shown : Bool} (h : At d k₀ k s) (ho : k₀.opening = ⟨frameId, subject, shown⟩ :: os)
    (hclosed : ¬ s.gs.frames.has frameId = true) : Filled d k₀ frameId subject os k s := by
  refine ⟨shown, ?_, .inr (by simpa using hclosed)⟩
  rw [← ho]
  exact h

/-- Such a frame waits for nothing. -/
theorem done {α : Type} {m : EngineM α} {Q : α → Control → World → Prop}
    (h : Filled d k₀ frameId subject os k s)
    (hm : ∀ k', At d { k₀ with opening := os } k' s → Runs T m Q k' s) : Runs T m Q k s := by
  obtain ⟨shown, ⟨hgoing, flow, unchecked, rfl⟩, hshown⟩ := h
  refine .ghost (Inner.opened (o := ⟨frameId, subject, shown⟩) rfl ?_)
    (hm _ ⟨⟨?_, ?_, ?_, ?_, ?_⟩, flow, unchecked, rfl⟩)
  · refine hshown.imp id fun hclosed hopen => ?_
    exact absurd (s.gs.frameOpen_iff.1 hopen) (by simp [hclosed])
  · exact hgoing.draining
  · exact hgoing.clearing
  · exact hgoing.inside
  · exact hgoing.outside
  · exact fun hd => ⟨(hgoing.rested hd).flow, (hgoing.rested hd).checked⟩

end Filled

section Opening
variable {frameId : Nat} {subject : Option String} {shown : Bool} {os : List Opening}
  (hem : Hears T d em) (h : At d k₀ k s) (ho : k₀.opening = ⟨frameId, subject, shown⟩ :: os)
  (hfresh : ∀ o ∈ os, o.frameId ≠ frameId) (hspeaks : Speaks d k₀)
include hem h ho hfresh hspeaks

/-- `openWindow` of a challenge. -/
theorem Runs.openChallenge {challengedId cardId : String} (hsubject : subject = some cardId) :
    Runs T (HereToSlaughter.openChallenge T.toTable em frameId challengedId cardId)
      (fun _ k' s' => Filled d k₀ frameId subject os k' s') k s := by
  subst hsubject
  refine .bind (.reads rfl (.ite (fun _ => ?_) fun hclosed => ?_))
  · refine .bind (Runs.reserve h fun k₁ s₁ h₁ _ => .bind (.reads rfl (.bind ?_)))
    refine hem.speaks h₁.loosen ⟨hspeaks.1, hspeaks.2, hspeaks.3⟩ rfl fun k₂ s₂ h₂ _ =>
      .bind (.reads rfl ?_)
    exact Runs.insert ho hfresh h₂ rfl rfl (fun _ => rfl) (.inl rfl)
      fun k₃ s₃ h₃ => ⟨true, h₃, .inl rfl⟩
  · exact .pure (.found h ho hclosed)

/-- `openWindow` of a roll. -/
theorem Runs.openRoll {rollerId : String} {rolled : RollSubject} {baseRoll : Int}
    (hsubject : subject = none) :
    Runs T (HereToSlaughter.openRoll T.toTable em frameId rollerId rolled baseRoll)
      (fun _ k' s' => Filled d k₀ frameId subject os k' s') k s := by
  subst hsubject
  refine .bind (.reads rfl (.ite (fun _ => ?_) fun hclosed => ?_))
  · refine .bind (Runs.reserve h fun k₁ s₁ h₁ _ => .bind (.reads rfl (.bind ?_)))
    refine hem.speaks h₁.loosen ⟨hspeaks.1, hspeaks.2, hspeaks.3⟩ rfl fun k₂ s₂ h₂ _ =>
      .bind (.reads rfl ?_)
    dsimp only
    split
    · exact Runs.insert ho hfresh h₂ rfl rfl (fun hs => by cases hs)
        (.inl (by cases rolled <;> rfl)) fun k₃ s₃ h₃ => ⟨true, h₃, .inl rfl⟩
    · refine .bind (hem.speaks h₂.loosen ⟨hspeaks.1, hspeaks.2, hspeaks.3⟩ rfl fun k₃ s₃ h₃ _ => ?_)
      exact Runs.insert ho hfresh h₃ rfl rfl (fun hs => by cases hs)
        (.inl (by cases rolled <;> rfl)) fun k₄ s₄ h₄ => ⟨true, h₄, .inl rfl⟩
  · exact .pure (.found h ho hclosed)

/-- `openWindow` of a choice. Only steps ask. -/
theorem Runs.openChoice {respondentId : String} {body : ChoiceBody} (hsubject : subject = none)
    (hinside : d = .inside) :
    Runs T (HereToSlaughter.openChoice T.toTable em frameId respondentId body)
      (fun _ k' s' => Filled d k₀ frameId subject os k' s') k s := by
  subst hsubject
  refine .bind (.reads rfl (.ite (fun _ => ?_) fun hclosed => ?_))
  · have hordinary : (body.openedEvent respondentId frameId).type.isOrdinary = true := by
      unfold ChoiceBody.openedEvent
      split <;> rfl
    refine .bind (Runs.reserve h fun k₁ s₁ h₁ _ => .bind ?_)
    refine hem.speaks h₁.loosen ⟨hspeaks.1, hspeaks.2, hspeaks.3⟩ hordinary fun k₂ s₂ h₂ _ =>
      .bind (.reads rfl ?_)
    exact Runs.insert ho hfresh h₂ rfl rfl (fun hs => by cases hs) (.inr hinside)
      fun k₃ s₃ h₃ => ⟨true, h₃, .inl rfl⟩
  · exact .pure (.found h ho hclosed)

end Opening

end

/-! ## Doors -/

/-- A draw touches no party. -/
theorem Board.drawIntoHand_parties (rng : Nat → Nat) (at_ : Nat) (playerId : String) (b : Board) :
    (b.drawIntoHand rng at_ playerId).2.parties = b.parties := by
  have hdeck : (b.drawFromMainDeck rng at_).2.parties = b.parties := by
    unfold Board.drawFromMainDeck Board.refillMainDeck
    dsimp only
    split <;> rfl
  unfold Board.drawIntoHand
  split
  · rename_i hdrawn
    rw [hdrawn] at hdeck
    exact hdeck
  · rename_i hdrawn
    rw [hdrawn] at hdeck
    exact hdeck

section
variable {T : PrintedTable} {em : Emit} {d : Mode} {k₀ k : Control} {s : World}

namespace Runs

/-- A move of cards, no party's, made along with changes the shape does not show. -/
theorem movesTo {α : Type} {m : EngineM α} {a : α} {t : World} {b : Board} (h : At d k₀ k s)
    (hm : m s = .ok a t) (hshape : t.shape = { s.shape with board := b })
    (hdraining : t.draining = s.draining) (hparties : b.parties = s.gs.board.parties)
    (hmoves : Moves k₀.inFlight s.gs.board k₀.inFlight b) {Q : α → Control → World → Prop}
    (hQ : At d k₀ k t → Q a k t) : Runs T m Q k s := by
  refine .acts hm ?_ (hQ (h.congr hdraining))
  rw [hshape]
  exact Inner.edit (.move (h.inFlight ▸ hmoves) (.follows (.of_parties hparties)) (.inl hparties))

/-- `GameState.removeFromHand`, of a card the hand holds. -/
theorem removeFromHand {playerId cardId : String} (h : At d k₀ k s)
    (hcard : cardId ∈ s.gs.board.hand playerId) {Q : Unit → Control → World → Prop}
    (hQ : ∀ k' s', At d.loose { k₀ with inFlight := cardId :: k₀.inFlight } k' s' →
      s'.gs = s.gs.modifyBoard (Board.removeFromHand playerId cardId) →
      s'.history = s.history → Q () k' s') :
    Runs T (EngineM.removeFromHand playerId cardId) Q k s :=
  .bind (requirePlayer fun _ _ => moves h (.removeFromHand hcard) (.follows (.of_parties rfl))
    fun k' h' => hQ k' _ h' rfl rfl)

/-- `GameState.addToHand`, of a card in flight. -/
theorem addToHand {playerId cardId : String} {fl : List String}
    (h : At d k₀ k s) (hfl : k₀.inFlight = cardId :: fl) :
    Runs T (EngineM.addToHand playerId cardId)
      (fun _ k' s' => At d.loose { k₀ with inFlight := fl } k' s') k s := by
  refine .bind (requirePlayer fun player hplayer => ?_)
  refine moves h ?_ (.follows (.of_parties rfl)) fun _ h' => h'
  rw [hfl]
  exact .addToHand (Board.isSeated_iff.2 ⟨player, hplayer⟩)

section Announced
variable (hem : Hears T d em) (h : At d k₀ k s) (hspeaks : Speaks d k₀)
include hem h hspeaks

/-- `GameState.drawIntoHand`. -/
theorem drawIntoHand {rng : Nat → Nat} {playerId : String} :
    Runs T (EngineM.drawIntoHand em rng playerId) (fun _ k' s' => At d k₀ k' s') k s := by
  refine .bind (.reads rfl (.ite (fun hseated => .bind ?_) fun _ => .pure h))
  refine movesTo (a := (World.drawIntoHand rng playerId s).1)
    (t := (World.drawIntoHand rng playerId s).2) h rfl rfl rfl ?_
      (.drawIntoHand hseated) fun h₁ => ?_
  · exact Board.drawIntoHand_parties ..
  split
  · exact .pure h₁
  · exact .bind (hem.speaks h₁.loosen hspeaks rfl fun _ _ h₂ _ => .pure h₂)

/-- `GameState.drawNamedIntoHand`. -/
theorem drawNamedIntoHand {playerId cardId : String} :
    Runs T (EngineM.drawNamedIntoHand em playerId cardId) (fun _ k' s' => At d k₀ k' s') k s := by
  refine .bind (.reads rfl (.ite (fun hdraw => ?_) fun _ => .pure h))
  simp only [Bool.and_eq_true, List.contains_iff_mem] at hdraw
  refine .bind
    (moves h (.drawNamedIntoHand hdraw.2 hdraw.1) (.follows (.of_parties rfl)) fun k₁ h₁ => ?_)
  exact .bind (hem.speaks h₁ hspeaks rfl fun _ _ h₂ _ => .pure h₂)

/-- `GameState.discardFromHand`. -/
theorem discardFromHand {playerId cardId : String} :
    Runs T (EngineM.discardFromHand em playerId cardId) (fun _ k' s' => At d k₀ k' s') k s := by
  refine .bind (.reads rfl (.ite (fun hcard => ?_) fun _ => fail))
  refine .bind (moves h (.discardFromHand hcard) (.follows (.of_parties rfl)) fun k₁ h₁ => ?_)
  exact hem.speaks h₁ hspeaks rfl fun _ _ h₂ _ => h₂

end Announced

section Draws
variable (hem : Hears T d em) (hspeaks : Speaks d k₀)
include hem hspeaks

/-- One draw after the other, by induction on how many are left. -/
theorem drawUpTo {playerId : String} : ∀ {n : Nat} {k : Control} {s : World}, At d k₀ k s →
    Runs T (HereToSlaughter.drawUpTo T.toTable em playerId n) (fun _ k' s' => At d k₀ k' s') k s
  | 0, _, _, h => .pure h
  | n + 1, _, _, h => .bind ((drawIntoHand hem h hspeaks).mono fun drawn _ _ h₁ => by
    cases drawn with
    | none => exact .pure h₁
    | some cardId => exact .bind ((drawUpTo h₁).mono fun _ _ _ h₂ => .pure h₂))

/-- One draw after the other, by induction on the fuel. -/
theorem drawUntil {playerId : String} {size : Int} : ∀ {n : Nat} {k : Control} {s : World},
    At d k₀ k s → Runs T (HereToSlaughter.drawUntil T.toTable em playerId size n)
      (fun _ k' s' => At d k₀ k' s') k s
  | 0, _, _, _ => .throw _
  | n + 1, _, _, h => .bind (.reads rfl (.ite
    (fun _ => .bind ((drawIntoHand hem h hspeaks).mono fun drawn _ _ h₁ => by
      cases drawn with
      | none => exact .pure h₁
      | some cardId => exact .bind ((drawUntil h₁).mono fun _ _ _ h₂ => .pure h₂)))
    fun _ => .pure h))

/-- `Draw.drawCards`. -/
theorem drawCards {fuel : Nat} {playerId : String} {count : Int} (h : At d k₀ k s) :
    Runs T (HereToSlaughter.drawCards T.toTable em fuel playerId count)
      (fun _ k' s' => At d k₀ k' s') k s :=
  .ite (fun _ => drawUpTo hem hspeaks h) fun _ => drawUntil hem hspeaks h

/-- `RedrawHand.redrawHand`. -/
theorem redrawHand {fuel : Nat} {playerId : String} (h : At d k₀ k s) :
    Runs T (HereToSlaughter.redrawHand T.toTable em fuel playerId)
      (fun _ k' s' => At d k₀ k' s') k s := by
  refine .bind (.reads rfl (.ite (fun _ => .bind ?_) fun _ => .pure h))
  refine (forEach (P := At d k₀) h fun _ _ k s h => discardFromHand hem h hspeaks).mono ?_
  exact fun _ _ _ h₁ => .bind ((drawCards hem hspeaks h₁).mono fun _ _ _ h₂ => .pure h₂)

end Draws

end Runs

end

end HereToSlaughter
