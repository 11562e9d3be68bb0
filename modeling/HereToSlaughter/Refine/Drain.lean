import HereToSlaughter.Refine.Tasks

/-!
# Drains, as the machine sees them

The loop of a drain takes step after step off the pipeline on top, until the stack is empty, its
top waits for a frame, or a step opens one. An event from outside a drain starts its pipelines and
runs such a loop; then the win conditions are looked at.

Reference: `pipelines/task-manager.ts`, `game-engine.ts`.
-/

namespace HereToSlaughter

open Lib EngineM

/-! ## The loop -/

/-- A drain that began with the ghost `k₀` has stopped. -/
structure Stopped (k₀ k : Control) (s : World) : Prop where
  draining : s.draining = true
  drift : ∃ flow, k = { k₀ with flow, unchecked := true }
  flow : k.flow ≠ .flowing

section
variable {T : PrintedTable} {em : Emit} {k₀ k : Control} {s : World}

/-- With a pipeline on the stack a turn is on, or the game is being set up. -/
theorem Sound.allows_abilityDone {p : AbilityPipeline} {ps : List AbilityPipeline}
    (h : Sound T.cards (k, s.shape)) (hstack : s.gs.pipelines = p :: ps) :
    k.Allows T.rules .abilityDone := by
  have hshapes : s.shape.pipelines ≠ [] := by simp [World.shape, GameState.pipelineShapes, hstack]
  refine ⟨fun _ steps hs step hstep => (gameRules_steps (T.printed ▸ hs) step hstep).2 (.inr rfl),
    fun playerId hb => ?_, fun _ _ => h.dues.paid hshapes⟩
  have hempty : s.gs.pipelines.map AbilityPipeline.shape = [] := (h.printed.ended playerId hb).1
  rw [hstack] at hempty
  cases hempty

/-- A change of a pipeline, in the shape. -/
theorem World.shape_modifyPipeline (s : World) (pid : Nat) (f : AbilityPipeline → AbilityPipeline)
    (g : PipelineShape → PipelineShape) (h : ∀ p, (f p).shape = g p.shape) :
    World.shape { s with gs := s.gs.modifyPipeline pid f } =
      { s.shape with pipelines := modifyPipeline pid g s.shape.pipelines } := by
  have hp := s.gs.pipelineShapes_modifyPipeline pid f g h
  simp only [World.shape, hp]
  rfl

namespace Runs

/-- A step that ran and suspended its pipeline on a frame. -/
theorem pauseOn {r : Running} {frameId : Nat} {step : Task} (h : At .inside k₀ k s)
    (hrun : k₀.running = some { r with opened := some frameId }) :
    Runs T (HereToSlaughter.pauseOn r.pid frameId step)
      (fun _ k' s' => Stopped { k₀ with running := none } k' s') k s := by
  refine .bind (.reads rfl (.ite (fun hopen => ?_) fun _ => fail))
  have hstep := Inner.pause (T := T.toTable) (k := k) (s := s.shape) (h.running.trans hrun) rfl
    (s.gs.frameOpen_iff.2 hopen)
  have hshape : World.shape { s with
      gs := s.gs.modifyPipeline r.pid fun p => { p with pausedOn := some frameId }
      history := .suspended r.pid frameId :: s.history } = { s.shape with
      pipelines := modifyPipeline r.pid (PipelineShape.park frameId) s.shape.pipelines
      history := .suspended r.pid frameId :: s.shape.history } :=
    congrArg (fun x : Shape => { x with history := .suspended r.pid frameId :: s.history })
      (s.shape_modifyPipeline r.pid (fun p => { p with pausedOn := some frameId })
        (PipelineShape.park frameId) fun _ => rfl)
  refine .runs rfl (.single (hshape ▸ hstep)) ?_
  obtain ⟨hgoing, flow, unchecked, rfl⟩ := h
  obtain rfl : unchecked = true := (hgoing.inside rfl).2
  refine ⟨hgoing.draining.2 rfl, ⟨_, rfl⟩, ?_⟩
  dsimp only
  split <;> simp

/-- The loop of `drain`, one step after the other: a step finds no card in flight. -/
theorem drainLoop (hem : Hears T .inside em) (hrun : k₀.running = none) :
    ∀ {n : Nat} {k : Control} {s : World}, At .inside k₀ k s →
      (k₀.inFlight = [] ∨ s.gs.pipelines = []) →
      Runs T (HereToSlaughter.drainLoop T.toTable em n) (fun _ k' s' =>
        Stopped k₀ k' s' ∧ (s.gs.pipelines = [] → s'.gs = s.gs)) k s := by
  -- nothing can be run: the drain stops where it is
  have hhalt : ∀ {k : Control} {s : World}, At .inside k₀ k s →
      (s.shape.pipelines = [] ∨ ∃ p, s.shape.top = some p ∧ p.pausedOn.isSome) →
      Runs T (Pure.pure ()) (fun _ k' s' =>
        Stopped k₀ k' s' ∧ (s.gs.pipelines = [] → s'.gs = s.gs)) k s := by
    rintro k s ⟨hgoing, flow, unchecked, rfl⟩ hstack
    obtain rfl : unchecked = true := (hgoing.inside rfl).2
    exact .ghost (Inner.halt hrun hgoing.clearing (hstack.imp id .inr))
      (.pure ⟨⟨hgoing.draining.2 rfl, ⟨.halted, rfl⟩, by simp⟩, fun _ => rfl⟩)
  intro n
  induction n with
  | zero => exact fun _ _ => .throw _
  | succ n ih =>
    intro k s h hlands
    obtain ⟨hflow, -⟩ := h.going.inside rfl
    have hnone : k.running = none := h.running.trans hrun
    refine .assuming fun hsound => .bind (.reads rfl ?_)
    cases hstack : s.gs.pipelines with
    | nil =>
      refine (hhalt h (.inl ?_)).mono fun _ _ _ hs => ⟨hs.1, fun _ => hs.2 hstack⟩
      simp [World.shape, GameState.pipelineShapes, hstack]
    | cons top rest =>
      have hshapes : s.shape.pipelines = top.shape :: rest.map AbilityPipeline.shape := by
        simp [World.shape, GameState.pipelineShapes, hstack]
      have hne : ∀ {p : Prop}, top :: rest = [] → p := fun hnil => by cases hnil
      have hlanded : k₀.inFlight = [] :=
        hlands.resolve_right fun hnil => hne (hstack.symm.trans hnil)
      refine .ite (fun hpaused => ?_) fun hpaused => ?_
      · refine (hhalt h (.inr ⟨top.shape, ?_, hpaused⟩)).mono fun _ _ _ hs => ⟨hs.1, hne⟩
        rw [Shape.top, hshapes, List.head?_cons]
      · have hpausedOn : top.shape.pausedOn = none := by
          simpa [AbilityPipeline.shape] using hpaused
        cases hsteps : top.steps with
        | nil =>
          refine .bind (.acts (l := k) (t := { s with gs := s.gs.popPipeline }) rfl ?_ (.bind ?_))
          · have hpop := Inner.pop (T := T.toTable) hnone hflow hshapes hpausedOn hsteps
            have hshape : World.shape { s with gs := s.gs.popPipeline } =
                { s.shape with pipelines := rest.map AbilityPipeline.shape } := by
              simp only [World.shape, GameState.popPipeline, GameState.pipelineShapes, hstack]
              rfl
            exact hshape ▸ hpop
          · have h₁ : At .inside k₀ k { s with gs := s.gs.popPipeline } := h.congr rfl
            have hnext : ∀ {k' : Control} {s' : World}, At .inside k₀ k' s' →
                Runs T (HereToSlaughter.drainLoop T.toTable em n) (fun _ k' s' =>
                  Stopped k₀ k' s' ∧ (top :: rest = [] → s'.gs = s.gs)) k' s' :=
              fun h' => (ih h' (.inl hlanded)).mono fun _ _ _ hs => ⟨hs.1, hne⟩
            have hallows : k₀.Allows T.rules .abilityDone := by
              have := hsound.allows_abilityDone (T := T) hstack
              exact ⟨fun hb => this.before (h.between.trans hb),
                fun playerId hb => this.ended playerId (h.between.trans hb),
                fun steps hs => h.due.symm.trans (this.due steps hs)⟩
            refine .ite (fun _ => .pure (hnext h₁)) fun _ => .bind (.reads rfl ?_)
            refine .ite (fun _ => .pure (hnext h₁)) fun _ => ?_
            exact (hem _ _ _ _ h₁ rfl hallows (.inl rfl)).mono fun _ _ _ h₂ => hnext h₂.1
        | cons step steps =>
          refine .bind
            (.bind (.acts (l := { k with running := some { pid := top.pid, task := step } })
            (t := { s with gs := s.gs.modifyPipeline top.pid fun p => { p with steps } }) rfl ?_
            (.assuming fun hsound₁ => .bind ?_)))
          · have htake := Inner.take (T := T.toTable) hnone hflow hshapes hpausedOn hsteps
            exact s.shape_modifyPipeline top.pid (fun p => { p with steps })
              (PipelineShape.setSteps steps) (fun _ => rfl) ▸ htake
          · -- the step runs with its pipeline on top
            let r : Running := { pid := top.pid, task := step }
            have h₁ : At .inside { k₀ with running := some r } { k with running := some r }
                { s with gs := s.gs.modifyPipeline top.pid fun p => { p with steps } } := by
              obtain ⟨hgoing, flow, unchecked, rfl⟩ := h
              exact ⟨⟨hgoing.draining, hgoing.clearing, hgoing.inside, fun hd => absurd rfl hd,
                fun hd => (by cases hd)⟩, flow, unchecked, rfl⟩
            have hbetween : k₀.between = .playing ∨ r.task.isCalm = true := by
              cases hb : k₀.between with
              | before => exact .inr (hsound₁.printed.runningCalm (h₁.between.trans hb) r rfl)
              | playing => exact .inl rfl
              | ended playerId =>
                cases (hsound₁.printed.ended playerId (h₁.between.trans hb)).2
            have htop : (s.gs.modifyPipeline top.pid fun p => { p with steps }).pipelines.head?.map
                AbilityPipeline.pid = some r.pid := by
              simp [GameState.modifyPipeline, hstack, r]
            have hpaid : k₀.due = none := h.due.symm.trans (hsound.dues.paid (by simp [hshapes]))
            refine (execute (r := r) hem h₁ rfl rfl (.inr htop) hlanded hpaid hbetween).mono
              fun res k₂ s₂ h₂ => ?_
            refine .bind (hiddenGs h₂ rfl rfl ?_ fun h₃ => .pure ?_)
            · exact s₂.gs.pipelineShapes_modifyPipeline_of_shape top.pid fun _ => rfl
            obtain ⟨ctx, opened⟩ := res
            cases opened with
            | none =>
              refine .ghost (Inner.done (h₃.running.trans rfl) rfl) ?_
              refine (ih ?_ (.inl hlanded)).mono fun _ _ _ hs => ⟨hs.1, hne⟩
              obtain ⟨hgoing, flow, unchecked, rfl⟩ := h₃
              refine ⟨⟨hgoing.draining, hgoing.clearing, hgoing.inside, fun _ => rfl,
                fun hd => (by cases hd)⟩, flow, unchecked, ?_⟩
              simp only [Control.suspendOn, hrun]
            | some frameId =>
              refine (pauseOn (r := r) h₃ rfl).mono fun _ k₄ s₄ hs => ⟨?_, hne⟩
              obtain ⟨hdraining, ⟨flow, rfl⟩, hflow⟩ := hs
              refine ⟨hdraining, ⟨flow, ?_⟩, hflow⟩
              simp only [Control.suspendOn, hrun]

end Runs

/-! ## Events from outside a drain -/

/-- Outside of a drain, with an event to come. -/
theorem Going.amid {s : World} (hdraining : s.draining = false) (hclearing : k.clearing = false)
    (hrunning : k.running = none) : Going .amid k s :=
  ⟨by simp [hdraining], hclearing, fun hd => (nomatch hd), fun _ => hrunning,
    fun hd => (nomatch hd)⟩

namespace At

/-- Amid the listeners no drain runs. -/
theorem idle (h : At .amid k₀ k s) : s.draining = false := by
  simpa using h.going.draining

/-- So no step does. -/
theorem halted (h : At .amid k₀ k s) : k.running = none := h.going.outside (by simp)

/-- Nor did one when the event went out. -/
theorem started (h : At .amid k₀ k s) : k₀.running = none := h.running.symm.trans h.halted

/-- A drain stops, or goes on. -/
theorem stir (h : At .amid k₀ k s) (flow : Flow) : At .amid k₀ { k with flow } s := by
  obtain ⟨hgoing, flow', unchecked, rfl⟩ := h
  exact ⟨.amid (by simpa using hgoing.draining) hgoing.clearing (hgoing.outside (by simp)),
    _, _, rfl⟩

end At

namespace Runs

/-- The drain's flag is no part of the shape. -/
theorem whileDraining {act : EngineM Unit} {Q : Unit → Control → World → Prop}
    (h : Runs T act (fun a k' s' => Q a k' { s' with draining := false }) k
      { s with draining := true }) : Runs T (HereToSlaughter.whileDraining act) Q k s := by
  intro hinv a s' hm
  unfold HereToSlaughter.whileDraining at hm
  split at hm
  · rename_i hrun
    cases hm
    obtain ⟨k', hpath, hq⟩ := h hinv hrun
    exact ⟨k', hpath, hq⟩
  · cases hm

/-- `TaskManager.drain`, from outside a drain. -/
theorem drain {n : Nat} (hem : Hears T .inside em) (h : At .amid k₀ k s)
    (hlands : k₀.inFlight = [] ∨ s.gs.pipelines = []) :
    Runs T (HereToSlaughter.drain T.toTable em n) (fun _ k' s' =>
      At .amid k₀ k' s' ∧ k'.flow ≠ .flowing ∧ (s.gs.pipelines = [] → s'.gs = s.gs)) k s := by
  have hnone : k₀.running = none := h.started
  refine .bind (.reads rfl (.ite (fun hd => ?_) fun _ => whileDraining ?_))
  · exact absurd (h.idle.symm.trans hd) (by simp)
  · obtain ⟨hgoing, flow, unchecked, rfl⟩ := h
    refine .before (.head (Inner.stir hnone) (.single Inner.doubt)) ?_
    have h₁ : At .inside k₀ { k₀ with flow := .flowing, unchecked := true }
        { s with draining := true } :=
      ⟨⟨by simp, hgoing.clearing, fun _ => ⟨rfl, rfl⟩, fun hd => absurd rfl hd,
        fun hd => (nomatch hd)⟩, _, _, rfl⟩
    refine (drainLoop hem hnone h₁ hlands).mono ?_
    rintro _ _ s₂ ⟨⟨hdraining, ⟨flow₂, rfl⟩, hflow⟩, hempty⟩
    exact ⟨⟨.amid rfl hgoing.clearing hnone, _, _, rfl⟩, hflow, hempty⟩

/-- The task manager, from outside a drain: the pipelines an event starts run until the stack
waits. -/
theorem taskManager {n : Nat} {event : GameEvent} (hin : Hears T .inside em)
    (hout : Hears T .outside em)
    (h : At .amid k₀ k s) (hallows : k₀.Allows T.rules event.type)
    (hresolved : event.type ≠ .frameResolved) (hminds : Minds T .outside event.type k₀ s) :
    Runs T (TaskManager.onEvent T.toTable em n event) (fun _ k' s' =>
      At .amid k₀ k' s' ∧ k'.flow ≠ .flowing ∧
      (T.rules.Quiet event.type → s.gs.pipelines = [] → s'.gs = s.gs)) k s := by
  have hnone : k.running = none := h.halted
  -- unless the event is quiet over an empty stack, no card is in flight
  have hlanded : ¬ T.rules.Quiet event.type → k₀.inFlight = [] := fun hloud =>
    (hminds.resolve_left (by simp)).resolve_right fun hq => hloud hq.1
  refine .bind (.reads rfl (.ite (fun hphase => ?_) fun hphase => .bind ?_))
  · refine .ghost (Inner.halt hnone h.going.clearing (.inr (.inl hphase))) (.pure ⟨?_, ?_, ?_⟩)
    · exact h.stir .halted
    · simp
    · exact fun _ _ => rfl
  have hwake : wakeOn event = pure () := by
    unfold wakeOn
    split
    · exact absurd ‹_› hresolved
    · rfl
  refine (sweepExpired (P := At .amid k₀) event ?_ fun _ => h.congr rfl).mono ?_
  · intro hloud effect k s h
    exact (hout _ _ _ _ h rfl ((quiet_effectExpired T).allowed _)
      (.inr (.inl (hlanded hloud)))).mono
      fun _ _ _ hs => hs.1.loosen
  · rintro _ k₁ s₁ hswept
    rw [hwake]
    refine .bind (.pure (.bind (.reads rfl (.bind ?_))))
    rcases hswept with ⟨rfl, rfl⟩ | ⟨h₁, hloud, hsilent⟩
    · by_cases hquiet : T.rules.Quiet event.type
      · rw [matchedSources_quiet hquiet]
        exact .pure ((drain hin h ((hminds.resolve_left (by simp)).imp id And.right)).mono
          fun _ _ _ hs => ⟨hs.1, hs.2.1, fun _ => hs.2.2⟩)
      · refine .ghost (Inner.stir hnone) ((addPipelines event (P := fun s => s.draining = false)
          (fun _ => matchedSources_starts) rfl hphase ⟨?_, ?_, ?_⟩ ?_ h.idle
          fun _ _ _ h => h).mono ?_)
        · exact fun hb => hallows.before (h.between.symm.trans hb)
        · exact fun playerId hb => hallows.ended playerId (h.between.symm.trans hb)
        · exact fun steps hs => h.due.trans (hallows.due steps hs)
        · exact fun _ _ => .of_idle hnone
        · rintro _ _ s₂ ⟨rfl, -, hdraining⟩
          have h₂ : At .amid k₀ _ s₂ := (h.stir .flowing).congr (hdraining.trans h.idle.symm)
          exact (drain hin h₂ (.inl (hlanded hquiet))).mono fun _ _ _ hs =>
            ⟨hs.1, hs.2.1, fun hq => absurd hq hquiet⟩
    · have hsources : matchedSources T.rules s₁.gs.board event = [] :=
        List.eq_nil_iff_forall_not_mem.2 fun _ hs => hsilent _ (matchedSources_starts hs)
      rw [hsources]
      exact .pure ((drain hin h₁ (.inl (hlanded hloud))).mono fun _ _ _ hs =>
        ⟨hs.1, hs.2.1, fun hq => absurd hq hloud⟩)

/-- The win conditions, looked at once a drain has stopped. -/
theorem checkWins (n : Nat) (h : At .amid k₀ k s) (hflow : k.flow ≠ .flowing)
    (hdirty : s.dirty = true) :
    Runs T (HereToSlaughter.concludeIfDue T.toTable (emit T.toTable n)) (fun ended k' s' =>
      At .outside k₀ k' s' ∧
      (s'.gs.board.players = s.gs.board.players ∧ s'.gs.board.parties = s.gs.board.parties) ∧
      (ended = true → s'.gs.board.gamePhase = .concluded ∧ (s'.gs = s.gs ∨ s'.gs.pipelines = [])) ∧
      (ended = false → s'.gs = s.gs ∧ s'.turnManager = s.turnManager ∧
        s'.gs.board.gamePhase ≠ .concluded)) k s := by
  have hnone : k₀.running = none := h.started
  obtain ⟨hgoing, flow, unchecked, rfl⟩ := h
  refine .after ((concludeIfDue (k := { k₀ with flow, unchecked }) n (.inr hnone) hgoing.clearing
    hdirty).mono ?_)
  rintro ended k' s' ⟨hghost, hdraining, -, hseats, hover, hgoes⟩
  have hcheck : s'.shape.board.gamePhase = .concluded ∨ s'.shape.hasPendingOutcome = true ∨
      checkWinConditions T.toTable s'.shape.board = none := by
    cases ended with
    | true => exact .inl (hover rfl).1
    | false => exact .inr ((hgoes rfl).2.2.2.imp (pending_shape s').trans id)
  have hat : ∀ flow, flow ≠ .flowing → At .outside k₀ { k₀ with flow, unchecked := false } s' :=
    fun flow hne => ⟨⟨hdraining ▸ hgoing.draining.trans (by simp), hgoing.clearing,
      fun hd => (nomatch hd), fun _ => hnone, fun _ => ⟨hne, rfl⟩⟩, _, _, rfl⟩
  have hrest : (ended = true → s'.gs.board.gamePhase = .concluded ∧
      (s'.gs = s.gs ∨ s'.gs.pipelines = [])) ∧
      (ended = false → s'.gs = s.gs ∧ s'.turnManager = s.turnManager ∧
        s'.gs.board.gamePhase ≠ .concluded) :=
    ⟨fun ho => ⟨(hover ho).1, (hover ho).2.imp (fun h => h.2) id⟩,
      fun ho => ⟨(hgoes ho).1, (hgoes ho).2.1, (hgoes ho).2.2.1⟩⟩
  rcases hghost with rfl | ⟨hwon, rfl⟩
  · exact ⟨_, .single (Inner.check hcheck), hat flow hflow, hseats, hrest⟩
  · refine ⟨_, .head (Inner.check hcheck) (.single (Inner.halt hnone hgoing.clearing
      (.inr (.inl (hover hwon).1)))), hat .halted (by simp), hseats, hrest⟩

/-- An event from outside a drain, heard by everyone: what it starts has run, and the win
conditions have been looked at. -/
theorem activeEmit (n : Nat) : Hears T .outside (emit T.toTable n) := by
  induction n with
  | zero => exact fun _ _ _ _ _ _ _ _ => .throw _
  | succ n ih =>
    intro event k₀ k s h hordinary hallows hminds
    have hstart : event.type ≠ .turnStarted := by
      rintro h; simp [h, GameEventType.isOrdinary] at hordinary
    have hend : event.type ≠ .turnEnded := by
      rintro h; simp [h, GameEventType.isOrdinary] at hordinary
    have hresolved : event.type ≠ .frameResolved := by
      rintro h; simp [h, GameEventType.isOrdinary] at hordinary
    have hended : event.type ≠ .gameEnded := by
      rintro h; simp [h, GameEventType.isOrdinary] at hordinary
    have h₀ : At .amid k₀ { k with flow := .flowing } s := h.stir .flowing
    refine .ghost (Inner.stir h.halted) (.bind (.reads rfl (.bind ?_)))
    refine .acts (t := { s with history := .emitted event s.gs :: s.history }) rfl
      (Inner.announce event s.gs_matches rfl hstart hend fun h => absurd h hended) ?_
    refine .bind (Runs.turnManager event fun s₁ h₁ => .bind ?_)
    have hminds₁ : Minds T .outside event.type k₀ s₁ := by
      rw [Minds, h₁.gs]
      exact hminds
    refine (taskManager (passiveEmit n).hears ih (h₀.congr h₁.draining) hallows hresolved
      hminds₁).mono ?_
    rintro _ k₂ s₂ ⟨h₂, hflow₂, hquiet₂⟩
    refine .bind (.bind (.unseen (t := { s₂ with dirty := true }) rfl rfl (.bind ?_)))
    refine (checkWins (s := { s₂ with dirty := true }) n (h₂.congr rfl) hflow₂ rfl).mono ?_
    rintro ended k₃ s₃ ⟨h₃, ⟨hplayers₃, hparties₃⟩, hover, hgoes⟩
    have hheard : Heard T .outside event.type k₀ s s₃ := by
      refine ⟨fun hd => (by cases hd), fun hq hmay => ?_⟩
      have hempty := hmay.action h.started
      have hgs₂ : s₂.gs = s.gs := (hquiet₂ hq (by rw [h₁.gs]; exact hempty)).trans h₁.gs
      refine ⟨hmay.congr (.inr ?_), ?_, ?_⟩
      · cases ended with
        | false =>
          rw [(hgoes rfl).1, hgs₂]
          exact hempty
        | true =>
          refine (hover rfl).2.elim (fun hgs => ?_) id
          rw [hgs, hgs₂]
          exact hempty
      · rw [hplayers₃, hgs₂]
      · rw [hparties₃, hgs₂]
    have hlog : Runs T (GameLog.onEvent T.cards event) (fun _ k' s' =>
        At .outside k₀ k' s' ∧ Heard T .outside event.type k₀ s s') k₃ s₃ := by
      refine Runs.log event fun s₄ h₄ => ⟨h₃.congr h₄.draining, ?_⟩
      refine ⟨fun hd => (by cases hd), fun hq hmay => ?_⟩
      rw [h₄.gs]
      obtain ⟨hmay₃, hseats⟩ := hheard.quiet hq hmay
      exact ⟨hmay₃.congr (.inl (by rw [h₄.gs])), hseats⟩
    refine .ite (fun _ => .pure hlog) fun _ => ?_
    split
    · exact absurd ‹_› hend
    · exact absurd ‹_› hresolved
    · exact .pure hlog

end Runs

end

end HereToSlaughter
