import HereToSlaughter.Runs.Rest

/-!
# Refused commands

A command is checked before anything is done for it: the queue, the reactions and the windows all
decide on a refusal before they change the game. The one answer that is refused and still changes
something is an option nobody offered, which settles the choice it was sent to.

Reference: `game-server/command-dispatcher.service.ts`, `pipelines/turn-manager.ts`,
`pipelines/reaction-manager.ts`.
-/

namespace HereToSlaughter

open Lib EngineM

variable {T : Table} {em : Emit} {w w' : World}

/-! ## Programs that refuse -/

/-- A program that accepts, if it returns. -/
def Accepts (m : EngineM RequestResult) : Prop :=
  ∀ w result w', m w = .ok result w' → result = .accepted

/-- A program leaves the world as it was whenever it answers with a refusal. -/
def RefusesFirst (m : EngineM RequestResult) (w : World) : Prop :=
  ∀ reason w', m w = .ok (.refused reason) w' → w' = w

variable {α : Type}

/-- What only accepts accepts. -/
theorem Accepts.pure : Accepts (Pure.pure .accepted) := by
  intro w result w' h
  cases h
  rfl

/-- What is done before does not matter. -/
theorem Accepts.after {m : EngineM α} {f : α → EngineM RequestResult} (hf : ∀ a, Accepts (f a)) :
    Accepts (m >>= f) := by
  intro w result w' h
  change EStateM.bind m f w = _ at h
  unfold EStateM.bind at h
  split at h
  · exact hf _ _ _ _ h
  · cases h

namespace RefusesFirst

/-- What accepts in every state refuses nothing. -/
theorem of_accepts {m : EngineM RequestResult} (hm : Accepts m) : RefusesFirst m w :=
  fun _ _ h => nomatch hm _ _ _ h

/-- An answer given on the spot. -/
theorem pure (result : RequestResult) : RefusesFirst (Pure.pure result) w := by
  intro reason w' h
  cases h
  rfl

/-- Throwing is no refusal. -/
theorem fail (message : String) : RefusesFirst (EngineM.fail message) w := by
  intro reason w' h
  cases h

/-- Looking first changes nothing. -/
theorem reads {m : EngineM α} {f : α → EngineM RequestResult} {a : α} (hm : m w = .ok a w)
    (hf : RefusesFirst (f a) w) : RefusesFirst (m >>= f) w := by
  intro reason w' h
  change EStateM.bind m f w = _ at h
  rw [EStateM.bind, hm] at h
  exact hf reason w' h

/-- A check that may throw. -/
theorem orThrow {x : Except EngineError α} {f : α → EngineM RequestResult}
    (hf : ∀ a, RefusesFirst (f a) w) : RefusesFirst (EngineM.orThrow x >>= f) w := by
  cases x with
  | ok a => exact reads rfl (hf a)
  | error e =>
    intro reason w' h
    cases h

/-- A conditional refuses first if both its branches do. -/
theorem ite {c : Prop} [Decidable c] {m₁ m₂ : EngineM RequestResult}
    (h₁ : c → RefusesFirst m₁ w) (h₂ : ¬ c → RefusesFirst m₂ w) :
    RefusesFirst (if c then m₁ else m₂) w := by
  split
  · exact h₁ ‹_›
  · exact h₂ ‹_›

end RefusesFirst

/-! ## The doors -/

/-- A reaction is checked, then run. -/
theorem submitReaction_refusesFirst (check : Except EngineError RequestResult)
    (run : EngineM Unit) : RefusesFirst (submitReaction check run) w :=
  .orThrow fun result => .ite (fun _ => .of_accepts (.after fun _ => .pure)) fun _ => .pure result

/-- An action that is queued has been accepted. -/
theorem enqueue_refusesFirst (fuel : Nat) (action : Action) :
    RefusesFirst (enqueue T em fuel action) w := by
  refine .reads (a := w.gs) rfl (.ite (fun _ => .pure _) fun _ => ?_)
  refine .reads (a := w) rfl (.ite (fun _ => .fail _) fun _ => ?_)
  refine .ite (fun _ => .pure _) fun _ => .ite (fun _ => .pure _) fun _ => .orThrow fun check => ?_
  refine .ite (fun _ => .of_accepts ?_) fun _ => .pure check
  exact .after fun _ => .after fun _ => .after fun _ => .after fun _ => .pure

/-- A pass is refused before it is noted. -/
theorem pass_refusesFirst (windowId : Nat) (playerId : String) :
    RefusesFirst (pass T em windowId playerId) w := by
  refine .reads (a := w.gs) rfl ?_
  split
  · exact .pure _
  · refine .ite (fun _ => .pure _) fun _ => .ite (fun _ => .pure _) fun _ => .of_accepts ?_
    refine .after fun _ => .after fun _ => ?_
    split
    · exact .after fun _ => .pure
    · exact .pure

/-- The command names an option that the choice it answers never offered. -/
def Command.unoffered (gs : GameState) : Command → Bool
  | .submitChoice windowId choice =>
    match gs.windowById windowId with
    | some (_, ⟨_, _, _, _, _, .choice body⟩) => (choice.filter (body.options.contains ·)).isNone
    | _ => false
  | _ => false

/-- An answer sent to a roll lands, one sent to a contest is refused at once, and an option that
was offered settles its choice. -/
theorem submitChoice_refusesFirst {windowId : Nat} {playerId : String} {choice : Option Pick}
    (hoffered : (Command.submitChoice windowId choice).unoffered w.gs = false) :
    RefusesFirst (submitChoice T em windowId playerId choice) w := by
  refine .reads (a := w.gs) rfl ?_
  cases hfound : w.gs.windowById windowId with
  | none => exact .pure _
  | some e =>
    obtain ⟨frameId, ⟨id, respondentId, timeoutMs, resolved, deadline, body⟩⟩ := e
    refine .ite (fun _ => ?_) fun _ => .pure _
    cases body with
    | roll body =>
      refine .of_accepts (.after fun _ => .after fun _ => .after fun _ => .after fun _ => ?_)
      exact .after fun _ => .after fun _ => .after fun _ => .pure
    | challenge body => exact .pure _
    | choice body =>
      refine .ite (fun _ => .pure _) fun _ => ?_
      cases hpick : choice.filter (body.options.contains ·) with
      | none =>
        simp only [Command.unoffered, hfound] at hoffered
        rw [hpick] at hoffered
        cases hoffered
      | some pick =>
        refine .reads (a := w.gs) rfl (.ite (fun _ => ?_) fun _ => .fail _)
        exact .of_accepts (.after fun _ => .pure)

/-- A refused command changes nothing: not the zones, the action points, the queue, the windows,
the frames or the stack, and nothing is announced. -/
theorem route_refused {fuel : Nat} {playerId : String} {command : Command} {reason : RefusalReason}
    (hoffered : command.unoffered w.gs = false)
    (h : (route T em fuel playerId command).run w = .ok (.refused reason) w') : w' = w := by
  suffices RefusesFirst (route T em fuel playerId command) w from this reason w' h
  cases command with
  | action kind => exact enqueue_refusesFirst fuel _
  | applyModifier cardId value targetPlayerId =>
    exact .reads (a := w.gs) rfl (submitReaction_refusesFirst _ _)
  | challenge cardId =>
    exact .reads (a := w.now) rfl (.reads (a := w.gs) rfl (submitReaction_refusesFirst _ _))
  | submitChoice windowId choice => exact submitChoice_refusesFirst hoffered
  | passWindow windowId => exact pass_refusesFirst windowId playerId

/-- The second seat may not draw on the first one's turn. -/
theorem route_refused_heroAtStake : ∃ w w', Reach heroAtStake w ∧
    (route heroAtStake.table (emit heroAtStake.table 40) 40 "B" (.action .drawCard)).run w =
      .ok (.refused .notYourTurn) w' ∧ w' = w := by
  obtain ⟨w, h, hplayed⟩ := Reach.of_play _ _ _ _ heroAtStake_played
  have hrun := (Bool.and_eq_true _ _ |>.mp hplayed).2
  split at hrun
  · rename_i w' hw'
    exact ⟨w, w', h, hw', route_refused rfl hw'⟩
  · cases hrun

end HereToSlaughter
