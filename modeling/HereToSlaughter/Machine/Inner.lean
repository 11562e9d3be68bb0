import HereToSlaughter.Machine.Sound

/-!
# What steps leave alone

Nothing that is worked off inside an input passes the turn on, takes an action off the queue or
puts one there, or settles a frame. A drain that is cut short was cut short by a frame that
opened meanwhile, and the history tells: since then the step that opened it announced an event that
a rule starts on, and nothing has gone out after it was suspended.
-/

namespace HereToSlaughter

open Lib

/-! ## The history -/

/-- A step of a drain takes no mark back. -/
theorem Inner.history {T : Table} {x y : Control × Shape} (h : Inner T x y) :
    x.2.history <:+ y.2.history := by
  cases h
  all_goals first
    | exact List.suffix_refl _
    | exact List.suffix_cons _ _

/-- Nor does a step between drains. -/
theorem Outer.history {T : Table} {x y : Control × Shape} (h : Outer T x y) :
    x.2.history <:+ y.2.history := by
  cases h with
  | inner hstep => exact hstep.history
  | _ =>
    first
      | exact List.suffix_refl _
      | exact List.suffix_cons _ _

/-- The history only grows. -/
theorem history_suffix {T : PrintedTable} {x y : Control × Shape} (h : (outerSystem T).Path x y) :
    x.2.history <:+ y.2.history := by
  induction h with
  | refl => exact List.suffix_refl _
  | tail _ hstep ih => exact ih.trans hstep.history

/-- A path inside an input is a path. -/
theorem outer_of_inner {T : PrintedTable} {x y : Control × Shape} (h : (innerSystem T).Path x y) :
    (outerSystem T).Path x y := Relation.ReflTransGen.mono (fun _ _ => Outer.inner) x y h

/-- A fact about boards that steps keep, paths keep. -/
theorem Everywhere.path {T : PrintedTable} {P : List Mark → Board → Prop} (hP : Keeps T.toTable P)
    {x y : Control × Shape} (h : Everywhere P x.2) (hpath : (outerSystem T).Path x y) :
    Everywhere P y.2 := by
  induction hpath with
  | refl => exact h
  | tail _ hstep ih => exact ih.outer hP hstep

/-! ## The turn -/

/-- What an action on a busy board waits for: a window is open, or the game is over. -/
structure Awaited (x : Control × Shape) : Prop where
  fresh : ∀ f ∈ x.2.frames, f.id < x.2.nextId
  clearing : x.1.clearing = true → x.2.board.gamePhase = .concluded
  waits : x.2.hasOpenFrames = true ∨ x.2.board.gamePhase = .concluded

namespace Awaited

variable {T : Table} {x y : Control × Shape}

/-- Windows stay open in the frames that stay, and the ghost and the phase with them. -/
theorem of_frames (h : Awaited x) (hfresh : ∀ f ∈ y.2.frames, f.id < y.2.nextId)
    (hclearing : y.1.clearing = x.1.clearing) (hphase : y.2.board.gamePhase = x.2.board.gamePhase)
    (hframes : x.2.hasOpenFrames = true → y.2.hasOpenFrames = true) : Awaited y :=
  ⟨hfresh, fun hc => hphase.trans (h.clearing (hclearing.symm.trans hc)),
    h.waits.imp hframes hphase.trans⟩

/-- A step of a drain closes no window before the game is over. -/
theorem inner (h : Awaited x) (hstep : Inner T x y) : Awaited y := by
  cases hstep with
  | idle n hn => exact h.of_frames (fun f hf => Nat.lt_of_lt_of_le (h.fresh f hf) hn) rfl rfl id
  | reserve | push =>
    exact h.of_frames (fun f hf => Nat.lt_succ_of_lt (h.fresh f hf)) rfl rfl id
  | edit hedit => exact h.of_frames h.fresh rfl hedit.verdict.1 id
  | @«open» k s gs subject =>
    have hnone : ¬ (s.frames.any fun f => f.id = s.nextId) = true := by
      simp only [List.any_eq_true, decide_eq_true_eq, not_exists, not_and]
      exact fun f hf => Nat.ne_of_lt (h.fresh f hf)
    refine h.of_frames (fun f hf => ?_) rfl rfl fun hopen => ?_
    · simp only [insertFrame, if_neg hnone, List.mem_append, List.mem_singleton] at hf
      obtain hf | rfl := hf
      · exact Nat.lt_succ_of_lt (h.fresh f hf)
      · exact Nat.lt_succ_self _
    · simp only [Shape.hasOpenFrames] at hopen ⊢
      rw [insertFrame, if_neg hnone, List.any_append, hopen, Bool.true_or]
  | @insert k s o reserved w hid ho =>
    refine h.of_frames (fun f hf => ?_) rfl rfl fun hopen => ?_
    · obtain ⟨g, hg, rfl⟩ := List.mem_map.1 hf
      split
      · exact h.fresh g hg
      · exact h.fresh g hg
    · obtain ⟨f, hf, hstands⟩ := List.any_eq_true.1 hopen
      refine List.any_eq_true.2 ⟨_, List.mem_map_of_mem hf, ?_⟩
      split
      · simp only [FrameShape.hasOpenWindow, FrameShape.addWindow, List.any_append] at hstands ⊢
        rw [hstands, Bool.true_or]
      · exact hstands
  | declare => exact ⟨h.fresh, fun _ => rfl, .inr rfl⟩
  | cancel windowId hclearing =>
    refine ⟨fun f hf => ?_, h.clearing, .inr (h.clearing hclearing)⟩
    obtain ⟨g, hg, rfl⟩ := List.mem_map.1 hf
    exact h.fresh g hg
  | clear hclearing =>
    exact ⟨fun f hf => absurd hf List.not_mem_nil, fun hc => absurd hc Bool.false_ne_true,
      .inr (h.clearing hclearing)⟩
  | _ => exact h.of_frames h.fresh rfl rfl id

end Awaited

/-- The turn stands where it stood, and so does what its actions wait for. -/
structure SameTurn (x y : Control × Shape) : Prop where
  current : y.2.board.currentPlayerId = x.2.board.currentPlayerId
  turn : y.2.turn = x.2.turn
  queue : y.2.queue = x.2.queue
  playerOrder : y.2.playerOrder = x.2.playerOrder
  settling : y.1.settling = x.1.settling
  marks : turnMarks y.2.history = turnMarks x.2.history
  awaited : Awaited x → Awaited y

namespace SameTurn

variable {T : Table} {x y z : Control × Shape}

/-- Where nothing happens the turn stands. -/
theorem refl : SameTurn x x := ⟨rfl, rfl, rfl, rfl, rfl, rfl, id⟩

/-- It stands over two stretches if over each. -/
theorem trans (h : SameTurn x y) (h' : SameTurn y z) : SameTurn x z :=
  ⟨h'.current.trans h.current, h'.turn.trans h.turn, h'.queue.trans h.queue,
    h'.playerOrder.trans h.playerOrder, h'.settling.trans h.settling, h'.marks.trans h.marks,
    h'.awaited ∘ h.awaited⟩

/-- A step of a drain leaves the turn where it stands. -/
theorem inner (h : Inner T x y) : SameTurn x y := by
  have hawaited : Awaited x → Awaited y := fun hx => hx.inner h
  cases h with
  | edit h => exact ⟨h.current, rfl, rfl, rfl, rfl, rfl, hawaited⟩
  | announce event _ _ hstart hend _ =>
    exact ⟨rfl, rfl, rfl, rfl, rfl, turnMarks_emitted hstart hend, hawaited⟩
  | _ => exact ⟨rfl, rfl, rfl, rfl, rfl, rfl, hawaited⟩

/-- What holds of every step holds of a path. -/
theorem path {T : PrintedTable} (h : (innerSystem T).Path x y) : SameTurn x y := by
  induction h with
  | refl => exact .refl
  | tail _ hstep ih => exact ih.trans (inner hstep)

end SameTurn

/-- Frames opened and drains cut short since the id `n` was to be drawn next. -/
structure Since (n : Nat) (x : Control × Shape) : Prop where
  next : n ≤ x.2.nextId
  opened : ∀ r, x.1.running = some r → ∀ frameId, r.opened = some frameId → n ≤ frameId
  cut : ∀ frameId, x.1.flow = .cut frameId → n ≤ frameId

namespace Since

variable {T : Table} {x y : Control × Shape} {n : Nat}

/-- A step of a drain opens a frame under an id drawn since. -/
theorem inner (h : Since n x) (hstep : Inner T x y) : Since n y := by
  cases hstep with
  | idle m hm => exact ⟨Nat.le_trans h.next hm, h.opened, h.cut⟩
  | «open» subject =>
    refine ⟨Nat.le_trans h.next (Nat.le_succ _), fun r hr F hF => ?_, h.cut⟩
    obtain ⟨r', -, rfl⟩ := Option.map_eq_some_iff.1 hr
    cases hF
    exact h.next
  | reserve | push => exact ⟨Nat.le_trans h.next (Nat.le_succ _), h.opened, h.cut⟩
  | take =>
    refine ⟨h.next, fun r hr F hF => ?_, h.cut⟩
    cases hr
    cases hF
  | done => exact ⟨h.next, fun r hr => (nomatch hr), h.cut⟩
  | pause hrun hopened =>
    refine ⟨h.next, fun r hr => (nomatch hr), fun F hF => ?_⟩
    dsimp only at hF
    split at hF
    · cases hF
    · cases hF
      exact h.opened _ hrun _ hopened
  | halt | stir => exact ⟨h.next, h.opened, fun F hF => (nomatch hF)⟩
  | _ => exact ⟨h.1, h.2, h.3⟩

/-- So does a whole drain. -/
theorem path {T : PrintedTable} (h : Since n x) (hpath : (innerSystem T).Path x y) : Since n y :=
  Relation.ReflTransGen.invariant (fun _ _ h hstep => h.inner hstep) hpath h

/-- When nothing runs and a drain may go on, nothing has been cut short yet. -/
theorem start {k : Control} {s : Shape} (hrunning : k.running = none) (hflow : k.flow = .flowing) :
    Since s.nextId (k, s) :=
  ⟨Nat.le_refl _, fun _ hr => (nomatch hrunning.symm.trans hr),
    fun _ hF => (nomatch hflow.symm.trans hF)⟩

end Since

/-! ## Drains that were cut short -/

/-- The step that was suspended last had heard an event that a rule starts on since it opened its
frame, and no event has gone out since it was suspended. -/
def Rules.overtook (rules : Rules) : List Mark → Bool
  | [] => false
  | .suspended _ frameId :: history => rules.startedSince frameId history
  | .emitted .. :: _ => false
  | _ :: history => overtook rules history

/-- A drain that may go on has not been cut short. -/
theorem Flow.not_cut {flow : Flow} (hflow : flow = .flowing) (frameId : Nat) :
    flow ≠ .cut frameId := by
  simp [hflow]

/-- A step that opens a frame runs on top of the stack, until an event it announces starts something
above it; and only that cuts a drain short. -/
structure Buried (T : Table) (x : Control × Shape) : Prop where
  running : ∀ r, x.1.running = some r → ∀ frameId, r.opened = some frameId → x.2.pipelines = [] ∨
    x.2.top.map PipelineShape.pid = some r.pid ∨ T.rules.startedSince frameId x.2.history = true
  cut : ∀ frameId, x.1.flow = .cut frameId → x.2.pipelines = [] ∨
    T.rules.overtook x.2.history = true

namespace Buried

variable {T : Table} {x y : Control × Shape}

/-- With nothing running a drain goes on, or has come to its end. -/
theorem of_idle (hrunning : x.1.running = none) (hflow : ∀ frameId, x.1.flow ≠ .cut frameId) :
    Buried T x :=
  ⟨fun _ hr => absurd (hr.symm.trans hrunning) (Option.some_ne_none _),
    fun F hcut => absurd hcut (hflow F)⟩

/-- A step of a drain cuts it short only when something was started above the step that is
suspended. -/
theorem inner (h : Buried T x) (hstep : Inner T x y) : Buried T y := by
  cases hstep with
  | announce event _ hflow =>
    refine ⟨fun r hr F hF => (h.running r hr F hF).imp id (.imp id fun hstarted => ?_),
      fun F hcut => absurd hcut (Flow.not_cut hflow F)⟩
    simp [Rules.startedSince, hstarted]
  | «open» subject hgs hsubject hbefore hrunning =>
    refine ⟨fun r hr F hF => ?_, fun F hcut => h.cut F hcut⟩
    obtain ⟨r', hr', rfl⟩ := Option.map_eq_some_iff.1 hr
    exact (hrunning r' hr').2.imp id .inl
  | push _ _ _ hflow _ _ _ _ hheard =>
    exact ⟨fun r hr F hF => .inr (.inr (hheard r hr F hF)),
      fun F hcut => absurd hcut (Flow.not_cut hflow F)⟩
  | pop hrun hflow =>
    exact of_idle hrun (Flow.not_cut hflow)
  | take hrun hflow =>
    refine ⟨fun r hr F hF => ?_, fun F hcut => absurd hcut (Flow.not_cut hflow F)⟩
    cases hr
    cases hF
  | done => exact ⟨fun _ hr => absurd hr.symm (Option.some_ne_none _), h.cut⟩
  | @pause k s r frameId hrun hopened =>
    refine ⟨fun _ hr => absurd hr.symm (Option.some_ne_none _), fun F hcut => ?_⟩
    dsimp only at hcut
    split at hcut
    · cases hcut
    · next htop =>
      cases hcut
      obtain hnil | htop' | hstarted := h.running r hrun _ hopened
      · exact .inl (by simp [modifyPipeline, show s.pipelines = [] from hnil])
      · exact absurd htop' htop
      · exact .inr hstarted
  | halt hrun | stir hrun => exact of_idle hrun (by simp)
  | clear => exact ⟨fun _ _ _ _ => .inl rfl, fun _ _ => .inl rfl⟩
  | _ => exact ⟨h.running, h.cut⟩

/-- A step between drains begins on a drain that has come to its end. -/
theorem outer (h : Buried T x) (hstep : Outer T x y) : Buried T y := by
  cases hstep with
  | inner hstep => exact h.inner hstep
  | release hk | restore hk | vanish hk | endTurn hk | startTurn hk =>
    exact of_idle hk.running (by simp)
  | wake hk _ hflow => exact of_idle hk.running (Flow.not_cut hflow)
  | _ => exact ⟨h.running, h.cut⟩

/-- So it goes along a run. -/
theorem path {T : PrintedTable} (h : Buried T.toTable x) (hpath : (outerSystem T).Path x y) :
    Buried T.toTable y :=
  Relation.ReflTransGen.invariant (fun _ _ h hstep => h.outer hstep) hpath h

end Buried

end HereToSlaughter
