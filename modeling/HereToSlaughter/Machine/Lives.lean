import HereToSlaughter.Machine.Inner
import HereToSlaughter.Machine.Wins

/-!
# Frames, windows and actions have their day once

The ids of frames and windows are drawn from one counter and never given back. So what a history
tells of a frame comes in one order only: the frame opens, cards are spent into its windows and
pipelines are suspended on it while it stands, and it settles once, by its release or its
restoration, after which nothing is heard of it (`Lived`). A window stays in the frame it was put
in, asks about the card it was opened for, and does not open again. An action that was queued is
taken off the queue once, in its place in the line.
-/

namespace HereToSlaughter

open Lib

/-! ## What a history tells of frames -/

/-- The frame whose opening a mark tells of. -/
def Mark.openedFrame : Mark → Option Nat
  | .opened frameId _ => some frameId
  | _ => none

/-- The frame whose end a mark tells of. -/
def Mark.settledFrame : Mark → Option Nat
  | .released frameId .. | .restored frameId .. => some frameId
  | _ => none

/-- The frames that were opened, newest first. -/
def openedFrames (history : List Mark) : List Nat := history.filterMap Mark.openedFrame

/-- The frames that settled, newest first. -/
def settledFrames (history : List Mark) : List Nat := history.filterMap Mark.settledFrame

/-- The frame was opened and has not settled. -/
def Stood (frameId : Nat) (history : List Mark) : Prop :=
  frameId ∈ openedFrames history ∧ frameId ∉ settledFrames history

/-- Every mark about a frame comes in its order. -/
def Lived : List Mark → Prop
  | [] => True
  | .opened frameId _ :: history =>
    frameId ∉ openedFrames history ∧ frameId ∉ settledFrames history ∧ Lived history
  | .released frameId _ _ :: history | .restored frameId _ _ :: history
  | .spent _ _ frameId _ :: history | .suspended _ frameId :: history =>
    Stood frameId history ∧ Lived history
  | _ :: history => Lived history

/-- A frame opens once at most, and settles once at most, having been opened. -/
theorem Lived.once {history : List Mark} (h : Lived history) :
    (openedFrames history).Nodup ∧ (settledFrames history).Nodup ∧
      settledFrames history ⊆ openedFrames history := by
  induction history with
  | nil => exact ⟨.nil, .nil, fun _ h => h⟩
  | cons m history ih =>
    cases m with
    | opened frameId gs =>
      obtain ⟨hopened, -, hrest⟩ := h
      obtain ⟨hnodup, hsettled, hsubset⟩ := ih hrest
      exact ⟨List.nodup_cons.2 ⟨hopened, hnodup⟩, hsettled, List.subset_cons_of_subset _ hsubset⟩
    | released frameId before after | restored frameId before after =>
      obtain ⟨⟨hopened, hsettled⟩, hrest⟩ := h
      obtain ⟨hnodup, hnodup', hsubset⟩ := ih hrest
      exact ⟨hnodup, List.nodup_cons.2 ⟨hsettled, hnodup'⟩, List.cons_subset.2 ⟨hopened, hsubset⟩⟩
    | spent | suspended => exact ih h.2
    | _ => exact ih h

/-- The frames that are open are those that were opened and have not settled, until the game is
over. -/
structure Lives (x : Control × Shape) : Prop where
  drawn : ∀ frameId ∈ openedFrames x.2.history, frameId < x.2.nextId
  lived : Lived x.2.history
  standing : ∀ f ∈ x.2.frames, Stood f.id x.2.history
  kept : verdicts x.2.history = [] → ∀ frameId, Stood frameId x.2.history →
    frameOpen frameId x.2.frames

namespace Lives

variable {T : Table} {x y : Control × Shape}

/-- The frames stay, and the history says nothing more of them. -/
theorem congr {k k' : Control} {s s' : Shape} (h : Lives (k, s)) (hnext : s.nextId ≤ s'.nextId)
    (hopened : openedFrames s'.history = openedFrames s.history)
    (hsettled : settledFrames s'.history = settledFrames s.history)
    (hlived : Lived s'.history) (hverdicts : verdicts s'.history = [] → verdicts s.history = [])
    (hframes : s'.frames.map FrameShape.id = s.frames.map FrameShape.id) : Lives (k', s') := by
  refine ⟨fun F hF => ?_, hlived, fun f hf => ?_, fun hnone F hF => ?_⟩
  · exact Nat.lt_of_lt_of_le (h.drawn F (hopened ▸ hF)) hnext
  · obtain ⟨g, hg, hid⟩ := List.mem_map.1 (hframes ▸ List.mem_map_of_mem (f := FrameShape.id) hf)
    rw [Stood, hopened, hsettled, ← hid]
    exact h.standing g hg
  · rw [Stood, hopened, hsettled] at hF
    rw [frameOpen_iff, hframes, ← frameOpen_iff]
    exact h.kept (hverdicts hnone) F hF

/-- The frame settles. -/
theorem settle {k k' : Control} {s s' : Shape} {f : FrameShape} {m : Mark} (h : Lives (k, s))
    (hf : f ∈ s.frames) (hnext : s'.nextId = s.nextId)
    (hframes : s'.frames = s.frames.filter (·.id ≠ f.id)) (hhistory : s'.history = m :: s.history)
    (hopened : m.openedFrame = none) (hsettled : m.settledFrame = some f.id)
    (hlived : Stood f.id s.history ∧ Lived s.history → Lived (m :: s.history))
    (hverdicts : verdicts (m :: s.history) = verdicts s.history) : Lives (k', s') := by
  have hstood : ∀ F, Stood F s'.history ↔ Stood F s.history ∧ F ≠ f.id := by
    intro F
    simp only [Stood, openedFrames, settledFrames, hhistory, List.filterMap_cons, hopened, hsettled,
      List.mem_cons, not_or, and_assoc, and_comm (a := F ≠ f.id)]
  refine ⟨?_, ?_, fun g hg => ?_, fun hnone F hF => ?_⟩
  · rw [hhistory, hnext]
    simpa [openedFrames, hopened] using h.drawn
  · rw [hhistory]
    exact hlived ⟨h.standing f hf, h.lived⟩
  · rw [hframes, List.mem_filter, decide_eq_true_eq] at hg
    exact (hstood _).2 ⟨h.standing g hg.1, hg.2⟩
  · obtain ⟨hF, hne⟩ := (hstood F).1 hF
    rw [hhistory, hverdicts] at hnone
    rw [hframes, frameOpen_filter]
    exact ⟨h.kept hnone F hF, hne⟩

/-- Within a drain a frame opens under a fresh id, and only a conclusion takes frames away. -/
theorem inner (h : Lives x) (hids : Ids x.1 x.2) (hclearing : x.1.clearing = true →
    verdicts x.2.history ≠ []) (hstep : Inner T x y) : Lives y := by
  cases hstep with
  | idle n hn => exact h.congr hn rfl rfl h.lived id rfl
  | reserve | push => exact h.congr (Nat.le_succ _) rfl rfl h.lived id rfl
  | @«open» k s gs subject =>
    -- the id is new, and so nothing was heard of the frame
    have hopened : s.nextId ∉ openedFrames s.history := fun hmem =>
      Nat.lt_irrefl _ (h.drawn _ hmem)
    have hsettled : s.nextId ∉ settledFrames s.history := fun hmem =>
      hopened (h.lived.once.2.2 hmem)
    refine ⟨fun F hF => ?_, ⟨hopened, hsettled, h.lived⟩, fun f hf => ?_, fun hnone F hF => ?_⟩
    · obtain rfl | hF := List.mem_cons.1 hF
      · exact Nat.lt_succ_self _
      · exact Nat.lt_succ_of_lt (h.drawn F hF)
    · dsimp only at hf
      rw [insertFrame_fresh hids.frames_lt, List.mem_append, List.mem_singleton] at hf
      obtain hf | rfl := hf
      · exact ⟨List.mem_cons_of_mem _ (h.standing f hf).1, (h.standing f hf).2⟩
      · exact ⟨List.mem_cons_self, hsettled⟩
    · obtain rfl | hmem := List.mem_cons.1 hF.1
      · refine ⟨{ id := s.nextId, snapshot := s.board, windows := [] }, ?_, rfl⟩
        rw [show _ = s.frames ++ _ from insertFrame_fresh hids.frames_lt]
        exact List.mem_append_right _ List.mem_cons_self
      · exact frameOpen_insertFrame (h.kept hnone F ⟨hmem, hF.2⟩)
  | insert => exact h.congr (Nat.le_refl _) rfl rfl h.lived id (map_id_modifyFrame _ _ _)
  | pause hrun hopened hopen =>
    obtain ⟨f, hf, rfl⟩ := hopen
    exact h.congr (Nat.le_refl _) rfl rfl ⟨h.standing f hf, h.lived⟩ id rfl
  | declare => exact h.congr (Nat.le_refl _) rfl rfl h.lived (fun hnone => nomatch hnone) rfl
  | cancel => exact h.congr (Nat.le_refl _) rfl rfl h.lived id (map_id_close _ _)
  | clear hc =>
    exact ⟨h.drawn, h.lived, fun f hf => absurd hf List.not_mem_nil,
      fun hnone => absurd hnone (hclearing hc)⟩
  | announce | equip => exact h.congr (Nat.le_refl _) rfl rfl h.lived id rfl
  | _ => exact ⟨h.1, h.2, h.3, h.4⟩

/-- Between drains the frame that goes is the one that settles. -/
theorem outer (h : Lives x) (hids : Ids x.1 x.2) (hclearing : x.1.clearing = true →
    verdicts x.2.history ≠ []) (hstep : Outer T x y) : Lives y := by
  cases hstep with
  | inner hstep => exact h.inner hids hclearing hstep
  | spend hgs hk hsettling hcard hparty hframe =>
    obtain ⟨f, hf, rfl⟩ := hframe
    exact h.congr (Nat.le_refl _) rfl rfl ⟨h.standing f hf, h.lived⟩ id rfl
  | closeOne | closeLast => exact h.congr (Nat.le_refl _) rfl rfl h.lived id (map_id_close _ _)
  | release hk hsettling hf => exact h.settle hf rfl rfl rfl rfl rfl id rfl
  | restore hk hsettling hf => exact h.settle hf rfl rfl rfl rfl rfl id rfl
  | enqueue | execute | endTurn | startTurn => exact h.congr (Nat.le_refl _) rfl rfl h.lived id rfl
  | _ => exact ⟨h.1, h.2, h.3, h.4⟩

/-- So it goes along a run. -/
theorem path {T : PrintedTable} (h : Lives x) (hsound : Sound T.cards x) (hwon : Won T.toTable x)
    (hpath : (outerSystem T).Path x y) : Lives y := by
  induction hpath with
  | refl => exact h
  | tail hpath hstep ih =>
    have hsound := (outerSystem T).inv_of_path hpath hsound
    have hwon := hwon.path ‹Sound T.cards x› hpath
    exact ih.outer hsound.ids (fun hc => hwon.verdict.atEnd.1 (hwon.clearing hc)) hstep

end Lives

/-! ## A window's place -/

/-- What stays true of a window: the frame it is in, its kind, the card it is about, and that it
has closed, once it has. -/
structure WindowShape.Stays (frameId : Nat) (v : WindowShape) (F : Nat)
    (w : WindowShape) : Prop where
  frame : F = frameId
  type : w.type = v.type
  subject : w.subject = v.subject
  closed : v.resolved = true → w.resolved = true

/-- Wherever a window with this id stands, it is the window that stood in this frame. -/
structure Pinned (frameId : Nat) (v : WindowShape) (x : Control × Shape) : Prop where
  place : ∀ f ∈ x.2.frames, ∀ w ∈ f.windows, w.id = v.id → v.Stays frameId f.id w
  drawn : v.id < x.2.nextId
  unreserved : v.id ∉ x.1.reserved

namespace Pinned

variable {T : Table} {x y : Control × Shape} {frameId : Nat} {v : WindowShape}

/-- Ids are not given twice: a window that stands is pinned. -/
theorem start {k : Control} {s : Shape} {f : FrameShape} (hids : Ids k s) (hf : f ∈ s.frames)
    (hv : v ∈ f.windows) : Pinned f.id v (k, s) := by
  have hmem : v.id ∈ windowIds s.frames :=
    List.mem_flatMap.2 ⟨f, hf, List.mem_map_of_mem hv⟩
  refine ⟨fun g hg w hw hid => ?_, hids.windows_lt _ (List.mem_append_left _ hmem), fun hres => ?_⟩
  · obtain rfl : g = f := List.inj_on_of_nodup_map hids.frames_nodup hg hf
      (hids.window_unique hg hf (hid ▸ List.mem_map_of_mem hw) (List.mem_map_of_mem hv))
    have hnodup := (List.nodup_flatMap.1 (List.nodup_append.1 hids.windows_nodup).1).1 g hg
    obtain rfl : w = v := List.inj_on_of_nodup_map hnodup hw hv hid
    exact ⟨rfl, rfl, rfl, id⟩
  · exact (List.nodup_append.1 hids.windows_nodup).2.2 _ hmem _ hres rfl

/-- Frames may go. -/
theorem anti {k k' : Control} {s s' : Shape} (h : Pinned frameId v (k, s))
    (hframes : ∀ f ∈ s'.frames, f ∈ s.frames) (hreserved : k'.reserved = k.reserved)
    (hnext : s.nextId ≤ s'.nextId) : Pinned frameId v (k', s') :=
  ⟨fun f hf => h.place f (hframes f hf), Nat.lt_of_lt_of_le h.drawn hnext,
    hreserved ▸ h.unreserved⟩

/-- Windows may close. -/
theorem close {k k' : Control} {s : Shape} (h : Pinned frameId v (k, s)) (i : Nat)
    (hreserved : k'.reserved = k.reserved) :
    Pinned frameId v (k', { s with frames := s.frames.map (FrameShape.close i) }) := by
  refine ⟨fun f hf w hw hid => ?_, h.drawn, hreserved ▸ h.unreserved⟩
  obtain ⟨g, hg, rfl⟩ := List.mem_map.1 hf
  obtain ⟨u, hu, rfl⟩ := List.mem_map.1 hw
  split at hid
  · rw [if_pos ‹_›]
    obtain ⟨hframe, htype, hsubject, -⟩ := h.place g hg u hu hid
    exact ⟨hframe, htype, hsubject, fun _ => rfl⟩
  · rw [if_neg ‹_›]
    exact h.place g hg u hu hid

/-- Within a drain a window that comes in has an id of its own. -/
theorem inner (h : Pinned frameId v x) (hids : Ids x.1 x.2) (hstep : Inner T x y) :
    Pinned frameId v y := by
  cases hstep with
  | idle n hn => exact h.anti (fun _ hf => hf) rfl hn
  | @«open» k s =>
    refine ⟨fun f hf w hw => ?_, Nat.lt_succ_of_lt h.drawn, h.unreserved⟩
    dsimp only at hf
    rw [insertFrame_fresh hids.frames_lt, List.mem_append, List.mem_singleton] at hf
    obtain hf | rfl := hf
    · exact h.place f hf w hw
    · cases hw
  | reserve =>
    refine ⟨h.place, Nat.lt_succ_of_lt h.drawn, fun hmem => ?_⟩
    obtain heq | hmem := List.mem_cons.1 hmem
    · exact absurd heq (Nat.ne_of_lt h.drawn)
    · exact h.unreserved hmem
  | insert hid =>
    -- the window that goes in drew its id for itself
    refine ⟨fun f hf w hw heq => ?_, h.drawn, fun hmem => ?_⟩
    · obtain ⟨g, hg, rfl⟩ := List.mem_map.1 hf
      split at hw
      · rw [if_pos ‹_›]
        obtain hw | hw := List.mem_append.1 hw
        · exact h.place g hg w hw heq
        · refine absurd ?_ h.unreserved
          dsimp only
          rw [hid, ← List.mem_singleton.1 hw, heq]
          exact List.mem_cons_self
      · rw [if_neg ‹_›]
        exact h.place g hg w hw heq
    · refine h.unreserved ?_
      dsimp only
      rw [hid]
      exact List.mem_cons_of_mem _ hmem
  | push => exact h.anti (fun _ hf => hf) rfl (Nat.le_succ _)
  | cancel i => exact h.close i rfl
  | clear => exact h.anti (fun _ hf => absurd hf List.not_mem_nil) rfl (Nat.le_refl _)
  | _ => exact ⟨h.1, h.2, h.3⟩

/-- Between drains windows only close. -/
theorem outer (h : Pinned frameId v x) (hids : Ids x.1 x.2) (hstep : Outer T x y) :
    Pinned frameId v y := by
  cases hstep with
  | inner hstep => exact h.inner hids hstep
  | closeOne | closeLast => exact h.close _ rfl
  | release | restore => exact h.anti (fun _ hf => (List.mem_filter.1 hf).1) rfl (Nat.le_refl _)
  | _ => exact ⟨h.1, h.2, h.3⟩

/-- So it goes along a run. -/
theorem path {T : PrintedTable} (h : Pinned frameId v x) (hsound : Sound T.cards x)
    (hpath : (outerSystem T).Path x y) : Pinned frameId v y := by
  induction hpath with
  | refl => exact h
  | tail hpath hstep ih => exact ih.outer ((outerSystem T).inv_of_path hpath hsound).ids hstep

end Pinned

/-! ## The line of actions -/

/-- The action whose queueing a mark tells of. -/
def Mark.queuedAction : Mark → Option Action
  | .queued action _ => some action
  | _ => none

/-- The action whose execution a mark tells of. -/
def Mark.executedAction : Mark → Option Action
  | .executed action _ _ => some action
  | _ => none

/-- What was queued, oldest first. -/
def queuedActions (history : List Mark) : List Action :=
  (history.filterMap Mark.queuedAction).reverse

/-- What was executed, oldest first. -/
def executedActions (history : List Mark) : List Action :=
  (history.filterMap Mark.executedAction).reverse

/-- What was queued is the line of those that were taken off the queue, some of them to be executed,
and those that wait. -/
def InLine (x : Control × Shape) : Prop :=
  ∃ taken, queuedActions x.2.history = taken ++ x.2.queue ∧
    (executedActions x.2.history).Sublist taken

namespace InLine

variable {T : Table} {x y : Control × Shape}

/-- The queue stays, and the history says nothing of it. -/
theorem congr {k k' : Control} {s s' : Shape} (h : InLine (k, s)) (hqueue : s'.queue = s.queue)
    (hqueued : queuedActions s'.history = queuedActions s.history)
    (hexecuted : executedActions s'.history = executedActions s.history) : InLine (k', s') := by
  obtain ⟨taken, hline, hsub⟩ := h
  exact ⟨taken, by rw [hqueued, hqueue]; exact hline, hexecuted ▸ hsub⟩

/-- Within a drain the queue is left alone. -/
theorem inner (h : InLine x) (hstep : Inner T x y) : InLine y := by
  cases hstep with
  | announce | equip | «open» | pause | declare => exact h.congr rfl rfl rfl
  | _ => exact h

/-- Between drains actions join the line at its end and are taken off its front. -/
theorem outer (h : InLine x) (hstep : Outer T x y) : InLine y := by
  cases hstep with
  | inner hstep => exact h.inner hstep
  | @enqueue k s action =>
    obtain ⟨taken, hline, hsub⟩ := h
    refine ⟨taken, ?_, hsub⟩
    rw [← List.append_assoc, ← hline]
    exact List.reverse_cons
  | refuse hk hqueue =>
    obtain ⟨taken, hline, hsub⟩ := h
    dsimp only at hline
    rw [hqueue, List.append_cons] at hline
    exact ⟨_, hline, hsub.trans (List.sublist_append_left _ _)⟩
  | execute hk hsettling hbetween hqueue =>
    obtain ⟨taken, hline, hsub⟩ := h
    dsimp only at hline
    rw [hqueue, List.append_cons] at hline
    refine ⟨_, hline, ?_⟩
    simp only [executedActions, List.filterMap_cons, Mark.executedAction, List.reverse_cons]
    exact hsub.append (.refl _)
  | spend | release | restore | endTurn | startTurn => exact h.congr rfl rfl rfl
  | _ => exact h

/-- So it goes along a run. -/
theorem path {T : PrintedTable} (h : InLine x) (hpath : (outerSystem T).Path x y) : InLine y :=
  Relation.ReflTransGen.invariant (fun _ _ h hstep => h.outer hstep) hpath h

end InLine

end HereToSlaughter
