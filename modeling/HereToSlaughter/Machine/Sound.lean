import HereToSlaughter.Machine.Standing

/-!
# What every step of the machine keeps

Eight groups of facts, each kept by every inner and every outer step. `Ids`: ids are drawn in
increasing order and never shared. `Stack`: a paused pipeline waits on a frame that is open or has
just settled, and the drain has stopped where its flow says. `Windowed`: an open frame holds an open
window, unless it still waits for one or is being settled. `Printed`: a pipeline runs steps of the
rules. `Subjects`: the windows of a frame are about one card. `Seats`: nobody joins the table or
leaves it. `TurnPoints`: the turn stands where the last mark of a turn left it. With the types of
what stands in a party (`Machine/Standing.lean`) they are the invariant of the machine, `Sound`.
-/

namespace HereToSlaughter

open Lib

/-! ## The lists the steps change -/

/-- The ids of all windows. -/
def windowIds (frames : List FrameShape) : List Nat :=
  frames.flatMap fun f => f.windows.map WindowShape.id

/-- A frame with a fresh id goes to the end. -/
theorem insertFrame_fresh {n : Nat} {b : Board} {frames : List FrameShape}
    (h : ∀ f ∈ frames, f.id < n) : insertFrame n b frames = frames ++ [⟨n, b, []⟩] := by
  rw [insertFrame, if_neg]
  simp only [List.any_eq_true, decide_eq_true_eq, not_exists, not_and]
  exact fun f hf hid => absurd (h f hf) (by omega)

/-- A pipeline changed keeps its id. -/
theorem map_pid_modifyPipeline (pid : Nat) {f : PipelineShape → PipelineShape}
    (hf : ∀ p, (f p).pid = p.pid) (ps : List PipelineShape) :
    (modifyPipeline pid f ps).map PipelineShape.pid = ps.map PipelineShape.pid := by
  rw [modifyPipeline, List.map_map]
  refine List.map_congr_left fun p _ => ?_
  simp only [Function.comp_apply]
  split
  · exact hf p
  · rfl

/-- Pipelines woken keep their ids. -/
theorem map_pid_wake (frameId : Nat) (ps : List PipelineShape) :
    (wake frameId ps).map PipelineShape.pid = ps.map PipelineShape.pid := by
  rw [wake, List.map_map]
  refine List.map_congr_left fun p _ => ?_
  simp only [Function.comp_apply]
  split <;> rfl

/-- A frame with one window more keeps its id. -/
theorem map_id_modifyFrame (frameId : Nat) (w : WindowShape) (fs : List FrameShape) :
    (modifyFrame frameId (FrameShape.addWindow w) fs).map FrameShape.id = fs.map FrameShape.id := by
  rw [modifyFrame, List.map_map]
  refine List.map_congr_left fun f _ => ?_
  simp only [Function.comp_apply]
  split <;> rfl

/-- A frame with a window closed keeps its id. -/
theorem map_id_close (windowId : Nat) (fs : List FrameShape) :
    (fs.map (FrameShape.close windowId)).map FrameShape.id = fs.map FrameShape.id := by
  rw [List.map_map]; rfl

/-- A window closed keeps its id. -/
theorem windowIds_close (windowId : Nat) (fs : List FrameShape) :
    windowIds (fs.map (FrameShape.close windowId)) = windowIds fs := by
  rw [windowIds, List.flatMap_map]
  refine List.flatMap_congr fun f _ => ?_
  simp only [FrameShape.close, List.map_map]
  refine List.map_congr_left fun w _ => ?_
  simp only [Function.comp_apply]
  split <;> rfl

/-- An insertion adds its window at most once: no two frames share an id. -/
theorem count_windowIds_modifyFrame (frameId : Nat) (w : WindowShape) (x : Nat) :
    ∀ {fs : List FrameShape}, (fs.map FrameShape.id).Nodup →
      (windowIds (modifyFrame frameId (FrameShape.addWindow w) fs)).count x ≤
        (windowIds fs).count x + if w.id = x then 1 else 0
  | [], _ => by simp [windowIds, modifyFrame]
  | f :: fs, h => by
    obtain ⟨hf, hfs⟩ := List.nodup_cons.1 h
    have ih := count_windowIds_modifyFrame frameId w x hfs
    simp only [windowIds, modifyFrame, List.map_cons, List.flatMap_cons, List.count_append] at ih ⊢
    by_cases hid : f.id = frameId
    · have hrest : (fs.map fun frame => if frame.id = frameId then frame.addWindow w else frame) =
          fs := by
        refine (List.map_congr_left fun g hg => ?_).trans (List.map_id fs)
        have : g.id ≠ frameId := fun hg' => hf (hid ▸ hg' ▸ List.mem_map_of_mem hg)
        simp [this]
      rw [hrest, if_pos hid]
      simp only [FrameShape.addWindow, List.map_append, List.map_cons, List.map_nil,
        List.count_append, List.count_cons, List.count_nil, beq_iff_eq]
      omega
    · rw [if_neg hid]
      omega

/-! ## Ids -/

/-- Ids are below the counter, and no two things of a kind share one: frames stand in the order
they opened, pipelines newest first. -/
structure Ids (k : Control) (s : Shape) : Prop where
  frames_lt : ∀ f ∈ s.frames, f.id < s.nextId
  frames_sorted : (s.frames.map FrameShape.id).Pairwise (· < ·)
  pids_lt : ∀ p ∈ s.pipelines, p.pid < s.nextId
  pids_sorted : (s.pipelines.map PipelineShape.pid).Pairwise (· > ·)
  windows_lt : ∀ i ∈ windowIds s.frames ++ k.reserved, i < s.nextId
  windows_nodup : (windowIds s.frames ++ k.reserved).Nodup
  opening_lt : ∀ o ∈ k.opening, o.frameId < s.nextId

namespace Ids

variable {k k' : Control} {s s' : Shape}

/-- No two frames share an id. -/
theorem frames_nodup (h : Ids k s) : (s.frames.map FrameShape.id).Nodup :=
  h.frames_sorted.imp fun hlt => Nat.ne_of_lt hlt

/-- Frames and pipelines may be dropped, openings forgotten, ids left unused. -/
theorem anti (h : Ids k s) (hframes : List.Sublist s'.frames s.frames)
    (hpids : List.Sublist (s'.pipelines.map PipelineShape.pid) (s.pipelines.map PipelineShape.pid))
    (hreserved : k'.reserved = k.reserved) (hopening : ∀ o ∈ k'.opening, o ∈ k.opening)
    (hnext : s.nextId ≤ s'.nextId) : Ids k' s' where
  frames_lt f hf := Nat.lt_of_lt_of_le (h.frames_lt f (hframes.subset hf)) hnext
  frames_sorted := h.frames_sorted.sublist (hframes.map _)
  pids_lt p hp := by
    obtain ⟨q, hq, hpid⟩ := List.mem_map.1 (hpids.subset (List.mem_map_of_mem hp))
    exact hpid ▸ Nat.lt_of_lt_of_le (h.pids_lt q hq) hnext
  pids_sorted := h.pids_sorted.sublist hpids
  windows_lt i hi := by
    refine Nat.lt_of_lt_of_le (h.windows_lt i ?_) hnext
    simp only [List.mem_append, windowIds, List.mem_flatMap, hreserved] at hi ⊢
    exact hi.imp (fun ⟨f, hf, hi⟩ => ⟨f, hframes.subset hf, hi⟩) id
  windows_nodup := by
    refine h.windows_nodup.sublist ?_
    rw [hreserved]
    exact (hframes.flatMap _).append_right _
  opening_lt o ho := Nat.lt_of_lt_of_le (h.opening_lt o (hopening o ho)) hnext

/-- Windows may close. -/
theorem close (h : Ids k s) (windowId : Nat) :
    Ids k { s with frames := s.frames.map (FrameShape.close windowId) } where
  frames_lt f hf := by
    obtain ⟨g, hg, rfl⟩ := List.mem_map.1 hf
    exact h.frames_lt g hg
  frames_sorted := by rw [map_id_close]; exact h.frames_sorted
  pids_lt := h.pids_lt
  pids_sorted := h.pids_sorted
  windows_lt := by rw [windowIds_close]; exact h.windows_lt
  windows_nodup := by rw [windowIds_close]; exact h.windows_nodup
  opening_lt := h.opening_lt

/-- A window drawn from the reserve goes into its frame. -/
theorem insert (h : Ids k s) {o : Opening} {w : WindowShape} {reserved : List Nat}
    (hid : k.reserved = w.id :: reserved) :
    Ids { k with reserved, opening := markShown o.frameId k.opening }
      { s with frames := modifyFrame o.frameId (FrameShape.addWindow w) s.frames } where
  frames_lt f hf := by
    obtain ⟨g, hg, hid⟩ := List.mem_map.1 (map_id_modifyFrame o.frameId w s.frames ▸
      List.mem_map_of_mem (f := FrameShape.id) hf)
    exact hid ▸ h.frames_lt g hg
  frames_sorted := by
    show ((modifyFrame _ _ _).map FrameShape.id).Pairwise _
    rw [map_id_modifyFrame]; exact h.frames_sorted
  pids_lt := h.pids_lt
  pids_sorted := h.pids_sorted
  windows_lt i hi := by
    refine h.windows_lt i (List.count_pos_iff.1 ?_)
    have hcount := count_windowIds_modifyFrame o.frameId w i h.frames_nodup
    have hpos := List.count_pos_iff.2 hi
    simp only [hid, List.count_append, List.count_cons, beq_iff_eq] at hpos ⊢
    omega
  windows_nodup := by
    rw [List.nodup_iff_count_le_one]
    intro i
    have hcount := count_windowIds_modifyFrame o.frameId w i h.frames_nodup
    have hle := List.nodup_iff_count_le_one.1 h.windows_nodup i
    simp only [hid, List.count_append, List.count_cons, beq_iff_eq] at hle ⊢
    omega
  opening_lt o' ho' := by
    obtain ⟨o'', ho'', rfl⟩ := List.mem_map.1 ho'
    have := h.opening_lt o'' ho''
    split <;> exact this

/-- Within a drain a frame, a window or a pipeline that comes in takes the id drawn for it. -/
theorem inner {T : Table} {x y : Control × Shape} (h : Ids x.1 x.2) (hstep : Inner T x y) :
    Ids y.1 y.2 := by
  cases hstep with
  | idle n hn => exact h.anti (.refl _) (.refl _) rfl (fun _ ho => ho) hn
  | «open» subject hgs hsubject hbefore hrunning haction =>
    rename_i k s gs
    have hframes := insertFrame_fresh (b := s.board) h.frames_lt
    refine ⟨?_, ?_, fun p hp => Nat.lt_succ_of_lt (h.pids_lt p hp), h.pids_sorted, ?_, ?_, ?_⟩
    · intro f hf
      simp only [hframes, List.mem_append, List.mem_singleton] at hf
      rcases hf with hf | rfl
      · exact Nat.lt_succ_of_lt (h.frames_lt f hf)
      · exact Nat.lt_succ_self _
    · simp only [hframes, List.map_append, List.map_cons, List.map_nil, List.pairwise_append,
        List.pairwise_singleton, List.mem_map, List.mem_singleton]
      refine ⟨h.frames_sorted, trivial, ?_⟩
      rintro _ ⟨f, hf, rfl⟩ _ rfl
      exact h.frames_lt f hf
    · intro i hi
      refine Nat.lt_succ_of_lt (h.windows_lt i ?_)
      simpa [hframes, windowIds, Control.opens] using hi
    · simpa [hframes, windowIds, Control.opens] using h.windows_nodup
    · intro o ho
      simp only [Control.opens, List.mem_cons] at ho
      rcases ho with rfl | ho
      · exact Nat.lt_succ_self _
      · exact Nat.lt_succ_of_lt (h.opening_lt o ho)
  | reserve =>
    rename_i k s
    refine ⟨fun f hf => Nat.lt_succ_of_lt (h.frames_lt f hf), h.frames_sorted,
      fun p hp => Nat.lt_succ_of_lt (h.pids_lt p hp), h.pids_sorted, ?_, ?_,
      fun o ho => Nat.lt_succ_of_lt (h.opening_lt o ho)⟩
    · intro i hi
      have := h.windows_lt i
      simp only [List.mem_append, List.mem_cons] at hi this ⊢
      rcases hi with hi | rfl | hi
      · exact Nat.lt_succ_of_lt (this (.inl hi))
      · exact Nat.lt_succ_self _
      · exact Nat.lt_succ_of_lt (this (.inr hi))
    · refine List.nodup_middle.2 (List.nodup_cons.2 ⟨fun hmem => ?_, h.windows_nodup⟩)
      exact absurd (h.windows_lt _ hmem) (Nat.lt_irrefl _)
  | insert hid => exact h.insert hid
  | opened ho =>
    exact h.anti (.refl _) (.refl _) rfl (fun o' ho' => ho ▸ List.mem_cons_of_mem _ ho')
      (Nat.le_refl _)
  | push steps system =>
    rename_i k s type
    refine ⟨fun f hf => Nat.lt_succ_of_lt (h.frames_lt f hf), h.frames_sorted, ?_, ?_,
      fun i hi => Nat.lt_succ_of_lt (h.windows_lt i hi), h.windows_nodup,
      fun o ho => Nat.lt_succ_of_lt (h.opening_lt o ho)⟩
    · intro p hp
      rcases List.mem_cons.1 hp with rfl | hp
      · exact Nat.lt_succ_self _
      · exact Nat.lt_succ_of_lt (h.pids_lt p hp)
    · simp only [List.map_cons, List.pairwise_cons, List.mem_map]
      refine ⟨?_, h.pids_sorted⟩
      rintro _ ⟨p, hp, rfl⟩
      exact h.pids_lt p hp
  | pop hrun hflow hstack =>
    refine h.anti (.refl _) ?_ rfl (fun _ ho => ho) (Nat.le_refl _)
    rw [hstack]
    exact List.sublist_cons_self ..
  | take | pause =>
    refine h.anti (.refl _) ?_ rfl (fun _ ho => ho) (Nat.le_refl _)
    dsimp only
    rw [map_pid_modifyPipeline]
    exact fun _ => rfl
  | cancel windowId => exact h.close windowId
  | clear =>
    exact h.anti (List.nil_sublist _) (List.nil_sublist _) rfl (fun _ ho => ho) (Nat.le_refl _)
  | _ => exact ⟨h.1, h.2, h.3, h.4, h.5, h.6, h.7⟩

/-- Between drains frames only go and windows only close. -/
theorem outer {T : Table} {x y : Control × Shape} (h : Ids x.1 x.2) (hstep : Outer T x y) :
    Ids y.1 y.2 := by
  cases hstep with
  | inner hstep => exact h.inner hstep
  | closeOne | closeLast =>
    have := h.close ‹WindowShape›.id
    exact ⟨this.1, this.2, this.3, this.4, this.5, this.6, this.7⟩
  | release =>
    exact h.anti List.filter_sublist (.refl _) rfl (fun _ ho => ho) (Nat.le_refl _)
  | restore =>
    exact h.anti List.filter_sublist (List.filter_sublist.map _) rfl (fun _ ho => ho)
      (Nat.le_refl _)
  | wake =>
    refine h.anti (.refl _) ?_ rfl (fun _ ho => ho) (Nat.le_refl _)
    dsimp only
    rw [map_pid_wake]
  | _ => exact ⟨h.1, h.2, h.3, h.4, h.5, h.6, h.7⟩

end Ids

/-! ## Open frames -/

/-- A frame is open if its id is there. -/
theorem frameOpen_iff {frameId : Nat} {fs : List FrameShape} :
    frameOpen frameId fs ↔ frameId ∈ fs.map FrameShape.id := by
  simp [frameOpen, List.mem_map]

/-- An open frame stays open as another one opens. -/
theorem frameOpen_insertFrame {frameId n : Nat} {b : Board} {fs : List FrameShape}
    (h : frameOpen frameId fs) : frameOpen frameId (insertFrame n b fs) := by
  obtain ⟨f, hf, rfl⟩ := h
  unfold insertFrame
  split
  · refine ⟨_, List.mem_map_of_mem hf, ?_⟩
    split
    · exact Eq.symm ‹_›
    · rfl
  · exact ⟨f, List.mem_append_left _ hf, rfl⟩

/-- So it does as a window is added. -/
theorem frameOpen_modifyFrame {frameId n : Nat} {w : WindowShape} {fs : List FrameShape} :
    frameOpen frameId (modifyFrame n (FrameShape.addWindow w) fs) ↔ frameOpen frameId fs := by
  rw [frameOpen_iff, map_id_modifyFrame, frameOpen_iff]

/-- So it does as a window closes. -/
theorem frameOpen_close {frameId windowId : Nat} {fs : List FrameShape} :
    frameOpen frameId (fs.map (FrameShape.close windowId)) ↔ frameOpen frameId fs := by
  rw [frameOpen_iff, map_id_close, frameOpen_iff]

/-- So it does as another frame goes. -/
theorem frameOpen_filter {frameId n : Nat} {fs : List FrameShape} :
    frameOpen frameId (fs.filter (·.id ≠ n)) ↔ frameOpen frameId fs ∧ frameId ≠ n := by
  simp only [frameOpen, List.mem_filter, decide_eq_true_eq]
  constructor
  · rintro ⟨f, ⟨hf, hne⟩, rfl⟩; exact ⟨⟨f, hf, rfl⟩, hne⟩
  · rintro ⟨⟨f, hf, rfl⟩, hne⟩; exact ⟨f, ⟨hf, hne⟩, rfl⟩

/-- A pipeline of a changed stack comes from one of the stack before. -/
theorem mem_modifyPipeline {pid : Nat} {f : PipelineShape → PipelineShape} {p : PipelineShape}
    {ps : List PipelineShape} (h : p ∈ modifyPipeline pid f ps) :
    ∃ q ∈ ps, (q.pid = pid ∧ p = f q) ∨ (q.pid ≠ pid ∧ p = q) := by
  obtain ⟨q, hq, rfl⟩ := List.mem_map.1 h
  by_cases hpid : q.pid = pid
  · exact ⟨q, hq, .inl ⟨hpid, by simp [hpid]⟩⟩
  · exact ⟨q, hq, .inr ⟨hpid, by simp [hpid]⟩⟩

/-! ## What an edit leaves alone -/

/-- An edit concludes nothing. -/
theorem Edit.verdict {T : Table} {k : Control} {s : Shape} {fl : List String} {b : Board}
    (h : Edit T k s fl b) :
    b.gamePhase = s.board.gamePhase ∧ b.winnerId = s.board.winnerId := by
  cases h with
  | move h _ _ =>
    exact ⟨(congrArg Board.gamePhase h.rest : _), (congrArg Board.winnerId h.rest : _)⟩
  | _ => exact ⟨rfl, rfl⟩

/-- An edit passes no turn on. -/
theorem Edit.current {T : Table} {k : Control} {s : Shape} {fl : List String} {b : Board}
    (h : Edit T k s fl b) :
    b.currentPlayerId = s.board.currentPlayerId := by
  cases h with
  | move h _ _ => exact (congrArg Board.currentPlayerId h.rest : _)
  | _ => rfl

namespace GameState

/-- Spent cards put away change parties and the discard pile, nothing else. -/
theorem putAway_rest (spent : List (String × String)) :
    ∀ b : Board, putAway spent b = { b with
      parties := (putAway spent b).parties, discardPile := (putAway spent b).discardPile } := by
  induction spent with
  | nil => intro b; rfl
  | cons s spent ih => intro b; exact ih _

/-- Spent cards taken back change hands and the discard pile, nothing else. -/
theorem takeBack_rest (spent : List (String × String)) :
    ∀ b : Board, takeBack spent b = { b with
      players := (takeBack spent b).players, discardPile := (takeBack spent b).discardPile } := by
  induction spent with
  | nil => intro b; rfl
  | cons s spent ih => intro b; exact ih _

end GameState

/-! ## The stack -/

/-- A paused pipeline waits on a frame that is open or just gone, a halted drain has nothing to
run, one cut short leaves its frame open, a finished game has an empty stack, and no snapshot
remembers another verdict. -/
structure Stack (k : Control) (s : Shape) : Prop where
  paused : ∀ p ∈ s.pipelines, ∀ frameId, p.pausedOn = some frameId →
    frameOpen frameId s.frames ∨ k.settling = .gone frameId
  halted : k.flow = .halted → s.pipelines = [] ∨ ∃ p, s.top = some p ∧ p.pausedOn.isSome
  cut : ∀ frameId, k.flow = .cut frameId → frameOpen frameId s.frames
  atEnd : s.board.gamePhase = .concluded → k.clearing = false → s.pipelines = []
  verdicts : ∀ f ∈ s.frames, k.clearing = true ∨
    f.snapshot.gamePhase = s.board.gamePhase ∧ f.snapshot.winnerId = s.board.winnerId

namespace Stack

/-- Within a drain a pipeline pauses on the frame its step opened, and only a conclusion takes
frames away, with the whole stack. -/
theorem inner {T : Table} {x y : Control × Shape} (h : Stack x.1 x.2) (hstep : Inner T x y) :
    Stack y.1 y.2 := by
  cases hstep with
  | edit hedit =>
    obtain ⟨hphase, hwinner⟩ := hedit.verdict
    refine ⟨h.paused, h.halted, h.cut, fun ho => h.atEnd (hphase ▸ ho), fun f hf => ?_⟩
    rw [hphase, hwinner]
    exact h.verdicts f hf
  | «open» subject =>
    refine ⟨fun p hp F hF => (h.paused p hp F hF).imp frameOpen_insertFrame id, h.halted,
      fun F hF => frameOpen_insertFrame (h.cut F hF), h.atEnd, fun f hf => ?_⟩
    unfold insertFrame at hf
    split at hf
    · obtain ⟨g, hg, rfl⟩ := List.mem_map.1 hf
      split
      · exact .inr ⟨rfl, rfl⟩
      · exact h.verdicts g hg
    · rcases List.mem_append.1 hf with hf | hf
      · exact h.verdicts f hf
      · rw [List.mem_singleton.1 hf]
        exact .inr ⟨rfl, rfl⟩
  | insert =>
    refine ⟨fun p hp F hF => (h.paused p hp F hF).imp frameOpen_modifyFrame.2 id, h.halted,
      fun F hF => frameOpen_modifyFrame.2 (h.cut F hF), h.atEnd, fun f hf => ?_⟩
    obtain ⟨g, hg, rfl⟩ := List.mem_map.1 hf
    have := h.verdicts g hg
    split <;> exact this
  | push steps system hrule hflow hphase =>
    refine ⟨fun p hp F hF => ?_, fun hh => ?_, h.cut, fun ho => absurd ho hphase, h.verdicts⟩
    · rcases List.mem_cons.1 hp with rfl | hp
      · cases hF
      · exact h.paused p hp F hF
    · rw [hflow] at hh; cases hh
  | pop hrun hflow hstack =>
    refine ⟨fun p hp => h.paused p (hstack ▸ List.mem_cons_of_mem _ hp), fun hh => ?_, h.cut,
      fun ho hc => ?_, h.verdicts⟩
    · rw [hflow] at hh; cases hh
    · have := h.atEnd ho hc
      rw [hstack] at this; cases this
  | take hrun hflow hstack hpaused =>
    refine ⟨fun p hp F hF => ?_, fun hh => ?_, h.cut, fun ho hc => ?_, h.verdicts⟩
    · obtain ⟨q, hq, ⟨-, rfl⟩ | ⟨-, rfl⟩⟩ := mem_modifyPipeline hp
      · exact h.paused _ hq F hF
      · exact h.paused _ hq F hF
    · rw [hflow] at hh; cases hh
    · rw [h.atEnd ho hc]; rfl
  | pause hrun hopened hopen =>
    rename_i k s r frameId
    refine ⟨fun p hp F hF => ?_, fun hh => ?_, fun F hF => ?_, fun ho hc => ?_, h.verdicts⟩
    · obtain ⟨q, hq, ⟨-, rfl⟩ | ⟨-, rfl⟩⟩ := mem_modifyPipeline hp
      · simp only [PipelineShape.park, Option.some.injEq] at hF
        exact .inl (hF ▸ hopen)
      · exact h.paused _ hq F hF
    · dsimp only at hh
      split at hh
      · rename_i htop
        obtain ⟨p, hp, hpid⟩ := Option.map_eq_some_iff.1 htop
        obtain ⟨ps, hps⟩ : ∃ ps, s.pipelines = p :: ps := List.head?_eq_some_iff.1 hp
        exact .inr ⟨p.park frameId, by simp [Shape.top, modifyPipeline, hps, hpid], rfl⟩
      · cases hh
    · dsimp only at hF
      split at hF
      · cases hF
      · cases hF; exact hopen
    · rw [h.atEnd ho hc]; rfl
  | halt hrun hclearing hstack =>
    refine ⟨h.paused, fun _ => ?_, fun _ hF => (nomatch hF), h.atEnd, h.verdicts⟩
    rcases hstack with hempty | hphase | hpaused
    · exact .inl hempty
    · exact .inl (h.atEnd hphase hclearing)
    · exact .inr hpaused
  | stir => exact ⟨h.paused, fun hh => (nomatch hh), fun _ hF => (nomatch hF), h.atEnd, h.verdicts⟩
  | declare =>
    exact ⟨h.paused, h.halted, h.cut, fun _ hc => (nomatch hc), fun _ _ => .inl rfl⟩
  | cancel =>
    refine ⟨fun p hp F hF => (h.paused p hp F hF).imp frameOpen_close.2 id, h.halted,
      fun F hF => frameOpen_close.2 (h.cut F hF), h.atEnd, fun f hf => ?_⟩
    obtain ⟨g, hg, rfl⟩ := List.mem_map.1 hf
    exact h.verdicts g hg
  | clear hclearing hflow =>
    refine ⟨fun p hp => (nomatch hp), fun _ => .inl rfl, fun F hF => ?_, fun _ _ => rfl,
      fun f hf => (nomatch hf)⟩
    rw [hflow] at hF; cases hF
  | _ => exact ⟨h.1, h.2, h.3, h.4, h.5⟩

/-- Between drains a frame that goes is the one whose pipelines are about to wake. -/
theorem outer {T : Table} {x y : Control × Shape} (h : Stack x.1 x.2) (hstep : Outer T x y) :
    Stack y.1 y.2 := by
  cases hstep with
  | inner hstep => exact h.inner hstep
  | spend => exact ⟨h.1, h.2, h.3, h.4, h.5⟩
  | closeOne | closeLast =>
    refine ⟨fun p hp F hF => ?_, h.halted, fun F hF => frameOpen_close.2 (h.cut F hF), h.atEnd,
      fun f hf => ?_⟩
    · refine (h.paused p hp F hF).imp frameOpen_close.2 fun hs => ?_
      simp_all
    · obtain ⟨g, hg, rfl⟩ := List.mem_map.1 hf
      exact h.verdicts g hg
  | release hk hsettling hf hgs hgs' =>
    rename_i k s gs gs' f subject
    have hboard := GameState.putAway_rest (s.spentInto f) s.board
    refine ⟨fun p hp F hF => ?_, fun hh => (nomatch hh), fun F hF => (nomatch hF), fun ho => ?_,
      fun g hg => ?_⟩
    · by_cases hne : F = f.id
      · exact .inr (by rw [hne])
      · rcases h.paused p hp F hF with hopen | hgone
        · exact .inl (frameOpen_filter.2 ⟨hopen, hne⟩)
        · rw [hsettling] at hgone; cases hgone
    · dsimp only at ho
      rw [hboard] at ho
      exact h.atEnd ho
    · dsimp only
      rw [hboard]
      exact h.verdicts g (List.mem_filter.1 hg).1
  | restore hk hsettling hf hgs hgs' hflow =>
    rename_i k s gs gs' f subject
    have hboard := GameState.takeBack_rest (s.spentInto f) f.snapshot
    obtain ⟨hphase, hwinner⟩ := (h.verdicts f hf).resolve_left (by simp [hk.clearing])
    refine ⟨fun p hp F hF => ?_, fun hh => (nomatch hh), fun F hF => (nomatch hF), fun ho hc => ?_,
      fun g hg => ?_⟩
    · obtain ⟨hp, hne⟩ := List.mem_filter.1 hp
      rcases h.paused p hp F hF with hopen | hgone
      · refine .inl (frameOpen_filter.2 ⟨hopen, fun heq => ?_⟩)
        simp [hF, heq] at hne
      · rw [hsettling] at hgone; cases hgone
    · dsimp only at ho ⊢
      rw [hboard] at ho
      rw [h.atEnd (hphase ▸ ho) hc]
      rfl
    · dsimp only
      rw [hboard]
      dsimp only
      rw [hphase, hwinner]
      exact h.verdicts g (List.mem_filter.1 hg).1
  | vanish hk hsettling hf =>
    refine ⟨fun p hp F hF => ?_, fun hh => (nomatch hh), fun F hF => (nomatch hF), h.atEnd,
      h.verdicts⟩
    rcases h.paused p hp F hF with hopen | hgone
    · exact .inl hopen
    · rw [hsettling] at hgone; cases hgone
  | wake hk hsettling hflow =>
    refine ⟨fun p hp F hF => ?_, fun hh => ?_, h.cut, fun ho hc => ?_, h.verdicts⟩
    · obtain ⟨q, hq, rfl⟩ := List.mem_map.1 hp
      split at hF
      · cases hF
      · rename_i hne
        refine .inl ((h.paused q hq F hF).resolve_right fun hgone => ?_)
        rw [hsettling] at hgone
        cases hgone
        exact hne hF
    · rw [hflow] at hh; cases hh
    · dsimp only
      rw [h.atEnd ho hc]; rfl
  | finish hk hsettling hphase =>
    have hempty := h.atEnd hphase hk.clearing
    exact ⟨fun p hp => (nomatch (hempty ▸ hp : p ∈ [])), h.halted, h.cut, h.atEnd, h.verdicts⟩
  | endTurn =>
    exact ⟨h.paused, fun hh => (nomatch hh), fun F hF => (nomatch hF), h.atEnd, h.verdicts⟩
  | startTurn =>
    exact ⟨h.paused, fun hh => (nomatch hh), fun F hF => (nomatch hF), h.atEnd, h.verdicts⟩
  | _ => exact ⟨h.1, h.2, h.3, h.4, h.5⟩

end Stack

/-! ## Windows -/

/-- A frame has an open window once one is added. -/
theorem hasOpenWindow_addWindow {w : WindowShape} {f : FrameShape}
    (h : f.hasOpenWindow = true ∨ w.resolved = false) : (f.addWindow w).hasOpenWindow = true := by
  simp only [FrameShape.hasOpenWindow, FrameShape.addWindow, List.any_append, Bool.or_eq_true]
  exact h.imp id fun h => by simp [WindowShape.isOpen, h]

/-- A frame without a window of the id is not closed. -/
theorem close_of_notMem {windowId : Nat} {f : FrameShape}
    (h : windowId ∉ f.windows.map WindowShape.id) : f.close windowId = f := by
  have hwindows : (f.windows.map fun w => if w.id = windowId then w.close else w) = f.windows := by
    refine (List.map_congr_left fun w hw => ?_).trans (List.map_id _)
    have hne : w.id ≠ windowId := fun hid => h (hid ▸ List.mem_map_of_mem hw)
    simp [hne]
  rw [FrameShape.close, hwindows]

/-- Two frames share no window. -/
theorem Ids.window_unique {k : Control} {s : Shape} (h : Ids k s) {f g : FrameShape} {i : Nat}
    (hf : f ∈ s.frames) (hg : g ∈ s.frames) (hi : i ∈ f.windows.map WindowShape.id)
    (hi' : i ∈ g.windows.map WindowShape.id) : f.id = g.id := by
  have hnodup := (List.nodup_append.1 h.windows_nodup).1
  rw [windowIds, List.nodup_flatMap] at hnodup
  by_contra hne
  have : Std.Symm
    (Function.onFun List.Disjoint fun f : FrameShape => f.windows.map WindowShape.id) :=
    ⟨fun _ _ hd _ hx hx' => hd hx' hx⟩
  exact List.Pairwise.forall hnodup.2 hf hg (fun heq => hne (heq ▸ rfl)) hi hi'

/-- A frame holds an open window, unless it waits for one, is settling or goes with the game. -/
structure Windowed (k : Control) (s : Shape) : Prop where
  windowed : ∀ f ∈ s.frames, f.hasOpenWindow = true ∨ k.clearing = true ∨
    (∃ o ∈ k.opening, o.frameId = f.id ∧ o.shown = false) ∨
    ∃ subject, k.settling = .closing f.id subject
  shown : ∀ o ∈ k.opening, o.shown = true → ∀ f ∈ s.frames, f.id = o.frameId →
    f.hasOpenWindow = true ∨ k.clearing = true

namespace Windowed

/-- Within a drain a frame that opens waits for its window, and the opening is over only once the
window stands. -/
theorem inner {T : Table} {x y : Control × Shape} (hids : Ids x.1 x.2) (h : Windowed x.1 x.2)
    (hstep : Inner T x y) : Windowed y.1 y.2 := by
  cases hstep with
  | «open» subject =>
    rename_i k s gs _ _ _ _ _
    have hframes := insertFrame_fresh (b := s.board) hids.frames_lt
    refine ⟨fun f hf => ?_, fun o ho hshown f hf hid => ?_⟩
    · simp only [hframes, List.mem_append, List.mem_singleton] at hf
      rcases hf with hf | rfl
      · rcases h.windowed f hf with hw | hc | ⟨o, ho, hid⟩ | hs
        · exact .inl hw
        · exact .inr (.inl hc)
        · exact .inr (.inr (.inl ⟨o, List.mem_cons_of_mem _ ho, hid⟩))
        · exact .inr (.inr (.inr hs))
      · exact .inr (.inr (.inl ⟨_, List.mem_cons_self, rfl, rfl⟩))
    · rcases List.mem_cons.1 ho with rfl | ho
      · cases hshown
      · simp only [hframes, List.mem_append, List.mem_singleton] at hf
        rcases hf with hf | rfl
        · exact h.shown o ho hshown f hf hid
        · exact absurd (hids.opening_lt o ho) (hid ▸ Nat.lt_irrefl _)
  | insert hid ho hopen =>
    rename_i k s o reserved w _ _ _
    have hopened : ∀ f ∈ s.frames, f.hasOpenWindow = true →
        (if f.id = o.frameId then f.addWindow w else f).hasOpenWindow = true := by
      intro f _ hf
      split
      · exact hasOpenWindow_addWindow (.inl hf)
      · exact hf
    refine ⟨fun f hf => ?_, fun o' ho' hshown f hf hid => ?_⟩
    · obtain ⟨g, hg, rfl⟩ := List.mem_map.1 hf
      by_cases hgo : g.id = o.frameId
      · simp only [hgo, if_true]
        exact .inl (hasOpenWindow_addWindow (.inr hopen))
      · simp only [hgo, if_false]
        rcases h.windowed g hg with hw | hc | ⟨o', ho', hid', hshown⟩ | hs
        · exact .inl hw
        · exact .inr (.inl hc)
        · refine .inr (.inr (.inl ⟨o', List.mem_map.2 ⟨o', ho', ?_⟩, hid', hshown⟩))
          rw [if_neg (fun heq => hgo (hid' ▸ heq))]
        · exact .inr (.inr (.inr hs))
    · obtain ⟨g, hg, rfl⟩ := List.mem_map.1 hf
      obtain ⟨o'', ho'', rfl⟩ := List.mem_map.1 ho'
      by_cases hgo : g.id = o.frameId
      · simp only [hgo, if_true]
        exact .inl (hasOpenWindow_addWindow (.inr hopen))
      · simp only [hgo, if_false] at hid ⊢
        split at hid
        · exact absurd (hid.trans ‹_›) hgo
        · rename_i hne
          rw [if_neg hne] at hshown
          exact h.shown o'' ho'' hshown g hg hid
  | opened ho hshown =>
    rename_i k s o os
    refine ⟨fun f hf => ?_, fun o' ho' => h.shown o' (ho ▸ List.mem_cons_of_mem _ ho')⟩
    rcases h.windowed f hf with hw | hc | ⟨o', ho', hid, hnot⟩ | hs
    · exact .inl hw
    · exact .inr (.inl hc)
    · rw [show (k, s).1.opening = o :: os from ho] at ho'
      rcases List.mem_cons.1 ho' with rfl | ho'
      · rcases hshown with hshown | hshown
        · rw [hnot] at hshown; cases hshown
        · exact absurd ⟨f, hf, hid.symm⟩ hshown
      · exact .inr (.inr (.inl ⟨o', ho', hid, hnot⟩))
    · exact .inr (.inr (.inr hs))
  | declare => exact ⟨fun _ _ => .inr (.inl rfl), fun _ _ _ _ _ _ => .inr rfl⟩
  | cancel windowId hclearing =>
    exact ⟨fun _ _ => .inr (.inl hclearing), fun _ _ _ _ _ _ => .inr hclearing⟩
  | clear => exact ⟨fun f hf => absurd hf List.not_mem_nil,
      fun _ _ _ f hf => absurd hf List.not_mem_nil⟩
  | _ => exact ⟨h.1, h.2⟩

/-- Between drains a window that closes is the last of its frame only as the frame settles. -/
theorem outer {T : Table} {x y : Control × Shape} (hids : Ids x.1 x.2) (h : Windowed x.1 x.2)
    (hstep : Outer T x y) : Windowed y.1 y.2 := by
  cases hstep with
  | inner hstep => exact h.inner hids hstep
  | closeOne hk hsettling hf hw hopen hchoice hothers =>
    rename_i k s f w
    refine ⟨fun g hg => ?_, fun o ho => absurd ho (by simp [hk.opening])⟩
    obtain ⟨g, hmem, rfl⟩ := List.mem_map.1 hg
    refine .inl ?_
    by_cases hi : w.id ∈ g.windows.map WindowShape.id
    · have hid := hids.window_unique hf hmem (List.mem_map_of_mem hw) hi
      rwa [← List.inj_on_of_nodup_map hids.frames_nodup hf hmem hid]
    · rw [close_of_notMem hi]
      simpa [hk.clearing, hk.opening, hsettling] using h.windowed g hmem
  | closeLast hk hsettling hf hw hopen hlast =>
    rename_i k s f w
    refine ⟨fun g hg => ?_, fun o ho => absurd ho (by simp [hk.opening])⟩
    obtain ⟨g, hmem, rfl⟩ := List.mem_map.1 hg
    by_cases hi : w.id ∈ g.windows.map WindowShape.id
    · have hid := hids.window_unique hf hmem (List.mem_map_of_mem hw) hi
      exact .inr (.inr (.inr ⟨f.subject, by rw [hid]; rfl⟩))
    · rw [close_of_notMem hi]
      refine .inl ?_
      simpa [hk.clearing, hk.opening, hsettling] using h.windowed g hmem
  | release hk hsettling | restore hk hsettling =>
    refine ⟨fun g hg => ?_, fun o ho => absurd ho (by simp [hk.opening])⟩
    obtain ⟨hg, hne⟩ := List.mem_filter.1 hg
    rcases h.windowed g hg with hw | hc | ⟨o, ho, -⟩ | ⟨_, hs⟩
    · exact .inl hw
    · exact .inr (.inl hc)
    · exact absurd ho (by simp [hk.opening])
    · rw [hsettling, Settling.closing.injEq] at hs
      simp [hs.1] at hne
  | vanish hk hsettling hf =>
    refine ⟨fun g hg => ?_, fun o ho => absurd ho (by simp [hk.opening])⟩
    rcases h.windowed g hg with hw | hc | ⟨o, ho, -⟩ | ⟨_, hs⟩
    · exact .inl hw
    · exact .inr (.inl hc)
    · exact absurd ho (by simp [hk.opening])
    · rw [hsettling] at hs
      cases hs
      exact absurd ⟨g, hg, rfl⟩ hf
  | wake hk hsettling | finish hk hsettling =>
    refine ⟨fun g hg => ?_, fun o ho => absurd ho (by simp [hk.opening])⟩
    rcases h.windowed g hg with hw | hc | ⟨o, ho, -⟩ | ⟨_, hs⟩
    · exact .inl hw
    · exact .inr (.inl hc)
    · exact absurd ho (by simp [hk.opening])
    · rw [hsettling] at hs
      cases hs
  | _ => exact ⟨h.1, h.2⟩

/-- No frame is open on an idle board. -/
theorem idle {k : Control} {s : Shape} (h : Windowed k s) (hk : k.Clear)
    (hsettling : k.settling = .none) (hbusy : s.isBusy = false) : s.frames = [] := by
  refine List.eq_nil_iff_forall_not_mem.2 fun f hf => ?_
  simp only [Shape.isBusy, Bool.or_eq_false_iff, Shape.hasOpenFrames, List.any_eq_false] at hbusy
  obtain hopen | hclearing | ⟨o, ho, -⟩ | ⟨subject, hclosing⟩ := h.windowed f hf
  · exact hbusy.1 f hf hopen
  · cases hk.clearing.symm.trans hclearing
  · exact absurd (hk.opening ▸ ho) List.not_mem_nil
  · cases hsettling.symm.trans hclosing

end Windowed

/-! ## Printed steps -/

/-- Every step of a rule is generous, and calm where the rule starts as the game starts or as the
last ability of a card is done. -/
theorem gameRules_steps {type : GameEventType} {steps : List Task}
    (h : gameRules.Starts type steps) : ∀ step ∈ steps, step.isGenerous = true ∧
      (type = .gameStarted ∨ type = .abilityDone → step.isCalm = true) := by
  have htable : ∀ e ∈ abilityRegistry, ∀ rule ∈ e.2, ∀ step ∈ rule.steps, step.isGenerous = true ∧
      (rule.trigger.on = .gameStarted ∨ rule.trigger.on = .abilityDone → step.isCalm = true) := by
    decide +kernel
  have hheroes : ∀ rule ∈ heroRules, ∀ step ∈ rule.steps, step.isGenerous = true ∧
      (rule.trigger.on = .gameStarted ∨ rule.trigger.on = .abilityDone → step.isCalm = true) := by
    decide
  have hinstances : ∀ rule ∈ instanceRules, ∀ step ∈ rule.steps, step.isGenerous = true ∧
      (rule.trigger.on = .gameStarted ∨ rule.trigger.on = .abilityDone → step.isCalm = true) := by
    decide
  obtain ⟨rule, ⟨cardId, hrule⟩ | hrule | hrule, rfl, rfl⟩ := h
  · obtain ⟨e, he, hmem⟩ := mem_abilitiesOf hrule
    exact htable e he rule hmem
  · exact hheroes rule hrule
  · exact hinstances rule hrule

/-- Pipelines run steps of the rules: before the first turn only calm ones, on a table where no
frame is open, and between two turns none. -/
structure Printed (k : Control) (s : Shape) : Prop where
  generous : ∀ p ∈ s.pipelines, ∀ step ∈ p.steps, step.isGenerous = true
  running : ∀ r, k.running = some r → r.task.isGenerous = true
  calm : k.between = .before → ∀ p ∈ s.pipelines, ∀ step ∈ p.steps, step.isCalm = true
  runningCalm : k.between = .before → ∀ r, k.running = some r → r.task.isCalm = true
  closed : k.between = .before → s.frames = []
  ended : ∀ playerId, k.between = .ended playerId → s.pipelines = [] ∧ k.running = none

namespace Printed

/-- Within a drain only steps of the rules are pushed, and calm ones before the first turn. -/
theorem inner {T : Table} (hT : T.rules = gameRules) {x y : Control × Shape}
    (h : Printed x.1 x.2) (hstep : Inner T x y) : Printed y.1 y.2 := by
  cases hstep with
  | «open» subject hgs hsubject hbefore hrunning haction =>
    refine ⟨h.generous, fun r hr => ?_, fun hb => absurd hb hbefore, fun hb => absurd hb hbefore,
      fun hb => absurd hb hbefore,
      fun playerId he => nomatch (haction (h.ended playerId he).2).2.1.symm.trans he⟩
    obtain ⟨r', hr', rfl⟩ := Option.map_eq_some_iff.1 hr
    exact h.running r' hr'
  | insert =>
    refine ⟨h.generous, h.running, h.calm, h.runningCalm, fun hb => ?_, h.ended⟩
    dsimp only
    rw [h.closed hb]; rfl
  | push steps system hrule hflow hphase hdue hended hcalm =>
    refine ⟨fun p hp => ?_, h.running, fun hb p hp => ?_, h.runningCalm, h.closed,
      fun playerId he => absurd he (hended playerId)⟩
    · rcases List.mem_cons.1 hp with rfl | hp
      · exact fun step hstep => (gameRules_steps (hT ▸ hrule) step hstep).1
      · exact h.generous p hp
    · rcases List.mem_cons.1 hp with rfl | hp
      · exact hcalm hb
      · exact h.calm hb p hp
  | pop hrun hflow hstack =>
    exact ⟨fun p hp => h.generous p (hstack ▸ List.mem_cons_of_mem _ hp), h.running,
      fun hb p hp => h.calm hb p (hstack ▸ List.mem_cons_of_mem _ hp), h.runningCalm, h.closed,
      fun playerId he => nomatch hstack.symm.trans (h.ended playerId he).1⟩
  | take hrun hflow hstack hpaused hsteps =>
    rename_i k s p ps step steps
    have hp : p ∈ s.pipelines := hstack ▸ List.mem_cons_self
    have hstep : step ∈ p.steps := hsteps ▸ List.mem_cons_self
    have hrest : ∀ t ∈ steps, t ∈ p.steps := fun t ht => hsteps ▸ List.mem_cons_of_mem _ ht
    refine ⟨fun q hq t ht => ?_, fun r hr => ?_, fun hb q hq t ht => ?_, fun hb r hr => ?_,
      h.closed, fun playerId he => nomatch hstack.symm.trans (h.ended playerId he).1⟩
    · obtain ⟨q', hq', ⟨-, rfl⟩ | ⟨-, rfl⟩⟩ := mem_modifyPipeline hq
      · exact h.generous p hp t (hrest t ht)
      · exact h.generous _ hq' t ht
    · cases hr
      exact h.generous p hp step hstep
    · obtain ⟨q', hq', ⟨-, rfl⟩ | ⟨-, rfl⟩⟩ := mem_modifyPipeline hq
      · exact h.calm hb p hp t (hrest t ht)
      · exact h.calm hb _ hq' t ht
    · cases hr
      exact h.calm hb p hp step hstep
  | done =>
    exact ⟨h.generous, fun r hr => (nomatch hr), h.calm, fun _ r hr => (nomatch hr), h.closed,
      fun playerId he => ⟨(h.ended playerId he).1, rfl⟩⟩
  | pause hrun =>
    refine ⟨fun q hq t ht => ?_, fun r hr => (nomatch hr), fun hb q hq t ht => ?_,
      fun _ r hr => (nomatch hr), h.closed,
      fun playerId he => nomatch hrun.symm.trans (h.ended playerId he).2⟩
    · obtain ⟨q', hq', ⟨-, rfl⟩ | ⟨-, rfl⟩⟩ := mem_modifyPipeline hq
      · exact h.generous _ hq' t ht
      · exact h.generous _ hq' t ht
    · obtain ⟨q', hq', ⟨-, rfl⟩ | ⟨-, rfl⟩⟩ := mem_modifyPipeline hq
      · exact h.calm hb _ hq' t ht
      · exact h.calm hb _ hq' t ht
  | cancel =>
    refine ⟨h.generous, h.running, h.calm, h.runningCalm, fun hb => ?_, h.ended⟩
    dsimp only
    rw [h.closed hb]; rfl
  | clear =>
    exact ⟨fun p hp => (nomatch hp), h.running, fun _ p hp => (nomatch hp), h.runningCalm,
      fun _ => rfl, fun playerId he => ⟨rfl, (h.ended playerId he).2⟩⟩
  | _ => exact ⟨h.1, h.2, h.3, h.4, h.5, h.6⟩

/-- Between drains no step is pushed; a turn ends on an empty stack. -/
theorem outer {T : Table} (hT : T.rules = gameRules) {x y : Control × Shape}
    (h : Printed x.1 x.2) (hstep : Outer T x y) : Printed y.1 y.2 := by
  cases hstep with
  | inner hstep => exact h.inner hT hstep
  | closeOne | closeLast =>
    refine ⟨h.generous, h.running, h.calm, h.runningCalm, fun hb => ?_, h.ended⟩
    dsimp only
    rw [h.closed hb]; rfl
  | release =>
    refine ⟨h.generous, h.running, h.calm, h.runningCalm, fun hb => ?_, h.ended⟩
    dsimp only
    rw [h.closed hb]; rfl
  | restore =>
    refine ⟨fun p hp => h.generous p (List.mem_filter.1 hp).1, h.running,
      fun hb p hp => h.calm hb p (List.mem_filter.1 hp).1, h.runningCalm, fun hb => ?_,
      fun playerId he => ⟨?_, (h.ended playerId he).2⟩⟩
    · dsimp only
      rw [h.closed hb]; rfl
    · dsimp only
      rw [(h.ended playerId he).1]; rfl
  | wake =>
    refine ⟨fun p hp t ht => ?_, h.running, fun hb p hp t ht => ?_, h.runningCalm, h.closed,
      fun playerId he => ⟨?_, (h.ended playerId he).2⟩⟩
    rotate_right
    · dsimp only
      rw [(h.ended playerId he).1]; rfl
    all_goals
      obtain ⟨q, hq, rfl⟩ := List.mem_map.1 hp
      have ht' : t ∈ q.steps := by split at ht <;> exact ht
      first
      | exact h.calm hb q hq t ht'
      | exact h.generous q hq t ht'
  | endTurn hk hsettling hgs hbetween hqueue hcurrent hstarted hplayer hpoints hbusy =>
    refine ⟨h.generous, h.running, fun hb => (by cases hb), fun hb => (by cases hb),
      fun hb => (by cases hb), fun _ _ => ⟨?_, hk.running⟩⟩
    simp only [Shape.isBusy, Bool.or_eq_false_iff, Bool.not_eq_false', List.isEmpty_iff] at hbusy
    exact hbusy.2
  | startTurn | adrift =>
    exact ⟨h.generous, h.running, fun hb => (by cases hb), fun hb => (by cases hb),
      fun hb => (by cases hb), fun _ he => (by cases he)⟩
  | _ => exact ⟨h.1, h.2, h.3, h.4, h.5, h.6⟩

end Printed

/-! ## Subjects -/

/-- The windows of a frame are about the same card: the one its opening names. -/
structure Subjects (k : Control) (s : Shape) : Prop where
  openings : (k.opening.map Opening.frameId).Nodup
  opened : ∀ o ∈ k.opening, ∀ f ∈ s.frames, f.id = o.frameId → ∀ w ∈ f.windows,
    w.subject = o.subject
  agree : ∀ f ∈ s.frames, ∀ v ∈ f.windows, ∀ w ∈ f.windows, v.subject = w.subject

namespace Subjects

variable {k : Control} {s : Shape}

/-- What a window of a frame is about, the frame is about. -/
theorem subject (h : Subjects k s) {f : FrameShape} {w : WindowShape}
    (hf : f ∈ s.frames) (hw : w ∈ f.windows) : f.subject = w.subject := by
  cases hx : w.subject with
  | none =>
    rw [FrameShape.subject, List.findSome?_eq_none_iff]
    exact fun v hv => (h.agree f hf v hv w hw).trans hx
  | some x =>
    have hsome : f.subject.isSome = true := by
      rw [FrameShape.subject, List.findSome?_isSome_iff]
      exact ⟨w, hw, by simp [hx]⟩
    obtain ⟨y, hy⟩ := Option.isSome_iff_exists.1 hsome
    obtain ⟨v, hv, hvy⟩ := List.exists_of_findSome?_eq_some hy
    rw [hy, ← hvy, h.agree f hf v hv w hw, hx]

/-- Frames may be dropped, and their windows close. -/
theorem anti {k' : Control} {s' : Shape} (h : Subjects k s) (hopening : k'.opening = k.opening)
    (hframes : ∀ f ∈ s'.frames, ∃ g ∈ s.frames, g.id = f.id ∧
      ∀ w ∈ f.windows, ∃ v ∈ g.windows, v.subject = w.subject) : Subjects k' s' where
  openings := hopening ▸ h.openings
  opened o ho f hf hid w hw := by
    obtain ⟨g, hg, hgid, hwindows⟩ := hframes f hf
    obtain ⟨v, hv, hvw⟩ := hwindows w hw
    exact hvw ▸ h.opened o (hopening ▸ ho) g hg (hgid.trans hid) v hv
  agree f hf v hv w hw := by
    obtain ⟨g, hg, -, hwindows⟩ := hframes f hf
    obtain ⟨v', hv', hv'v⟩ := hwindows v hv
    obtain ⟨w', hw', hw'w⟩ := hwindows w hw
    rw [← hv'v, ← hw'w]
    exact h.agree g hg v' hv' w' hw'

/-- Closing a window leaves what it is about. -/
theorem close (h : Subjects k s) {k' : Control} (hopening : k'.opening = k.opening)
    (windowId : Nat) :
    Subjects k' { s with frames := s.frames.map (FrameShape.close windowId) } := by
  refine h.anti hopening fun f hf => ?_
  obtain ⟨g, hg, rfl⟩ := List.mem_map.1 hf
  refine ⟨g, hg, rfl, fun w hw => ?_⟩
  obtain ⟨v, hv, rfl⟩ := List.mem_map.1 hw
  refine ⟨v, hv, ?_⟩
  split <;> rfl

/-- A window that comes in is about what its opening names. -/
theorem insert (h : Subjects k s) {o : Opening} {w : WindowShape} {reserved : List Nat}
    (ho : o ∈ k.opening) (hsubject : w.subject = o.subject) :
    Subjects { k with reserved, opening := markShown o.frameId k.opening }
      { s with frames := modifyFrame o.frameId (FrameShape.addWindow w) s.frames } where
  openings := by
    have hids : (markShown o.frameId k.opening).map Opening.frameId =
        k.opening.map Opening.frameId := by
      rw [markShown, List.map_map]
      refine List.map_congr_left fun o' _ => ?_
      simp only [Function.comp_apply]
      split <;> rfl
    exact hids ▸ h.openings
  opened o' ho' f hf hid v hv := by
    obtain ⟨o'', ho'', rfl⟩ := List.mem_map.1 ho'
    obtain ⟨g, hg, rfl⟩ := List.mem_map.1 hf
    have hsame : (if o''.frameId = o.frameId then { o'' with shown := true } else o'').subject =
        o''.subject := by split <;> rfl
    have hframe : (if o''.frameId = o.frameId then { o'' with shown := true } else o'').frameId =
        o''.frameId := by split <;> rfl
    rw [hframe] at hid
    rw [hsame]
    split at hid
    · rename_i hgo
      rw [if_pos hgo] at hv
      have hgid : g.id = o''.frameId := hid
      rcases List.mem_append.1 hv with hv | hv
      · exact h.opened o'' ho'' g hg hgid v hv
      · obtain rfl := List.mem_singleton.1 hv
        have : o'' = o := List.inj_on_of_nodup_map h.openings ho'' ho (hgid.symm.trans hgo)
        exact this ▸ hsubject
    · rename_i hgo
      rw [if_neg hgo] at hv
      exact h.opened o'' ho'' g hg hid v hv
  agree f hf u hu v hv := by
    obtain ⟨g, hg, rfl⟩ := List.mem_map.1 hf
    split at hu
    · rename_i hgo
      rw [if_pos hgo] at hv
      have hnew : ∀ u ∈ g.windows ++ [w], u.subject = o.subject := by
        intro u hu
        rcases List.mem_append.1 hu with hu | hu
        · exact h.opened o ho g hg hgo u hu
        · exact List.mem_singleton.1 hu ▸ hsubject
      exact (hnew u hu).trans (hnew v hv).symm
    · rename_i hgo
      rw [if_neg hgo] at hv
      exact h.agree g hg u hu v hv

/-- Within a drain windows come in only through their opening. -/
theorem inner {T : Table} {x y : Control × Shape} (hids : Ids x.1 x.2) (h : Subjects x.1 x.2)
    (hstep : Inner T x y) : Subjects y.1 y.2 := by
  cases hstep with
  | «open» subject =>
    rename_i k s gs _ _ _ _ _
    have hframes := insertFrame_fresh (b := s.board) hids.frames_lt
    refine ⟨?_, ?_, ?_⟩
    · refine List.nodup_cons.2 ⟨fun hmem => ?_, h.openings⟩
      obtain ⟨o, ho, hid⟩ := List.mem_map.1 hmem
      exact Nat.ne_of_lt (hids.opening_lt o ho) hid
    · intro o ho f hf hid w hw
      simp only [hframes, List.mem_append, List.mem_singleton] at hf
      rcases hf with hf | rfl
      · rcases List.mem_cons.1 ho with rfl | ho
        · exact absurd hid (Nat.ne_of_lt (hids.frames_lt f hf))
        · exact h.opened o ho f hf hid w hw
      · cases hw
    · intro f hf v hv w hw
      simp only [hframes, List.mem_append, List.mem_singleton] at hf
      rcases hf with hf | rfl
      · exact h.agree f hf v hv w hw
      · cases hv
  | insert _ ho _ hsubject => exact h.insert ho hsubject
  | opened ho =>
    rename_i k s o os hshown
    have hmem : ∀ o' ∈ os, o' ∈ k.opening := fun o' ho' => ho ▸ List.mem_cons_of_mem _ ho'
    refine ⟨?_, fun o' ho' => h.opened o' (hmem o' ho'), h.agree⟩
    have := h.openings
    rw [ho] at this
    exact (List.nodup_cons.1 this).2
  | cancel windowId => exact h.close rfl windowId
  | clear => exact ⟨h.openings, fun _ _ f hf => absurd hf List.not_mem_nil,
      fun f hf => absurd hf List.not_mem_nil⟩
  | _ => exact ⟨h.1, h.2, h.3⟩

/-- Between drains frames go and windows close. -/
theorem outer {T : Table} {x y : Control × Shape} (hids : Ids x.1 x.2) (h : Subjects x.1 x.2)
    (hstep : Outer T x y) : Subjects y.1 y.2 := by
  have hfilter : ∀ {frameId : Nat} {f : FrameShape},
      f ∈ x.2.frames.filter (·.id ≠ frameId) → ∃ g ∈ x.2.frames, g.id = f.id ∧
        ∀ w ∈ f.windows, ∃ v ∈ g.windows, v.subject = w.subject :=
    fun hf => ⟨_, (List.mem_filter.1 hf).1, rfl, fun w hw => ⟨w, hw, rfl⟩⟩
  cases hstep with
  | inner hstep => exact h.inner hids hstep
  | closeOne | closeLast =>
    have hclose := h.close rfl ‹WindowShape›.id
    exact ⟨hclose.1, hclose.2, hclose.3⟩
  | release | restore => exact h.anti rfl fun f hf => hfilter hf
  | _ => exact ⟨h.1, h.2, h.3⟩

end Subjects

/-! ## Seats -/

/-- The players and the parties of a board are those of the seat order. -/
structure Board.SeatedIn (order : List String) (b : Board) : Prop where
  players : b.players.keys = order
  parties : b.parties.keys = order

namespace Board.SeatedIn

variable {order : List String} {b b' : Board}

/-- What keeps the keys of both keeps the seats. -/
theorem congr (h : b.SeatedIn order) (hplayers : b'.players.keys = b.players.keys)
    (hparties : b'.parties.keys = b.parties.keys) : b'.SeatedIn order :=
  ⟨hplayers.trans h.players, hparties.trans h.parties⟩

/-- Seats in order are seats. -/
theorem seated (h : b.SeatedIn order) : b.Seated := h.parties.trans h.players.symm

/-- Who is seated is in the order. -/
theorem isSeated (h : b.SeatedIn order) {playerId : String} :
    b.isSeated playerId = true ↔ playerId ∈ order := by
  rw [Board.isSeated, OrderedMap.has_iff, h.players]

/-- Cards may move. -/
theorem of_unstocked (h : b.SeatedIn order) (hrest : b'.unstocked = b.unstocked) :
    b'.SeatedIn order := by
  refine h.congr ?_ ?_
  · simpa [unstocked] using congrArg (fun b => b.players.keys) hrest
  · simpa [unstocked] using congrArg (fun b => b.parties.keys) hrest

/-- No edit seats anybody. -/
theorem edit {T : Table} {k : Control} {s : Shape} {fl : List String} (h : s.board.SeatedIn order)
    (hedit : Edit T k s fl b) : b.SeatedIn order := by
  cases hedit with
  | move hmoves _ _ => exact h.of_unstocked hmoves.rest
  | use | contest => exact h.congr rfl rfl
  | _ =>
    exact h.congr
      (by simp [removeEffect, addEffect, increaseActionPoints, decreaseActionPoints,
        addInstanceCard, addToDiscardPile, removeInstanceCard])
      (by simp [removeEffect, addEffect, increaseActionPoints, decreaseActionPoints,
        addInstanceCard, addToDiscardPile, removeInstanceCard])

/-- Nor do spent cards put away. -/
theorem putAway (spent : List (String × String)) : ∀ {b : Board}, b.SeatedIn order →
    (GameState.putAway spent b).SeatedIn order := by
  induction spent with
  | nil => exact fun h => h
  | cons s spent ih =>
    exact fun h => ih (h.congr (by simp [removeInstanceCard, addToDiscardPile])
      (by simp [removeInstanceCard, addToDiscardPile]))

/-- Nor do spent cards taken back. -/
theorem takeBack (spent : List (String × String)) : ∀ {b : Board}, b.SeatedIn order →
    (GameState.takeBack spent b).SeatedIn order := by
  induction spent with
  | nil => exact fun h => h
  | cons s spent ih =>
    exact fun h => ih (h.congr (by simp [removeFromHand, addToDiscardPile])
      (by simp [removeFromHand, addToDiscardPile]))

/-- Nor does a turn that starts. -/
theorem startTurn (h : b.SeatedIn order) (playerId : String) :
    (b.startTurn playerId).SeatedIn order :=
  h.congr (by simp [Board.startTurn, increaseActionPoints, resetActionPoints, clearUsedAbilities,
    clearChallengedCards]) rfl

end Board.SeatedIn

/-- The seats are those of the seat order, on the board and in every snapshot. -/
structure Seats (s : Shape) : Prop where
  board : s.board.SeatedIn s.playerOrder
  snapshots : ∀ f ∈ s.frames, f.snapshot.SeatedIn s.playerOrder

namespace Seats

/-- Within a drain a snapshot that is taken is of a board so seated. -/
theorem inner {T : Table} {x y : Control × Shape} (h : Seats x.2) (hstep : Inner T x y) :
    Seats y.2 := by
  cases hstep with
  | edit hedit => exact ⟨h.board.edit hedit, h.snapshots⟩
  | equip hparty => exact ⟨h.board.congr rfl (by simp [Board.modifyParty]), h.snapshots⟩
  | «open» =>
    refine ⟨h.board, fun f hf => ?_⟩
    unfold insertFrame at hf
    split at hf
    · obtain ⟨g, hg, rfl⟩ := List.mem_map.1 hf
      split
      · exact h.board
      · exact h.snapshots g hg
    · rcases List.mem_append.1 hf with hf | hf
      · exact h.snapshots f hf
      · rw [List.mem_singleton.1 hf]
        exact h.board
  | insert =>
    refine ⟨h.board, fun f hf => ?_⟩
    obtain ⟨g, hg, rfl⟩ := List.mem_map.1 hf
    have := h.snapshots g hg
    split <;> exact this
  | declare => exact ⟨h.board.congr rfl rfl, h.snapshots⟩
  | cancel =>
    refine ⟨h.board, fun f hf => ?_⟩
    obtain ⟨g, hg, rfl⟩ := List.mem_map.1 hf
    exact h.snapshots g hg
  | clear => exact ⟨h.board, fun f hf => absurd hf List.not_mem_nil⟩
  | _ => exact ⟨h.1, h.2⟩

/-- Between drains a board taken back is a snapshot so seated. -/
theorem outer {T : Table} {x y : Control × Shape} (h : Seats x.2) (hstep : Outer T x y) :
    Seats y.2 := by
  cases hstep with
  | inner hstep => exact h.inner hstep
  | spend =>
    exact ⟨h.board.congr (by simp [Board.removeFromHand, Board.addInstanceCard])
      (by simp [Board.removeFromHand, Board.addInstanceCard]), h.snapshots⟩
  | closeOne | closeLast =>
    refine ⟨h.board, fun f hf => ?_⟩
    obtain ⟨g, hg, rfl⟩ := List.mem_map.1 hf
    exact h.snapshots g hg
  | release =>
    exact ⟨h.board.putAway _, fun f hf => h.snapshots f (List.mem_filter.1 hf).1⟩
  | restore hk hsettling hf =>
    exact ⟨(h.snapshots _ hf).takeBack _, fun f hf => h.snapshots f (List.mem_filter.1 hf).1⟩
  | endTurn => exact ⟨h.board.congr rfl rfl, h.snapshots⟩
  | startTurn => exact ⟨h.board.startTurn _, h.snapshots⟩
  | _ => exact ⟨h.1, h.2⟩

end Seats

/-! ## Turns -/

/-- An event that begins and ends no turn leaves no mark of one. -/
theorem turnMarks_emitted {event : GameEvent} {gs : GameState} {history : List Mark}
    (hstart : event.type ≠ .turnStarted) (hend : event.type ≠ .turnEnded) :
    turnMarks (.emitted event gs :: history) = turnMarks history := by
  rw [turnMarks]
  split
  · exact absurd ‹_› hstart
  · exact absurd ‹_› hend
  · rfl

/-- The turn stands where the last mark of a turn left it, and every snapshot is of this turn. -/
structure TurnPoints (k : Control) (s : Shape) : Prop where
  before : k.between = .before → turnMarks s.history = [] ∧ s.board.currentPlayerId = none
  ended : ∀ playerId, k.between = .ended playerId →
    (turnMarks s.history).head? = some (.ended playerId) ∧ s.frames = []
  playing : k.between = .playing → s.board.gamePhase ≠ .concluded →
    ∀ playerId, s.board.currentPlayerId = some playerId →
      (turnMarks s.history).head? = some (.started playerId)
  unseated : s.playerOrder = [] → s.board.currentPlayerId = none
  snapshots : ∀ f ∈ s.frames, f.snapshot.currentPlayerId = s.board.currentPlayerId

namespace TurnPoints

variable {k k' : Control} {s s' : Shape}

/-- Neither the turn nor its marks have changed. -/
theorem congr (h : TurnPoints k s) (hbetween : k'.between = k.between)
    (hmarks : turnMarks s'.history = turnMarks s.history)
    (hcurrent : s'.board.currentPlayerId = s.board.currentPlayerId)
    (hphase : s'.board.gamePhase = s.board.gamePhase ∨ s'.board.gamePhase = .concluded)
    (horder : s'.playerOrder = s.playerOrder) (hframes : ∀ f ∈ s'.frames, ∃ g ∈ s.frames,
      f.snapshot = g.snapshot) : TurnPoints k' s' where
  before hb := by
    rw [hmarks, hcurrent]
    exact h.before (hbetween ▸ hb)
  ended playerId he := by
    obtain ⟨hhead, hnone⟩ := h.ended playerId (hbetween ▸ he)
    refine ⟨hmarks ▸ hhead, List.eq_nil_iff_forall_not_mem.2 fun f hf => ?_⟩
    obtain ⟨g, hg, -⟩ := hframes f hf
    rw [hnone] at hg
    cases hg
  playing hp ho playerId hc := by
    rw [hmarks]
    exact h.playing (hbetween ▸ hp) (hphase.elim (fun heq => heq ▸ ho) fun hover => absurd hover ho)
      playerId (hcurrent ▸ hc)
  unseated hn := hcurrent.trans (h.unseated (horder ▸ hn))
  snapshots f hf := by
    obtain ⟨g, hg, hsnapshot⟩ := hframes f hf
    rw [hsnapshot, hcurrent]
    exact h.snapshots g hg

/-- Within a drain no turn begins or ends. -/
theorem inner {T : Table} {x y : Control × Shape} (hprinted : Printed x.1 x.2)
    (h : TurnPoints x.1 x.2) (hstep : Inner T x y) : TurnPoints y.1 y.2 := by
  have hsame : ∀ {fs : List FrameShape}, ∀ f ∈ fs, ∃ g ∈ fs, f.snapshot = g.snapshot :=
    fun f hf => ⟨f, hf, rfl⟩
  cases hstep with
  | edit hedit => exact h.congr rfl rfl hedit.current (.inl hedit.verdict.1) rfl hsame
  | announce event _ _ hstart hend =>
    exact h.congr rfl (turnMarks_emitted hstart hend) rfl (.inl rfl) rfl hsame
  | «open» subject _ _ hbefore _ haction =>
    refine ⟨fun hb => absurd hb hbefore, fun playerId he => ?_, h.playing, h.unseated,
      fun f hf => ?_⟩
    · exact nomatch (haction (hprinted.ended playerId he).2).2.1.symm.trans he
    · unfold insertFrame at hf
      split at hf
      · obtain ⟨g, hg, rfl⟩ := List.mem_map.1 hf
        split
        · rfl
        · exact h.snapshots g hg
      · rcases List.mem_append.1 hf with hf | hf
        · exact h.snapshots f hf
        · rw [List.mem_singleton.1 hf]
  | insert =>
    refine h.congr rfl rfl rfl (.inl rfl) rfl fun f hf => ?_
    obtain ⟨g, hg, rfl⟩ := List.mem_map.1 hf
    refine ⟨g, hg, ?_⟩
    split <;> rfl
  | declare => exact h.congr rfl rfl rfl (.inr rfl) rfl hsame
  | cancel =>
    refine h.congr rfl rfl rfl (.inl rfl) rfl fun f hf => ?_
    obtain ⟨g, hg, rfl⟩ := List.mem_map.1 hf
    exact ⟨g, hg, rfl⟩
  | clear => exact h.congr rfl rfl rfl (.inl rfl) rfl fun f hf => (nomatch hf)
  | _ => exact h.congr rfl rfl rfl (.inl rfl) rfl hsame

/-- Between drains a turn ends on an idle board, so no snapshot outlives it. -/
theorem outer {T : Table} {x y : Control × Shape} (hprinted : Printed x.1 x.2)
    (hwindows : Windowed x.1 x.2) (hstack : Stack x.1 x.2) (hseats : Seats x.2)
    (h : TurnPoints x.1 x.2) (hstep : Outer T x y) : TurnPoints y.1 y.2 := by
  have hsame : ∀ {fs : List FrameShape}, ∀ f ∈ fs, ∃ g ∈ fs, f.snapshot = g.snapshot :=
    fun f hf => ⟨f, hf, rfl⟩
  have hfilter : ∀ {fs : List FrameShape} {p : FrameShape → Bool}, ∀ f ∈ fs.filter p,
      ∃ g ∈ fs, f.snapshot = g.snapshot := fun f hf => ⟨f, (List.mem_filter.1 hf).1, rfl⟩
  cases hstep with
  | inner hstep => exact h.inner hprinted hstep
  | closeOne | closeLast =>
    refine h.congr rfl rfl rfl (.inl rfl) rfl fun f hf => ?_
    obtain ⟨g, hg, rfl⟩ := List.mem_map.1 hf
    exact ⟨g, hg, rfl⟩
  | release =>
    rename_i k s gs gs' f subject hk hsettling hf hgs hgs'
    have hrest := GameState.putAway_rest (s.spentInto f) s.board
    exact h.congr rfl rfl (congrArg Board.currentPlayerId hrest :)
      (.inl (congrArg Board.gamePhase hrest :)) rfl hfilter
  | restore =>
    -- the snapshot is of this turn
    rename_i k s gs gs' f subject hk hsettling hf hgs hgs' hflow
    have hrest := GameState.takeBack_rest (s.spentInto f) f.snapshot
    have hphase : f.snapshot.gamePhase = s.board.gamePhase := by
      obtain hclearing | ⟨hphase, -⟩ := hstack.verdicts f hf
      · cases hk.clearing.symm.trans hclearing
      · exact hphase
    exact h.congr rfl rfl (.trans (congrArg Board.currentPlayerId hrest :) (h.snapshots f hf))
      (.inl (.trans (congrArg Board.gamePhase hrest :) hphase)) rfl hfilter
  | endTurn hk hsettling hgs hbetween hqueue hcurrent hstarted hplayer hpoints hbusy =>
    refine ⟨fun hb => (by cases hb), fun _ he => ⟨?_, hwindows.idle hk hsettling hbusy⟩,
      fun hp => (by cases hp), h.unseated, h.snapshots⟩
    cases he
    rfl
  | startTurn hk hsettling hgs hseated hnext =>
    rename_i k s gs playerId
    have hnone : s.frames = [] := by
      obtain ⟨hbefore, -⟩ | ⟨last, hended, -⟩ := hnext
      · exact hprinted.closed hbefore
      · exact (h.ended last hended).2
    refine ⟨fun hb => (by cases hb), fun _ he => (by cases he), fun _ _ _ hc => ?_, fun hn => ?_,
      fun f hf => ?_⟩
    · cases hc
      rfl
    · have hmem := hseats.board.isSeated.1 hseated
      rw [show s.playerOrder = [] from hn] at hmem
      cases hmem
    · rw [show s.frames = [] from hnone] at hf
      cases hf
  | adrift hk hsettling hdone =>
    refine ⟨fun hb => (by cases hb), fun _ he => (by cases he), fun _ ho playerId hc => ?_,
      h.unseated, h.snapshots⟩
    obtain hover | hnone := hdone
    · exact absurd hover ho
    · cases (h.unseated hnone).symm.trans hc
  | _ => exact h.congr rfl rfl rfl (.inl rfl) rfl hsame

end TurnPoints

/-! ## Slots -/

/-- An action that has yet to take its slot stands on an idle board. -/
structure Dues (k : Control) (s : Shape) : Prop where
  pipelines : ∀ cardId, k.due = some cardId → s.pipelines = []
  frames : ∀ cardId, k.due = some cardId → s.frames = []
  running : ∀ cardId, k.due = some cardId → k.running = none

namespace Dues

variable {T : Table} {x y : Control × Shape}

/-- Nothing is due. -/
theorem of_paid {k : Control} {s : Shape} (h : k.due = none) : Dues k s :=
  ⟨fun _ hdue => (nomatch h.symm.trans hdue), fun _ hdue => (nomatch h.symm.trans hdue),
    fun _ hdue => (nomatch h.symm.trans hdue)⟩

/-- Nothing is due while a pipeline is on the stack. -/
theorem paid {k : Control} {s : Shape} (h : Dues k s) (hstack : s.pipelines ≠ []) : k.due = none :=
  Option.eq_none_iff_forall_not_mem.2 fun cardId hdue => hstack (h.pipelines cardId hdue)

/-- Nothing is due while a step runs. -/
theorem paid_of_running {k : Control} {s : Shape} {r : Running} (h : Dues k s)
    (hrun : k.running = some r) : k.due = none :=
  Option.eq_none_iff_forall_not_mem.2 fun cardId hdue =>
    nomatch hrun.symm.trans (h.running cardId hdue)

/-- Within a drain the first frame of an action opens after its slot is taken. -/
theorem inner (h : Dues x.1 x.2) (hstep : Inner T x y) : Dues y.1 y.2 := by
  cases hstep with
  | @«open» k s gs subject _ _ _ _ haction =>
    refine .of_paid ?_
    cases hrun : k.running with
    | none => exact (haction hrun).2.2
    | some r => exact h.paid_of_running hrun
  | insert =>
    refine ⟨h.pipelines, fun cardId hdue => ?_, h.running⟩
    dsimp only
    rw [h.frames cardId hdue]
    rfl
  | push _ _ _ _ _ hdue => exact .of_paid hdue
  | pop _ _ hstack | take _ _ hstack =>
    exact .of_paid (h.paid fun hnil => (nomatch hstack.symm.trans hnil))
  | done hrun | pause hrun => exact .of_paid (h.paid_of_running hrun)
  | paid => exact .of_paid rfl
  | cancel =>
    refine ⟨h.pipelines, fun cardId hdue => ?_, h.running⟩
    dsimp only
    rw [h.frames cardId hdue]
    rfl
  | clear => exact ⟨fun _ _ => rfl, fun _ _ => rfl, h.running⟩
  | _ => exact ⟨h.1, h.2, h.3⟩

/-- Between drains an action starts on an idle board, and its slot is due from then on. -/
theorem outer (h : Dues x.1 x.2) (hwindows : Windowed x.1 x.2) (hstep : Outer T x y) :
    Dues y.1 y.2 := by
  cases hstep with
  | inner hstep => exact h.inner hstep
  | execute hk hsettling _ _ _ _ hbusy _ =>
    refine ⟨fun _ _ => ?_, fun _ _ => hwindows.idle hk hsettling hbusy, fun _ _ => hk.running⟩
    simp only [Shape.isBusy, Bool.or_eq_false_iff, Bool.not_eq_false', List.isEmpty_iff] at hbusy
    exact hbusy.2
  | _ =>
    have hk := ‹Control.Clear _›
    exact .of_paid hk.due

end Dues

/-! ## The invariant -/

/-- The invariant of the machine. -/
structure Sound (cards : Cards) (x : Control × Shape) : Prop where
  ids : Ids x.1 x.2
  stack : Stack x.1 x.2
  windows : Windowed x.1 x.2
  printed : Printed x.1 x.2
  subjects : Subjects x.1 x.2
  seats : Seats x.2
  turns : TurnPoints x.1 x.2
  dues : Dues x.1 x.2
  typed : Everywhere (Board.Typed cards) x.2

/-- A table that plays by the printed rules. -/
structure PrintedTable extends Table where
  printed : rules = gameRules

section
variable (T : PrintedTable)

/-- Every step keeps the invariant. -/
theorem Sound.outer {x y : Control × Shape} (h : Sound T.cards x) (hstep : Outer T.toTable x y) :
    Sound T.cards y :=
  ⟨h.ids.outer hstep, h.stack.outer hstep, h.windows.outer h.ids hstep,
    h.printed.outer T.printed hstep, h.subjects.outer h.ids hstep, h.seats.outer hstep,
    h.turns.outer h.printed h.windows h.stack h.seats hstep, h.dues.outer h.windows hstep,
    h.typed.outer (Board.Typed.keeps T.toTable) hstep⟩

/-- What happens inside an input. -/
def innerSystem : System (Control × Shape) where
  step := Inner T.toTable
  inv := Sound T.cards
  keeps _ _ h hstep := h.outer T (.inner hstep)

/-- What an input does. -/
def outerSystem : System (Control × Shape) where
  step := Outer T.toTable
  inv := Sound T.cards
  keeps _ _ h hstep := h.outer T hstep

end

end HereToSlaughter
