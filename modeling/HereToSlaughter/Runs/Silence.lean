import HereToSlaughter.Runs.Rest

/-!
# Silence ends every wait

A roll or a challenge whose time is up while a window of a newer frame stands waits once more, and
every settlement starts the clocks outside its frame again. Neither keeps a silent table going for
ever: what counts is the order of the frames. A window of the newest frame closes when its time is
up, whether its settlement returns or throws, no timer opens a window except through what it
resumes, and so the open windows are gone after as many such lapses as there were of them
(`Course.silence_ends`).

Reference: `pipelines/game-state.ts`, `resolve` of the windows of `reactions/*.ts`.
-/

namespace HereToSlaughter

open Lib EngineM

/-! ## What a settlement does by itself -/

/-- Nothing that was not open before is open. -/
def OpensNone (w w' : World) : Prop := w'.gs.openIds ⊆ w.gs.openIds

instance : Std.Refl OpensNone := ⟨fun w => List.Subset.refl w.gs.openIds⟩

instance : IsTrans World OpensNone := ⟨fun _ _ _ h h' => List.Subset.trans h' h⟩

instance : AllowsChange OpensNone := ⟨fun _ _ h => .single h.ages.opened⟩

/-- What goes out falls on deaf ears. -/
def unheard : Emit := fun _ => pure ()

/-- A lapse that nobody hears of resumes nothing, and it opens no window. -/
theorem OpensNone.windowLapse (T : Table) (windowId : Nat) (w : World) :
    OpensNone w (comesTo (HereToSlaughter.windowLapse T unheard windowId) w) :=
  (Writes.windowLapse (fun _ => .pure ()) windowId).relates_comesTo (fun _ _ => id) w

/-! ## One lapse -/

section
variable {setup : GameSetup} {w w' : World}

/-- The lapse of a roll or a challenge under a newer frame starts its clock again, and nothing
else. -/
theorem lapse_rearms {T : Table} {em : Emit} {frameId : Nat} {win : Window}
    (hfound : w.gs.windowById win.id = some (frameId, win)) (hopen : win.isOpen = true)
    (hdue : win.deadline ≤ w.now) (hpassable : win.isPassable = true)
    (hafter : w.gs.hasOpenFramesAfter frameId = true) :
    comesTo (windowLapse T em win.id) w =
      { w with gs := w.gs.modifyWindow win.id (Window.resetTimer w.now) } := by
  have hresolved : ¬ win.resolved = true := by simpa [Window.isOpen] using hopen
  have hrearm : resolve T em frameId win w =
      .ok () { w with gs := w.gs.modifyWindow win.id (Window.resetTimer w.now) } := by
    unfold resolve
    rw [if_neg hresolved]
    cases hbody : win.body with
    | choice body => simp [Window.isPassable, hbody] at hpassable
    | roll body | challenge body =>
      change (ite (w.gs.hasOpenFramesAfter frameId = true) _ _ : EngineM Unit) w = _
      rw [if_pos hafter]
      rfl
  have hget : ∀ act : GameState → EngineM Unit, (EngineM.getGs >>= act) w = act w.gs w :=
    fun _ => rfl
  refine comesTo_of_ok (a := ()) ?_
  unfold windowLapse
  rw [hget, hfound]
  change (ite (win.deadline ≤ w.now) _ _ : EngineM Unit) w = _
  rw [if_pos hdue]
  exact hrearm

/-- Such a window is one of the open windows. -/
theorem GameState.Newest.mem {gs : GameState} {frameId : Nat} {win : Window}
    (h : gs.Newest frameId win) : win ∈ gs.openWindows :=
  GameState.mem_openWindows_of_windowById h.found h.stands

/-- As long as a window is open, there is one of the newest frame. -/
theorem Tagged.exists_newest (htagged : Tagged w) (hopen : w.gs.openIds ≠ []) :
    ∃ frameId win, w.gs.Newest frameId win := by
  obtain ⟨i, hi⟩ := List.exists_mem_of_ne_nil _ hopen
  obtain ⟨e, he, v, hv, hstands, -⟩ := GameState.mem_openIds.1 hi
  exact htagged.newest_of_open (List.any_eq_true.2
    ⟨e.2, List.mem_map_of_mem he, List.any_eq_true.2 ⟨v, hv, hstands⟩⟩)

/-- The open windows have different ids. -/
theorem Tagged.openIds_nodup (htagged : Tagged w) : w.gs.openIds.Nodup := by
  refine List.Nodup.sublist ?_ htagged.nodup
  have hopen : w.gs.openIds =
      w.gs.frames.entries.flatMap fun e => (e.2.windows.filter Window.isOpen).map Window.id := by
    simp [GameState.openIds, GameState.openWindows, OrderedMap.values, List.map_flatMap,
      List.flatMap_map]
  rw [hopen]
  exact List.Sublist.flatMap_right _ fun e _ => List.filter_sublist.map _

/-- A stretch in which no window opens leaves as many open as there were, or fewer. -/
theorem OpensNone.length_le (h : OpensNone w w') (htagged : Tagged w') :
    w'.gs.openIds.length ≤ w.gs.openIds.length :=
  (List.subperm_of_subset htagged.openIds_nodup h).length_le

end

/-! ## A silent table -/

/-- No seat acts: anything but a command. -/
def Input.isTimer : Input → Bool
  | .command .. => false
  | _ => true

/-- A stretch in which no seat acts and no window opens, with the number of times a window of the
newest frame lapsed in it. A timer may throw. -/
inductive Silence (T : Table) (w : World) : World → Nat → Prop
  | rest : Silence T w w 0
  | newest {w' : World} {lapses frameId : Nat} {win : Window} (fuel : Nat)
      (h : Silence T w w' lapses) (hnewest : w'.gs.Newest frameId win)
      (hdue : win.deadline ≤ w'.now)
      (hnone : OpensNone w' (comesTo (handle T fuel (.windowLapse win.id)) w')) :
      Silence T w (comesTo (handle T fuel (.windowLapse win.id)) w') (lapses + 1)
  | other {w' : World} {lapses : Nat} {input : Input} (fuel : Nat) (h : Silence T w w' lapses)
      (htimer : input.isTimer = true) (hnone : OpensNone w' (comesTo (handle T fuel input) w')) :
      Silence T w (comesTo (handle T fuel input) w') lapses

section
variable {setup : GameSetup} {w w' : World} {T : Table}

/-- Windows keep to their ids, whatever an input comes to. -/
theorem Tagged.comesTo (htagged : Tagged w) (fuel : Nat) (input : Input) :
    Tagged (Lib.comesTo (handle T fuel input) w) :=
  (Tags.of_path ((Tags.handle fuel input).reaches w)).tagged htagged

/-- Each lapse of a window of the newest frame takes one of the open windows. -/
theorem Silence.length_le (htagged : Tagged w) {lapses : Nat} (hsilence : Silence T w w' lapses) :
    Tagged w' ∧ w'.gs.openIds.length + lapses ≤ w.gs.openIds.length := by
  induction hsilence with
  | rest => exact ⟨htagged, Nat.le_refl _⟩
  | @newest w₁ lapses frameId win fuel _ hnewest hdue hnone ih =>
    obtain ⟨htagged₁, hle⟩ := ih
    have htagged₂ : Tagged (comesTo (handle T fuel (.windowLapse win.id)) w₁) :=
      htagged₁.comesTo fuel _
    refine ⟨htagged₂, ?_⟩
    have hgone := htagged₁.lapse_closes (T := T) hnewest.found hnewest.stands hdue
      (fun _ => hnewest.newest) fuel
    -- what is left is open before the lapse, and the window that lapsed is not left
    have hleft : (comesTo (handle T fuel (.windowLapse win.id)) w₁).gs.openIds ⊆
        w₁.gs.openIds.erase win.id := by
      intro i hi
      have hne : i ≠ win.id := fun heq => hgone (heq ▸ hi)
      exact (List.mem_erase_of_ne hne).2 (hnone hi)
    have hstood : win.id ∈ w₁.gs.openIds := List.mem_map_of_mem hnewest.mem
    have hlength := (List.subperm_of_subset htagged₂.openIds_nodup hleft).length_le
    rw [List.length_erase_of_mem hstood] at hlength
    have hpos := List.length_pos_of_mem hstood
    omega
  | other fuel _ _ hnone ih =>
    obtain ⟨htagged₁, hle⟩ := ih
    have htagged₂ := htagged₁.comesTo (T := T) fuel
    exact ⟨htagged₂ _, Nat.le_trans (Nat.add_le_add_right (hnone.length_le (htagged₂ _)) _) hle⟩

/-- Silence ends every wait, in every run and whether an input returns, throws half-way or runs out
of what it may nest. A window of the newest frame that has an open window closes when its time is
up; a lapse reopens no window, and opens none but through what it sets off; a window of an older
frame closes as well, or only starts its clock again. So in a stretch in which no seat acts and no
window opens, all windows are closed after as many lapses of a window of the newest frame as there
were open windows, and as long as one is open there is such a window to lapse. -/
theorem Course.silence_ends {meets : Nat → World → Input → Prop} (h : Course setup meets w) :
    (∀ frameId win, w.gs.Newest frameId win → win.deadline ≤ w.now → ∀ fuel, win.id ∉
      (comesTo (handle setup.table fuel (.windowLapse win.id)) w).gs.openIds) ∧
    (∀ windowId,
      (∀ fuel, ∀ i ∈ (comesTo (handle setup.table fuel (.windowLapse windowId)) w).gs.openIds,
        i ∈ w.gs.openIds ∨ w.nextId ≤ i) ∧
      OpensNone w (comesTo (windowLapse setup.table unheard windowId) w)) ∧
    (∀ frameId win, w.gs.windowById win.id = some (frameId, win) → win.isOpen = true →
      win.deadline ≤ w.now → w.gs.hasOpenFramesAfter frameId = true → ∀ fuel,
      win.id ∉ (comesTo (handle setup.table fuel (.windowLapse win.id)) w).gs.openIds ∨
        comesTo (handle setup.table fuel (.windowLapse win.id)) w =
          { w with gs := w.gs.modifyWindow win.id (Window.resetTimer w.now) }) ∧
    ∀ w' lapses, Silence setup.table w w' lapses →
      (w.gs.openIds.length ≤ lapses → w'.gs.openIds = []) ∧
      (w'.gs.openIds ≠ [] → ∃ frameId win, w'.gs.Newest frameId win) := by
  have htagged := h.tagged
  refine ⟨fun frameId win hnewest hdue fuel => ?_, fun windowId => ⟨fun fuel i hi => ?_, ?_⟩,
    fun frameId win hfound hopen hdue hafter fuel => ?_, fun w' lapses hsilence => ?_⟩
  · exact htagged.lapse_closes hnewest.found hnewest.stands hdue (fun _ => hnewest.newest) fuel
  · exact (Tags.of_path ((Tags.handle fuel _).reaches w)).opened i hi
  · exact .windowLapse setup.table windowId w
  · cases hpassable : win.isPassable with
    | false =>
      exact .inl (htagged.lapse_closes hfound hopen hdue
        (fun hp => nomatch hp.symm.trans hpassable) fuel)
    | true => exact .inr (lapse_rearms hfound hopen hdue hpassable hafter)
  · obtain ⟨htagged', hle⟩ := hsilence.length_le htagged
    refine ⟨fun hmany => List.eq_nil_of_length_eq_zero ?_, htagged'.exists_newest⟩
    omega

end

/-- The hero has entered the party and asks whether to roll for it, and the time to say so is up.
The lapse of the question opens nothing. -/
theorem heroAtStake_asks :
    ((heroAtStake.play 40
    [.command "A" (.action (.playHero "hero-001")), .command "B" (.passWindow 1),
        .tick 60000]).any fun w =>
      w.gs.openIds == [4] && w.gs.openWindows.all (fun win => win.deadline ≤ w.now) &&
        (comesTo (handle heroAtStake.table 40 (.windowLapse 4)) w).gs.openIds.all
          fun i => w.gs.openIds.contains i) = true := by
  decide +kernel

/-- One question is open, its window lapses, and none is left. -/
theorem Course.silence_ends_heroAtStake : ∃ w w', Course heroAtStake (Whole heroAtStake.table) w ∧
    w.gs.openIds.length = 1 ∧ Silence heroAtStake.table w w' 1 ∧ w'.gs.openIds = [] := by
  obtain ⟨w, h, hplayed⟩ := Reach.of_play _ _ _ _ heroAtStake_asks
  simp only [Bool.and_eq_true, beq_iff_eq, List.all_eq_true, decide_eq_true_eq,
    List.contains_eq_mem] at hplayed
  obtain ⟨⟨hopen, hdue⟩, hnone⟩ := hplayed
  have hcourse := course_whole_iff.2 h
  obtain ⟨frameId, win, hnewest⟩ := hcourse.tagged.exists_newest (by simp [hopen])
  -- the question is the one open window
  have hmem : win.id ∈ w.gs.openIds := List.mem_map_of_mem hnewest.mem
  rw [hopen, List.mem_singleton] at hmem
  have hlapse : Silence heroAtStake.table w
    (comesTo (handle heroAtStake.table 40 (.windowLapse win.id)) w) 1 :=
    .newest 40 .rest hnewest (hdue win hnewest.mem) fun i hi => hnone i (hmem ▸ hi)
  have hlength : w.gs.openIds.length = 1 := by rw [hopen]; rfl
  obtain ⟨-, -, -, hsilence⟩ := hcourse.silence_ends
  exact ⟨w, _, hcourse, hlength, hlapse, (hsilence _ 1 hlapse).1 (Nat.le_of_eq hlength)⟩

end HereToSlaughter
