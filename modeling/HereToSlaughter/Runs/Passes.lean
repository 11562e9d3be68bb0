import HereToSlaughter.Runs.Silence
import HereToSlaughter.Writes.Passes

/-!
# When a pass settles a window

A roll or a challenge settles through a pass once every seat that may still pass it has passed, and
while a window of a newer frame stands over it, it does not: the settlement is refused and the
passes stay. What lands on the window afterwards takes them back; but the newer window may also end
with nothing landing, and then every seat has passed a window that stands and waits for its clock
(`Reach.pass_rule`).

Reference: `ReactionManager.pass`, `resolve` of `reactions/{modifiable-roll,challenge}-window.ts`.
-/

namespace HereToSlaughter

open Lib EngineM

/-! ## Who has passed -/

namespace Window

variable {v v' : Window}

/-- Who may pass is read off the stakes. -/
theorem canPass_congr (h : v'.stakes = v.stakes) : v'.canPass = v.canPass := by
  rcases v with ⟨_, _, _, _, _, body⟩
  rcases v' with ⟨_, _, _, _, _, body'⟩
  cases body <;> cases body' <;> simp_all [stakes, canPass, funext_iff]

/-- So is whether anybody may. -/
theorem isPassable_congr (h : v'.stakes = v.stakes) : v'.isPassable = v.isPassable := by
  rcases v with ⟨_, _, _, _, _, body⟩
  rcases v' with ⟨_, _, _, _, _, body'⟩
  cases body <;> cases body' <;> simp_all [stakes, isPassable]

/-- A pass leaves the stakes. -/
theorem stakes_pass (seat : String) (v : Window) : (v.pass seat).stakes = v.stakes := by
  rcases v with ⟨_, _, _, _, _, body⟩
  cases body <;> rfl

/-- A pass is put with the others. -/
theorem passedBy_pass (seat : String) (h : v.isPassable = true) :
    (v.pass seat).passedBy = insertPass seat v.passedBy := by
  rcases v with ⟨_, _, _, _, _, body⟩
  cases body with
  | roll | challenge => rfl
  | choice => cases h

/-- Where a seat may pass the window is passable. -/
theorem isPassable_of_canPass {seat : String} (h : v.canPass seat = true) :
    v.isPassable = true := by
  rcases v with ⟨_, _, _, _, _, body⟩
  cases body with
  | roll | challenge => rfl
  | choice => cases h

/-- A pass put with the others is there, and so are they. -/
theorem mem_insertPass {seat other : String} {passes : List String} :
    other ∈ insertPass seat passes ↔ other = seat ∨ other ∈ passes := by
  unfold insertPass
  split
  · constructor
    · exact .inr
    · rintro (rfl | h)
      · assumption
      · exact h
  · simp [or_comm]

end Window

/-- All have passed when every seat has that may. -/
theorem allPassed_iff {b : Board} {v : Window} :
    allPassed b v = true ↔ ∀ seat ∈ b.seats, v.canPass seat = true → seat ∈ v.passedBy := by
  simp only [allPassed, List.all_eq_true, Bool.or_eq_true, Bool.not_eq_true', List.contains_iff_mem]
  refine forall₂_congr fun seat _ => ?_
  cases v.canPass seat <;> simp

/-- The seats and the passes decide. -/
theorem allPassed_congr {b b' : Board} {v v' : Window} (hseats : b'.seats = b.seats)
    (hstakes : v'.stakes = v.stakes) (hpassed : v'.passedBy = v.passedBy) :
    allPassed b' v' = allPassed b v := by
  rw [allPassed, allPassed, hseats, Window.canPass_congr hstakes, hpassed]

/-- Where two sit, a window nobody has passed waits for somebody. -/
theorem allPassed_of_nil {b : Board} {v : Window} (hseats : 2 ≤ b.seats.length)
    (hpassable : v.isPassable = true) (hnil : v.passedBy = []) : allPassed b v = false := by
  have hnodup : b.seats.Nodup := b.players.nodup
  obtain ⟨seat, hseat, hcan⟩ : ∃ seat ∈ b.seats, v.canPass seat = true := by
    match hlist : b.seats, hseats, hnodup with
    | first :: second :: _, _, hnodup =>
      have hne : first ≠ second :=
        fun heq => (List.nodup_cons.1 hnodup).1 (heq ▸ List.mem_cons_self)
      by_cases hcan : v.canPass first = true
      · exact ⟨first, List.mem_cons_self, hcan⟩
      · refine ⟨second, List.mem_cons_of_mem _ List.mem_cons_self, ?_⟩
        rcases v with ⟨_, respondentId, _, _, _, body⟩
        cases body with
        | roll => rfl
        | challenge body =>
          simp only [Window.canPass, Bool.or_eq_true, decide_eq_true_eq, not_or, not_not] at hcan ⊢
          exact .inr fun heq => hne (hcan.2.trans heq.symm)
        | choice => cases hpassable
  refine Bool.eq_false_iff.2 fun hall => ?_
  have hmem := allPassed_iff.1 hall seat hseat hcan
  rw [hnil] at hmem
  cases hmem

/-! ## What a pass does -/

/-- The pass completes the passes of the window while a window of a newer frame stands over it, so
that its settlement is refused. -/
def Hurried (w : World) (windowId : Nat) (input : Input) : Prop :=
  ∃ seat frameId win, input = .command seat (.passWindow windowId) ∧
    w.gs.windowById windowId = some (frameId, win) ∧ win.isOpen = true ∧ win.canPass seat = true ∧
    allPassed w.gs.board (win.pass seat) = true ∧ w.gs.hasOpenFramesAfter frameId = true

section
variable {T : Table} {em : Emit} {w w' : World}

/-- Closing the windows of an id leaves none of them open. -/
theorem ne_of_mem_openWindows_close {gs : GameState} {windowId : Nat} {v : Window}
    (h : v ∈ (gs.modifyWindow windowId Window.close).openWindows) : v.id ≠ windowId := by
  obtain ⟨e, -, u, -, hopen, rfl⟩ := GameState.mem_openWindows_modifyWindow h
  split at hopen
  · cases hopen
  · rwa [if_neg ‹_›]

/-- The game state is changed before anything else is done. -/
theorem run_modifyGs {f : GameState → GameState} {rest : Unit → EngineM Unit} :
    (modifyGs f >>= rest) w = rest () { w with gs := f w.gs } := rfl

/-- A roll or a challenge settles unless a window of a newer frame stands, and it closes before
anything is said. -/
theorem resolve_cases (hem : ∀ event, Writes (em event)) {frameId : Nat} {win : Window}
    (hopen : win.isOpen = true) (hpassable : win.isPassable = true)
    (hrun : resolve T em frameId win w = .ok () w') :
    (w.gs.hasOpenFramesAfter frameId = true ∧
      w' = { w with gs := w.gs.modifyWindow win.id (Window.resetTimer w.now) }) ∨
    (w.gs.hasOpenFramesAfter frameId = false ∧ ∃ w₁, PassesKept w w₁ ∧
      (∀ v ∈ w₁.gs.openWindows, v.id ≠ win.id) ∧ PassesKept w₁ w') := by
  have hresolved : ¬ win.resolved = true := by simpa [Window.isOpen] using hopen
  unfold resolve at hrun
  rw [if_neg hresolved] at hrun
  cases hbody : win.body with
  | roll body =>
    rw [hbody] at hrun
    change (ite (w.gs.hasOpenFramesAfter frameId = true) _ _ : EngineM Unit) w = _ at hrun
    split at hrun <;> rename_i hafter
    · cases hrun
      exact .inl ⟨hafter, rfl⟩
    · refine .inr ⟨Bool.eq_false_iff.2 hafter, { w with gs :=
        (w.gs.restartWindowsOutside w.now frameId).modifyWindow win.id Window.close }, ?_, ?_, ?_⟩
      · exact .trans (.write (.restart w.now _)) (.write (.window win.id fun _ => .close))
      · exact fun v hv => ne_of_mem_openWindows_close hv
      · rw [run_modifyGs, run_modifyGs] at hrun
        exact Writes.keeps
          (.bind (hem _) fun _ => .bind (Writes.settleRoll hem _ _ _) fun _ => hem _)
          hrun
  | challenge body =>
    rw [hbody] at hrun
    change (ite (w.gs.hasOpenFramesAfter frameId = true) _ _ : EngineM Unit) w = _ at hrun
    split at hrun <;> rename_i hafter
    · cases hrun
      exact .inl ⟨hafter, rfl⟩
    · refine .inr ⟨Bool.eq_false_iff.2 hafter,
        { w with gs := w.gs.modifyWindow win.id Window.close },
          .write (.window win.id fun _ => .close), fun v hv => ne_of_mem_openWindows_close hv, ?_⟩
      rw [run_modifyGs] at hrun
      refine Writes.keeps (.bind (Writes.restart _ _) fun _ => .bind (hem _) fun _ => .ite ?_
        (.bind (Writes.releaseFrame _) fun _ => hem _)) hrun
      refine .bind (hem _) fun _ => .ite ?_ ?_
      · exact .bind (Writes.releaseFrame _) fun _ => .bind (Writes.modifyBoard _) fun _ => hem _
      · exact .bind (Writes.restoreFrame _) fun _ => .bind (Writes.modifyBoard _) fun _ => hem _
  | choice body => simp [Window.isPassable, hbody] at hpassable

/-- A pass is refused, or recorded; and recorded, it settles the window if every seat that may pass
has. -/
theorem pass_run {fuel windowId : Nat} {seat : String}
    (hrun : (handle T fuel (.command seat (.passWindow windowId))).run w = .ok () w') :
    ((∀ frameId win, w.gs.windowById windowId = some (frameId, win) → win.isOpen = true →
      ¬ win.canPass seat = true) ∧ w' = w) ∨
    ∃ frameId win, w.gs.windowById windowId = some (frameId, win) ∧ win.isOpen = true ∧
      win.canPass seat = true ∧
      if allPassed w.gs.board (win.pass seat) = true then
        resolve T (emit T fuel) frameId (win.pass seat)
          { w with gs := w.gs.modifyWindow windowId (Window.pass seat) } = .ok () w'
      else w' = { w with gs := w.gs.modifyWindow windowId (Window.pass seat) } := by
  obtain ⟨result, w₁, hpass, hend⟩ := ran_of_bind hrun
  cases hend
  have hget : ∀ act : GameState → EngineM RequestResult, (EngineM.getGs >>= act) w = act w.gs w :=
    fun _ => rfl
  unfold route pass at hpass
  dsimp only at hpass
  rw [hget] at hpass
  cases hfound : w.gs.windowById windowId with
  | none =>
    rw [hfound] at hpass
    cases hpass
    exact .inl ⟨fun _ _ h => (nomatch h), rfl⟩
  | some found =>
    obtain ⟨frameId, win⟩ := found
    rw [hfound] at hpass
    dsimp only at hpass
    split at hpass
    · cases hpass
      rename_i hclosed
      refine .inl ⟨fun _ _ h hopen => ?_, rfl⟩
      cases h
      rw [hopen] at hclosed
      cases hclosed
    · split at hpass
      · cases hpass
        rename_i hcannot
        refine .inl ⟨fun _ _ h _ hcan => ?_, rfl⟩
        cases h
        rw [hcan] at hcannot
        cases hcannot
      · rename_i hopen hcan
        refine .inr ⟨frameId, win, rfl, by simpa using hopen, by simpa using hcan, ?_⟩
        change (ite (allPassed w.gs.board (win.pass seat) = true) _ _ : EngineM RequestResult)
          { w with gs := w.gs.modifyWindow windowId (Window.pass seat) } = _ at hpass
        split at hpass <;> rename_i hall
        · obtain ⟨_, w₂, hresolve, hend⟩ := ran_of_bind hpass
          cases hend
          rwa [if_pos hall]
        · cases hpass
          rw [if_neg hall]

/-- The state once a pass is recorded. -/
def World.recordPass (windowId : Nat) (seat : String) (w : World) : World :=
  { w with gs := w.gs.modifyWindow windowId (Window.pass seat) }

/-- What a pass came to. -/
inductive PassOutcome (windowId : Nat) (seat : String) (w w' : World) : Prop
  /-- The seat may not pass the window, or it is not open. -/
  | refused (hnone : ∀ frameId win, w.gs.windowById windowId = some (frameId, win) →
      win.isOpen = true → ¬ win.canPass seat = true) (hsame : w' = w)
  /-- The window still waits for another seat. -/
  | waits {frameId : Nat} {win : Window} (hfound : w.gs.windowById windowId = some (frameId, win))
      (hopen : win.isOpen = true) (hcan : win.canPass seat = true)
      (hall : allPassed w.gs.board (win.pass seat) = false)
      (hdone : w' = w.recordPass windowId seat)
  /-- It was the last pass, and a window of a newer frame stands. -/
  | overtaken {frameId : Nat} {win : Window}
      (hfound : w.gs.windowById windowId = some (frameId, win))
      (hopen : win.isOpen = true) (hcan : win.canPass seat = true)
      (hall : allPassed w.gs.board (win.pass seat) = true)
      (hafter : w.gs.hasOpenFramesAfter frameId = true)
      (hdone : w' = { w.recordPass windowId seat with
        gs := (w.recordPass windowId seat).gs.modifyWindow windowId (Window.resetTimer w.now) })
  /-- It was the last pass, and the window settles. -/
  | settles {frameId : Nat} {win : Window} (hfound : w.gs.windowById windowId = some (frameId, win))
      (hopen : win.isOpen = true) (hcan : win.canPass seat = true)
      (hall : allPassed w.gs.board (win.pass seat) = true)
      (hafter : w.gs.hasOpenFramesAfter frameId = false) {w₁ : World}
      (hkept : PassesKept (w.recordPass windowId seat) w₁)
      (hclosed : ∀ v ∈ w₁.gs.openWindows, v.id ≠ windowId) (hkept' : PassesKept w₁ w')

/-- A pass closes no window over this one. -/
theorem hasOpenFramesAfter_pass (gs : GameState) (windowId : Nat) (seat : String) (frameId : Nat) :
    (gs.modifyWindow windowId (Window.pass seat)).hasOpenFramesAfter frameId =
      gs.hasOpenFramesAfter frameId := by
  have hframes : (gs.modifyWindow windowId (Window.pass seat)).frameShapes = gs.frameShapes :=
    gs.frameShapes_modifyWindow_of_shape (Window.shape_pass seat)
  have hafter :=
    GameState.openAfter_shape { gs := gs.modifyWindow windowId (Window.pass seat) } frameId
  change openAfter frameId (gs.modifyWindow windowId (Window.pass seat)).frameShapes = _ at hafter
  rw [hframes] at hafter
  exact hafter.symm.trans (GameState.openAfter_shape { gs } frameId)

/-- A pass that is answered is put down or refused, and settles the window if it was the last. -/
theorem pass_outcome {fuel windowId : Nat} {seat : String}
    (hrun : (handle T fuel (.command seat (.passWindow windowId))).run w = .ok () w') :
    PassOutcome windowId seat w w' := by
  obtain ⟨hnone, rfl⟩ | ⟨frameId, win, hfound, hopen, hcan, hdone⟩ := pass_run hrun
  · exact .refused hnone rfl
  have hwin : (win.pass seat).id = windowId :=
    (Window.id_pass seat win).trans (GameState.hasWindow_windowById hfound).2
  split at hdone <;> rename_i hall
  · have hsettle := resolve_cases (Writes.emit fuel) ((Window.isOpen_pass seat win).trans hopen)
      ((Window.isPassable_congr (Window.stakes_pass seat win)).trans
        (Window.isPassable_of_canPass hcan)) hdone
    rw [hasOpenFramesAfter_pass, hwin] at hsettle
    obtain ⟨hafter, hdone⟩ | ⟨hafter, w₁, hkept, hclosed, hkept'⟩ := hsettle
    · exact .overtaken hfound hopen hcan hall hafter hdone
    · exact .settles hfound hopen hcan hall hafter hkept hclosed hkept'
  · exact .waits hfound hopen hcan (Bool.eq_false_iff.2 hall) hdone

end

/-! ## Along a run -/

/-- From one rest to a later one nothing landed on the window: it stands with the same stakes and
every pass it had, and no card was spent on it. -/
structure Undisturbed (windowId : Nat) (w w' : World) : Prop where
  stands : ∃ v ∈ w.gs.openWindows, ∃ v' ∈ w'.gs.openWindows, v.id = windowId ∧ v'.id = windowId ∧
    v'.stakes = v.stakes ∧ v.passedBy ⊆ v'.passedBy
  unspent : Unspent windowId w w'

/-- A run in which the seat has passed the window, and since which nothing has landed on it. -/
inductive HasPassed (setup : GameSetup) (seat : String) (windowId : Nat) : World → Prop
  | passed {w w' : World} {fuel : Nat} (h : Reach setup w)
    (hrun : (handle setup.table fuel (.command seat (.passWindow windowId))).run w = .ok () w')
    (hsame : Undisturbed windowId w w') : HasPassed setup seat windowId w'
  | still {w w' : World} {input : Input} (h : HasPassed setup seat windowId w)
    (hstep : Step setup.table w input w') (hsame : Undisturbed windowId w w') :
    HasPassed setup seat windowId w'

/-- A run in which the last pass of the window came under a newer window, and since which nothing
has landed on it. -/
inductive Overtaken (setup : GameSetup) (windowId : Nat) : World → Prop
  | refused {w w' : World} {input : Input} {fuel : Nat} (h : Reach setup w)
    (hhurried : Hurried w windowId input)
    (hrun : (handle setup.table fuel input).run w = .ok () w') : Overtaken setup windowId w'
  | still {w w' : World} {input : Input} (h : Overtaken setup windowId w)
    (hstep : Step setup.table w input w') (hsame : Undisturbed windowId w w') :
    Overtaken setup windowId w'

/-- The states of the runs in which no pass completes the passes of a window under a newer one. -/
inductive Unhurried (setup : GameSetup) : World → Prop
  | start {fuel : Nat} {w w' : World} (deal : createGame setup = .ok w)
    (h : (startGame setup fuel).run w = .ok () w') : Unhurried setup w'
  | step {w w' : World} {input : Input} (h : Unhurried setup w)
    (hstep : Step setup.table w input w') (hnot : ∀ windowId, ¬ Hurried w windowId input) :
    Unhurried setup w'

section
variable {setup : GameSetup} {w w' : World}

/-- A run so is a run. -/
theorem Unhurried.reach (h : Unhurried setup w) : Reach setup w := by
  induction h with
  | start deal h => exact .start deal h
  | step _ hstep _ ih => exact ih.step hstep

/-- At rest an open window is the one its id finds. -/
theorem Reach.windowById (h : Reach setup w) {v : Window} (hv : v ∈ w.gs.openWindows) :
    ∃ frameId, w.gs.windowById v.id = some (frameId, v) := by
  obtain ⟨e, he, hv, -⟩ := GameState.mem_openWindows.1 hv
  exact ⟨e.1, (course_whole_iff.2 h).tagged.windowById_of_mem he hv⟩

/-- No two open windows share an id. -/
theorem Reach.openWindow_unique (h : Reach setup w) {v v' : Window} (hv : v ∈ w.gs.openWindows)
    (hv' : v' ∈ w.gs.openWindows) (hid : v.id = v'.id) : v = v' := by
  obtain ⟨_, hfound⟩ := h.windowById hv
  obtain ⟨_, hfound'⟩ := h.windowById hv'
  rw [hid, hfound'] at hfound
  cases hfound
  rfl

/-- At rest the seats are those of the game. -/
theorem Reach.seats (h : Reach setup w) : w.gs.board.seats = setup.playerOrder := by
  obtain ⟨hvalid, k, hpath, -⟩ := h.machine
  have hsound := (outerSystem setup.printedTable).inv_of_path hpath hvalid.sound
  exact hsound.seats.board.players.trans (playerOrder_path hpath)

/-- The windows once a pass is recorded: the one that was passed, and the others. -/
theorem Reach.recorded (h : Reach setup w) {windowId frameId : Nat} {win : Window} {seat : String}
    (hfound : w.gs.windowById windowId = some (frameId, win)) {u : Window}
    (hu : u ∈ (w.gs.modifyWindow windowId (Window.pass seat)).openWindows) :
    (u.id ≠ windowId ∧ u ∈ w.gs.openWindows) ∨ (win.isOpen = true ∧ u = win.pass seat) := by
  obtain ⟨e, he, v, hv, hopen, rfl⟩ := GameState.mem_openWindows_modifyWindow hu
  split at hopen <;> rename_i hid
  · rw [if_pos hid]
    rw [Window.isOpen_pass] at hopen
    obtain ⟨F, hv'⟩ := h.windowById (GameState.mem_openWindows.2 ⟨e, he, hv, hopen⟩)
    rw [hid, hfound] at hv'
    cases hv'
    exact .inr ⟨hopen, rfl⟩
  · rw [if_neg hid]
    exact .inl ⟨hid, GameState.mem_openWindows.2 ⟨e, he, hv, hopen⟩⟩

/-- What an input made of a window that is open before and after, and kept its passes: nothing
landed on it, and if it has one pass more, that is the input's, and it did not settle the window. -/
structure Traces (T : Table) (input : Input) (w w' : World) (v v' : Window) : Prop where
  id : v'.id = v.id
  stakes : v'.stakes = v.stakes
  unspent : Unspent v.id w w'
  passes : v'.passedBy = v.passedBy ∨ ∃ seat fuel, input = .command seat (.passWindow v.id) ∧
    (handle T fuel input).run w = .ok () w' ∧ v'.passedBy = Window.insertPass seat v.passedBy ∧
    (allPassed w.gs.board v' = true → Hurried w v.id input)

/-- A window that is open after a step has no passes, or has those it had, and perhaps one more. -/
theorem Reach.traces (h : Reach setup w) {input : Input} (hstep : Step setup.table w input w')
    {v' : Window} (hv' : v' ∈ w'.gs.openWindows) : v'.passedBy = [] ∨
    ∃ v ∈ w.gs.openWindows, Traces setup.table input w w' v v' := by
  have hkeeps : PassesKept w w' → v'.passedBy = [] ∨
      ∃ v ∈ w.gs.openWindows, Traces setup.table input w w' v v' := fun hkept =>
    (hkept v' hv').imp_right fun ⟨v, hv, hid, hpassed, hstakes, hunspent⟩ =>
      ⟨v, hv, hid, hstakes, hunspent, .inl hpassed⟩
  cases hstep with
  | threw => exact hkeeps .refl
  | @ok fuel _ hrun =>
    by_cases hpass : input.isPass = true
    · obtain ⟨seat, windowId, rfl⟩ : ∃ seat windowId,
        input = .command seat (.passWindow windowId) := by
        cases input with
        | command seat command =>
          cases command with
          | passWindow windowId => exact ⟨seat, windowId, rfl⟩
          | _ => cases hpass
        | _ => cases hpass
      -- what stands once the pass is recorded, followed to the end of the input
      have hrest : ∀ {frameId win}, w.gs.windowById windowId = some (frameId, win) →
          win.canPass seat = true → ∀ u ∈ (w.recordPass windowId seat).gs.openWindows,
          v'.id = u.id → v'.passedBy = u.passedBy → v'.stakes = u.stakes → Unspent u.id w w' →
          (u.id = windowId → allPassed w.gs.board (win.pass seat) = true →
            Hurried w windowId (.command seat (.passWindow windowId))) →
          ∃ v ∈ w.gs.openWindows,
          Traces setup.table (.command seat (.passWindow windowId)) w w' v v' := by
        intro frameId win hfound hcan u hu hid hpassed hstakes hunspent hhurried
        have hwin : win.id = windowId := (GameState.hasWindow_windowById hfound).2
        obtain ⟨-, hu⟩ | ⟨hopen, rfl⟩ := h.recorded hfound hu
        · exact ⟨u, hu, hid, hstakes, hunspent, .inl hpassed⟩
        rw [Window.id_pass] at hid hunspent
        refine ⟨win, GameState.mem_openWindows_of_windowById hfound hopen, hid,
          hstakes.trans (Window.stakes_pass seat win), hunspent,
          .inr ⟨seat, fuel, hwin ▸ rfl, hrun,
            hpassed.trans (Window.passedBy_pass seat (Window.isPassable_of_canPass hcan)),
            fun hall => ?_⟩⟩
        rw [hwin]
        rw [allPassed_congr rfl hstakes hpassed] at hall
        exact hhurried ((Window.id_pass seat win).trans hwin) hall
      cases pass_outcome hrun with
      | refused _ hsame => exact hkeeps (hsame ▸ .refl)
      | waits hfound hopen hcan hall hdone =>
        subst hdone
        exact .inr (hrest hfound hcan v' hv' rfl rfl rfl (.of_eq rfl) fun _ h =>
          nomatch h.symm.trans hall)
      | @overtaken frameId win hfound hopen hcan hall hafter hdone =>
        subst hdone
        obtain hnil | ⟨u, hu, hid, hpassed, hstakes, hunspent⟩ :=
          PassesKept.write (.window _ fun _ => .resetTimer _) v' hv'
        · exact .inl hnil
        · exact .inr (hrest hfound hcan u hu hid hpassed hstakes hunspent fun _ hall =>
            ⟨seat, frameId, win, rfl, hfound, hopen, hcan, hall, hafter⟩)
      | settles hfound hopen hcan hall hafter hkept hclosed hkept' =>
        obtain hnil | ⟨u₁, hu₁, hid₁, hpassed₁, hstakes₁, hunspent₁⟩ := hkept' v' hv'
        · exact .inl hnil
        obtain hnil | ⟨u, hu, hid, hpassed, hstakes, hunspent⟩ := hkept u₁ hu₁
        · exact .inl (hpassed₁.trans hnil)
        exact .inr (hrest hfound hcan u hu (hid₁.trans hid) (hpassed₁.trans hpassed)
          (hstakes₁.trans hstakes) (Unspent.trans hunspent (hid ▸ hunspent₁)) fun hu _ =>
            absurd (hid.trans hu) (hclosed u₁ hu₁))
    · exact hkeeps ((Writes.handle fuel (by simpa using hpass)).keeps hrun)

/-- Nobody has passed anything when a game has started. -/
theorem passedBy_start {fuel : Nat} (deal : createGame setup = .ok w)
    (h : (startGame setup fuel).run w = .ok () w') {v : Window} (hv : v ∈ w'.gs.openWindows) :
    v.passedBy = [] := by
  have hstart : Writes (startGame setup fuel) := .bind .get fun _ => Writes.start fuel _
  obtain hnil | ⟨u, hu, -⟩ := hstart.keeps h v hv
  · exact hnil
  · obtain ⟨rfl, -⟩ := GameSetup.createGame_ok deal
    cases hu

namespace Traces

variable {T : Table} {input : Input} {v v' : Window}

/-- A window that is traced was not disturbed. -/
theorem undisturbed (h : Traces T input w w' v v') (hv : v ∈ w.gs.openWindows)
    (hv' : v' ∈ w'.gs.openWindows) : Undisturbed v.id w w' := by
  refine ⟨⟨v, hv, v', hv', rfl, h.id, h.stakes, fun seat hseat => ?_⟩, h.unspent⟩
  obtain hpassed | ⟨_, _, -, -, hpassed, -⟩ := h.passes
  · exact hpassed ▸ hseat
  · exact hpassed ▸ Window.mem_insertPass.2 (.inr hseat)

end Traces

/-- Every pass of an open window was made by its seat, and nothing has landed on the window
since. -/
theorem Reach.hasPassed (h : Reach setup w) : ∀ v ∈ w.gs.openWindows, ∀ seat ∈ v.passedBy,
    HasPassed setup seat v.id w := by
  induction h with
  | start deal h =>
    intro v hv seat hseat
    rw [passedBy_start deal h hv] at hseat
    cases hseat
  | step hreach hstep ih =>
    intro v' hv' seat hseat
    obtain hnil | ⟨v, hv, htraces⟩ := hreach.traces hstep hv'
    · rw [hnil] at hseat
      cases hseat
    have hsame := htraces.undisturbed hv hv'
    rw [htraces.id]
    obtain hpassed | ⟨seat', fuel, rfl, hrun, hpassed, -⟩ := htraces.passes
    · exact .still (ih v hv seat (hpassed ▸ hseat)) hstep hsame
    · rw [hpassed] at hseat
      obtain rfl | hseat := Window.mem_insertPass.1 hseat
      · exact .passed hreach hrun hsame
      · exact .still (ih v hv seat hseat) hstep hsame

/-- A window that every seat has passed and that stands was given its last pass under a newer
one. -/
theorem Reach.overtaken (h : Reach setup w) (hseats : 2 ≤ setup.playerOrder.length) :
    ∀ v ∈ w.gs.openWindows, v.isPassable = true → allPassed w.gs.board v = true →
      Overtaken setup v.id w := by
  have hfew : ∀ {w : World} {v : Window}, Reach setup w → v.isPassable = true →
      allPassed w.gs.board v = true → v.passedBy ≠ [] := fun {w v} hreach hpassable hall hnil => by
    rw [allPassed_of_nil (hreach.seats.symm ▸ hseats) hpassable hnil] at hall
    cases hall
  induction h with
  | start deal h =>
    intro v hv hpassable hall
    exact absurd (passedBy_start deal h hv) (hfew (.start deal h) hpassable hall)
  | @step w w' input hreach hstep ih =>
    intro v' hv' hpassable hall
    obtain hnil | ⟨v, hv, htraces⟩ := hreach.traces hstep hv'
    · exact absurd hnil (hfew (hreach.step hstep) hpassable hall)
    have hsame := htraces.undisturbed hv hv'
    have hboard : w'.gs.board.seats = w.gs.board.seats :=
      (hreach.step hstep).seats.trans hreach.seats.symm
    have hall' : allPassed w.gs.board v' = true := by
      rwa [allPassed_congr hboard rfl rfl] at hall
    rw [htraces.id]
    obtain hpassed | ⟨seat, fuel, rfl, hrun, -, hhurried⟩ := htraces.passes
    · refine .still (ih v hv ?_ ?_) hstep hsame
      · rwa [Window.isPassable_congr htraces.stakes] at hpassable
      · rwa [allPassed_congr rfl htraces.stakes hpassed] at hall'
    · exact .refused hreach (hhurried hall') hrun

/-- A run that overtakes is a run. -/
theorem Overtaken.reach {windowId : Nat} (h : Overtaken setup windowId w) : Reach setup w := by
  induction h with
  | refused hreach _ hrun => exact hreach.step (.ok hrun)
  | still _ hstep _ ih => exact ih.step hstep

/-- A settlement that was refused leaves a window that every seat has passed, until something lands
on it. -/
theorem Overtaken.allPassed {windowId : Nat} (h : Overtaken setup windowId w) :
    ∀ v ∈ w.gs.openWindows, v.id = windowId → allPassed w.gs.board v = true := by
  induction h with
  | @refused w w' input fuel hreach hhurried hrun =>
    intro v' hv' hid'
    have hreach' := hreach.step (.ok hrun)
    obtain ⟨seat, frameId, win, rfl, hfound, hopen, hcan, hall, hafter⟩ := hhurried
    cases pass_outcome hrun with
    | refused hnone => exact absurd hcan (hnone frameId win hfound hopen)
    | waits hfound' _ _ hall' =>
      cases hfound.symm.trans hfound'
      cases hall.symm.trans hall'
    | settles hfound' _ _ _ hafter' =>
      cases hfound.symm.trans hfound'
      cases hafter.symm.trans hafter'
    | overtaken hfound' _ _ _ _ hdone =>
      subst hdone
      obtain ⟨e, he, u, hu, hstands, rfl⟩ := GameState.mem_openWindows_modifyWindow hv'
      have hid : u.id = windowId := by
        split at hid' <;> exact hid'
      rw [if_pos hid] at hstands ⊢
      have hu := GameState.mem_openWindows.2 ⟨e, he, hu, hstands⟩
      obtain rfl : u = win.pass seat :=
        (hreach.recorded hfound hu).elim (fun h => absurd hid h.1) And.right
      exact hall
  | @still w w' input h hstep hsame ih =>
    intro v' hv' hid'
    obtain ⟨⟨v, hv, u, hu, hid, huid, hstakes, hpassed⟩, -⟩ := hsame
    obtain rfl : u = v' := (h.reach.step hstep).openWindow_unique hu hv' (huid.trans hid'.symm)
    have hboard : w'.gs.board.seats = w.gs.board.seats :=
      (h.reach.step hstep).seats.trans h.reach.seats.symm
    refine allPassed_iff.2 fun seat hseat hcan => hpassed ?_
    rw [Window.canPass_congr hstakes] at hcan
    exact allPassed_iff.1 (ih v hv hid) seat (hboard ▸ hseat) hcan

/-- In a run without hurry no open window has been passed by everyone. -/
theorem Unhurried.waits (h : Unhurried setup w) (hseats : 2 ≤ setup.playerOrder.length) :
    ∀ v ∈ w.gs.openWindows, v.isPassable = true →
    HereToSlaughter.allPassed w.gs.board v = false := by
  have hnew : ∀ {w : World} {v : Window}, Reach setup w → v.isPassable = true → v.passedBy = [] →
      HereToSlaughter.allPassed w.gs.board v = false := fun hreach hpassable hnil =>
    allPassed_of_nil (hreach.seats.symm ▸ hseats) hpassable hnil
  induction h with
  | start deal h =>
    exact fun v hv hpassable => hnew (.start deal h) hpassable (passedBy_start deal h hv)
  | @step w w' input h hstep hnot ih =>
    intro v' hv' hpassable
    have hreach := h.reach
    obtain hnil | ⟨v, hv, htraces⟩ := hreach.traces hstep hv'
    · exact hnew (hreach.step hstep) hpassable hnil
    have hboard : w'.gs.board.seats = w.gs.board.seats :=
      (hreach.step hstep).seats.trans hreach.seats.symm
    rw [allPassed_congr hboard rfl rfl]
    obtain hpassed | ⟨seat, fuel, rfl, hrun, -, hhurried⟩ := htraces.passes
    · rw [allPassed_congr rfl htraces.stakes hpassed]
      exact ih v hv (by rwa [Window.isPassable_congr htraces.stakes] at hpassable)
    · exact Bool.eq_false_iff.2 fun hall => hnot _ (hhurried hall)

/-- A pass that closes a window is the last one it waited for, with no newer window over it. -/
theorem Reach.settles_by_pass (h : Reach setup w) {frameId : Nat} {win : Window} {seat : String}
    {fuel : Nat} (hfound : w.gs.windowById win.id = some (frameId, win)) (hopen : win.isOpen = true)
    (hrun : (handle setup.table fuel (.command seat (.passWindow win.id))).run w = .ok () w')
    (hclosed : win.id ∉ w'.gs.openIds) :
    w.gs.hasOpenFramesAfter frameId = false ∧
      HereToSlaughter.allPassed w.gs.board (win.pass seat) = true := by
  have hmem := GameState.mem_openWindows_of_windowById hfound hopen
  have hrecorded : win.pass seat ∈ (w.recordPass win.id seat).gs.openWindows :=
    GameState.mem_openWindows_modifyWindow_self hmem ((Window.isOpen_pass seat win).trans hopen)
  cases pass_outcome hrun with
  | refused _ hsame =>
    subst hsame
    exact absurd (List.mem_map_of_mem hmem) hclosed
  | waits hfound' _ _ _ hdone =>
    subst hdone
    have hid := List.mem_map_of_mem (f := Window.id) hrecorded
    rw [Window.id_pass] at hid
    exact absurd hid hclosed
  | overtaken _ _ _ _ _ hdone =>
    subst hdone
    have hreset :=
      GameState.mem_openWindows_modifyWindow_self (f := Window.resetTimer w.now) hrecorded
      ((Window.isOpen_pass seat win).trans hopen)
    rw [Window.id_pass] at hreset
    have hid := List.mem_map_of_mem (f := Window.id) hreset
    change (win.pass seat).id ∈ _ at hid
    rw [Window.id_pass] at hid
    exact absurd hid hclosed
  | settles hfound' _ _ hall hafter =>
    cases hfound.symm.trans hfound'
    exact ⟨hafter, hall⟩

/-- The pass rule. A window that a pass settles has been passed, since something last landed on it,
by every seat that may still pass it, and no newer window is open over it. At rest a window has been
passed by every seat that may pass it just when the last of these passes came under a newer window
and nothing has landed since; so in a run in which no pass comes last under a newer window, no
window without one over it waits though everybody has passed. No input of these runs throws
half-way. -/
theorem Reach.pass_rule (h : Reach setup w) :
    (∀ frameId win seat fuel w', w.gs.windowById win.id = some (frameId, win) →
      win.isOpen = true → (handle setup.table fuel (.command seat (.passWindow win.id))).run w =
        .ok () w' → win.id ∉ w'.gs.openIds →
      w.gs.hasOpenFramesAfter frameId = false ∧ ∀ other ∈ w.gs.board.seats,
        win.canPass other = true → other = seat ∨ HasPassed setup other win.id w) ∧
    (2 ≤ setup.playerIds.length →
      (∀ win ∈ w.gs.openWindows, win.isPassable = true →
        (HereToSlaughter.allPassed w.gs.board win = true ↔ Overtaken setup win.id w)) ∧
      (Unhurried setup w → ∀ frameId win, w.gs.windowById win.id = some (frameId, win) →
        win.isOpen = true → win.isPassable = true → w.gs.hasOpenFramesAfter frameId = false →
        HereToSlaughter.allPassed w.gs.board win = false)) := by
  refine ⟨fun frameId win seat fuel w' hfound hopen hrun hclosed => ?_, fun hseats => ?_⟩
  · obtain ⟨hafter, hall⟩ := h.settles_by_pass hfound hopen hrun hclosed
    refine ⟨hafter, fun other hother hcan => ?_⟩
    have hpassed := allPassed_iff.1 hall other hother
      ((Window.canPass_congr (Window.stakes_pass seat win)).symm ▸ hcan)
    rw [Window.passedBy_pass seat (Window.isPassable_of_canPass hcan)] at hpassed
    exact (Window.mem_insertPass.1 hpassed).imp_right fun hmem =>
      h.hasPassed win (GameState.mem_openWindows_of_windowById hfound hopen) other hmem
  · rw [← setup.playerOrder_perm.length_eq] at hseats
    refine ⟨fun win hwin hpassable => ⟨h.overtaken hseats win hwin hpassable, fun hover =>
      hover.allPassed win hwin rfl⟩, fun hunhurried frameId win hfound hopen hpassable _ => ?_⟩
    exact hunhurried.waits hseats win
      (GameState.mem_openWindows_of_windowById hfound hopen) hpassable

end

/-! ## A window everybody has given up -/

/-- A table at which the first seat has slain Bloodwing and the second challenges its hero. -/
def bloodwingAsks : GameSetup :=
  { tableForTwo 2 [] [] with
    cards :=
      [⟨"leader-A", "leader-A", "base", .leader .wizard⟩,
       ⟨"leader-B", "leader-B", "base", .leader .fighter⟩] ++
      ["monster-127", "monster-2", "monster-3"].map
        (fun id => ⟨id, id, "base", .monster ⟨4, 8, .highToWin, []⟩⟩) ++
      [heroCard "hero-001" .fighter 8, heroCard "hero-002" .thief 8,
       ⟨"challenge-102", "challenge-102", "base", .challenge⟩, heroCard "hero-003" .thief 8]
    rng := keepOrder [4, 3, 2, 2] [5, 5] }

/-- Both seats pass the contest while Bloodwing's question stands over it; the question is answered
with a discard, and the contest stands. -/
theorem bloodwingAsks_played :
    ((bloodwingAsks.play 40 [.command "A" (.action (.attackMonster "monster-127")),
        .command "A" (.passWindow 1), .command "B" (.passWindow 1),
        .command "A" (.action (.playHero "hero-001")),
        .command "B" (.challenge "challenge-102"), .command "A" (.passWindow 3),
        .command "B" (.passWindow 3), .command "B" (.submitChoice 8 (some (.id "hero-003")))]).any
      fun w => (w.gs.windowById 3).any fun found =>
        found.2.id = 3 && found.2.isOpen && found.2.isPassable &&
          !w.gs.hasOpenFramesAfter found.1 && allPassed w.gs.board found.2) = true := by
  decide +kernel

/-- The contest stands, no window is open over it, and every seat that may pass it has. -/
theorem pass_rule_fails : ∃ w frameId win, Reach bloodwingAsks w ∧
    w.gs.windowById win.id = some (frameId, win) ∧ win.isOpen = true ∧ win.isPassable = true ∧
    w.gs.hasOpenFramesAfter frameId = false ∧ allPassed w.gs.board win = true := by
  obtain ⟨w, h, hplayed⟩ := Reach.of_play _ _ _ _ bloodwingAsks_played
  obtain ⟨⟨frameId, win⟩, hfound, hstands⟩ := (Option.any_eq_true _ _).1 hplayed
  simp only [Bool.and_eq_true, decide_eq_true_eq, Bool.not_eq_true'] at hstands
  obtain ⟨⟨⟨⟨hid, hopen⟩, hpassable⟩, hafter⟩, hall⟩ := hstands
  exact ⟨w, frameId, win, h, hid.symm ▸ hfound, hopen, hpassable, hafter, hall⟩

/-- Bloodwing asks while the contest has every pass it needs. -/
theorem Reach.pass_rule_bloodwingAsks : ∃ w win, Reach bloodwingAsks w ∧
    win ∈ w.gs.openWindows ∧ Overtaken bloodwingAsks win.id w := by
  obtain ⟨w, h, hplayed⟩ := Reach.of_play _ _ _ _ bloodwingAsks_played
  obtain ⟨⟨frameId, win⟩, hfound, hstands⟩ := (Option.any_eq_true _ _).1 hplayed
  simp only [Bool.and_eq_true] at hstands
  obtain ⟨⟨⟨⟨-, hopen⟩, hpassable⟩, -⟩, hall⟩ := hstands
  obtain ⟨-, hrule⟩ := h.pass_rule
  have hwin := GameState.mem_openWindows_of_windowById hfound hopen
  exact ⟨w, win, h, hwin, ((hrule (by decide)).1 win hwin hpassable).1 hall⟩

end HereToSlaughter
