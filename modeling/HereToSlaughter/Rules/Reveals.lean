import HereToSlaughter.Model.PlayerView
import HereToSlaughter.Runs.Basic

/-!
# Looks that overlap

A `RevealTask` puts cards on what some seats are shown, and its timer takes them off again. The
state keeps one list of ids per seat and counts nothing, so the end of one look takes a card off
that another look still shows. Here looks begin and end in any order, with frames opened, released
and restored in between (`World.looks`), and what the seats are shown is right at every moment
exactly when no look ends while another shows one of its cards to one of its seats
(`looks_shown_iff`).

Reference: `tasks/tasks.ts`, `pipelines/game-state.ts`.
-/

namespace HereToSlaughter

open Lib EngineM

/-! ## What a look shows -/

namespace GameState

variable {gs : GameState} {playerId seat cardId : String} {cardIds seats : List String}
  {source : RevealSource}

/-- A look adds its cards for its seat. -/
theorem mem_getRevealed_revealTo : cardId ∈ (gs.revealTo playerId cardIds source).getRevealed seat ↔
    cardId ∈ gs.getRevealed seat ∨ seat = playerId ∧ cardId ∈ cardIds := by
  by_cases hseat : seat = playerId
  · subst hseat
    by_cases hin : cardId ∈ (gs.revealed.get? seat).getD [] <;>
      simp [getRevealed, revealTo, hin]
  · simp [getRevealed, revealTo, OrderedMap.get?_set_of_ne _ hseat, hseat]

/-- A look for several seats adds them for each. -/
theorem mem_getRevealed_revealTo_all : ∀ {seats : List String} {gs : GameState},
    cardId ∈ (seats.foldl (fun gs seat => gs.revealTo seat cardIds source) gs).getRevealed seat ↔
      cardId ∈ gs.getRevealed seat ∨ seat ∈ seats ∧ cardId ∈ cardIds
  | [], _ => by simp
  | first :: seats, gs => by
    rw [List.foldl_cons, mem_getRevealed_revealTo_all, mem_getRevealed_revealTo, List.mem_cons]
    tauto

/-- The end of a look takes its cards off its seat. -/
theorem mem_getRevealed_hideRevealed :
    cardId ∈ (gs.hideRevealed playerId cardIds).getRevealed seat ↔
    cardId ∈ gs.getRevealed seat ∧ ¬ (seat = playerId ∧ cardId ∈ cardIds) := by
  have hleft : cardId ∈ ((gs.revealed.get? playerId).getD []).filter (· ∉ cardIds) ↔
      cardId ∈ gs.getRevealed playerId ∧ cardId ∉ cardIds := by
    simp [getRevealed]
  by_cases hseat : seat = playerId
  · subst hseat
    unfold hideRevealed
    split
    · rename_i hnil
      rw [hnil] at hleft
      simpa [getRevealed] using hleft
    · simp [getRevealed]
  · unfold hideRevealed
    split
    · simp [getRevealed, OrderedMap.get?_erase_of_ne _ hseat, hseat]
    · simp [getRevealed, OrderedMap.get?_set_of_ne _ hseat, hseat]

/-- The end of a look for several takes them off each. -/
theorem mem_getRevealed_hideRevealed_all : ∀ {seats : List String} {gs : GameState},
    cardId ∈ (seats.foldl (fun gs seat => gs.hideRevealed seat cardIds) gs).getRevealed seat ↔
      cardId ∈ gs.getRevealed seat ∧ ¬ (seat ∈ seats ∧ cardId ∈ cardIds)
  | [], _ => by simp
  | first :: seats, gs => by
    rw [List.foldl_cons, mem_getRevealed_hideRevealed_all, mem_getRevealed_hideRevealed,
      List.mem_cons]
    tauto

end GameState

/-! ## Looks begin and end -/

namespace World

/-- A look begins: `RevealTask.execute` once it has found its cards. -/
def beginLook (reveal : Reveal) (source : RevealSource) (w : World) : World :=
  { w with
    gs := reveal.seats.foldl (fun gs seat => gs.revealTo seat reveal.cardIds source) w.gs
    reveals := w.reveals ++ [reveal] }

/-- A look ends, and those are left: what its timer does. -/
def endLook (reveal : Reveal) (left : List Reveal) (w : World) : World :=
  { w with
    gs := reveal.seats.foldl (fun gs seat => gs.hideRevealed seat reveal.cardIds) w.gs
    reveals := left }

end World

/-- The task begins a look, or finds nothing to show. -/
theorem revealTask_beginLook (T : Table) (ctx : AbilityContext) (subject : RevealSubject)
    (toAll : Bool) (w : World) :
    ∃ result w', (revealTask T (fun _ => pure ()) ctx subject toAll).run w = .ok result w' ∧
      (w' = w ∨ ∃ reveal source, w' = w.beginLook reveal source) := by
  unfold revealTask
  let shown (cardIds : List String) : Reveal :=
    { ownerId := ctx.ownerId, seats := if toAll then w.gs.board.seats else [ctx.ownerId], cardIds
      due := w.now + REVEAL_MS }
  cases subject with
  | fromKey key =>
    simp only [getGs, bind_assoc, pure_bind, EStateM.run_bind, EStateM.run_get]
    split
    · exact ⟨(ctx, none), w, rfl, .inl rfl⟩
    · exact ⟨(ctx, none), _, rfl, .inr ⟨shown ((ctx.getIds key).getD []), _, rfl⟩⟩
  | filter filter =>
    simp only [getGs, bind_assoc, pure_bind, EStateM.run_bind, EStateM.run_get]
    split
    · exact ⟨(ctx, none), w, rfl, .inl rfl⟩
    · exact ⟨(ctx, none), _, rfl,
        .inr ⟨shown (filterCards T.cards w.gs.board ctx filter), _, rfl⟩⟩

/-- The timer of the oldest look ends it. -/
theorem revealLapse_endLook {w : World} {reveal : Reveal} {left : List Reveal}
    (h : w.reveals = reveal :: left) (hdue : reveal.due ≤ w.now) :
    (revealLapse fun _ => pure ()).run w = .ok () (w.endLook reveal left) := by
  obtain ⟨gs, turnManager, draining, playerOrder, dirty, log, reveals, now⟩ := w
  dsimp only at h hdue
  subst h
  simp only [revealLapse, EStateM.run_bind, EStateM.run_get, hdue, if_true]
  rfl

/-- What may happen while looks are under way. -/
inductive LookOp
  | begin (reveal : Reveal) (source : RevealSource)
  /-- The look at this place of those under way ends. -/
  | lapse (i : Nat)
  | openFrame (frameId : Nat)
  | releaseFrame (frameId : Nat)
  | restoreFrame (frameId : Nat)

namespace World

/-- One of them happens. -/
def look (w : World) : LookOp → World
  | .begin reveal source => w.beginLook reveal source
  | .lapse i => match w.reveals[i]? with
    | none => w
    | some reveal => w.endLook reveal (w.reveals.eraseIdx i)
  | .openFrame frameId => w.openFrame frameId
  | .releaseFrame frameId => w.releaseFrame frameId
  | .restoreFrame frameId => w.restoreFrame frameId

/-- They happen one after the other. -/
def looks (w : World) (ops : List LookOp) : World := ops.foldl look w

/-- Looks, and then one more. -/
theorem looks_append_singleton (w : World) (ops : List LookOp) (op : LookOp) :
    w.looks (ops ++ [op]) = (w.looks ops).look op := by
  simp [looks]

/-- Every seat is shown what the looks under way show it, and nothing else. -/
def Shown (w : World) : Prop :=
  ∀ seat cardId, cardId ∈ w.gs.getRevealed seat ↔
    ∃ reveal ∈ w.reveals, seat ∈ reveal.seats ∧ cardId ∈ reveal.cardIds

end World

/-- Two looks show no seat the same card. -/
def Reveal.Apart (reveal other : Reveal) : Prop :=
  ∀ seat ∈ reveal.seats, seat ∈ other.seats → ∀ cardId ∈ reveal.cardIds, cardId ∉ other.cardIds

/-- A look that ends is apart from every other one under way. -/
def LookOp.Apart (w : World) : LookOp → Prop
  | .lapse i => ∀ reveal, w.reveals[i]? = some reveal →
      ∀ other ∈ w.reveals.eraseIdx i, reveal.Apart other
  | _ => True

namespace World.Shown

variable {w : World}

/-- Only what is revealed and what is due count. -/
theorem congr {w' : World} (h : w.Shown) (hgs : w'.gs.revealed = w.gs.revealed)
    (hreveals : w'.reveals = w.reveals) : w'.Shown := by
  intro seat cardId
  rw [GameState.getRevealed, hgs, hreveals]
  exact h seat cardId

/-- The beginning of a look. -/
theorem beginLook (h : w.Shown) (reveal : Reveal) (source : RevealSource) :
    (w.beginLook reveal source).Shown := by
  intro seat cardId
  rw [World.beginLook, GameState.mem_getRevealed_revealTo_all, h seat cardId]
  simp [or_and_right, exists_or]

/-- The end of a look, exactly when it is apart from the others. -/
theorem endLook_iff (h : w.Shown) {i : Nat} {reveal : Reveal} (hi : w.reveals[i]? = some reveal) :
    (w.endLook reveal (w.reveals.eraseIdx i)).Shown ↔
      ∀ other ∈ w.reveals.eraseIdx i, reveal.Apart other := by
  have hmem : ∀ other, other ∈ w.reveals ↔ other = reveal ∨ other ∈ w.reveals.eraseIdx i := by
    intro other
    obtain ⟨hlt, rfl⟩ := List.getElem?_eq_some_iff.1 hi
    rw [← List.mem_cons, (List.getElem_cons_eraseIdx_perm hlt).mem_iff]
  constructor
  · intro hshown other hother seat hseat hseat' cardId hcard hcard'
    have := (hshown seat cardId).2 ⟨other, hother, hseat', hcard'⟩
    rw [World.endLook, GameState.mem_getRevealed_hideRevealed_all] at this
    exact this.2 ⟨hseat, hcard⟩
  · intro hapart seat cardId
    rw [World.endLook, GameState.mem_getRevealed_hideRevealed_all, h seat cardId]
    constructor
    · rintro ⟨⟨other, hother, hseat, hcard⟩, hnot⟩
      obtain rfl | hother := (hmem other).1 hother
      · exact absurd ⟨hseat, hcard⟩ hnot
      · exact ⟨other, hother, hseat, hcard⟩
    · rintro ⟨other, hother, hseat, hcard⟩
      exact ⟨⟨other, (hmem other).2 (.inr hother), hseat, hcard⟩,
        fun hboth => hapart other hother seat hboth.1 hseat cardId hboth.2 hcard⟩

/-- One thing that may happen keeps what is shown right exactly when it meets the condition. -/
theorem look_iff (h : w.Shown) (op : LookOp) : (w.look op).Shown ↔ op.Apart w := by
  cases op with
  | begin reveal source => exact ⟨fun _ => trivial, fun _ => h.beginLook reveal source⟩
  | lapse i =>
    cases hi : w.reveals[i]? with
    | none => simp [World.look, LookOp.Apart, hi, h]
    | some reveal => simpa [World.look, LookOp.Apart, hi] using h.endLook_iff hi
  | openFrame => exact ⟨fun _ => trivial, fun _ => h.congr rfl rfl⟩
  | releaseFrame frameId =>
    refine ⟨fun _ => trivial, fun _ => h.congr ?_ ?_⟩ <;>
      simp only [World.look, World.releaseFrame, GameState.releaseFrame] <;> split <;>
      first | rfl | (split <;> rfl)
  | restoreFrame frameId =>
    refine ⟨fun _ => trivial, fun _ => h.congr ?_ ?_⟩ <;>
      simp only [World.look, World.restoreFrame, GameState.restoreFrame] <;> split <;>
      first | rfl | (split <;> rfl)

end World.Shown

/-- From a table where nothing is shown, every seat is shown at every moment what the looks under
way show it and nothing else, exactly when every look that ends is apart from those that go on. -/
theorem looks_shown_iff {w : World} (hreveals : w.reveals = [])
    (hrevealed : w.gs.revealed = .empty) (ops : List LookOp) :
    (∀ done, done <+: ops → (w.looks done).Shown) ↔
      ∀ done op, done ++ [op] <+: ops → op.Apart (w.looks done) := by
  constructor
  · intro h done op hprefix
    have hbefore := h done ((List.prefix_append _ _).trans hprefix)
    have hafter := h (done ++ [op]) hprefix
    rw [World.looks_append_singleton] at hafter
    exact (hbefore.look_iff op).1 hafter
  · intro h done hprefix
    induction done using List.reverseRecOn with
    | nil =>
      intro seat cardId
      simp [World.looks, GameState.getRevealed, hreveals, hrevealed]
    | append_singleton done op ih =>
      rw [World.looks_append_singleton]
      exact ((ih ((List.prefix_append _ _).trans hprefix)).look_iff op).2 (h done op hprefix)

/-- A look of the first seat at a card. -/
def lookAt (cardId : String) (due : Nat) : Reveal :=
  { ownerId := "A", seats := ["A"], cardIds := [cardId], due }

/-- It begins and ends. -/
def oneLook : List LookOp := [.begin (lookAt "hero-001" 1) ⟨"A", none⟩, .lapse 0]

/-- One look, with nothing beside it. -/
theorem looks_shown_iff_oneLook :
    (∀ done, done <+: oneLook → ((tableForTwo 0 [] []).dealt.looks done).Shown) ↔
      ∀ done op, done ++ [op] <+: oneLook → op.Apart ((tableForTwo 0 [] []).dealt.looks done) :=
  looks_shown_iff rfl rfl oneLook

/-- Two looks of the first seat at a card overlap, and the first ends. -/
def twoLooks : List LookOp :=
  [.begin (lookAt "hero-001" 1) ⟨"A", none⟩, .begin (lookAt "hero-001" 2) ⟨"A", none⟩, .lapse 0]

/-- The card is gone with the first. -/
theorem not_shown_twoLooks : ¬ ((tableForTwo 0 [] []).dealt.looks twoLooks).Shown := by
  intro h
  have hhidden := (h "A" "hero-001").2 ⟨lookAt "hero-001" 2, .head _, .head _, .head _⟩
  exact absurd hhidden (by decide)

end HereToSlaughter
