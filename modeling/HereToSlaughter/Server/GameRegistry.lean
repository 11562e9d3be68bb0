import HereToSlaughter.Lib.OrderedMap
import HereToSlaughter.Model.Events

/-!
# The tables a process hosts

The registry holds every table from its deal until the last of its seats has left it, and finds the
table of an account by looking through them in the order they were dealt. A concluded table stays
as long as one of its seats does, so an account that plays on may be found at the table it played at
before.

Reference: `game-server/game-registry.service.ts`.
-/

namespace HereToSlaughter

open Lib

/-! ## The service -/

/-- `RunningGame`, with what the registry reads of its game: who is seated and the phase of the
board. -/
structure RunningGame where
  gameId : String
  playerOrder : List String
  phase : GamePhase := .setup
  arrived : List String := []
  left : List String := []

/-- `GameRegistryService`. -/
structure GameRegistry where
  games : OrderedMap String RunningGame := .empty

namespace GameRegistry

/-- `create`, of a game that drew this id and seats these accounts. -/
def create (gameId : String) (playerOrder : List String) (r : GameRegistry) : GameRegistry :=
  { games := r.games.set gameId { gameId, playerOrder } }

/-- `findByAccount`: the first table, in the order they were dealt, that seats the account. -/
def findByAccount (r : GameRegistry) (accountId : String) : Option RunningGame :=
  r.games.values.find? fun running => running.playerOrder.contains accountId

/-- A member added to a set that keeps its order. -/
def addMember (accountId : String) (members : List String) : List String :=
  if accountId ∈ members then members else members ++ [accountId]

/-- `arrive`: the arrival that completes the table starts it. -/
def arrive (gameId accountId : String) (r : GameRegistry) : Bool × GameRegistry :=
  match r.games.get? gameId with
  | none => (false, r)
  | some running =>
    let running := { running with arrived := addMember accountId running.arrived }
    if running.phase ≠ .setup ∨ ¬ running.playerOrder.all (running.arrived.contains ·) then
      (false, { games := r.games.set gameId running })
    else (true, { games := r.games.set gameId { running with phase := .turns } })

/-- `leave`: refused while the table is live, and the last seat to leave takes the table with it. -/
def leave (gameId accountId : String) (r : GameRegistry) : RequestResult × GameRegistry :=
  match r.games.get? gameId with
  | none => (.accepted, r)
  | some running =>
    if running.phase ≠ .concluded then (.refused .gameNotOver, r)
    else
      let running := { running with left := addMember accountId running.left }
      if running.playerOrder.all (running.left.contains ·) then
        (.accepted, { games := r.games.erase gameId })
      else (.accepted, { games := r.games.set gameId running })

/-- The engine concludes a game. -/
def conclude (gameId : String) (r : GameRegistry) : GameRegistry :=
  { games := r.games.modify gameId fun running => { running with phase := .concluded } }

end GameRegistry

/-! ## Runs -/

/-- A game that has been dealt: whether it is over, and who has left it since. -/
@[ext] structure DealtGame where
  gameId : String
  playerOrder : List String
  concluded : Bool := false
  left : List String := []

/-- Every seat has left. -/
def DealtGame.deserted (game : DealtGame) : Bool := game.playerOrder.all (game.left.contains ·)

/-- The account is seated at the game. -/
def DealtGame.seats (accountId : String) (game : DealtGame) : Bool :=
  game.playerOrder.contains accountId

/-- What happens to one game of those dealt. -/
def DealtGame.at (gameId : String) (f : DealtGame → DealtGame) (game : DealtGame) : DealtGame :=
  if game.gameId = gameId then f game else game

/-- A seat leaves a game that is over. -/
def DealtGame.leave (accountId : String) (game : DealtGame) : DealtGame :=
  if game.concluded then { game with left := GameRegistry.addMember accountId game.left } else game

/-- The game an account was put in last, of games newest first. -/
def lastGameOf (accountId : String) (dealt : List DealtGame) : Option DealtGame :=
  dealt.find? (DealtGame.seats accountId)

/-- The registry after some operations, with the games dealt so far, newest first. A game draws an
id of its own, and an account is put in a game only once the game it was last in is over. -/
inductive GameRegistry.Run : GameRegistry → List DealtGame → Prop
  | start : Run {} []
  | create {r dealt} (gameId : String) (playerOrder : List String) (h : Run r dealt)
    (hfresh : gameId ∉ dealt.map DealtGame.gameId)
    (hfree : ∀ accountId ∈ playerOrder, ∀ game, lastGameOf accountId dealt = some game →
      game.concluded = true) :
    Run (r.create gameId playerOrder) ({ gameId, playerOrder } :: dealt)
  | arrive {r dealt} (gameId accountId : String) (h : Run r dealt) :
    Run (r.arrive gameId accountId).2 dealt
  | leave {r dealt} (gameId accountId : String) (h : Run r dealt) :
    Run (r.leave gameId accountId).2 (dealt.map (.at gameId (.leave accountId)))
  | conclude {r dealt} (gameId : String) (h : Run r dealt) :
    Run (r.conclude gameId) (dealt.map (.at gameId fun game => { game with concluded := true }))

/-! ## What the registry holds -/

/-- The game behind a held table. -/
def RunningGame.dealt (running : RunningGame) : DealtGame :=
  ⟨running.gameId, running.playerOrder, decide (running.phase = .concluded), running.left⟩

namespace GameRegistry

/-- The games behind the held tables, in the order of the registry. -/
def held (r : GameRegistry) : List DealtGame := r.games.values.map RunningGame.dealt

/-- The registry holds its tables under their ids, in the order they were dealt, and lets a table
go once it is over and every seat has left it. -/
structure Holds (r : GameRegistry) (dealt : List DealtGame) : Prop where
  ids : (dealt.map DealtGame.gameId).Nodup
  keyed : ∀ e ∈ r.games.entries, e.2.gameId = e.1
  inOrder : r.held.reverse.Sublist dealt
  kept : ∀ game ∈ dealt, game.gameId ∉ r.games.keys → game.concluded = true ∧ game.deserted = true

/-- Somebody still sits at every table that is held. -/
def Attended (r : GameRegistry) : Prop :=
  ∀ game ∈ r.held, game.deserted = true → game.playerOrder = []

variable {r : GameRegistry} {dealt : List DealtGame} {gameId accountId : String}

/-- A game is held when it runs under some id. -/
theorem mem_held_iff {game : DealtGame} :
    game ∈ r.held ↔ ∃ id running, (id, running) ∈ r.games.entries ∧ running.dealt = game := by
  simp only [held, List.mem_map, OrderedMap.mem_values_iff]
  exact ⟨fun ⟨running, ⟨id, he⟩, hd⟩ => ⟨id, running, he, hd⟩,
    fun ⟨id, running, he, hd⟩ => ⟨running, ⟨id, he⟩, hd⟩⟩

/-- A game whose table is held is among the games behind the held tables. -/
theorem Holds.mem_held (h : r.Holds dealt) {game : DealtGame} (hgame : game ∈ dealt)
    (hkey : game.gameId ∈ r.games.keys) : game ∈ r.held := by
  obtain ⟨e, he, hid⟩ := List.mem_map.1 hkey
  have hmem : e.2.dealt ∈ r.held := mem_held_iff.2 ⟨e.1, e.2, he, rfl⟩
  have hdealt := h.inOrder.mem (List.mem_reverse.2 hmem)
  have heq : e.2.dealt = game :=
    List.inj_on_of_nodup_map h.ids hdealt hgame ((h.keyed e he).trans hid)
  exact heq ▸ hmem

/-- One table changes, and the game behind it as `g` says. -/
theorem held_modify (h : ∀ e ∈ r.games.entries, e.2.gameId = e.1) {f : RunningGame → RunningGame}
    {g : DealtGame → DealtGame}
    (hf : ∀ running, r.games.get? gameId = some running → (f running).dealt = g running.dealt) :
    held { games := r.games.modify gameId f } = r.held.map (.at gameId g) := by
  simp only [held, OrderedMap.values, OrderedMap.entries_modify, List.map_map]
  refine List.map_congr_left fun e he => ?_
  have hid : e.2.dealt.gameId = e.1 := h e he
  by_cases hkey : e.1 = gameId
  · have hget : r.games.get? gameId = some e.2 := OrderedMap.get?_eq_some.2 (hkey ▸ he)
    simp [DealtGame.at, hid, hkey, hf e.2 hget]
  · simp [DealtGame.at, hid, hkey]

/-- A change of one table, and of the game behind it. -/
theorem Holds.modify (h : r.Holds dealt) {f : RunningGame → RunningGame}
    {g : DealtGame → DealtGame}
    (hf : ∀ running, r.games.get? gameId = some running → (f running).dealt = g running.dealt)
    (hid : ∀ game, (g game).gameId = game.gameId)
    (hg : ∀ game, game.concluded = true → game.deserted = true →
      (g game).concluded = true ∧ (g game).deserted = true) :
    Holds { games := r.games.modify gameId f } (dealt.map (.at gameId g)) := by
  have hat : ∀ game, (DealtGame.at gameId g game).gameId = game.gameId := by
    intro game
    unfold DealtGame.at
    split
    · exact hid game
    · rfl
  refine ⟨?_, fun e' he' => ?_, ?_, fun game' hgame' hkey => ?_⟩
  · rw [List.map_map]
    exact (List.map_congr_left fun game _ => hat game : _ = dealt.map DealtGame.gameId) ▸ h.ids
  · rw [OrderedMap.entries_modify] at he'
    obtain ⟨e, he, rfl⟩ := List.mem_map.1 he'
    by_cases hkey : e.1 = gameId
    · have hget : r.games.get? gameId = some e.2 := OrderedMap.get?_eq_some.2 (hkey ▸ he)
      have hdealt : (f e.2).gameId = e.2.gameId :=
        (congrArg DealtGame.gameId (hf e.2 hget)).trans (hid _)
      simpa [hkey] using hdealt.trans ((h.keyed e he).trans hkey)
    · simpa [hkey] using h.keyed e he
  · rw [held_modify h.keyed hf, ← List.map_reverse]
    exact h.inOrder.map _
  · obtain ⟨game, hgame, rfl⟩ := List.mem_map.1 hgame'
    rw [hat, OrderedMap.keys_modify] at hkey
    obtain ⟨hover, hleft⟩ := h.kept game hgame hkey
    unfold DealtGame.at
    split
    · exact hg game hover hleft
    · exact ⟨hover, hleft⟩

/-- A table whose game is over and deserted is let go. -/
theorem Holds.erase (h : r.Holds dealt)
    (hgone : ∀ game ∈ dealt, game.gameId = gameId →
      game.concluded = true ∧ game.deserted = true) :
    Holds { games := r.games.erase gameId } dealt := by
  refine ⟨h.ids, fun e he => h.keyed e (List.mem_of_mem_filter he), ?_, fun game hgame hkey => ?_⟩
  · have hsub : (held { games := r.games.erase gameId }).Sublist r.held :=
      (List.filter_sublist.map _).map _
    exact hsub.reverse.trans h.inOrder
  · rw [OrderedMap.mem_keys_erase, not_and_or, not_ne_iff] at hkey
    exact hkey.elim (h.kept game hgame) (hgone game hgame)

/-- A game of its own id gets a table of its own, at the end. -/
theorem Holds.entries_create (h : r.Holds dealt) (hfresh : gameId ∉ dealt.map DealtGame.gameId)
    (playerOrder : List String) : (r.create gameId playerOrder).games.entries =
      r.games.entries ++ [(gameId, { gameId := gameId, playerOrder := playerOrder })] := by
  refine OrderedMap.entries_set_of_notMem (fun hkey => ?_) _
  obtain ⟨e, he, rfl⟩ := List.mem_map.1 hkey
  have hmem : e.2.dealt ∈ r.held := mem_held_iff.2 ⟨e.1, e.2, he, rfl⟩
  exact hfresh (List.mem_map.2 ⟨e.2.dealt, h.inOrder.mem (List.mem_reverse.2 hmem), h.keyed e he⟩)

/-- A game created is held after the others. -/
theorem Holds.held_create (h : r.Holds dealt) (hfresh : gameId ∉ dealt.map DealtGame.gameId)
    (playerOrder : List String) : (r.create gameId playerOrder).held =
      r.held ++ [{ gameId := gameId, playerOrder := playerOrder }] := by
  rw [held, OrderedMap.values, h.entries_create hfresh, List.map_append, List.map_append]
  rfl

/-- A game of its own id is dealt. -/
theorem Holds.create (h : r.Holds dealt) (hfresh : gameId ∉ dealt.map DealtGame.gameId)
    (playerOrder : List String) : (r.create gameId playerOrder).Holds
      ({ gameId := gameId, playerOrder := playerOrder } :: dealt) := by
  refine ⟨List.nodup_cons.2 ⟨hfresh, h.ids⟩, fun e he => ?_, ?_, fun game hgame hkey => ?_⟩
  · rw [h.entries_create hfresh] at he
    rcases List.mem_append.1 he with he | he
    · exact h.keyed e he
    · rw [List.mem_singleton.1 he]
  · rw [h.held_create hfresh, List.reverse_append]
    exact h.inOrder.cons_cons _
  · have hkeys : (r.create gameId playerOrder).games.keys = r.games.keys ++ [gameId] := by
      rw [OrderedMap.keys, h.entries_create hfresh, List.map_append]
      rfl
    rw [hkeys, List.mem_append, List.mem_singleton, not_or] at hkey
    rcases List.mem_cons.1 hgame with rfl | hgame
    · exact absurd rfl hkey.2
    · exact h.kept game hgame hkey.1

/-- Leaving keeps a deserted game deserted. -/
theorem deserted_leave {game : DealtGame} (hover : game.concluded = true)
    (h : game.deserted = true) :
    (game.leave accountId).concluded = true ∧ (game.leave accountId).deserted = true := by
  rw [DealtGame.leave, if_pos hover]
  refine ⟨hover, List.all_eq_true.2 fun seat hseat => ?_⟩
  have hleft : seat ∈ game.left := List.contains_iff_mem.1 (List.all_eq_true.1 h seat hseat)
  have hmem : seat ∈ addMember accountId game.left := by
    unfold addMember
    split
    · exact hleft
    · exact List.mem_append_left _ hleft
  exact List.contains_iff_mem.2 hmem

/-- The arrival of a seat changes nothing of the game that is remembered here. -/
theorem arrive_eq (gameId accountId : String) (r : GameRegistry) :
    ∃ f : RunningGame → RunningGame,
      (r.arrive gameId accountId).2 = { games := r.games.modify gameId f } ∧
      ∀ running, r.games.get? gameId = some running → (f running).dealt = running.dealt := by
  unfold arrive
  split
  case h_1 hnone =>
    exact ⟨id, congrArg mk (OrderedMap.modify_of_notMem (OrderedMap.get?_eq_none.1 hnone) id).symm,
      fun _ _ => rfl⟩
  case h_2 running hget =>
    have hkey : gameId ∈ r.games.keys := OrderedMap.get?_isSome.1 (by rw [hget]; rfl)
    dsimp only
    split
    · refine ⟨_, congrArg mk (OrderedMap.set_of_mem hkey _), fun running' hget' => ?_⟩
      rw [hget] at hget'
      cases hget'
      rfl
    next hstarts =>
      refine ⟨_, congrArg mk (OrderedMap.set_of_mem hkey _), fun running' hget' => ?_⟩
      rw [hget] at hget'
      cases hget'
      -- only a table that has not been started is
      have hsetup : running.phase = .setup := by
        by_contra hne
        exact hstarts (.inl hne)
      simp [RunningGame.dealt, hsetup]

/-- A seat that leaves is written down where the game is over, and the last one takes the table with
it. -/
theorem leave_eq (gameId accountId : String) (r : GameRegistry) :
    ∃ f : RunningGame → RunningGame,
      (∀ running, r.games.get? gameId = some running →
        (f running).dealt = running.dealt.leave accountId) ∧
      ((r.leave gameId accountId).2 = { games := r.games.modify gameId f } ∧
          (∀ running, r.games.get? gameId = some running →
            (running.dealt.leave accountId).deserted = true → running.dealt.deserted = true) ∨
        (r.leave gameId accountId).2 = { games := (r.games.modify gameId f).erase gameId } ∧
          ∃ running, r.games.get? gameId = some running ∧
            (running.dealt.leave accountId).concluded = true ∧
            (running.dealt.leave accountId).deserted = true) := by
  unfold leave
  split
  case h_1 hnone =>
    have hsame := OrderedMap.modify_of_notMem (OrderedMap.get?_eq_none.1 hnone) id
    refine ⟨id, fun running hget => ?_, .inl ⟨congrArg mk hsame.symm, fun running hget => ?_⟩⟩ <;>
    · rw [hnone] at hget
      cases hget
  case h_2 running hget =>
    have honly : ∀ running', r.games.get? gameId = some running' → running' = running :=
      fun running' hget' => (Option.some.inj (hget.symm.trans hget')).symm
    split
    next hlive =>
      -- a live game is not left
      have hsame := OrderedMap.modify_id r.games gameId
      have hleave : running.dealt.leave accountId = running.dealt :=
        if_neg (by simpa [RunningGame.dealt] using hlive)
      refine ⟨id, fun running' hget' => ?_, .inl ⟨congrArg mk hsame.symm, fun running' hget' => ?_⟩⟩
      · rw [honly _ hget', hleave]
        rfl
      · rw [honly _ hget', hleave]
        exact id
    next hover =>
      have hover : running.phase = .concluded := not_not.1 hover
      have hleave : running.dealt.leave accountId =
          { running with left := addMember accountId running.left }.dealt := by
        simp [DealtGame.leave, RunningGame.dealt, hover]
      refine ⟨fun running => { running with left := addMember accountId running.left },
        fun running' hget' => ?_, ?_⟩
      · rw [honly _ hget', hleave]
      have hkey : gameId ∈ r.games.keys := OrderedMap.get?_isSome.1 (by rw [hget]; rfl)
      have hset : r.games.set gameId { running with left := addMember accountId running.left } =
          r.games.modify gameId fun running =>
            { running with left := addMember accountId running.left } := by
        rw [OrderedMap.set_of_mem hkey]
        refine OrderedMap.ext (List.map_congr_left fun e he => ?_)
        by_cases hid : e.1 = gameId
        · have hrunning := honly e.2 (OrderedMap.get?_eq_some.2 (hid ▸ he))
          simp [hid, hrunning]
        · simp [hid]
      dsimp only
      split
      next hall =>
        refine .inr ⟨congrArg mk (OrderedMap.erase_modify ..).symm, running, hget, ?_, ?_⟩
        · rw [hleave]
          simpa [RunningGame.dealt] using hover
        · rw [hleave]
          exact hall
      next hsome =>
        refine .inl ⟨congrArg mk hset, fun running' hget' hgone => ?_⟩
        rw [honly _ hget', hleave] at hgone
        exact absurd hgone hsome

/-- What holds of the registry at a table that changes holds of it as the game behind it does. -/
theorem Attended.modify (h : r.Attended) (hkeyed : ∀ e ∈ r.games.entries, e.2.gameId = e.1)
    {f : RunningGame → RunningGame} {g : DealtGame → DealtGame}
    (hf : ∀ running, r.games.get? gameId = some running → (f running).dealt = g running.dealt)
    (hseats : ∀ game, (g game).playerOrder = game.playerOrder)
    (hg : ∀ running, r.games.get? gameId = some running → (g running.dealt).deserted = true →
      running.dealt.deserted = true) :
    Attended { games := r.games.modify gameId f } := by
  intro game' hgame' hgone
  rw [held_modify hkeyed hf] at hgame'
  obtain ⟨game, hgame, rfl⟩ := List.mem_map.1 hgame'
  unfold DealtGame.at at hgone ⊢
  split at hgone
  next hid =>
    rw [if_pos hid, hseats]
    obtain ⟨id, running, he, rfl⟩ := mem_held_iff.1 hgame
    have hkey : id = gameId := (hkeyed _ he).symm.trans hid
    exact h _ hgame (hg running (OrderedMap.get?_eq_some.2 (hkey ▸ he)) hgone)
  next hid =>
    rw [if_neg hid]
    exact h game hgame hgone

/-- What holds of the registry after any operations. -/
theorem Run.holds (h : Run r dealt) : r.Holds dealt ∧ r.Attended := by
  induction h with
  | start => exact ⟨⟨.nil, fun _ he => (nomatch he), .slnil, fun _ hg => (nomatch hg)⟩,
      fun _ hg => (nomatch hg)⟩
  | @create r dealt gameId playerOrder h hfresh hfree ih =>
    obtain ⟨hholds, hattended⟩ := ih
    refine ⟨hholds.create hfresh playerOrder, fun game hgame hgone => ?_⟩
    rw [hholds.held_create hfresh] at hgame
    rcases List.mem_append.1 hgame with hgame | hgame
    · exact hattended game hgame hgone
    · rw [List.mem_singleton.1 hgame] at hgone ⊢
      exact List.eq_nil_iff_forall_not_mem.2 fun seat hseat =>
        absurd (List.all_eq_true.1 hgone seat hseat) (by simp)
  | @arrive r dealt gameId accountId h ih =>
    obtain ⟨hholds, hattended⟩ := ih
    obtain ⟨f, heq, hf⟩ := arrive_eq gameId accountId r
    have hsame : dealt.map (.at gameId id) = dealt :=
      (List.map_congr_left fun game _ => ite_self game).trans (List.map_id _)
    have hmodify := hholds.modify (g := id) hf (fun _ => rfl) fun _ hover hgone => ⟨hover, hgone⟩
    rw [heq]
    exact ⟨hsame ▸ hmodify,
      hattended.modify (g := id) hholds.keyed hf (fun _ => rfl) fun _ _ => id⟩
  | @leave r dealt gameId accountId h ih =>
    obtain ⟨hholds, hattended⟩ := ih
    obtain ⟨f, hf, hleft⟩ := leave_eq gameId accountId r
    have hid : ∀ game : DealtGame, (game.leave accountId).gameId = game.gameId := by
      intro game
      unfold DealtGame.leave
      split <;> rfl
    have hseats : ∀ game : DealtGame, (game.leave accountId).playerOrder = game.playerOrder := by
      intro game
      unfold DealtGame.leave
      split <;> rfl
    have hmodify := hholds.modify hf hid fun game hover hgone => deserted_leave hover hgone
    obtain ⟨heq, hgone⟩ | ⟨heq, running, hget, hover, hgone⟩ := hleft
    · rw [heq]
      exact ⟨hmodify, hattended.modify hholds.keyed hf hseats hgone⟩
    · rw [heq]
      -- the last seat has left, and the table goes
      have hmem : (running.dealt.leave accountId) ∈ dealt.map (.at gameId (.leave accountId)) := by
        have he := OrderedMap.get?_eq_some.1 hget
        have hrunning : running.dealt ∈ r.held := mem_held_iff.2 ⟨gameId, running, he, rfl⟩
        exact List.mem_map.2 ⟨running.dealt, hholds.inOrder.mem (List.mem_reverse.2 hrunning),
          if_pos (hholds.keyed _ he)⟩
      have hrunning : (running.dealt.leave accountId).gameId = gameId :=
        (hid _).trans (hholds.keyed _ (OrderedMap.get?_eq_some.1 hget))
      refine ⟨hmodify.erase fun game hgame hkey => ?_, fun game hgame hempty => ?_⟩
      · have honly : game = running.dealt.leave accountId :=
          List.inj_on_of_nodup_map hmodify.ids hgame hmem (hkey.trans hrunning.symm)
        exact honly ▸ ⟨hover, hgone⟩
      · rw [OrderedMap.erase_modify] at hgame
        exact hattended game ((List.filter_sublist.map _).map _ |>.mem hgame) hempty
  | @conclude r dealt gameId h ih =>
    obtain ⟨hholds, hattended⟩ := ih
    have hf : ∀ running, r.games.get? gameId = some running →
        RunningGame.dealt { running with phase := .concluded } =
          { running.dealt with concluded := true } := fun _ _ => rfl
    exact ⟨hholds.modify (g := fun game => { game with concluded := true }) hf (fun _ => rfl)
        fun _ _ hgone => ⟨rfl, hgone⟩,
      hattended.modify (g := fun game => { game with concluded := true }) hholds.keyed hf
        (fun _ => rfl) fun _ _ => id⟩

/-! ## The table an account is found at -/

/-- The game found is the first held one that seats the account. -/
theorem findByAccount_dealt (r : GameRegistry) (accountId : String) :
    (r.findByAccount accountId).map RunningGame.dealt =
      (r.held.filter (DealtGame.seats accountId)).head? := by
  rw [List.head?_filter, held, List.find?_map]
  rfl

/-- Of the games that are held, those of an account are the one it was put in last and some of the
older ones. -/
theorem Holds.held_of_account (h : r.Holds dealt) {game : DealtGame}
    (hlast : lastGameOf accountId dealt = some game) (hlive : game.concluded = false) :
    ∃ older, r.held.filter (DealtGame.seats accountId) = older ++ [game] := by
  have hmem : game ∈ dealt := List.mem_of_find?_eq_some hlast
  have hheld : game ∈ r.held.filter (DealtGame.seats accountId) := by
    refine List.mem_filter.2 ⟨h.mem_held hmem ?_, List.find?_some hlast⟩
    by_contra hgone
    exact absurd (hlive.symm.trans (h.kept game hmem hgone).1) Bool.false_ne_true
  obtain ⟨olds, holds⟩ : ∃ olds, dealt.filter (DealtGame.seats accountId) = game :: olds := by
    rw [lastGameOf, ← List.head?_filter, List.head?_eq_some_iff] at hlast
    exact hlast
  have hsub := h.inOrder.filter (DealtGame.seats accountId)
  rw [holds, List.filter_reverse] at hsub
  have hnotin : game ∉ olds := by
    have hnodup := h.ids.of_map.filter (DealtGame.seats accountId)
    rw [holds] at hnodup
    exact (List.nodup_cons.1 hnodup).1
  rcases List.sublist_cons_iff.1 hsub with hsub | ⟨older, heq, -⟩
  · exact absurd (hsub.mem (List.mem_reverse.2 hheld)) hnotin
  · exact ⟨older.reverse, by rw [← List.reverse_reverse (r.held.filter _), heq, List.reverse_cons]⟩

/-- While the game an account was put in last goes on, the account is found there exactly when
every seat has left every older game of the account. -/
theorem findByAccount_iff (h : Run r dealt) {game : DealtGame}
    (hlast : lastGameOf accountId dealt = some game) (hlive : game.concluded = false) :
    (∃ running, r.findByAccount accountId = some running ∧ running.gameId = game.gameId) ↔
      ∀ other ∈ dealt, accountId ∈ other.playerOrder → other.gameId ≠ game.gameId →
        other.deserted = true := by
  obtain ⟨hholds, hattended⟩ := h.holds
  obtain ⟨older, hfilter⟩ := hholds.held_of_account hlast hlive
  have hnodup : ((older ++ [game]).map DealtGame.gameId).Nodup := by
    rw [← hfilter]
    refine List.Nodup.sublist (List.filter_sublist.map _) ?_
    rw [← List.nodup_reverse, ← List.map_reverse]
    exact hholds.ids.sublist (hholds.inOrder.map _)
  have hfound : (r.findByAccount accountId).map RunningGame.dealt = (older ++ [game]).head? :=
    hfilter ▸ findByAccount_dealt r accountId
  constructor
  · rintro ⟨running, hrunning, hid⟩ other hother hseats hne
    rw [hrunning] at hfound
    have holder : older = [] := by
      rcases older with _ | ⟨oldest, older⟩
      · rfl
      · -- the oldest table of the account is not that of the game
        obtain rfl : running.dealt = oldest := Option.some.inj hfound
        rw [List.cons_append, List.map_cons, List.nodup_cons] at hnodup
        have hmem : game.gameId ∈ (older ++ [game]).map DealtGame.gameId :=
          List.mem_map_of_mem (List.mem_append_right _ List.mem_cons_self)
        have hid : running.dealt.gameId = game.gameId := hid
        exact absurd (hid ▸ hmem) hnodup.1
    refine (hholds.kept other hother fun hkey => ?_).2
    have hmem : other ∈ r.held.filter (DealtGame.seats accountId) :=
      List.mem_filter.2 ⟨hholds.mem_held hother hkey, List.contains_iff_mem.2 hseats⟩
    rw [hfilter, holder] at hmem
    exact hne (congrArg DealtGame.gameId (List.mem_singleton.1 hmem))
  · intro hgone
    have holder : older = [] := by
      refine List.eq_nil_iff_forall_not_mem.2 fun other hother => ?_
      have hmem := hfilter ▸ List.mem_append_left [game] hother
      obtain ⟨hheld, hseats⟩ := List.mem_filter.1 hmem
      have hseats := List.contains_iff_mem.1 hseats
      have hne : other.gameId ≠ game.gameId := by
        rw [List.map_append, List.nodup_append] at hnodup
        exact hnodup.2.2 _ (List.mem_map_of_mem hother) _ List.mem_cons_self
      have hleft := hgone other (hholds.inOrder.mem (List.mem_reverse.2 hheld)) hseats hne
      rw [hattended other hheld hleft] at hseats
      cases hseats
    rw [holder] at hfound
    obtain ⟨running, hrunning, hdealt⟩ := Option.map_eq_some_iff.1 hfound
    exact ⟨running, hrunning, congrArg DealtGame.gameId hdealt⟩

/-- Two accounts play a game to its end. -/
theorem Run.playedOut : Run ((({} : GameRegistry).create "g1" ["A", "B"]).conclude "g1")
    [{ gameId := "g1", playerOrder := ["A", "B"], concluded := true }] :=
  .conclude "g1" (.create "g1" ["A", "B"] .start (by decide) (by intro _ _ _ h; cases h))

/-- Both leave, and one of them plays on with another. -/
theorem findByAccount_bothLeft : ∃ r dealt, Run r dealt ∧
    ∃ running, r.findByAccount "A" = some running ∧ running.gameId = "g2" := by
  have hrun := (Run.leave "g1" "B" (.leave "g1" "A" .playedOut)).create "g2" ["A", "C"]
    (by decide) (by decide)
  exact ⟨_, _, hrun, (findByAccount_iff hrun (show lastGameOf "A" _ =
    some ({ gameId := "g2", playerOrder := ["A", "C"] } : DealtGame) from rfl) rfl).2 (by decide)⟩

/-- The account has left its first game and plays a second one. The other seat of the first has not
left it, so the account is found at the table where nothing is played any more. -/
theorem findByAccount_seatStays : ∃ r dealt, Run r dealt ∧
    (lastGameOf "A" dealt).map DealtGame.gameId = some "g2" ∧
    (lastGameOf "A" dealt).map DealtGame.concluded = some false ∧
    (r.findByAccount "A").map RunningGame.gameId = some "g1" :=
  ⟨_, _, (Run.leave "g1" "A" .playedOut).create "g2" ["A", "C"] (by decide) (by decide),
    by decide, by decide, by decide⟩

end GameRegistry

end HereToSlaughter
