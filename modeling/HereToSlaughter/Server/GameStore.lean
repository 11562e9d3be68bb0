import Mathlib

/-!
# What the store keeps of a game

The publisher hands the store one flush for each burst of events, under increasing versions, and
does not wait for one to land before it sends the next. A flush is one transaction: its records are
appended, and the row of the game is replaced by a statement guarded by its version. The statement
is atomic, and its guard reads the row as it is then.

What the row holds in the end is read off the order the flushes land in. The board is always that
of the highest version. The winner and the end of the game ride on a single flush, and are lost
when a flush of a higher version lands before it.

Reference: `persistence/postgres-game.store.ts`, `persistence/schema.ts`,
`game-server/snapshot-publisher.service.ts`.
-/

namespace HereToSlaughter

variable {V E L : Type}

/-! ## The store -/

/-- `GameFlush`: the burst's events and lines by their sequence numbers, and the board as the seats
were shown it. -/
structure GameFlush (V E L : Type) where
  version : Nat
  «at» : Nat
  events : List (Nat × E) := []
  lines : List (Nat × L) := []
  views : V
  winnerId : Option String := none

/-- What the tables of `schema.ts` hold of one game, past its creation. -/
structure StoredRow (V E L : Type) where
  lastVersion : Nat := 0
  lastState : Option V := none
  updatedAt : Option Nat := none
  endedAt : Option Nat := none
  winnerId : Option String := none
  gameEvents : List (Nat × E) := []
  gameLog : List (Nat × L) := []

/-- `INSERT … ON CONFLICT DO NOTHING`: a record whose sequence number is taken is left out. -/
def insertRecords {A : Type} (table records : List (Nat × A)) : List (Nat × A) :=
  records.foldl (fun table record =>
    if record.1 ∈ table.map Prod.fst then table else table ++ [record]) table

/-- `UPDATE games … WHERE last_version < $2`. -/
def StoredRow.update (row : StoredRow V E L) (flush : GameFlush V E L) : StoredRow V E L :=
  if row.lastVersion < flush.version then
    { row with
      lastVersion := flush.version
      lastState := some flush.views
      updatedAt := some flush.at
      endedAt := row.endedAt.or (flush.winnerId.map fun _ => flush.at)
      winnerId := row.winnerId.or flush.winnerId }
  else row

/-- `PostgresGameStore.flush`: one transaction. -/
def StoredRow.flush (row : StoredRow V E L) (flush : GameFlush V E L) : StoredRow V E L :=
  { row with
    gameEvents := insertRecords row.gameEvents flush.events
    gameLog := insertRecords row.gameLog flush.lines }.update flush

/-- The row once these flushes have landed, in this order. -/
def StoredRow.land (row : StoredRow V E L) (landed : List (GameFlush V E L)) : StoredRow V E L :=
  landed.foldl StoredRow.flush row

/-! ## The publisher -/

/-- The flush tells who won. -/
def GameFlush.concludes (flush : GameFlush V E L) : Bool := flush.winnerId.isSome

/-- Flushes as the publisher produces them: under increasing versions, and one at most tells of a
winner. -/
structure Published (flushes : List (GameFlush V E L)) : Prop where
  positive : ∀ flush ∈ flushes, 0 < flush.version
  increasing : (flushes.map GameFlush.version).Pairwise (· < ·)
  once : flushes.countP GameFlush.concludes ≤ 1

/-! ## What the row holds in the end -/

namespace StoredRow

variable {row : StoredRow V E L} {landed : List (GameFlush V E L)}

/-- A newer flush is taken over whole, but for a winner and an end that stand already. -/
theorem flush_newer {flush : GameFlush V E L} (h : row.lastVersion < flush.version) :
    (row.flush flush).lastVersion = flush.version ∧ (row.flush flush).lastState = some flush.views ∧
      (row.flush flush).winnerId = row.winnerId.or flush.winnerId ∧
      (row.flush flush).endedAt = row.endedAt.or (flush.winnerId.map fun _ => flush.at) := by
  rw [StoredRow.flush, update, if_pos h]
  exact ⟨rfl, rfl, rfl, rfl⟩

/-- A late flush leaves the row alone. -/
theorem flush_older {flush : GameFlush V E L} (h : ¬ row.lastVersion < flush.version) :
    (row.flush flush).lastVersion = row.lastVersion ∧ (row.flush flush).lastState = row.lastState ∧
      (row.flush flush).winnerId = row.winnerId ∧ (row.flush flush).endedAt = row.endedAt := by
  rw [StoredRow.flush, update, if_neg h]
  exact ⟨rfl, rfl, rfl, rfl⟩

/-- The version of the row grows, past that of everything that has landed. -/
theorem version_land : ∀ (landed : List (GameFlush V E L)) (row : StoredRow V E L),
    row.lastVersion ≤ (row.land landed).lastVersion ∧
      ∀ flush ∈ landed, flush.version ≤ (row.land landed).lastVersion
  | [], row => ⟨Nat.le_refl _, fun _ hf => (nomatch hf)⟩
  | flush :: landed, row => by
    obtain ⟨hgrows, hpast⟩ := version_land landed (row.flush flush)
    have hone : row.lastVersion ≤ (row.flush flush).lastVersion ∧
        flush.version ≤ (row.flush flush).lastVersion := by
      by_cases h : row.lastVersion < flush.version
      · rw [(flush_newer h).1]
        exact ⟨Nat.le_of_lt h, Nat.le_refl _⟩
      · rw [(flush_older h).1]
        exact ⟨Nat.le_refl _, Nat.le_of_not_lt h⟩
    refine ⟨Nat.le_trans hone.1 hgrows, fun f hf => ?_⟩
    rcases List.mem_cons.1 hf with rfl | hf
    · exact Nat.le_trans hone.2 hgrows
    · exact hpast f hf

/-- The board of the row is that of its version. -/
theorem state_land : ∀ (landed : List (GameFlush V E L)) (row : StoredRow V E L),
    ((row.land landed).lastVersion = row.lastVersion ∧
      (row.land landed).lastState = row.lastState) ∨
    ∃ flush ∈ landed, (row.land landed).lastVersion = flush.version ∧
      (row.land landed).lastState = some flush.views
  | [], row => .inl ⟨rfl, rfl⟩
  | flush :: landed, row => by
    obtain ⟨hversion, hstate⟩ | ⟨f, hf, hland⟩ := state_land landed (row.flush flush)
    · by_cases h : row.lastVersion < flush.version
      · exact .inr ⟨flush, List.mem_cons_self, hversion.trans (flush_newer h).1,
          hstate.trans (flush_newer h).2.1⟩
      · exact .inl ⟨hversion.trans (flush_older h).1, hstate.trans (flush_older h).2.1⟩
    · exact .inr ⟨f, List.mem_cons_of_mem _ hf, hland⟩

/-- A winner that is known stays. -/
theorem winner_land_of_some {winner : String} : ∀ (landed : List (GameFlush V E L))
    (row : StoredRow V E L), row.winnerId = some winner → row.endedAt.isSome = true →
    (row.land landed).winnerId = some winner ∧ (row.land landed).endedAt.isSome = true
  | [], _, hwinner, hended => ⟨hwinner, hended⟩
  | flush :: landed, row, hwinner, hended => by
    refine winner_land_of_some landed (row.flush flush) ?_ ?_
    · by_cases h : row.lastVersion < flush.version
      · rw [(flush_newer h).2.2.1, hwinner, Option.some_or]
      · rw [(flush_older h).2.2.1, hwinner]
    · by_cases h : row.lastVersion < flush.version
      · rw [(flush_newer h).2.2.2, Option.isSome_or, hended, Bool.true_or]
      · rw [(flush_older h).2.2.2, hended]

/-- Flushes that tell of no winner bring none. -/
theorem winner_land_of_none : ∀ (landed : List (GameFlush V E L)) (row : StoredRow V E L),
    (∀ flush ∈ landed, flush.winnerId = none) →
    (row.land landed).winnerId = row.winnerId ∧ (row.land landed).endedAt = row.endedAt
  | [], _, _ => ⟨rfl, rfl⟩
  | flush :: landed, row, hnone => by
    obtain ⟨hwinner, hended⟩ := winner_land_of_none landed (row.flush flush)
      fun f hf => hnone f (List.mem_cons_of_mem _ hf)
    have hflush := hnone flush List.mem_cons_self
    refine ⟨hwinner.trans ?_, hended.trans ?_⟩
    · by_cases h : row.lastVersion < flush.version
      · rw [(flush_newer h).2.2.1, hflush, Option.or_none]
      · exact (flush_older h).2.2.1
    · by_cases h : row.lastVersion < flush.version
      · rw [(flush_newer h).2.2.2, hflush, Option.map_none, Option.or_none]
      · exact (flush_older h).2.2.2

end StoredRow

/-- The row holds what these flushes tell: the board of the highest version, and the winner and an
end of the game if one of them told of it. -/
structure Persisted (row : StoredRow V E L) (flushes : List (GameFlush V E L)) : Prop where
  board : ∀ flush ∈ flushes, (∀ other ∈ flushes, other.version ≤ flush.version) →
    row.lastVersion = flush.version ∧ row.lastState = some flush.views
  winner : ∀ winner, row.winnerId = some winner ↔ ∃ flush ∈ flushes, flush.winnerId = some winner
  ended : row.endedAt.isSome = true ↔ ∃ flush ∈ flushes, flush.concludes = true

/-- No flush of a higher version has landed before the one that tells of the winner. -/
def WinnerInTime (landed : List (GameFlush V E L)) : Prop :=
  ∀ before flush after, landed = before ++ flush :: after → flush.concludes = true →
    ∀ earlier ∈ before, earlier.version < flush.version

section
variable {flushes landed : List (GameFlush V E L)}

/-- The board is that of the highest version, whatever the order. -/
theorem persisted_board (h : Published flushes) (hperm : landed.Perm flushes) :
    ∀ flush ∈ flushes, (∀ other ∈ flushes, other.version ≤ flush.version) →
      (StoredRow.land {} landed).lastVersion = flush.version ∧
        (StoredRow.land {} landed).lastState = some flush.views := by
  intro flush hf hmax
  obtain ⟨-, hpast⟩ := StoredRow.version_land landed ({} : StoredRow V E L)
  have hle := hpast flush (hperm.mem_iff.2 hf)
  obtain ⟨hversion, -⟩ | ⟨f, hmem, hversion, hstate⟩ :=
    StoredRow.state_land landed ({} : StoredRow V E L)
  · rw [hversion] at hle
    exact absurd (h.positive flush hf) (Nat.not_lt.2 hle)
  · have hmem := hperm.mem_iff.1 hmem
    have hsame : f.version = flush.version :=
      Nat.le_antisymm (hmax f hmem) (hversion ▸ hle)
    obtain rfl : f = flush := List.inj_on_of_nodup_map
      (h.increasing.imp fun hlt => Nat.ne_of_lt hlt) hmem hf hsame
    exact ⟨hversion, hstate⟩

/-- A flush that tells of no winner. -/
theorem winnerId_eq_none {flush : GameFlush V E L} (h : flush.concludes = false) :
    flush.winnerId = none := Option.not_isSome_iff_eq_none.1 (Bool.eq_false_iff.1 h)

/-- Around the flush that tells of the winner, no other does. -/
theorem concludes_split (hone : landed.countP GameFlush.concludes ≤ 1) {flush : GameFlush V E L}
    {before after : List (GameFlush V E L)} (hsplit : landed = before ++ flush :: after)
    (hconcludes : flush.concludes = true) :
    (∀ f ∈ before, f.winnerId = none) ∧ ∀ f ∈ after, f.winnerId = none := by
  rw [hsplit, List.countP_append, List.countP_cons, if_pos hconcludes] at hone
  have hbefore : before.countP GameFlush.concludes = 0 := by omega
  have hafter : after.countP GameFlush.concludes = 0 := by omega
  rw [List.countP_eq_zero] at hbefore hafter
  exact ⟨fun f hf => winnerId_eq_none (Bool.eq_false_iff.2 (hbefore f hf)),
    fun f hf => winnerId_eq_none (Bool.eq_false_iff.2 (hafter f hf))⟩

/-- The guard lets a flush through when everything that has landed is older. -/
theorem guard_iff {flush : GameFlush V E L} (hpositive : 0 < flush.version)
    (before : List (GameFlush V E L)) :
    (StoredRow.land {} before).lastVersion < flush.version ↔
      ∀ earlier ∈ before, earlier.version < flush.version := by
  constructor
  · exact fun hlt earlier he =>
      Nat.lt_of_le_of_lt ((StoredRow.version_land before {}).2 earlier he) hlt
  · intro hall
    obtain ⟨hversion, -⟩ | ⟨f, hf, hversion, -⟩ :=
      StoredRow.state_land before ({} : StoredRow V E L)
    · rw [hversion]
      exact hpositive
    · rw [hversion]
      exact hall f hf

/-- What the row tells of the winner once everything has landed, by whether its flush was in
time. -/
theorem winner_land_split {flush : GameFlush V E L} {before after : List (GameFlush V E L)}
    {winner : String} (hpositive : 0 < flush.version) (hwinner : flush.winnerId = some winner)
    (hbefore : ∀ f ∈ before, f.winnerId = none) (hafter : ∀ f ∈ after, f.winnerId = none) :
    ((∀ earlier ∈ before, earlier.version < flush.version) →
      (StoredRow.land {} (before ++ flush :: after)).winnerId = some winner ∧
        (StoredRow.land {} (before ++ flush :: after)).endedAt.isSome = true) ∧
    (¬ (∀ earlier ∈ before, earlier.version < flush.version) →
      (StoredRow.land {} (before ++ flush :: after)).endedAt = none) := by
  have hland : StoredRow.land {} (before ++ flush :: after) =
      ((StoredRow.land {} before).flush flush).land after := by
    rw [StoredRow.land, List.foldl_append, List.foldl_cons]; rfl
  obtain ⟨hnone, hrunning⟩ := StoredRow.winner_land_of_none before ({} : StoredRow V E L) hbefore
  rw [hland, ← guard_iff hpositive]
  refine ⟨fun hguard => ?_, fun hguard => ?_⟩
  · obtain ⟨-, -, hset, hend⟩ := StoredRow.flush_newer hguard
    refine StoredRow.winner_land_of_some after _ ?_ ?_
    · rw [hset, hnone, hwinner]; rfl
    · rw [hend, hrunning, hwinner]; rfl
  · obtain ⟨-, -, -, hend⟩ := StoredRow.flush_older hguard
    rw [(StoredRow.winner_land_of_none after _ hafter).2, hend, hrunning]

/-- The row holds what the flushes tell, in whatever order they land, exactly when the one that
tells of the winner lands before every later one. -/
theorem persisted_iff (h : Published flushes) (hperm : landed.Perm flushes) :
    Persisted (StoredRow.land {} landed) flushes ↔ WinnerInTime landed := by
  have hone : landed.countP GameFlush.concludes ≤ 1 := hperm.countP_eq _ ▸ h.once
  constructor
  · intro hpersisted before flush after hsplit hconcludes
    obtain ⟨winner, hwinner⟩ := Option.isSome_iff_exists.1 hconcludes
    have hmem : flush ∈ landed := hsplit ▸ List.mem_append_right _ List.mem_cons_self
    obtain ⟨hbefore, hafter⟩ := concludes_split hone hsplit hconcludes
    by_contra hlate
    have hnone := (winner_land_split (h.positive flush (hperm.mem_iff.1 hmem)) hwinner hbefore
      hafter).2 hlate
    have hended := hpersisted.ended.2 ⟨flush, hperm.mem_iff.1 hmem, hconcludes⟩
    rw [hsplit, hnone] at hended
    cases hended
  · intro htime
    by_cases hsome : ∃ flush ∈ landed, flush.concludes = true
    · obtain ⟨flush, hmem, hconcludes⟩ := hsome
      obtain ⟨before, after, hsplit⟩ := List.append_of_mem hmem
      obtain ⟨winner, hwinner⟩ := Option.isSome_iff_exists.1 hconcludes
      obtain ⟨hbefore, hafter⟩ := concludes_split hone hsplit hconcludes
      obtain ⟨hset, hend⟩ := (winner_land_split (h.positive flush (hperm.mem_iff.1 hmem)) hwinner
        hbefore hafter).1 (htime before flush after hsplit hconcludes)
      rw [← hsplit] at hset hend
      refine ⟨persisted_board h hperm, fun winner' => ?_, fun _ =>
        ⟨flush, hperm.mem_iff.1 hmem, hconcludes⟩, fun _ => hend⟩
      rw [hset]
      refine ⟨fun heq => ⟨flush, hperm.mem_iff.1 hmem, hwinner.trans heq⟩, ?_⟩
      rintro ⟨other, hother, hwinner'⟩
      -- no other flush tells of a winner
      have hother := hsplit ▸ hperm.mem_iff.2 hother
      rcases List.mem_append.1 hother with hb | hb
      · exact nomatch (hbefore other hb).symm.trans hwinner'
      · rcases List.mem_cons.1 hb with rfl | ha
        · exact hwinner.symm.trans hwinner'
        · exact nomatch (hafter other ha).symm.trans hwinner'
    · have hnone : ∀ f ∈ landed, f.winnerId = none := fun f hf =>
        winnerId_eq_none (Bool.eq_false_iff.2 fun hc => hsome ⟨f, hf, hc⟩)
      obtain ⟨hwinner, hended⟩ := StoredRow.winner_land_of_none landed ({} : StoredRow V E L) hnone
      refine ⟨persisted_board h hperm, fun winner => ?_, ?_⟩
      · rw [hwinner]
        refine ⟨fun heq => (nomatch heq), ?_⟩
        rintro ⟨flush, hf, heq⟩
        exact nomatch (hnone flush (hperm.mem_iff.2 hf)).symm.trans heq
      · rw [hended]
        refine ⟨fun heq => (nomatch heq), ?_⟩
        rintro ⟨flush, hf, heq⟩
        exact absurd ⟨flush, hperm.mem_iff.2 hf, heq⟩ hsome

end

/-- The burst that ends the game, and the end of a reveal after it. -/
def wonThenRevealed : List (GameFlush String Unit Unit) :=
  [{ version := 1, «at» := 10, views := "won", winnerId := some "A" },
   { version := 2, «at» := 20, views := "won, and nothing revealed" }]

/-- A game that is won, and flushes once more for a look. -/
theorem published_wonThenRevealed : Published wonThenRevealed :=
  ⟨by decide, by decide, by decide⟩

/-- It is persisted if its flushes land in order. -/
theorem persisted_wonThenRevealed :
    Persisted (StoredRow.land {} wonThenRevealed) wonThenRevealed :=
  (persisted_iff published_wonThenRevealed (List.Perm.refl _)).2 (by
    intro before flush after hsplit hconcludes earlier hmem
    match before, hsplit with
    | [], _ => cases hmem
    | [_], hsplit => cases hsplit; cases hconcludes
    | _ :: _ :: _, hsplit => simp [wonThenRevealed] at hsplit)

/-- The end of the reveal lands first, and the row never learns who won. -/
theorem not_persisted_revealed_first : wonThenRevealed.reverse.Perm wonThenRevealed ∧
    Published wonThenRevealed ∧
    ¬ Persisted (StoredRow.land {} wonThenRevealed.reverse) wonThenRevealed := by
  refine ⟨List.reverse_perm _, published_wonThenRevealed, fun h => ?_⟩
  have hended := h.ended.2 ⟨_, List.mem_cons_self, rfl⟩
  exact absurd hended (by decide)

end HereToSlaughter
