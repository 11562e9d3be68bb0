import Mathlib

/-!
# Calls that interleave at their await points

An asynchronous service keeps a state that all its calls share. A call runs in one go from an await
point to the next, and other calls may run in between. What it remembers across the await is the
`κ` of a `Calls`; `resume` is one such go, on the answer `ε` that the world outside gives where it
is asked for one. A run lets calls arrive and go on in any order. A run under a guard `G` is one in
which every go meets `G`, which may look at the shared state and at all the calls.

Nothing in this file is about a particular service.
-/

namespace Lib

variable {σ κ ε : Type}

/-- The shared state, and the calls that have been made, each at its await point. -/
structure Calls (σ κ : Type) where
  shared : σ
  calls : List κ

/-- How a call goes on. -/
structure Service (σ κ ε : Type) where
  start : σ
  begins : κ → Prop
  resume : κ → ε → σ → κ × σ

namespace Service

variable (S : Service σ κ ε) (G : σ → List κ → κ → ε → Prop)

/-- What calls reach that arrive in any order, and go on in any order, as `G` has it. -/
inductive Run : Calls σ κ → Prop
  | start : Run ⟨S.start, []⟩
  | call {s calls k} (h : Run ⟨s, calls⟩) (hk : S.begins k) : Run ⟨s, calls ++ [k]⟩
  | resume {s before k after} (e : ε) (h : Run ⟨s, before ++ k :: after⟩)
    (hG : G s (before ++ k :: after) k e) :
    Run ⟨(S.resume k e s).2, before ++ (S.resume k e s).1 :: after⟩

variable {S G} {c : Calls σ κ}

/-- What arrivals and gos keep holds of every state a run reaches. -/
theorem Run.invariant {I : σ → List κ → Prop} (h : S.Run G c) (hstart : I S.start [])
    (hcall : ∀ s calls k, I s calls → S.begins k → I s (calls ++ [k]))
    (hresume : ∀ s before k after e, I s (before ++ k :: after) →
      G s (before ++ k :: after) k e →
      I (S.resume k e s).2 (before ++ (S.resume k e s).1 :: after)) : I c.shared c.calls := by
  induction h with
  | start => exact hstart
  | call _ hk ih => exact hcall _ _ _ ih hk
  | resume e _ hG ih => exact hresume _ _ _ _ e ih hG

/-- What a go makes of its own call, and leaves of the others, holds of every call. -/
theorem Run.forall_calls {J : σ → κ → Prop} (h : S.Run G c)
    (hbegin : ∀ s k, S.begins k → J s k)
    (hresume : ∀ s calls k e, J s k → G s calls k e → J (S.resume k e s).2 (S.resume k e s).1)
    (hothers : ∀ s k e other, J s other → J (S.resume k e s).2 other) :
    ∀ k ∈ c.calls, J c.shared k := by
  refine h.invariant (I := fun s calls => ∀ k ∈ calls, J s k) (fun k hk => (nomatch hk)) ?_ ?_
  · intro s calls k hI hk other hother
    rcases List.mem_append.1 hother with hother | hother
    · exact hI other hother
    · rw [List.mem_singleton.1 hother]
      exact hbegin s k hk
  · intro s before k after e hI hG other hother
    rcases List.mem_append.1 hother with hother | hother
    · exact hothers s k e other (hI other (List.mem_append_left _ hother))
    · rcases List.mem_cons.1 hother with rfl | hother
      · exact hresume s _ k e (hI k (List.mem_append_right _ List.mem_cons_self)) hG
      · exact hothers s k e other
          (hI other (List.mem_append_right _ (List.mem_cons_of_mem _ hother)))

/-- What each go keeps of the shared state and of its own call holds of the state and of every
call. -/
theorem Run.invariant_calls {I : σ → Prop} {J : κ → Prop} (h : S.Run G c) (hstart : I S.start)
    (hbegin : ∀ k, S.begins k → J k)
    (hresume : ∀ s calls k e, I s → J k → G s calls k e →
      I (S.resume k e s).2 ∧ J (S.resume k e s).1) :
    I c.shared ∧ ∀ k ∈ c.calls, J k := by
  refine h.invariant (I := fun s calls => I s ∧ ∀ k ∈ calls, J k)
    ⟨hstart, fun k hk => (nomatch hk)⟩ ?_ ?_
  · rintro s calls k ⟨hI, hJ⟩ hk
    refine ⟨hI, fun other hother => ?_⟩
    rcases List.mem_append.1 hother with hother | hother
    · exact hJ other hother
    · exact List.mem_singleton.1 hother ▸ hbegin k hk
  · rintro s before k after e ⟨hI, hJ⟩ hG
    obtain ⟨hI', hk'⟩ := hresume s _ k e hI (hJ k (List.mem_append_right _ List.mem_cons_self)) hG
    refine ⟨hI', fun other hother => ?_⟩
    rcases List.mem_append.1 hother with hother | hother
    · exact hJ other (List.mem_append_left _ hother)
    · rcases List.mem_cons.1 hother with rfl | hother
      · exact hk'
      · exact hJ other (List.mem_append_right _ (List.mem_cons_of_mem _ hother))

/-- A stricter guard. -/
theorem Run.mono {G' : σ → List κ → κ → ε → Prop} (h : S.Run G c)
    (hG : ∀ s calls k e, G s calls k e → G' s calls k e) : S.Run G' c := by
  induction h with
  | start => exact .start
  | call _ hk ih => exact .call ih hk
  | resume e _ hmeets ih => exact .resume e ih (hG _ _ _ _ hmeets)

/-- What one service does, another does on what `f` leaves of the state and `g` of the calls, if it
does so in every go. -/
theorem Run.map {σ' κ' : Type} {S' : Service σ' κ' ε} {G' : σ' → List κ' → κ' → ε → Prop}
    {f : σ → σ'} {g : κ → κ'} (h : S.Run G c) (hstart : f S.start = S'.start)
    (hbegins : ∀ k, S.begins k → S'.begins (g k))
    (hresume : ∀ k e s, S'.resume (g k) e (f s) = (g (S.resume k e s).1, f (S.resume k e s).2))
    (hG : ∀ s calls k e, G s calls k e → G' (f s) (calls.map g) (g k) e) :
    S'.Run G' ⟨f c.shared, c.calls.map g⟩ := by
  induction h with
  | start => exact hstart ▸ .start
  | call _ hk ih =>
    rw [List.map_append]
    exact .call ih (hbegins _ hk)
  | @resume s before k after e _ hmeets ih =>
    have hgoes := hG s _ k e hmeets
    dsimp only at ih
    rw [List.map_append, List.map_cons] at ih hgoes ⊢
    have hrun := Run.resume e ih hgoes
    rwa [hresume] at hrun

/-! ## Runs that are played out -/

/-- One move of a script: a call arrives, or the call at a position goes on. -/
inductive Move (κ ε : Type)
  | call (k : κ)
  | go (i : Nat) (e : ε)

section
variable (S G) [∀ k, Decidable (S.begins k)] [∀ s calls k e, Decidable (G s calls k e)]

/-- The state a move leads to, if it is one of a run under `G`. -/
def move (c : Calls σ κ) : Move κ ε → Option (Calls σ κ)
  | .call k => if S.begins k then some ⟨c.shared, c.calls ++ [k]⟩ else none
  | .go i e =>
    match c.calls.drop i with
    | [] => none
    | k :: after =>
      if G c.shared (c.calls.take i ++ k :: after) k e then
        some ⟨(S.resume k e c.shared).2, c.calls.take i ++ (S.resume k e c.shared).1 :: after⟩
      else none

/-- The state a script leads to. -/
def play (script : List (Move κ ε)) : Option (Calls σ κ) :=
  script.foldlM (S.move G) ⟨S.start, []⟩

variable {S G}

/-- A run goes on with a move. -/
theorem Run.move {c' : Calls σ κ} {m : Move κ ε} (h : S.Run G c) (hmove : S.move G c m = some c') :
    S.Run G c' := by
  cases m with
  | call k =>
    simp only [Service.move] at hmove
    split at hmove
    next hk => cases hmove; exact .call h hk
    · cases hmove
  | go i e =>
    simp only [Service.move] at hmove
    split at hmove
    · cases hmove
    next k after hdrop =>
      split at hmove
      next hG =>
        cases hmove
        have hcalls : c.calls = c.calls.take i ++ k :: after := by
          rw [← hdrop, List.take_append_drop]
        have h : S.Run G ⟨c.shared, c.calls.take i ++ k :: after⟩ := hcalls ▸ h
        exact h.resume e hG
      · cases hmove

/-- A script that plays out is a run. -/
theorem Run.of_play {script : List (Move κ ε)} (h : S.play G script = some c) : S.Run G c := by
  have hplay : ∀ (script : List (Move κ ε)) (c c' : Calls σ κ), S.Run G c →
      script.foldlM (S.move G) c = some c' → S.Run G c' := by
    intro script
    induction script with
    | nil => intro c c' hrun h; cases h; exact hrun
    | cons m script ih =>
      intro c c' hrun h
      rw [List.foldlM_cons] at h
      obtain ⟨c₁, hmove, hrest⟩ := Option.bind_eq_some_iff.1 h
      exact ih c₁ c' (hrun.move hmove) hrest
  exact hplay script _ _ .start h

end

end Service

end Lib
