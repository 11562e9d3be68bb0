import Mathlib

/-!
# Filling slots from a list of members

A list of slots is filled from a list of members when every slot can be given a member of its own
that fits it: an injective assignment of positions to positions (`Fillable`). Positions are awkward
to count with, so the assignment is read as the list of members it picks, one a slot, which is a
part of the members in some order (`fillable_iff`).

Nothing in this file is about a particular program.
-/

namespace Lib

section
variable {σ μ : Type} {fits : σ → μ → Prop} {slots : List σ} {members : List μ}

/-- Every slot gets a member of its own that fits it. -/
def Fillable (fits : σ → μ → Prop) (slots : List σ) (members : List μ) : Prop :=
  ∃ assign : Fin slots.length → Fin members.length, assign.Injective ∧
    ∀ i, fits (slots.get i) (members.get (assign i))

/-- The members an injective choice of positions picks are a part of all the members. -/
theorem ofFn_get_subperm {n : Nat} {assign : Fin n → Fin members.length} (h : assign.Injective) :
    (List.ofFn (members.get ∘ assign)).Subperm members := by
  have hpositions : (List.ofFn assign).Subperm (List.finRange members.length) :=
    (List.nodup_ofFn.2 h).subperm fun i _ => List.mem_finRange i
  obtain ⟨positions, hperm, hsub⟩ := hpositions
  refine ⟨positions.map members.get, ?_, ?_⟩
  · rw [← List.map_ofFn]
    exact hperm.map _
  · simpa using hsub.map members.get

/-- Slots are filled exactly when a part of the members fits them one by one. -/
theorem fillable_iff [DecidableEq μ] :
    Fillable fits slots members ↔
      ∃ picked, List.Forall₂ fits slots picked ∧ picked.Subperm members := by
  constructor
  · rintro ⟨assign, hinj, hfits⟩
    refine ⟨List.ofFn (members.get ∘ assign), ?_, ofFn_get_subperm hinj⟩
    refine List.forall₂_iff_get.2 ⟨by simp, fun i h₁ h₂ => ?_⟩
    simpa using hfits ⟨i, h₁⟩
  · rintro ⟨picked, hfits, hpart⟩
    have hlen := hfits.length_eq
    refine ⟨fun i => hpart.idxInj (i.cast hlen), fun i j hij => ?_, fun i => ?_⟩
    · simpa [Fin.ext_iff] using hpart.idxInj_injective hij
    · have hat : members.get (hpart.idxInj (i.cast hlen)) = picked.get (i.cast hlen) :=
        hpart.getElem_idxInj_eq_getElem
      rw [hat]
      exact (List.forall₂_iff_get.1 hfits).2 i i.isLt (i.cast hlen).isLt

end

end Lib
