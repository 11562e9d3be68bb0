import HereToSlaughter.Lib.Matching
import HereToSlaughter.Model.Board

/-!
# What a monster asks of a party

`MonsterCard.canBeAttackedBy` takes a hero off a pool for every class the monster names, counts what
is left against the `'Any'` entries, and tries the leader in the place of one named class only when
the heroes alone have failed. Here the requirement is stated without that order, as an assignment of
the entries to members of the party (`Member.Fills`), and the code is shown to answer exactly
whether there is one (`canBeAttackedBy_iff`).

What the greedy pass decides is a matter of counting: the entries are a part of the heroes in some
order and enough heroes are left (`heroesCover_iff`). An assignment splits the named classes into
the ones the leader takes and the ones heroes take (`exists_taken`), and the leader is one.
-/

namespace HereToSlaughter

/-- A member of a party as a requirement sees it: a hero of a class, or the leader. -/
inductive Member
  | hero (heroClass : HeroClass)
  | leader (heroClass : HeroClass)
  deriving DecidableEq

namespace Member

/-- A named entry takes a hero or the leader of exactly its class, `'Any'` takes a hero. -/
def Fills : HeroClassReq → Member → Prop
  | .named cls, .hero heroClass => heroClass = cls
  | .named cls, .leader heroClass => heroClass = cls
  | .any, .hero _ => True
  | .any, .leader _ => False

/-- The members of a party: its heroes and its one leader. -/
def ofParty (heroClasses : List HeroClass) (leaderClass : Option HeroClass) : List Member :=
  heroClasses.map hero ++ leaderClass.toList.map leader

/-- The class of a hero. -/
def hero? : Member → Option HeroClass
  | .hero heroClass => some heroClass
  | .leader _ => none

/-- The class of a leader. -/
def leader? : Member → Option HeroClass
  | .hero _ => none
  | .leader heroClass => some heroClass

variable {heroClasses : List HeroClass} {leaderClass : Option HeroClass} {picked : List Member}
  {cls : HeroClass}

/-- A hero is counted among the heroes. -/
@[simp] theorem filterMap_hero?_hero :
    (hero cls :: picked).filterMap hero? = cls :: picked.filterMap hero? := rfl

/-- A leader is not. -/
@[simp] theorem filterMap_hero?_leader :
    (leader cls :: picked).filterMap hero? = picked.filterMap hero? := rfl

/-- A hero is not counted among the leaders. -/
@[simp] theorem filterMap_leader?_hero :
    (hero cls :: picked).filterMap leader? = picked.filterMap leader? := rfl

/-- A leader is. -/
@[simp] theorem filterMap_leader?_leader :
    (leader cls :: picked).filterMap leader? = cls :: picked.filterMap leader? := rfl

/-- The heroes of a party are its heroes. -/
@[simp] theorem filterMap_hero?_ofParty :
    (ofParty heroClasses leaderClass).filterMap hero? = heroClasses := by
  cases leaderClass <;> simp [ofParty, hero?, Function.comp_def]

/-- Its leader is its leader. -/
@[simp] theorem filterMap_leader?_ofParty :
    (ofParty heroClasses leaderClass).filterMap leader? = leaderClass.toList := by
  cases leaderClass <;> simp [ofParty, leader?, Function.comp_def]

/-- The heroes among the members picked from a party are heroes of the party. -/
theorem heroes_subperm (h : picked.Subperm (ofParty heroClasses leaderClass)) :
    (picked.filterMap hero?).Subperm heroClasses := by
  obtain ⟨part, hperm, hsub⟩ := h
  exact ⟨part.filterMap hero?, hperm.filterMap _, by simpa using hsub.filterMap hero?⟩

/-- The leaders among the members picked from a party are at most its one leader. -/
theorem leaders_subperm (h : picked.Subperm (ofParty heroClasses leaderClass)) :
    (picked.filterMap leader?).Subperm leaderClass.toList := by
  obtain ⟨part, hperm, hsub⟩ := h
  exact ⟨part.filterMap leader?, hperm.filterMap _, by simpa using hsub.filterMap leader?⟩

end Member

namespace MonsterCardData

variable {data : MonsterCardData} {pool rest entries heroClasses : List HeroClass}
  {leaderClass : Option HeroClass}

/-! ## What the greedy pass decides -/

/-- What is left of the pool, once every entry has taken its hero, completes the entries to it. -/
theorem cover_perm (h : cover pool entries = some rest) : pool.Perm (entries ++ rest) := by
  induction entries generalizing pool with
  | nil => cases h; exact .refl _
  | cons cls entries ih =>
    by_cases hin : cls ∈ pool
    · rw [cover, if_pos hin] at h
      exact (List.perm_cons_erase hin).trans ((ih h).cons cls)
    · rw [cover, if_neg hin] at h
      cases h

/-- An entry finds no hero only if the entries are no part of the pool. -/
theorem not_subperm_of_cover (h : cover pool entries = none) : ¬ entries.Subperm pool := by
  induction entries generalizing pool with
  | nil => cases h
  | cons cls entries ih =>
    intro hpart
    have hin : cls ∈ pool := hpart.subset List.mem_cons_self
    rw [cover, if_pos hin] at h
    have := hpart.erase cls
    rw [List.erase_cons_head] at this
    exact ih h this

/-- `heroesCover` counts: the entries are a part of the heroes, and the `'Any'` ones fit beside. -/
theorem heroesCover_iff :
    data.heroesCover heroClasses entries = true ↔ entries.Subperm heroClasses ∧
      entries.length + (data.partyReq.length - data.named.length) ≤ heroClasses.length := by
  cases hc : cover heroClasses entries with
  | none =>
    have := not_subperm_of_cover hc
    simp [heroesCover, hc, this]
  | some rest =>
    have hperm := cover_perm hc
    have hlen := hperm.length_eq
    have hpart : entries.Subperm heroClasses :=
      (List.sublist_append_left entries rest).subperm.trans hperm.symm.subperm
    rw [List.length_append] at hlen
    simp only [heroesCover, hc, hpart, true_and, decide_eq_true_eq, ge_iff_le]
    omega

/-! ## What an assignment takes -/

section
variable {lower higher : Int} {mode : RollCompareMode} {req : List HeroClassReq} {cls : HeroClass}

/-- No slot names no class. -/
@[simp] theorem named_nil : (mk lower higher mode []).named = [] := rfl

/-- A slot for any hero names none. -/
@[simp] theorem named_cons_any :
    (mk lower higher mode (.any :: req)).named = (mk lower higher mode req).named := rfl

/-- A slot for a class names it. -/
@[simp] theorem named_cons_named :
    (mk lower higher mode (.named cls :: req)).named = cls :: (mk lower higher mode req).named :=
  rfl

end

/-- No more slots name a class than there are. -/
theorem named_length_le (data : MonsterCardData) : data.named.length ≤ data.partyReq.length :=
  List.length_filterMap_le ..

/-- The named classes of a filled requirement are the ones leaders take and the ones heroes take;
every entry takes one member. -/
theorem exists_taken {picked : List Member} (h : List.Forall₂ Member.Fills data.partyReq picked) :
    (∃ taken, data.named.Perm (picked.filterMap Member.leader? ++ taken) ∧
      taken.Subperm (picked.filterMap Member.hero?)) ∧
    data.partyReq.length =
      (picked.filterMap Member.leader?).length + (picked.filterMap Member.hero?).length := by
  obtain ⟨lower, higher, mode, req⟩ := data
  dsimp only at h ⊢
  induction h with
  | nil => exact ⟨⟨[], .refl _, .refl _⟩, rfl⟩
  | @cons entry member req picked hfills _ ih =>
    obtain ⟨⟨taken, hperm, hpart⟩, hlen⟩ := ih
    cases entry with
    | any =>
      cases member with
      | leader => cases hfills
      | hero cls =>
        refine ⟨⟨taken, by simpa using hperm, ?_⟩, ?_⟩
        · simpa using hpart.cons_right cls
        · simp [hlen, Nat.add_assoc]
    | named cls =>
      cases member with
      | leader =>
        obtain rfl := hfills
        refine ⟨⟨taken, by simpa using hperm, by simpa using hpart⟩, ?_⟩
        simp [hlen, Nat.add_right_comm]
      | hero heroClass =>
        obtain rfl := hfills
        refine ⟨⟨heroClass :: taken, ?_, ?_⟩, ?_⟩
        · simpa using (hperm.cons _).trans List.perm_middle.symm
        · simpa using (List.subperm_cons _).2 hpart
        · simp [hlen, Nat.add_assoc]

/-- Members for the named entries, and as many heroes more as there are `'Any'` entries, fill a
requirement. -/
theorem exists_picked {taken : List Member} {spare : List HeroClass}
    (htaken : List.Forall₂ (fun cls => Member.Fills (.named cls)) data.named taken)
    (hspare : data.partyReq.length - data.named.length ≤ spare.length) :
    ∃ picked, List.Forall₂ Member.Fills data.partyReq picked ∧
      picked.Subperm (taken ++ spare.map .hero) := by
  obtain ⟨lower, higher, mode, req⟩ := data
  dsimp only at htaken hspare ⊢
  induction req generalizing taken spare with
  | nil => exact ⟨[], .nil, List.nil_subperm⟩
  | cons entry req ih =>
    have hle := named_length_le (mk lower higher mode req)
    cases entry with
    | any =>
      rw [named_cons_any] at htaken hspare
      cases spare with
      | nil => simp at hspare hle; omega
      | cons cls spare =>
        have hspare : (mk lower higher mode req).partyReq.length -
            (mk lower higher mode req).named.length ≤ spare.length := by
          simp at hspare hle ⊢
          omega
        obtain ⟨picked, hfills, hpart⟩ := ih htaken hspare
        refine ⟨.hero cls :: picked, .cons trivial hfills, ?_⟩
        exact ((List.subperm_cons _).2 hpart).trans List.perm_middle.symm.subperm
    | named cls =>
      rw [named_cons_named] at htaken hspare
      cases htaken with
      | cons hmember htaken =>
        have hspare : (mk lower higher mode req).partyReq.length -
            (mk lower higher mode req).named.length ≤ spare.length := by simpa using hspare
        obtain ⟨picked, hfills, hpart⟩ := ih htaken hspare
        exact ⟨_ :: picked, .cons hmember hfills, (List.subperm_cons _).2 hpart⟩

/-! ## The requirement -/

/-- Heroes fill slots of their own classes. -/
theorem fills_map_hero (classes : List HeroClass) :
    List.Forall₂ (fun cls => Member.Fills (.named cls)) classes (classes.map .hero) := by
  induction classes with
  | nil => exact .nil
  | cons cls classes ih => exact .cons rfl ih

/-- Heroes that cover the entries are heroes for them and enough others. -/
theorem exists_spare (hpart : entries.Subperm heroClasses)
    (hlen : entries.length + (data.partyReq.length - data.named.length) ≤ heroClasses.length) :
    ∃ spare, heroClasses.Perm (entries ++ spare) ∧
      data.partyReq.length - data.named.length ≤ spare.length := by
  have hperm := (List.subperm_append_diff_self_of_count_le (List.subperm_ext_iff.1 hpart)).symm
  have := hperm.length_eq
  rw [List.length_append] at this
  exact ⟨_, hperm, by omega⟩

/-- A party whose heroes cover the named classes fills the requirement. -/
theorem fillable_of_heroes (h : data.heroesCover heroClasses data.named = true) :
    Lib.Fillable Member.Fills data.partyReq (Member.ofParty heroClasses leaderClass) := by
  obtain ⟨hpart, hlen⟩ := heroesCover_iff.1 h
  obtain ⟨spare, hperm, hspare⟩ := exists_spare hpart hlen
  obtain ⟨picked, hfills, hpicked⟩ := exists_picked (fills_map_hero data.named) hspare
  refine Lib.fillable_iff.2 ⟨picked, hfills, hpicked.trans ?_⟩
  rw [← List.map_append]
  exact (hperm.symm.map Member.hero).subperm.trans (List.sublist_append_left _ _).subperm

/-- So does one whose heroes cover them once its leader has taken one. -/
theorem fillable_of_leader {cls : HeroClass} (hin : cls ∈ data.named)
    (h : data.heroesCover heroClasses (data.named.erase cls) = true) :
    Lib.Fillable Member.Fills data.partyReq (Member.ofParty heroClasses (some cls)) := by
  obtain ⟨hpart, hlen⟩ := heroesCover_iff.1 h
  obtain ⟨spare, hperm, hspare⟩ := exists_spare hpart hlen
  obtain ⟨before, after, -, hnamed, herase⟩ := List.exists_erase_eq hin
  -- the leader stands where the first entry of its class was
  have htaken : List.Forall₂ (fun cls => Member.Fills (.named cls)) data.named
      (before.map .hero ++ .leader cls :: after.map .hero) := by
    rw [hnamed]
    exact List.rel_append (fills_map_hero before) (.cons rfl (fills_map_hero after))
  obtain ⟨picked, hfills, hpicked⟩ := exists_picked htaken hspare
  refine Lib.fillable_iff.2 ⟨picked, hfills, hpicked.trans (List.Perm.subperm ?_)⟩
  calc before.map Member.hero ++ .leader cls :: after.map .hero ++ spare.map .hero
      _ = before.map Member.hero ++ .leader cls :: (after.map .hero ++ spare.map .hero) := by simp
      List.Perm _
          (.leader cls :: (before.map Member.hero ++ (after.map .hero ++ spare.map .hero))) :=
        List.perm_middle
      _ = .leader cls :: ((data.named.erase cls ++ spare).map Member.hero) := by simp [herase]
      List.Perm _ (.leader cls :: heroClasses.map Member.hero) := (hperm.symm.map _).cons _
      List.Perm _ (Member.ofParty heroClasses (some cls)) := by
        simpa [Member.ofParty] using (List.perm_append_singleton _ _).symm

/-- The greedy pass answers whether the entries can be given distinct members of the party. -/
theorem canBeAttackedBy_iff (data : MonsterCardData) (heroClasses : List HeroClass)
    (leaderClass : Option HeroClass) :
    data.canBeAttackedBy heroClasses leaderClass = true ↔
      Lib.Fillable Member.Fills data.partyReq (Member.ofParty heroClasses leaderClass) := by
  constructor
  · intro h
    by_cases hheroes : data.heroesCover heroClasses data.named = true
    · exact fillable_of_heroes hheroes
    · simp only [canBeAttackedBy, if_neg hheroes] at h
      cases leaderClass with
      | none => cases h
      | some cls =>
        by_cases hin : cls ∈ data.named
        · exact fillable_of_leader hin (by simpa [hin] using h)
        · simp [hin] at h
  · intro h
    obtain ⟨picked, hfills, hpicked⟩ := Lib.fillable_iff.1 h
    obtain ⟨⟨taken, hnamed, htaken⟩, hlen⟩ := exists_taken hfills
    have hheroes := Member.heroes_subperm hpicked
    have hcount := hnamed.length_eq
    have hmany := hheroes.length_le
    have hle := named_length_le data
    rw [List.length_append] at hcount
    -- the leaders taken are none, or the one leader
    cases hleaders : picked.filterMap Member.leader? with
    | nil =>
      rw [hleaders] at hnamed hlen hcount
      have : data.heroesCover heroClasses data.named = true :=
        heroesCover_iff.2 ⟨(hnamed.subperm_right.2 htaken).trans hheroes, by simp at hlen; omega⟩
      simp [canBeAttackedBy, this]
    | cons cls leaders =>
      have hone := Member.leaders_subperm hpicked
      rw [hleaders] at hnamed hlen hcount hone
      cases leaderClass with
      | none => simp at hone
      | some leader =>
        have : leaders = [] := by
          have := hone.length_le
          simp at this
          exact this
        subst this
        obtain rfl : cls = leader := by simpa using hone.subset List.mem_cons_self
        have hin : cls ∈ data.named := hnamed.symm.subset (by simp)
        have herase : (data.named.erase cls).Perm taken := by
          simpa using hnamed.erase cls
        have : data.heroesCover heroClasses (data.named.erase cls) = true := by
          refine heroesCover_iff.2 ⟨(herase.subperm_right.2 htaken).trans hheroes, ?_⟩
          rw [herase.length_eq]
          simp at hlen hcount
          omega
        simp [canBeAttackedBy, hin, this]

end MonsterCardData

end HereToSlaughter
