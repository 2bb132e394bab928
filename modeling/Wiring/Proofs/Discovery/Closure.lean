import Mathlib.Algebra.Ring.Nat
import Mathlib.Data.List.Perm.Subperm
import Mathlib.Logic.Relation
import Wiring.Discovery.Index
import Wiring.Proofs.Lookup

/-!
# Everything that a type implements, nearest first

The queue of a closure is emptied one name after the other (`Hierarchy.Drains`). It grows only when
a name is listed for the first time, by what that name extends, so that the steps of the closure are
enough to empty it (`Hierarchy.drains_closure`). All that ever enters the queue are the given names
and what the listed ones extend, in this order, and each name is listed where it enters first
(`Hierarchy.closure_eq_eraseDups`). From that equation the closure is seen to be the given names
with everything that they bring, and to list what is fewer steps away before what is more steps away
(`Hierarchy.within_prefix_closure`).
-/

namespace Wiring.Discovery.Hierarchy

variable {h : Hierarchy} {names seen queue out : List String} {name : String}

/-! ## Emptying the queue -/

/-- What a queue comes to when names are taken from its front until it is empty: a name that was
seen is dropped, and any other is listed and puts what it extends at the end. -/
inductive Drains (h : Hierarchy) : (seen queue out : List String) → Prop
  | empty {seen : List String} : h.Drains seen [] []
  | again {seen queue out : List String} {name : String} : name ∈ seen → h.Drains seen queue out →
      h.Drains seen (name :: queue) out
  | first {seen queue out : List String} {name : String} : name ∉ seen →
      h.Drains (name :: seen) (queue ++ h.extended name) out →
      h.Drains seen (name :: queue) (name :: out)

/-- A queue comes to one list only. -/
theorem Drains.unique {out' : List String} (hout : h.Drains seen queue out)
    (hout' : h.Drains seen queue out') : out' = out := by
  induction hout generalizing out' with
  | empty =>
    cases hout'
    rfl
  | again hseen _ ih =>
    cases hout' with
    | again _ hrest => exact ih hrest
    | first hnew _ => exact absurd hseen hnew
  | first hnew _ ih =>
    cases hout' with
    | again hseen _ => exact absurd hseen hnew
    | first _ hrest => rw [ih hrest]

/-- The extensions that may still enter the queue: those of names that were not seen. -/
def pending (h : Hierarchy) (seen : List String) : Nat :=
  (h.extensions.map fun e => if e.1 ∈ seen then 0 else e.2.length).sum

/-- When no name was seen all extensions may still enter the queue. -/
theorem pending_nil (h : Hierarchy) : h.pending [] = h.size := by
  rw [pending, size, List.sum_eq_foldl, List.foldl_map]
  simp

/-- A name that is seen for the first time takes what it extends out of what may still enter. -/
theorem pending_cons (hname : name ∉ seen) :
    h.pending (name :: seen) + (h.extended name).length ≤ h.pending seen := by
  rw [pending, pending, extended]
  induction h.extensions with
  | nil => exact Nat.le_refl 0
  | cons e rest ih =>
    obtain ⟨a, bs⟩ := e
    rw [List.map_cons, List.map_cons, List.sum_cons, List.sum_cons, List.lookup_cons]
    by_cases ha : name = a
    · subst ha
      rw [if_pos (List.mem_cons_self ..), if_neg hname, beq_self_eq_true]
      dsimp only [Option.getD_some]
      omega
    · have hmem : a ∈ name :: seen ↔ a ∈ seen := by simp [Ne.symm ha]
      rw [beq_false_of_ne ha, if_congr hmem rfl rfl]
      dsimp only
      omega

/-- Enough steps empty the queue. -/
theorem drains_reached {n : Nat} (hn : queue.length + h.pending seen < n) :
    h.Drains seen queue (h.reached n seen queue) := by
  induction n generalizing seen queue with
  | zero => omega
  | succ n ih =>
    cases queue with
    | nil => exact .empty
    | cons name queue =>
      rw [List.length_cons] at hn
      rw [reached]
      split
      · next hseen => exact .again (by simpa using hseen) (ih (by omega))
      · next hnew =>
        have hname : name ∉ seen := by simpa using hnew
        have hpending := h.pending_cons hname
        refine .first hname (ih ?_)
        rw [List.length_append]
        omega

/-- The closure of names is what a queue of them comes to. -/
theorem drains_closure (h : Hierarchy) (names : List String) :
    h.Drains [] names (h.closure names) :=
  drains_reached (by rw [pending_nil]; omega)

/-! ## What enters the queue -/

/-- What was taken from the queue so far (`taken`) and what is still in it are the given names and
what the listed ones extend. So when the queue is empty, all that was listed is what was taken, each
name once. -/
theorem Drains.eq_eraseDups (hout : h.Drains seen queue out) (taken : List String)
    (hseen : ∀ t, t ∈ seen ↔ t ∈ taken)
    (hall : taken ++ queue = names ++ taken.eraseDups.flatMap h.extended) :
    taken.eraseDups ++ out =
      (names ++ (taken.eraseDups ++ out).flatMap h.extended).eraseDups := by
  induction hout generalizing taken with
  | empty =>
    rw [List.append_nil] at hall ⊢
    rw [← hall]
  | @again seen queue out name hname _ ih =>
    have htaken : (taken ++ [name]).eraseDups = taken.eraseDups := by
      rw [eraseDups_concat, if_pos ((hseen name).1 hname)]
    rw [← htaken]
    refine ih _ (fun t => ?_) ?_
    · rw [List.mem_append, List.mem_singleton, hseen]
      exact ⟨.inl, fun ht => ht.elim id fun ht => ht ▸ (hseen name).1 hname⟩
    · rw [htaken, ← hall, List.append_assoc, List.singleton_append]
  | @first seen queue out name hname _ ih =>
    have htaken : (taken ++ [name]).eraseDups = taken.eraseDups ++ [name] := by
      rw [eraseDups_concat, if_neg fun h => hname ((hseen name).2 h)]
    have hlisted : taken.eraseDups ++ name :: out = (taken ++ [name]).eraseDups ++ out := by
      rw [htaken, List.append_assoc, List.singleton_append]
    rw [hlisted]
    refine ih _ (fun t => ?_) ?_
    · rw [List.mem_cons, List.mem_append, List.mem_singleton, hseen]
      exact or_comm
    · rw [htaken, List.flatMap_append, List.flatMap_singleton, ← List.append_assoc,
        ← List.append_assoc names, ← hall]
      simp only [List.append_assoc, List.singleton_append]

/-- A closure lists the given names and what its members extend, each where it is first. -/
theorem closure_eq_eraseDups (h : Hierarchy) (names : List String) :
    h.closure names = (names ++ (h.closure names).flatMap h.extended).eraseDups :=
  (drains_closure h names).eq_eraseDups [] (fun _ => Iff.rfl) (List.append_nil names).symm

/-! ## What is reached -/

/-- A trait brings the ones that it extends. -/
def Brings (h : Hierarchy) (a b : String) : Prop := b ∈ h.extended a

/-- What a queue comes to is brought by what was in it. -/
theorem Drains.exists_brings (hout : h.Drains seen queue out) {t : String} (ht : t ∈ out) :
    ∃ d ∈ queue, Relation.ReflTransGen h.Brings d t := by
  induction hout with
  | empty => cases ht
  | again _ _ ih =>
    obtain ⟨d, hd, hdt⟩ := ih ht
    exact ⟨d, .tail _ hd, hdt⟩
  | @first _ _ _ name _ _ ih =>
    rcases List.mem_cons.1 ht with rfl | ht
    · exact ⟨t, .head _, .refl⟩
    · obtain ⟨d, hd, hdt⟩ := ih ht
      rcases List.mem_append.1 hd with hd | hd
      · exact ⟨d, .tail _ hd, hdt⟩
      · exact ⟨name, .head _, .head hd hdt⟩

/-- No trait is listed twice. -/
theorem nodup_closure (h : Hierarchy) (names : List String) : (h.closure names).Nodup := by
  rw [closure_eq_eraseDups]
  exact nodup_eraseDups _

/-- The names given are listed. -/
theorem mem_closure_of_mem (hname : name ∈ names) : name ∈ h.closure names := by
  rw [closure_eq_eraseDups, List.mem_eraseDups]
  exact List.mem_append_left _ hname

/-- What a listed trait brings is listed. -/
theorem mem_closure_of_brings {a b : String} (ha : a ∈ h.closure names) (hab : h.Brings a b) :
    b ∈ h.closure names := by
  rw [closure_eq_eraseDups, List.mem_eraseDups]
  exact List.mem_append_right _ (List.mem_flatMap.2 ⟨a, ha, hab⟩)

/-- What is listed is what the names given bring, themselves included. -/
theorem mem_closure_iff {t : String} :
    t ∈ h.closure names ↔ ∃ d ∈ names, Relation.ReflTransGen h.Brings d t := by
  constructor
  · exact (drains_closure h names).exists_brings
  · rintro ⟨d, hd, hdt⟩
    induction hdt with
    | refl => exact mem_closure_of_mem hd
    | tail _ hab ih => exact mem_closure_of_brings ih hab

/-! ## The order of a closure -/

/-- The names that are at most so many steps away from the given ones: the given names, then those
that the names one step nearer extend, in their order. -/
def within (h : Hierarchy) (names : List String) : Nat → List String
  | 0 => names.eraseDups
  | n + 1 => (names ++ (h.within names n).flatMap h.extended).eraseDups

/-- What is some steps away from the given names. -/
inductive Away (h : Hierarchy) (names : List String) : Nat → String → Prop
  | named {t : String} : t ∈ names → h.Away names 0 t
  | extended {n : Nat} {a b : String} : h.Away names n a → h.Brings a b → h.Away names (n + 1) b

/-- What is at most so many steps away is away by one of these numbers of steps. -/
theorem mem_within_iff {n : Nat} {t : String} :
    t ∈ h.within names n ↔ ∃ m ≤ n, h.Away names m t := by
  induction n generalizing t with
  | zero =>
    rw [within, List.mem_eraseDups]
    constructor
    · exact fun ht => ⟨0, Nat.le_refl 0, .named ht⟩
    · rintro ⟨m, hm, ht⟩
      obtain rfl := Nat.le_zero.1 hm
      cases ht with
      | named ht => exact ht
  | succ n ih =>
    rw [within, List.mem_eraseDups, List.mem_append, List.mem_flatMap]
    constructor
    · rintro (ht | ⟨a, ha, hab⟩)
      · exact ⟨0, Nat.zero_le _, .named ht⟩
      · obtain ⟨m, hm, ha⟩ := ih.1 ha
        exact ⟨m + 1, Nat.succ_le_succ hm, .extended ha hab⟩
    · rintro ⟨m, hm, ht⟩
      cases ht with
      | named ht => exact .inl ht
      | @extended m a _ ha hab =>
        exact .inr ⟨a, ih.2 ⟨m, Nat.le_of_succ_le_succ hm, ha⟩, hab⟩

/-- What is at most so many steps away comes before everything else. -/
theorem within_prefix_closure (h : Hierarchy) (names : List String) (n : Nat) :
    h.within names n <+: h.closure names := by
  induction n with
  | zero =>
    rw [within, closure_eq_eraseDups]
    exact eraseDups_prefix_append _ _
  | succ n ih =>
    obtain ⟨rest, hrest⟩ := ih
    rw [within, closure_eq_eraseDups, ← hrest, List.flatMap_append, ← List.append_assoc]
    exact eraseDups_prefix_append _ _

/-- What a name brings is some steps away. -/
theorem exists_away {d t : String} (hd : d ∈ names) (hdt : Relation.ReflTransGen h.Brings d t) :
    ∃ n, h.Away names n t := by
  induction hdt with
  | refl => exact ⟨0, .named hd⟩
  | tail _ hab ih =>
    obtain ⟨n, hn⟩ := ih
    exact ⟨n + 1, .extended hn hab⟩

/-- What is at most so many steps away is also at most more steps away. -/
theorem within_subset_within {m n : Nat} (hmn : m ≤ n) : h.within names m ⊆ h.within names n := by
  intro t ht
  obtain ⟨k, hk, haway⟩ := mem_within_iff.1 ht
  exact mem_within_iff.2 ⟨k, Nat.le_trans hk hmn, haway⟩

/-- Of some names that are reached, none is farther away than the farthest. -/
theorem exists_subset_within {l : List String} (hl : ∀ t ∈ l, ∃ n, h.Away names n t) :
    ∃ n, l ⊆ h.within names n := by
  induction l with
  | nil => exact ⟨0, nofun⟩
  | cons t rest ih =>
    obtain ⟨⟨m, hm⟩, hrest⟩ := List.forall_mem_cons.1 hl
    obtain ⟨n, hn⟩ := ih hrest
    have ht : t ∈ h.within names m := mem_within_iff.2 ⟨m, Nat.le_refl m, hm⟩
    refine ⟨max m n, List.cons_subset.2 ⟨?_, ?_⟩⟩
    · exact within_subset_within (Nat.le_max_left m n) ht
    · exact List.Subset.trans hn (within_subset_within (Nat.le_max_right m n))

/-- After some number of steps nothing is left to reach. -/
theorem exists_within_eq_closure (h : Hierarchy) (names : List String) :
    ∃ n, h.within names n = h.closure names := by
  have haway : ∀ t ∈ h.closure names, ∃ n, h.Away names n t := by
    intro t ht
    obtain ⟨d, hd, hdt⟩ := mem_closure_iff.1 ht
    exact exists_away hd hdt
  obtain ⟨n, hn⟩ := exists_subset_within haway
  have hlength := (List.Nodup.subperm (nodup_closure h names) hn).length_le
  exact ⟨n, (within_prefix_closure h names n).eq_of_length_le hlength⟩

/-- What a closure brings is in it. -/
theorem closure_closure (h : Hierarchy) (names : List String) :
    h.closure (h.closure names) = h.closure names := by
  have hsubset : h.closure (h.closure names) ⊆ h.closure names := by
    intro t ht
    obtain ⟨d, hd, hdt⟩ := mem_closure_iff.1 ht
    obtain ⟨d', hd', hd'd⟩ := mem_closure_iff.1 hd
    exact mem_closure_iff.2 ⟨d', hd', hd'd.trans hdt⟩
  have hstart := within_prefix_closure h (h.closure names) 0
  rw [within, eraseDups_of_nodup (nodup_closure h names)] at hstart
  exact (hstart.eq_of_length_le (List.Nodup.subperm (nodup_closure h _) hsubset).length_le).symm

/-- Emptying the queue ends, and with the closure. The closure lists, without repetitions, exactly
what the given names bring, whether all of it is declared or not and however the declared traits
extend each other. The given names come first in the order in which they are given, and what is at
most so many steps away from them comes before everything else, in the order in which the names one
step nearer extend it. Closing a closure adds nothing. -/
theorem closure_nearest_first (h : Hierarchy) (names : List String) :
    (∀ out, h.Drains [] names out ↔ out = h.closure names) ∧
    (h.closure names).Nodup ∧
    (∀ t, t ∈ h.closure names ↔ ∃ d ∈ names, Relation.ReflTransGen h.Brings d t) ∧
    names.eraseDups <+: h.closure names ∧
    (∀ n, h.within names n <+: h.closure names ∧
      ∀ t, t ∈ h.within names n ↔ ∃ m ≤ n, h.Away names m t) ∧
    (∃ n, h.within names n = h.closure names) ∧
    h.closure (h.closure names) = h.closure names := by
  have hdrains := drains_closure h names
  exact ⟨fun out => ⟨hdrains.unique, fun hout => hout ▸ hdrains⟩, nodup_closure h names,
    fun _ => mem_closure_iff, within_prefix_closure h names 0,
    fun n => ⟨within_prefix_closure h names n, fun _ => mem_within_iff⟩,
    exists_within_eq_closure h names, closure_closure h names⟩

/-- Two traits that extend each other, and one that is not declared. -/
example : closure ⟨[("Reads", ["Opens", "Counts"]), ("Opens", ["Reads", "Closes"])]⟩
    ["Reads", "Reads"] = ["Reads", "Opens", "Counts", "Closes"] := by decide

end Wiring.Discovery.Hierarchy
