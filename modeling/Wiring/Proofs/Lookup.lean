import Mathlib.Data.List.Induction
import Mathlib.Data.List.Nodup

/-!
# Looking up keys

Lists of pairs are searched for the first pair with a key. The other pairs matter neither when one
is put in front nor when those with another key are taken out. Where a list has no two members with
the same key, the one that is found is the one that has the key (`find?_key_eq_some_iff`).

A list without its repetitions keeps the first occurrence of each member, so that a member at the
end changes nothing if it was there before (`eraseDups_concat`). That is also what becomes of the
keys of a list when the first member with a key is changed, or a new one added at the end if there
is none (`map_key_changeOrAdd`).
-/

namespace Wiring

section
variable {α β : Type} [BEq α] [LawfulBEq α] {k a : α} {b : β} {l : List (α × β)}

/-- Where keys are distinct, a key leads to the member that has it. -/
theorem find?_key_eq_some_iff {key : β → α} {bs : List β} (h : (bs.map key).Nodup) :
    bs.find? (fun b => key b == k) = some b ↔ b ∈ bs ∧ key b = k := by
  constructor
  · intro hb
    exact ⟨List.mem_of_find?_eq_some hb, eq_of_beq (List.find?_some hb :)⟩
  · rintro ⟨hb, rfl⟩
    obtain ⟨b', hb'⟩ : ∃ b', bs.find? (fun b' => key b' == key b) = some b' :=
      Option.isSome_iff_exists.1 (List.find?_isSome.2 ⟨b, hb, beq_self_eq_true (key b)⟩)
    have hkey : key b' = key b := eq_of_beq (List.find?_some hb' :)
    rw [hb', List.inj_on_of_nodup_map h (List.mem_of_find?_eq_some hb') hb hkey]

/-- What is found is in the list. -/
theorem mem_of_lookup (h : l.lookup k = some b) : (k, b) ∈ l := by
  obtain ⟨l₁, l₂, hl, -⟩ := List.lookup_eq_some_iff.1 h
  rw [hl]
  exact List.mem_append_right _ (.head _)

/-- A pair in front is the one that is found under its key. -/
theorem lookup_cons_ite [DecidableEq α] (k a : α) (b : β) (l : List (α × β)) :
    ((a, b) :: l).lookup k = if k = a then some b else l.lookup k := by
  rw [List.lookup_cons]
  by_cases h : k = a
  · rw [if_pos h, beq_iff_eq.2 h]
  · rw [if_neg h, beq_false_of_ne h]

/-- Dropping the entries of one key leaves the others. -/
theorem lookup_filter_ne (h : k ≠ a) (l : List (α × β)) :
    (l.filter (·.1 != a)).lookup k = l.lookup k := by
  induction l with
  | nil => rfl
  | cons x rest ih =>
    obtain ⟨a', b⟩ := x
    by_cases ha : a' = a
    · subst ha
      rw [List.filter_cons_of_neg (by simp), List.lookup_cons, beq_false_of_ne h, ih]
    · rw [List.filter_cons_of_pos (by simp [ha]), List.lookup_cons, List.lookup_cons, ih]

/-- A key whose entries were dropped is not found. -/
theorem lookup_filter_self (a : α) (l : List (α × β)) : (l.filter (·.1 != a)).lookup a = none :=
  List.lookup_eq_none_iff.2 fun x hx => by simpa [bne_comm] using (List.mem_filter.1 hx).2

/-- A pair that takes the place of those with its key changes what is found under it only. -/
theorem lookup_cons_filter [DecidableEq α] (k a : α) (b : β) (l : List (α × β)) :
    ((a, b) :: l.filter (·.1 != a)).lookup k = if k = a then some b else l.lookup k := by
  rw [lookup_cons_ite]
  split
  · rfl
  · next h => exact lookup_filter_ne h l

/-- A pair at the end changes nothing for other keys. -/
theorem lookup_append_ne (h : k ≠ a) (b : β) (l : List (α × β)) :
    (l ++ [(a, b)]).lookup k = l.lookup k := by
  rw [List.lookup_append, List.lookup_cons, beq_false_of_ne h, List.lookup_nil, Option.or_none]

/-- A pair at the end is found if no other has its key. -/
theorem lookup_append_self (h : l.lookup a = none) (b : β) : (l ++ [(a, b)]).lookup a = some b := by
  rw [List.lookup_append, h, List.lookup_cons_self, Option.none_or]

omit [LawfulBEq α] in
/-- What is found under a key is mapped when all values are. -/
theorem lookup_map_snd {γ : Type} (f : β → γ) (k : α) (l : List (α × β)) :
    (l.map (Prod.map id f)).lookup k = (l.lookup k).map f := by
  induction l with
  | nil => rfl
  | cons x rest ih =>
    rw [List.map_cons, List.lookup_cons, List.lookup_cons, Prod.map_fst, ih, id_eq]
    cases k == x.1 <;> rfl

end

/-! ## First occurrences -/

section
variable {α : Type} [BEq α] [LawfulBEq α]

/-- One more member comes last, or nowhere if the list has it. -/
theorem eraseDups_concat (l : List α) (a : α) :
    (l ++ [a]).eraseDups = if a ∈ l then l.eraseDups else l.eraseDups ++ [a] := by
  rw [List.eraseDups_append, List.removeAll]
  split
  · next h => simp [h]
  · next h => simp [h, List.eraseDups_cons]

/-- Without doubles no member comes twice. -/
theorem nodup_eraseDups (l : List α) : l.eraseDups.Nodup := by
  induction l using List.reverseRecOn with
  | nil => exact .nil
  | append_singleton l a ih =>
    rw [eraseDups_concat]
    split
    · exact ih
    · next h =>
      rw [← List.mem_eraseDups] at h
      exact List.nodup_append_comm.1 (List.nodup_cons.2 ⟨h, ih⟩)

/-- What follows a list takes away none of its first occurrences. -/
theorem eraseDups_prefix_append (l l' : List α) : l.eraseDups <+: (l ++ l').eraseDups := by
  rw [List.eraseDups_append]
  exact List.prefix_append _ _

/-- Where nothing is repeated, nothing is left out. -/
theorem eraseDups_of_nodup {l : List α} (h : l.Nodup) : l.eraseDups = l := by
  induction l using List.reverseRecOn with
  | nil => rfl
  | append_singleton l a ih =>
    obtain ⟨hl, -, hdisjoint⟩ := List.nodup_append.1 h
    rw [eraseDups_concat, if_neg fun ha => hdisjoint a ha a (.head _) rfl, ih hl]

end

/-! ## Changing one member -/

section
variable {α β : Type} [DecidableEq α] {key : β → α} {k : α} {change : β → β} {new b : β}
  {bs : List β}

/-- The list with the first member that has a key changed, or with a new one at its end. -/
def changeOrAdd (key : β → α) (k : α) (change : β → β) (new : β) : List β → List β
  | [] => [new]
  | b :: bs => if key b = k then change b :: bs else b :: changeOrAdd key k change new bs

/-- The keys stay, and that of a new entry comes last. -/
theorem map_key_changeOrAdd (hchange : ∀ b, key (change b) = key b) (hnew : key new = k)
    (bs : List β) : (changeOrAdd key k change new bs).map key =
      if k ∈ bs.map key then bs.map key else bs.map key ++ [k] := by
  induction bs with
  | nil => exact congrArg ([·]) hnew
  | cons b bs ih =>
    rw [changeOrAdd]
    by_cases h : key b = k
    · rw [if_pos h, if_pos (by simp [h]), List.map_cons, hchange, List.map_cons]
    · have hmem : k ∈ (b :: bs).map key ↔ k ∈ bs.map key := by simp [Ne.symm h]
      rw [if_neg h, List.map_cons, ih, if_congr hmem rfl rfl]
      split <;> rfl

/-- Where keys are distinct, only the member with the key is changed, and a new one is added only if
there is none. -/
theorem of_mem_changeOrAdd (hnodup : (bs.map key).Nodup)
    (hb : b ∈ changeOrAdd key k change new bs) :
    (∃ b₀ ∈ bs, key b₀ = k ∧ b = change b₀) ∨ (k ∉ bs.map key ∧ b = new) ∨ key b ≠ k ∧ b ∈ bs := by
  induction bs with
  | nil => exact .inr (.inl ⟨List.not_mem_nil, List.mem_singleton.1 hb⟩)
  | cons first bs ih =>
    rw [List.map_cons, List.nodup_cons] at hnodup
    rw [changeOrAdd] at hb
    split at hb
    · next hfirst =>
      rcases List.mem_cons.1 hb with rfl | hb
      · exact .inl ⟨first, .head _, hfirst, rfl⟩
      · refine .inr (.inr ⟨fun h => hnodup.1 ?_, .tail _ hb⟩)
        rw [hfirst, ← h]
        exact List.mem_map_of_mem hb
    · next hfirst =>
      rcases List.mem_cons.1 hb with rfl | hb
      · exact .inr (.inr ⟨hfirst, .head _⟩)
      · rcases ih hnodup.2 hb with ⟨b₀, hb₀, h⟩ | ⟨hnone, h⟩ | ⟨hne, hb⟩
        · exact .inl ⟨b₀, .tail _ hb₀, h⟩
        · refine .inr (.inl ⟨?_, h⟩)
          rw [List.map_cons, List.mem_cons, not_or]
          exact ⟨Ne.symm hfirst, hnone⟩
        · exact .inr (.inr ⟨hne, .tail _ hb⟩)

end

end Wiring
