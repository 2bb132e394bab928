import Mathlib.Logic.Basic
import Mathlib.Logic.ExistsUnique
import Wiring.Discovery.ParamType

/-!
# The core of a type

A type is a core in layers: references, brackets and wrappers, of which some say that a value may be
absent (`Ty.Layer`). What wiring goes by does not change with a layer, but for the absence that it
adds (`Layer.paramType`). The layers of a type can be taken off in one way only, until none is left
(`Layers.unique`, `exists_core`). So wiring goes by the core, and a value may be absent exactly if a
layer or the core says so (`paramType_of_core`).
-/

namespace Wiring.Source.Ty

/-- One layer of a type, and whether it says that a value may be absent. -/
inductive Layer : (isOptional : Bool) → (outer inner : Ty) → Prop
  | reference (t : Ty) : Layer false (reference t) t
  | parenthesized (t : Ty) : Layer false (parenthesized t) t
  | grouped (t : Ty) : Layer false (grouped t) t
  /-- A wrapper with the type of what it owns first among its type arguments. -/
  | owner {root : PathRoot} {names : List String} {t : Ty} {more : List Ty}
    (h : ∃ wrapper ∈ transparentWrappers, names.getLast? = some wrapper) :
    Layer false (path root names (t :: more)) t
  | option {root : PathRoot} {names : List String} {t : Ty} {more : List Ty}
    (h : names.getLast? = some optionalWrapper) : Layer true (path root names (t :: more)) t

/-- The layers between a type and one inside it, from the outside in. -/
inductive Layers : List Bool → Ty → Ty → Prop
  | nil (t : Ty) : Layers [] t t
  | cons {isOptional : Bool} {rest : List Bool} {outer inner t : Ty}
    (h : Layer isOptional outer inner) (hrest : Layers rest inner t) :
    Layers (isOptional :: rest) outer t

/-- A type without layers. -/
def IsCore (t : Ty) : Prop :=
  ∀ isOptional inner, ¬ Layer isOptional t inner

/-- A type that says that a value may be absent, but not what value. -/
def IsBareOption (t : Ty) : Prop :=
  ∃ root names, names.getLast? = some optionalWrapper ∧ t = path root names []

section
variable {o o' : Bool} {os os' : List Bool} {outer inner inner' t core core' : Ty}

/-- What says that a value may be absent is not one of the wrappers that are looked through. -/
theorem not_transparent_optionalWrapper : optionalWrapper ∉ transparentWrappers := by
  decide

/-- A layer changes nothing of what wiring goes by, but for the absence that it adds. -/
theorem Layer.paramType (h : Layer o outer inner) :
    outer.paramType = (inner.paramType.1, o || inner.paramType.2) := by
  cases h with
  | reference | parenthesized | grouped => rw [Ty.paramType, Bool.false_or]
  | owner h =>
    obtain ⟨wrapper, hwrapper, hlast⟩ := h
    have hne : wrapper ≠ optionalWrapper := fun heq =>
      not_transparent_optionalWrapper (heq ▸ hwrapper)
    simp [Ty.paramType, hlast, hne, hwrapper]
  | option hlast => simp [Ty.paramType, hlast]

/-- There is one layer at most on the outside of a type. -/
theorem Layer.unique (h : Layer o outer inner) (h' : Layer o' outer inner') :
    o = o' ∧ inner = inner' := by
  have hne {names : List String} (h : ∃ w ∈ transparentWrappers, names.getLast? = some w) :
      names.getLast? ≠ some optionalWrapper := by
    rintro hlast
    obtain ⟨wrapper, hwrapper, hlast'⟩ := h
    rw [hlast] at hlast'
    cases hlast'
    exact not_transparent_optionalWrapper hwrapper
  cases h with
  | reference | parenthesized | grouped => cases h'; exact ⟨rfl, rfl⟩
  | owner hwrapper =>
    cases h' with
    | owner => exact ⟨rfl, rfl⟩
    | option hlast => exact absurd hlast (hne hwrapper)
  | option hlast =>
    cases h' with
    | owner hwrapper => exact absurd hlast (hne hwrapper)
    | option => exact ⟨rfl, rfl⟩

/-- What a layer holds is smaller than the type. -/
theorem Layer.sizeOf_lt (h : Layer o outer inner) : sizeOf inner < sizeOf outer := by
  cases h <;> simp <;> omega

/-- Layers add up: the absence that one of them adds is added by all. -/
theorem Layers.paramType (h : Layers os outer inner) :
    outer.paramType = (inner.paramType.1, os.any id || inner.paramType.2) := by
  induction h with
  | nil => rfl
  | cons h _ ih => rw [h.paramType, ih, List.any_cons, Bool.or_assoc, id]

/-- All layers are taken off in one way. -/
theorem Layers.unique (h : Layers os t core) (hcore : core.IsCore) (h' : Layers os' t core')
    (hcore' : core'.IsCore) : os = os' ∧ core = core' := by
  induction h generalizing os' with
  | nil t =>
    cases h' with
    | nil => exact ⟨rfl, rfl⟩
    | cons hlayer => exact absurd hlayer (hcore _ _)
  | cons hlayer _ ih =>
    cases h' with
    | nil => exact absurd hlayer (hcore' _ _)
    | cons hlayer' hrest =>
      obtain ⟨rfl, rfl⟩ := hlayer.unique hlayer'
      obtain ⟨rfl, rfl⟩ := ih hcore hrest
      exact ⟨rfl, rfl⟩

/-- Layers can be taken off until none is left, since each leaves a smaller type. -/
theorem exists_core (t : Ty) : ∃ os core, Layers os t core ∧ core.IsCore := by
  by_cases h : t.IsCore
  · exact ⟨[], t, .nil t, h⟩
  · simp only [IsCore, not_forall, not_not] at h
    obtain ⟨o, inner, hlayer⟩ := h
    obtain ⟨os, core, hlayers, hcore⟩ := exists_core inner
    exact ⟨o :: os, core, .cons hlayer hlayers, hcore⟩
termination_by sizeOf t
decreasing_by exact hlayer.sizeOf_lt

/-- A core says that a value may be absent only if it says no more than that. -/
theorem IsCore.paramType_snd (h : core.IsCore) : core.paramType.2 = true ↔ core.IsBareOption := by
  cases core with
  | reference t => exact absurd (.reference t) (h _ _)
  | parenthesized t => exact absurd (.parenthesized t) (h _ _)
  | grouped t => exact absurd (.grouped t) (h _ _)
  | traitObject isSingle bounds =>
    rw [Ty.paramType]
    split <;> simp [IsBareOption]
  | sequence | other => simp [Ty.paramType, IsBareOption]
  | path root names arguments =>
    cases hlast : names.getLast? with
    | none => cases arguments <;> simp [Ty.paramType, IsBareOption, hlast]
    | some name =>
      cases arguments with
      | nil =>
        by_cases hname : name = optionalWrapper
        · simp [Ty.paramType, IsBareOption, hlast, hname]
        · simp [Ty.paramType, IsBareOption, hlast, hname]
          split <;> rfl
      | cons t more =>
        have hoption : name ≠ optionalWrapper := fun heq => h _ _ (.option (heq ▸ hlast))
        have howner : name ∉ transparentWrappers := fun hmem => h _ _ (.owner ⟨name, hmem, hlast⟩)
        simp [Ty.paramType, IsBareOption, hlast, hoption, howner]

/-- Wiring goes by the core of a type, which every type has, and a value may be absent exactly if
one of the layers around the core says so, or the core itself. One more reference, bracket or owner
changes nothing, and one more option only that. -/
theorem paramType_of_core (t : Ty) :
    (∃! parts : List Bool × Ty, Layers parts.1 t parts.2 ∧ parts.2.IsCore) ∧
      (∀ os core, Layers os t core → core.IsCore → t.paramType.1 = core.paramType.1 ∧
        (t.paramType.2 = true ↔ true ∈ os ∨ core.IsBareOption)) ∧
      (∀ outer, Layer false outer t → outer.paramType = t.paramType) ∧
      ∀ outer, Layer true outer t → outer.paramType = (t.paramType.1, true) := by
  refine ⟨?_, fun os core h hcore => ?_, fun outer h => ?_, fun outer h => ?_⟩
  · obtain ⟨os, core, h, hcore⟩ := exists_core t
    refine ⟨(os, core), ⟨h, hcore⟩, fun parts ⟨h', hcore'⟩ => ?_⟩
    obtain ⟨hos, hcores⟩ := h'.unique hcore' h hcore
    exact Prod.ext hos hcores
  · rw [h.paramType, ← hcore.paramType_snd]
    simp
  · rw [h.paramType, Bool.false_or]
  · rw [h.paramType, Bool.true_or]

end

/-- A cache that may be absent, shared by its users: `&Option<Arc<dyn Cache>>`. -/
def sharedCache : Ty :=
  .reference (.path .plain ["Option"] [.path .plain ["std", "sync", "Arc"]
    [.traitObject false [.trait ["Cache"]]]])

/-- A shared cache that may be absent is a nullable parameter of the type of the cache. -/
theorem paramType_of_core_sharedCache :
    (∃ core, Layers [false, true, false] sharedCache core ∧ core.IsCore ∧
      core.paramType.1 = .named "Cache") ∧
    sharedCache.paramType = (.named "Cache", true) ∧
    (Ty.path .plain ["Box"] [sharedCache]).paramType = sharedCache.paramType ∧
    (Ty.path .plain ["core", "option", "Option"] [sharedCache]).paramType =
      (sharedCache.paramType.1, true) := by
  obtain ⟨-, hcore, howner, hoption⟩ := paramType_of_core sharedCache
  have hlayers : Layers [false, true, false] sharedCache (.traitObject false [.trait ["Cache"]]) :=
    .cons (.reference _) <| .cons (.option rfl) <| .cons (.owner ⟨"Arc", by decide, rfl⟩) (.nil _)
  have hobject : (Ty.traitObject false [.trait ["Cache"]]).IsCore := nofun
  obtain ⟨hname, habsent⟩ := hcore _ _ hlayers hobject
  refine ⟨⟨_, hlayers, hobject, rfl⟩, Prod.ext hname (habsent.2 (.inl (by simp))), ?_, ?_⟩
  · exact howner _ (.owner ⟨"Box", by decide, rfl⟩)
  · exact hoption _ (.option rfl)

end Wiring.Source.Ty
