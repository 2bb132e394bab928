import Mathlib.Data.List.Forall2
import Wiring.Proofs.Discovery.Sources
import Wiring.Proofs.Lookup
import Wiring.Proofs.Result

/-!
# Which function builds a type

The functions of a type are read one after the other, wherever its implementations stand. One that
may build the type replaces the constructor found so far and is no method, so what becomes of a
function depends on those before it only. In the end the constructor is the last function that is
marked, or else the last `new` (`Implementation.Reads`). But a constructor that is replaced is lost:
the methods are the functions that were never taken (`Implementation.methodsOf`), which are all
others just if no more than one function was ever taken (`Implementation.methodsOf_eq_others_iff`).

`run_classes_constructor` says this of every type of a project.
-/

namespace Wiring.Source

/-- Induction on an item, with a hypothesis for each item inside. -/
theorem Item.recData {motive : Item → Prop}
    (struct : ∀ attributes name isGeneric, motive (.struct attributes name isGeneric))
    (trait : ∀ name supertraits, motive (.trait name supertraits))
    (impl : ∀ type trait? functions, motive (.impl type trait? functions))
    (module : ∀ items, (∀ item ∈ items, motive item) → motive (.module items))
    (enum : motive .enum) (other : motive .other) : ∀ item, motive item
  | .struct attributes name isGeneric => struct attributes name isGeneric
  | .trait name supertraits => trait name supertraits
  | .impl type trait? functions => impl type trait? functions
  | .module items => module items fun item _ => recData struct trait impl module enum other item
  | .enum => enum
  | .other => other
termination_by item => sizeOf item
decreasing_by
  have h := List.sizeOf_lt_of_mem ‹_ ∈ _›
  simp
  omega

end Wiring.Source

namespace Wiring.Discovery

open Source Disk

/-! ## Functions that build a type -/

namespace Implementation

/-- Whether a function is an associated one that gives the type. -/
def builds (owner : String) (f : Source.Function) : Bool :=
  !(f.signature.params.head?.any Param.isReceiver) && returnsOwner owner f.signature

/-- Whether a function is marked as constructor and can be one. -/
def isMarkedBuilder (owner : String) (f : Source.Function) : Bool :=
  builds owner f && f.attributes.any fun a => a.name == "constructor"

/-- Whether a function is called `new` and can be a constructor. -/
def isNew (owner : String) (f : Source.Function) : Bool :=
  builds owner f && f.signature.name == "new"

/-- Whether a function among others may be the constructor: if it is marked, or if it is called
`new` and none of them is marked. -/
def mayBuild (owner : String) (fs : List Source.Function) (f : Source.Function) : Bool :=
  if fs.any (isMarkedBuilder owner) then isMarkedBuilder owner f else isNew owner f

/-- The constructor among some functions: the last one that may be it. -/
def builder? (owner : String) (fs : List Source.Function) : Option Source.Function :=
  fs.reverse.find? (mayBuild owner fs)

/-- All functions but the constructor. -/
def others (owner : String) (fs : List Source.Function) : List Source.Function :=
  (fs.reverse.eraseP (mayBuild owner fs)).reverse

/-- The functions that are never taken as constructors. Up to the first one that is marked every
`new` is taken, and from there on those that are marked. -/
def methodsOf (owner : String) (fs : List Source.Function) : List Source.Function :=
  (fs.takeWhile fun f => !isMarkedBuilder owner f).filter (fun f => !isNew owner f) ++
    (fs.dropWhile fun f => !isMarkedBuilder owner f).filter fun f => !isMarkedBuilder owner f

/-- Whether a function is taken as constructor when it comes after others. -/
def takes (owner : String) (fs : List Source.Function) (f : Source.Function) : Bool :=
  isMarkedBuilder owner f || isNew owner f && !fs.any (isMarkedBuilder owner)

section
variable {owner : String} {fs : List Source.Function} {f : Source.Function}
  {i i' : Implementation}

/-- One more function becomes the constructor if it is taken. -/
theorem builder?_concat (owner : String) (fs : List Source.Function) (f : Source.Function) :
    builder? owner (fs ++ [f]) = if takes owner fs f then some f else builder? owner fs := by
  have hfirst : builder? owner (fs ++ [f]) =
      if mayBuild owner (fs ++ [f]) f then some f
      else fs.reverse.find? (mayBuild owner (fs ++ [f])) := by
    rw [builder?, List.reverse_append, List.reverse_singleton, List.singleton_append,
      List.find?_cons]
    split <;> simp [*]
  rw [hfirst, takes]
  cases hmarked : isMarkedBuilder owner f with
  | true => simp [mayBuild, hmarked]
  | false =>
    have hmay : mayBuild owner (fs ++ [f]) = mayBuild owner fs := by
      funext f'
      simp [mayBuild, hmarked]
    rw [hmay, builder?]
    cases hany : fs.any (isMarkedBuilder owner) <;> simp [mayBuild, hany, hmarked]

/-- Where some function is marked, what comes later stays behind it. -/
theorem takeWhile_dropWhile_concat (h : fs.any (isMarkedBuilder owner) = true)
    (f : Source.Function) :
    (fs ++ [f]).takeWhile (fun f => !isMarkedBuilder owner f) =
        fs.takeWhile (fun f => !isMarkedBuilder owner f) ∧
      (fs ++ [f]).dropWhile (fun f => !isMarkedBuilder owner f) =
        fs.dropWhile (fun f => !isMarkedBuilder owner f) ++ [f] := by
  induction fs with
  | nil => cases h
  | cons first rest ih =>
    rw [List.any_cons] at h
    cases hfirst : isMarkedBuilder owner first with
    | true => simp [hfirst]
    | false =>
      rw [hfirst, Bool.false_or] at h
      simp [hfirst, ih h]

/-- Where no function is marked, all of them come before the first that is. -/
theorem takeWhile_dropWhile_of_any_eq_false (h : fs.any (isMarkedBuilder owner) = false) :
    fs.takeWhile (fun f => !isMarkedBuilder owner f) = fs ∧
      fs.dropWhile (fun f => !isMarkedBuilder owner f) = [] := by
  have hall : ∀ f ∈ fs, (!isMarkedBuilder owner f) = true := by simpa using h
  constructor
  · rw [← List.append_nil fs, List.takeWhile_append_of_pos hall, List.takeWhile_nil]
  · rw [← List.append_nil fs, List.dropWhile_append_of_pos hall, List.dropWhile_nil]

/-- One more function becomes a method if it is not taken. -/
theorem methodsOf_concat (owner : String) (fs : List Source.Function) (f : Source.Function) :
    methodsOf owner (fs ++ [f]) =
      if takes owner fs f then methodsOf owner fs else methodsOf owner fs ++ [f] := by
  rw [takes]
  -- The new function goes to the second part if one was marked before, and else to the first part,
  -- unless it is marked itself.
  cases hany : fs.any (isMarkedBuilder owner) with
  | true =>
    obtain ⟨htake, hdrop⟩ := takeWhile_dropWhile_concat hany f
    rw [methodsOf, methodsOf, htake, hdrop, List.filter_append]
    cases hmarked : isMarkedBuilder owner f <;> simp [hmarked]
  | false =>
    obtain ⟨htake, hdrop⟩ := takeWhile_dropWhile_of_any_eq_false hany
    cases hmarked : isMarkedBuilder owner f with
    | true =>
      have hall : ∀ f ∈ fs, (!isMarkedBuilder owner f) = true := by simpa using hany
      rw [methodsOf, methodsOf, List.takeWhile_append_of_pos hall,
        List.dropWhile_append_of_pos hall, htake, hdrop]
      simp [hmarked]
    | false =>
      have hany' : (fs ++ [f]).any (isMarkedBuilder owner) = false := by simp [hany, hmarked]
      obtain ⟨htake', hdrop'⟩ := takeWhile_dropWhile_of_any_eq_false hany'
      rw [methodsOf, methodsOf, htake, hdrop, htake', hdrop', List.filter_append]
      cases hnew : isNew owner f <;> simp [hnew]

/-! ## Functions that are lost -/

/-- How many functions are taken as constructors, one after the other: those that are marked, and
every `new` before them. -/
def taken (owner : String) (fs : List Source.Function) : Nat :=
  (fs.takeWhile fun f => !isMarkedBuilder owner f).countP (isNew owner) +
    fs.countP (isMarkedBuilder owner)

/-- What cannot be the constructor is left when the constructor is taken away. -/
theorem filter_not_sublist_others (owner : String) (fs : List Source.Function) :
    (fs.filter fun f => !mayBuild owner fs f).Sublist (others owner fs) := by
  have herase (p : Source.Function → Bool) (l : List Source.Function) :
      (l.filter fun f => !p f).Sublist (l.eraseP p) := by
    induction l with
    | nil => exact .slnil
    | cons f rest ih =>
      cases hf : p f with
      | true => simp [hf, List.filter_sublist]
      | false => simpa [hf] using ih
  have hreverse := (herase (mayBuild owner fs) fs.reverse).reverse
  rwa [List.filter_reverse, List.reverse_reverse] at hreverse

/-- Where a function is marked only those that are marked may be the constructor. -/
theorem mayBuild_of_any (h : fs.any (isMarkedBuilder owner) = true) :
    mayBuild owner fs = isMarkedBuilder owner := by
  funext f
  rw [mayBuild, if_pos h]

/-- Where no function is marked those called `new` may be the constructor. -/
theorem mayBuild_of_any_eq_false (h : fs.any (isMarkedBuilder owner) = false) :
    mayBuild owner fs = isNew owner := by
  funext f
  rw [mayBuild, h, if_neg Bool.false_ne_true]

/-- None of the functions before the first one that is marked is marked. -/
theorem filter_takeWhile_unmarked (owner : String) (fs : List Source.Function) :
    (fs.takeWhile fun f => !isMarkedBuilder owner f).filter (fun f => !isMarkedBuilder owner f) =
      fs.takeWhile fun f => !isMarkedBuilder owner f :=
  List.filter_eq_self.2 (List.all_eq_true.1 List.all_takeWhile)

/-- The methods are other functions than the constructor, in their order. -/
theorem methodsOf_sublist_others (owner : String) (fs : List Source.Function) :
    (methodsOf owner fs).Sublist (others owner fs) := by
  refine List.Sublist.trans ?_ (filter_not_sublist_others owner fs)
  cases hany : fs.any (isMarkedBuilder owner) with
  | true =>
    have hsplit :=
      List.takeWhile_append_dropWhile (p := fun f => !isMarkedBuilder owner f) (l := fs)
    rw [mayBuild_of_any hany, methodsOf]
    conv_rhs => rw [← hsplit, List.filter_append, filter_takeWhile_unmarked]
    exact List.filter_sublist.append_right _
  | false =>
    obtain ⟨htake, hdrop⟩ := takeWhile_dropWhile_of_any_eq_false hany
    rw [mayBuild_of_any_eq_false hany, methodsOf, htake, hdrop, List.filter_nil, List.append_nil]

/-- A function is a method or was taken as constructor. -/
theorem length_methodsOf (owner : String) (fs : List Source.Function) :
    (methodsOf owner fs).length + taken owner fs = fs.length := by
  have hunmarked : (fs.takeWhile fun f => !isMarkedBuilder owner f).countP
      (isMarkedBuilder owner) = 0 := by
    refine List.countP_eq_zero.2 fun f hf => ?_
    simpa using List.all_eq_true.1 List.all_takeWhile f hf
  have hsplit := List.takeWhile_append_dropWhile (p := fun f => !isMarkedBuilder owner f) (l := fs)
  have hmarked := congrArg (List.countP (isMarkedBuilder owner)) hsplit
  have hlength := congrArg List.length hsplit
  rw [List.countP_append, hunmarked, Nat.zero_add, List.countP_eq_length_filter] at hmarked
  rw [List.length_append] at hlength
  have htake := List.length_eq_length_filter_add
    (l := fs.takeWhile fun f => !isMarkedBuilder owner f) (isNew owner)
  have hdrop := List.length_eq_length_filter_add
    (l := fs.dropWhile fun f => !isMarkedBuilder owner f) (isMarkedBuilder owner)
  rw [methodsOf, taken, List.length_append, List.countP_eq_length_filter]
  omega

/-- Some function may be the constructor exactly if one was taken. -/
theorem any_mayBuild_iff : fs.any (mayBuild owner fs) = true ↔ 0 < taken owner fs := by
  cases hany : fs.any (isMarkedBuilder owner) with
  | true =>
    have hmarked : 0 < fs.countP (isMarkedBuilder owner) := by
      rw [List.countP_pos_iff]
      exact List.any_eq_true.1 hany
    rw [mayBuild_of_any hany, taken]
    exact iff_of_true hany (by omega)
  | false =>
    have hmarked : fs.countP (isMarkedBuilder owner) = 0 := by
      rw [List.countP_eq_zero]
      exact fun f hf => List.any_eq_false.1 hany f hf
    rw [mayBuild_of_any_eq_false hany, taken, hmarked, Nat.add_zero,
      (takeWhile_dropWhile_of_any_eq_false hany).1, List.countP_pos_iff, List.any_eq_true]

/-- The other functions are all but one if there is a constructor, and else all. -/
theorem length_others (owner : String) (fs : List Source.Function) :
    (others owner fs).length + min 1 (taken owner fs) = fs.length := by
  have htaken := length_methodsOf owner fs
  rw [others, List.length_reverse, List.length_eraseP, List.any_reverse, List.length_reverse]
  split
  · next h =>
    have hpos := any_mayBuild_iff.1 h
    omega
  · next h =>
    rw [any_mayBuild_iff] at h
    omega

/-- All functions but the constructor become methods just if no other one was taken before it or
after it. -/
theorem methodsOf_eq_others_iff (owner : String) (fs : List Source.Function) :
    methodsOf owner fs = others owner fs ↔ taken owner fs ≤ 1 := by
  have hmethods := length_methodsOf owner fs
  have hothers := length_others owner fs
  constructor
  · intro h
    rw [h] at hmethods
    omega
  · intro h
    refine (methodsOf_sublist_others owner fs).eq_of_length ?_
    omega

/-! ## Reading functions -/

/-- The method that a function is. -/
structure IsMethod (owner : String) (f : Source.Function) (m : Method) : Prop where
  name : m.name = f.signature.name
  params : parameters owner f.signature.params = .ok m.params
  isStatic : m.isStatic = !(f.signature.params.head?.any Param.isReceiver)
  annotations : ∃ given, f.attributes.mapM (annotationOfMethod
      (m.params.head?.bind (·.type.identifier?))) = .ok given ∧ m.annotations = given.filterMap id

/-- The parameters that a constructor has. -/
def HasParameters (owner : String) (f : Source.Function) (params : List Parameter) : Prop :=
  parameters owner f.signature.params = .ok params

/-- What the functions of a type that were read so far add up to. -/
structure Reads (i : Implementation) (owner : String) (fs : List Source.Function) : Prop where
  isMarked : i.isMarked = fs.any (isMarkedBuilder owner)
  constructor : Option.Rel (HasParameters owner) (builder? owner fs) i.constructor?
  methods : List.Forall₂ (IsMethod owner) (methodsOf owner fs) i.methods

/-- A function that is read is taken as constructor, or becomes a method. -/
theorem of_addFunction (hadd : addFunction owner i f = .ok i') :
    (isMarkedBuilder owner f || isNew owner f && !i.isMarked) = true ∧
      (∃ params, HasParameters owner f params ∧ i' = { i with
        constructor? := some params, isMarked := i.isMarked || isMarkedBuilder owner f }) ∨
    (isMarkedBuilder owner f || isNew owner f && !i.isMarked) = false ∧
      ∃ m, IsMethod owner f m ∧ i' = { i with methods := i.methods ++ [m] } := by
  rw [addFunction] at hadd
  obtain ⟨params, hparams, hadd⟩ := Result.bind_eq_ok.1 hadd
  have htaken : (!(f.signature.params.head?.any Param.isReceiver) &&
      returnsOwner owner f.signature && ((f.attributes.any fun a => a.name == "constructor") ||
        (f.signature.name == "new" && !i.isMarked))) =
      (isMarkedBuilder owner f || isNew owner f && !i.isMarked) := by
    simp only [isMarkedBuilder, isNew, builds, Bool.and_or_distrib_left, Bool.and_assoc]
  rw [htaken] at hadd
  split at hadd
  · next h =>
    cases hadd
    have hbuilds : builds owner f = true := by
      by_contra hno
      rw [Bool.not_eq_true] at hno
      simp [isMarkedBuilder, isNew, hno] at h
    refine .inl ⟨h, params, hparams, ?_⟩
    rw [isMarkedBuilder, hbuilds, Bool.true_and]
  · next h =>
    obtain ⟨given, hgiven, hadd⟩ := Result.bind_eq_ok.1 hadd
    cases hadd
    exact .inr ⟨by simpa using h, _, ⟨rfl, hparams, rfl, given, hgiven, rfl⟩, rfl⟩

/-- Adding a function keeps what the functions add up to. -/
theorem Reads.addFunction (h : i.Reads owner fs) (hadd : addFunction owner i f = .ok i') :
    i'.Reads owner (fs ++ [f]) := by
  have hany : (fs ++ [f]).any (isMarkedBuilder owner) =
      (fs.any (isMarkedBuilder owner) || isMarkedBuilder owner f) := by simp
  have htakes : (isMarkedBuilder owner f || isNew owner f && !i.isMarked) = takes owner fs f := by
    rw [h.isMarked, takes]
  rcases of_addFunction hadd with ⟨htaken, params, hparams, rfl⟩ | ⟨htaken, m, hm, rfl⟩
  · rw [htakes] at htaken
    refine ⟨?_, ?_, ?_⟩
    · rw [hany, h.isMarked]
    · rw [builder?_concat, if_pos htaken]
      exact .some hparams
    · rw [methodsOf_concat, if_pos htaken]
      exact h.methods
  · have hunmarked : isMarkedBuilder owner f = false := (Bool.or_eq_false_iff.1 htaken).1
    rw [htakes] at htaken
    refine ⟨?_, ?_, ?_⟩
    · rw [hany, hunmarked, Bool.or_false, h.isMarked]
    · rw [builder?_concat, htaken, if_neg Bool.false_ne_true]
      exact h.constructor
    · rw [methodsOf_concat, htaken, if_neg Bool.false_ne_true]
      exact List.rel_append h.methods (.cons hm .nil)

/-- Adding functions keeps what they add up to. -/
theorem Reads.foldlM_addFunction (h : i.Reads owner fs) {fs' : List Source.Function}
    (hadd : fs'.foldlM (Implementation.addFunction owner) i = .ok i') :
    i'.Reads owner (fs ++ fs') := by
  refine Result.foldlM_induction (fun done (i : Implementation) => i.Reads owner
    (fs ++ done)) ?_ ?_ hadd
  · rwa [List.append_nil]
  · intro done i i' f _ hdone hf
    rw [← List.append_assoc]
    exact hdone.addFunction hf

end

end Implementation

/-! ## Reading declarations -/

mutual

/-- The functions of a type's own implementations in an item. -/
def functionsOf (owner : String) : Item → List Source.Function
  | .impl type none functions => if type.name? = some owner then functions else []
  | .module items => functionsIn owner items
  | _ => []

/-- The functions of a type's own implementations in some items. -/
def functionsIn (owner : String) : List Item → List Source.Function
  | [] => []
  | item :: items => functionsOf owner item ++ functionsIn owner items

end

mutual

/-- The names of the types and traits that an item declares. -/
def namesOf : Item → List String
  | .struct _ name _ => [name]
  | .trait name _ => [name]
  | .module items => namesIn items
  | _ => []

/-- The names of the types and traits that some items declare. -/
def namesIn : List Item → List String
  | [] => []
  | item :: items => namesOf item ++ namesIn items

end

/-- The functions in items, one after the other. -/
theorem functionsIn_append (owner : String) (items items' : List Item) :
    functionsIn owner (items ++ items') = functionsIn owner items ++ functionsIn owner items' := by
  induction items with
  | nil => rfl
  | cons item items ih =>
    rw [List.cons_append, functionsIn, functionsIn, ih, List.append_assoc]

/-- The names that items declare, one after the other. -/
theorem namesIn_append (items items' : List Item) :
    namesIn (items ++ items') = namesIn items ++ namesIn items' := by
  induction items with
  | nil => rfl
  | cons item items ih => rw [List.cons_append, namesIn, namesIn, ih, List.append_assoc]

/-- What an index keeps of the items that were read so far: each name that they declare, where it is
first, and what the functions of each type add up to. -/
structure Index.Gathers (x : Index) (items : List Item) : Prop where
  names : x.declarations.map (·.name) = (namesIn items).eraseDups
  functions : ∀ owner, (x.implementation owner).Reads owner (functionsIn owner items)

section
variable {x y : Index} {items : List Item} {item : Item} {name owner : String} {file : Disk.Path}

/-- The functions in items and in one more. -/
theorem functionsIn_concat (owner : String) (items : List Item) (item : Item) :
    functionsIn owner (items ++ [item]) = functionsIn owner items ++ functionsOf owner item := by
  rw [functionsIn_append, functionsIn, functionsIn, List.append_nil]

/-- The names that items and one more declare. -/
theorem namesIn_concat (items : List Item) (item : Item) :
    namesIn (items ++ [item]) = namesIn items ++ namesOf item := by
  rw [namesIn_append, namesIn, namesIn, List.append_nil]

/-- A name is declared if one of the declarations has it. -/
theorem Index.declares_iff : x.declares name = true ↔ name ∈ x.declarations.map (·.name) := by
  rw [declares, List.any_eq_true, List.mem_map]
  exact exists_congr fun d => and_congr_right fun _ => beq_iff_eq

/-- An implementation takes the place of that of its type and of no other. -/
theorem Index.implementation_putImplementation (x : Index) (name : String) (i : Implementation)
    (owner : String) : (x.putImplementation name i).implementation owner =
      if owner = name then i else x.implementation owner := by
  rw [implementation, putImplementation, lookup_cons_filter, implementation]
  split <;> rfl

/-- An item without names and functions adds nothing. -/
theorem Index.Gathers.skip (h : x.Gathers items) (hnames : namesOf item = [])
    (hfunctions : ∀ owner, functionsOf owner item = []) : x.Gathers (items ++ [item]) := by
  refine ⟨?_, fun owner => ?_⟩
  · rw [namesIn_concat, hnames, List.append_nil]
    exact h.names
  · rw [functionsIn_concat, hfunctions, List.append_nil]
    exact h.functions owner

/-- An item that declares a name adds it if it is new. -/
theorem Index.Gathers.declaring (file : Disk.Path) (h : x.Gathers items)
    (hnames : namesOf item = [name]) (hfunctions : ∀ owner, functionsOf owner item = [])
    (hy : x.declares name = true ∧ y = x ∨
      x.declares name = false ∧ ∃ declared, y = x.declare ⟨name, declared, file⟩) :
    y.Gathers (items ++ [item]) := by
  refine ⟨?_, fun owner => ?_⟩
  · rw [namesIn_concat, hnames, eraseDups_concat]
    rcases hy with ⟨hold, rfl⟩ | ⟨hnew, declared, rfl⟩
    · rw [declares_iff, h.names, List.mem_eraseDups] at hold
      rw [if_pos hold, h.names]
    · rw [← Bool.not_eq_true, declares_iff, h.names, List.mem_eraseDups] at hnew
      rw [if_neg hnew, declare, List.map_append, h.names]
      rfl
  · rw [functionsIn_concat, hfunctions, List.append_nil]
    rcases hy with ⟨-, rfl⟩ | ⟨-, declared, rfl⟩
    · exact h.functions owner
    · exact h.functions owner

/-- An implementation of a trait adds no function. -/
theorem Index.Gathers.impl {type : Ty} {trait? : Option (List String)}
    {functions : List Source.Function} {i : Implementation} (h : x.Gathers items)
    (htype : type.name? = some name)
    (hi : (x.implementation name).add name trait? functions = .ok i) :
    (x.putImplementation name i).Gathers (items ++ [.impl type trait? functions]) := by
  refine ⟨?_, fun owner => ?_⟩
  · rw [namesIn_concat, namesOf, List.append_nil]
    · exact h.names
    all_goals nofun
  · rw [implementation_putImplementation, functionsIn_concat]
    cases trait? with
    | some names =>
      cases hi
      rw [functionsOf, List.append_nil]
      · split
        · next howner =>
          subst howner
          obtain ⟨hmarked, hconstructor, hmethods⟩ := h.functions owner
          exact ⟨hmarked, hconstructor, hmethods⟩
        · exact h.functions owner
      all_goals nofun
    | none =>
      rw [functionsOf, htype]
      by_cases howner : owner = name
      · subst howner
        rw [if_pos rfl, if_pos rfl]
        exact (h.functions owner).foldlM_addFunction hi
      · rw [if_neg howner, if_neg fun h => howner (Option.some.inj h).symm, List.append_nil]
        exact h.functions owner

/-- Items are gathered one after the other if each of them is. -/
theorem Index.Gathers.addItems_of {more : List Item} (h : x.Gathers items)
    (hall : ∀ item ∈ more, ∀ {x y : Index} {items : List Item}, x.Gathers items →
      x.addItem file item = .ok y → y.Gathers (items ++ [item]))
    (hy : x.addItems file more = .ok y) : y.Gathers (items ++ more) := by
  induction more generalizing x items with
  | nil =>
    cases hy
    rwa [List.append_nil]
  | cons item more ih =>
    obtain ⟨hitem, hmore⟩ := List.forall_mem_cons.1 hall
    rw [addItems] at hy
    obtain ⟨x₁, hx₁, hy⟩ := Result.bind_eq_ok.1 hy
    rw [← List.singleton_append, ← List.append_assoc]
    exact ih (hitem h hx₁) hmore hy

/-- Adding an item keeps what an index gathers. -/
theorem Index.Gathers.addItem (h : x.Gathers items) (hy : x.addItem file item = .ok y) :
    y.Gathers (items ++ [item]) := by
  induction item using Item.recData generalizing x y items with
  | struct attributes name isGeneric =>
    rw [Index.addItem] at hy
    split at hy
    · next hold =>
      cases hy
      exact h.declaring file rfl (fun _ => rfl) (.inl ⟨hold, rfl⟩)
    · next hnew =>
      obtain ⟨annotations, -, hy⟩ := Result.bind_eq_ok.1 hy
      cases hy
      exact h.declaring file rfl (fun _ => rfl) (.inr ⟨by simpa using hnew, _, rfl⟩)
  | trait name supertraits =>
    rw [Index.addItem] at hy
    split at hy
    · next hold =>
      cases hy
      exact h.declaring file rfl (fun _ => rfl) (.inl ⟨hold, rfl⟩)
    · next hnew =>
      cases hy
      exact h.declaring file rfl (fun _ => rfl) (.inr ⟨by simpa using hnew, _, rfl⟩)
  | impl type trait? functions =>
    rw [Index.addItem] at hy
    cases htype : type.name? with
    | some name =>
      simp only [htype] at hy
      obtain ⟨i, hi, hy⟩ := Result.bind_eq_ok.1 hy
      cases hy
      exact h.impl htype hi
    | none =>
      simp only [htype] at hy
      cases hy
      refine h.skip rfl fun owner => ?_
      cases trait? with
      | some names => rfl
      | none => rw [functionsOf, htype, if_neg (Option.some_ne_none owner).symm]
  | module inner ih =>
    rw [Index.addItem] at hy
    obtain ⟨hnames, hfunctions⟩ := h.addItems_of ih hy
    refine ⟨?_, fun owner => ?_⟩
    · rw [hnames, namesIn_append, namesIn_concat, namesOf]
    · rw [functionsIn_concat, functionsOf, ← functionsIn_append]
      exact hfunctions owner
  | enum | other =>
    cases hy
    exact h.skip rfl fun _ => rfl

/-- Adding items keeps what an index gathers. -/
theorem Index.Gathers.addItems {more : List Item} (h : x.Gathers items)
    (hy : x.addItems file more = .ok y) : y.Gathers (items ++ more) :=
  h.addItems_of (fun _ _ => Index.Gathers.addItem) hy

end

/-! ## The types of a project -/

/-- The items that a file declares. -/
def ReadsAs (t : Disk.Tree) (file : Disk.Path) (items : List Item) : Prop :=
  ∃ text, t.read file = .ok text ∧ readFile text = .ok items

/-- What becomes of the functions in the implementations of a type. The methods are some of those
that are not the constructor, each once and in their order, and all of them just if no more than one
function was taken as constructor. -/
structure HasFunctions (fs : List Source.Function) (c : ClassDescriptor) : Prop where
  constructor : ∀ f, Implementation.builder? c.name fs = some f →
    Implementation.HasParameters c.name f c.constructor
  noConstructor : Implementation.builder? c.name fs = none → c.constructor = []
  methods : List.Forall₂ (Implementation.IsMethod c.name) (Implementation.methodsOf c.name fs)
    c.methods
  distinct : (Implementation.methodsOf c.name fs).Sublist (Implementation.others c.name fs)
  complete : List.Forall₂ (Implementation.IsMethod c.name) (Implementation.others c.name fs)
    c.methods ↔ Implementation.taken c.name fs ≤ 1

section
variable {m : Machine} {x y : Index} {items : List Item} {root : Disk.Path}
  {files dirs exclude : List Disk.Path} {cs : List ClassDescriptor}

/-- An empty index gathers nothing. -/
theorem Index.gathers_nil : Index.Gathers {} [] :=
  ⟨rfl, fun _ => ⟨rfl, .none, .nil⟩⟩

/-- What a text adds to an index are the items that are read in it. -/
theorem of_indexText {file : Disk.Path} {text : String} (h : indexText file text x = .ok y) :
    ∃ more, readFile text = .ok more ∧ x.addItems file more = .ok y := by
  rw [indexText] at h
  cases hread : readFile text with
  | error flaw =>
    rw [hread] at h
    cases h
  | ok more =>
    rw [hread, Result.ok_bind] at h
    cases hadd : x.addItems file more with
    | error flaw =>
      rw [hadd] at h
      cases h
    | ok x' =>
      rw [hadd] at h
      cases h
      exact ⟨more, rfl, hadd⟩

/-- The first file is read and added, and then the others. -/
theorem run_indexFiles_cons (m : Machine) (x : Index) (file : Disk.Path) (files : List Disk.Path) :
    m.run (indexFiles x (file :: files)) =
      match m.tree.read file with
      | .error _ => (.error (.io file), m)
      | .ok text =>
        match indexText file text x with
        | .error e => (.error e, m)
        | .ok x => m.run (indexFiles x files) := by
  have hread : m.run (Job.read file) = (m.tree.read file, m) := by
    simp only [Job.read, Job.request, Machine.run, Machine.answer]
  -- `rw [indexFiles]` does not come to an end here, but the step holds by definition.
  have hindex : indexFiles x (file :: files) = Job.read file >>= fun
      | .error _ => return .error (.io file)
      | .ok text =>
        match indexText file text x with
        | .error e => return .error e
        | .ok x => indexFiles x files := rfl
  rw [hindex, run_bind, hread]
  cases m.tree.read file with
  | error fault => rfl
  | ok text =>
    simp only []
    split <;> rfl

/-- Files are gathered one after the other. -/
theorem Index.Gathers.run_indexFiles (h : x.Gathers items)
    (hrun : (m.run (indexFiles x files)).1 = .ok y) :
    ∃ sources, List.Forall₂ (ReadsAs m.tree) files sources ∧
      y.Gathers (items ++ sources.flatten) := by
  induction files generalizing x items with
  | nil =>
    obtain rfl : x = y := Except.ok.inj hrun
    refine ⟨[], .nil, ?_⟩
    rwa [List.flatten_nil, List.append_nil]
  | cons file files ih =>
    rw [run_indexFiles_cons] at hrun
    split at hrun
    · cases hrun
    · next text htext =>
      split at hrun
      · cases hrun
      · next x' hindex =>
        obtain ⟨more, hmore, hadd⟩ := of_indexText hindex
        obtain ⟨sources, hsources, hy⟩ := ih (h.addItems hadd) hrun
        refine ⟨more :: sources, .cons ⟨text, htext, hmore⟩ hsources, ?_⟩
        rwa [List.flatten_cons, ← List.append_assoc]

/-- A descriptor has the name of its declaration. -/
theorem Index.describe_name (x : Index) (d : Declaration) : (x.describe d).name = d.name := by
  rw [describe]
  split <;> rfl

/-- A declared type has what its functions add up to. -/
theorem Index.Gathers.describe (h : x.Gathers items) {d : Declaration}
    (hkind : (x.describe d).kind ≠ .interface) :
    HasFunctions (functionsIn (x.describe d).name items) (x.describe d) := by
  obtain ⟨hconstructor, hmethods⟩ : (x.describe d).constructor =
      (x.implementation d.name).constructor?.getD [] ∧
      (x.describe d).methods = (x.implementation d.name).methods := by
    rw [Index.describe] at hkind ⊢
    split
    · next htrait =>
      rw [htrait] at hkind
      exact absurd rfl hkind
    · exact ⟨rfl, rfl⟩
  obtain ⟨-, hbuilder, hlist⟩ := h.functions d.name
  generalize (x.implementation d.name).constructor? = params? at hbuilder hconstructor
  rw [← hmethods] at hlist
  rw [describe_name]
  refine ⟨?_, ?_, ?_, ?_, ?_⟩
  all_goals rw [describe_name]
  · intro f hf
    rw [hf] at hbuilder
    cases hbuilder with
    | some hparams => rwa [hconstructor]
  · intro hnone
    rw [hnone] at hbuilder
    cases hbuilder
    exact hconstructor
  · exact hlist
  · exact Implementation.methodsOf_sublist_others _ _
  · rw [← Implementation.methodsOf_eq_others_iff]
    constructor
    · intro hothers
      refine (Implementation.methodsOf_sublist_others _ _).eq_of_length ?_
      rw [hlist.length_eq, hothers.length_eq]
    · intro heq
      rwa [← heq]

/-- The types and traits of a project are those that its source files declare, in the order in which
they are first declared. Each type has the last marked function that builds it as constructor, or
else the last such function called `new`, or else none. All of its other functions are methods, in
their order, just if no more than one function was taken as constructor while they were read. -/
theorem run_classes_constructor (h : (m.run (classes root dirs exclude)).1 = .ok cs) :
    ∃ paths sources, (m.run (sourcePaths root exclude dirs)).1 = .ok paths ∧
      List.Forall₂ (ReadsAs m.tree) (paths.mergeSort pathLe) sources ∧
      cs.map (·.name) = (namesIn sources.flatten).eraseDups ∧
      ∀ c ∈ cs, c.kind ≠ .interface → HasFunctions (functionsIn c.name sources.flatten) c := by
  rw [classes, run_bind] at h
  rcases run_sourcePaths m root dirs exclude with ⟨_, -, -, hpaths⟩ | ⟨-, hpaths⟩
  · rw [hpaths] at h
    cases h
  · rw [hpaths] at h ⊢
    simp only [run_bind] at h
    generalize dirs.flatMap (fun dir => pathsIn m.tree exclude (root.join dir)) = paths at h ⊢
    refine ⟨paths, ?_⟩
    cases hindex : (m.run (indexFiles {} (paths.mergeSort pathLe))).1 with
    | error e =>
      rw [hindex] at h
      cases h
    | ok x =>
      rw [hindex] at h
      cases h
      obtain ⟨sources, hsources, hx⟩ := Index.gathers_nil.run_indexFiles hindex
      rw [List.nil_append] at hx
      refine ⟨sources, rfl, hsources, ?_, ?_⟩
      · rw [Index.descriptors, List.map_map, ← hx.names]
        exact List.map_congr_left fun d _ => Index.describe_name x d
      · intro c hc hkind
        obtain ⟨d, -, rfl⟩ := List.mem_map.1 hc
        exact hx.describe hkind

end

/-- The source of a type whose marked constructor stands after a function called `new`. -/
def mailerSource : String :=
  "pub struct Mailer;
  impl Mailer {
      pub fn new() -> Self { Mailer }
      #[constructor]
      pub fn connect(dsn: String) -> Self { Mailer }
  }"

/-- A project with one source file. -/
def mailerProject : Machine where
  tree := {
    work := []
    nodes := [(["proj"], .directory), (["proj", "src"], .directory),
      (["proj", "src", "lib.rs"], .file mailerSource)] }

/-- The names in the types that a project was found to declare: of the parameters of each
constructor, and of the methods. -/
def functionNames (classes : Except CompileError (List ClassDescriptor)) :
    Option (List (List String × List String)) :=
  classes.toOption.map fun cs =>
    cs.map fun c => (c.constructor.map (·.name), c.methods.map (·.name))

/-- The mailer has the marked constructor and no method. -/
theorem functionNames_mailerProject :
    functionNames (mailerProject.run (classes "proj" ["src"] [])).1 = some [(["dsn"], [])] := by
  have hdirs : ∀ dir ∈ ["src"],
      mailerProject.tree.find? (Disk.Path.join "proj" dir) = some .directory := by decide
  have hpaths : ["src"].flatMap (fun dir =>
      pathsIn mailerProject.tree [] (Disk.Path.join "proj" dir)) = ["proj/src/lib.rs"] := by decide
  rw [run_classes_of_find? hdirs, hpaths, List.mergeSort_of_pairwise (by decide)]
  decide +kernel

/-- The mailer is found with the functions that its source declares. -/
theorem run_classes_constructor_mailerProject :
    ∃ cs, (mailerProject.run (classes "proj" ["src"] [])).1 = .ok cs ∧ cs.length = 1 ∧
      ∃ sources : List (List Item), cs.map (·.name) = (namesIn sources.flatten).eraseDups ∧
        ∀ c ∈ cs, c.kind ≠ .interface → HasFunctions (functionsIn c.name sources.flatten) c := by
  obtain ⟨cs, hcs, hlist⟩ := Option.map_eq_some_iff.1 functionNames_mailerProject
  have hrun := Result.toOption_eq_some.1 hcs
  obtain ⟨-, sources, -, -, hnames, hfunctions⟩ := run_classes_constructor hrun
  exact ⟨cs, hrun, by simpa using congrArg List.length hlist, sources, hnames, hfunctions⟩

/-- A function called `new` is no constructor where another one is marked, but it is no method
either if it stands before that one. -/
theorem exists_others_not_method :
    (∃ items, ReadsAs mailerProject.tree "proj/src/lib.rs" items ∧
      (Implementation.others "Mailer" (functionsIn "Mailer" items)).map (·.signature.name) =
        ["new"]) ∧
    functionNames (mailerProject.run (classes "proj" ["src"] [])).1 = some [(["dsn"], [])] := by
  have hothers : ((readFile mailerSource).toOption.map fun items =>
      (Implementation.others "Mailer" (functionsIn "Mailer" items)).map (·.signature.name)) =
        some ["new"] := by decide +kernel
  obtain ⟨items, hitems, hnew⟩ := Option.map_eq_some_iff.1 hothers
  have hread : mailerProject.tree.read "proj/src/lib.rs" = .ok mailerSource := rfl
  exact ⟨⟨items, ⟨_, hread, Result.toOption_eq_some.1 hitems⟩, hnew⟩, functionNames_mailerProject⟩

end Wiring.Discovery
