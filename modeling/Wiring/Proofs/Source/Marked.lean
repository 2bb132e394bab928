import Wiring.Proofs.Source.Grammar.Item
import Wiring.Proofs.Source.Related
import Wiring.Source.Read

/-!
# Declarations with one more attribute

A declaration that is read on its own is read from a file as well, with an attribute in front of it:
the file then has this declaration alone, and if it is a type with fields, the attribute comes
before those that it has already (`readFile_marked`). The trees of the file allow for more levels of
nesting than those of the declaration, which changes nothing (`Grammar.upTo_within`).
-/

namespace Wiring.Source

/-! ## Attributes in front -/

namespace Reader

section
variable {α : Type} {r : Reader α} {l : Look} {m n : Nat} {s : Reading}

/-- Items that take trees are read with no more steps than there are trees. -/
theorem run_manyWhileGo_eq (hl : l [] = false)
    (hr : ∀ {s a s'}, r.run s = .ok (a, s') → s'.rest.length < s.rest.length)
    (hn : s.rest.length ≤ n) (hm : n ≤ m) :
    (manyWhile.go l r m).run s = (manyWhile.go l r n).run s := by
  induction n generalizing m s with
  | zero =>
    have hrest : s.rest = [] := List.length_eq_zero_iff.1 (Nat.le_zero.1 hn)
    rw [run_manyWhile_of_not m (by rw [hrest, hl]), run_manyWhile_of_not 0 (by rw [hrest, hl])]
  | succ n ih =>
    obtain ⟨m, rfl⟩ := Nat.exists_eq_add_of_lt hm
    rw [manyWhile.go, manyWhile.go, run_bind_of_ok (run_sees l s), run_bind_of_ok (run_sees l s)]
    split
    · cases hrun : r.run s with
      | error e => rw [run_bind_of_error hrun, run_bind_of_error hrun]
      | ok x =>
        have hlt := hr hrun
        rw [run_bind_of_ok hrun, run_bind_of_ok hrun, StateT.run_bind, StateT.run_bind,
          ih (by omega) (by omega)]
    · rfl

end

end Reader

/-- What may stand behind the path of an attribute in a text: nothing, or arguments in brackets. -/
def argumentTrees (arguments? : Option (Delimiter × List Tree)) : List Tree :=
  (arguments?.map fun x => Tree.group x.1 x.2).toList

/-- The form of an attribute with such arguments. -/
def argumentForm : Option (Delimiter × List Tree) → AttributeForm
  | none => .bare
  | some (_, content) => .list content

/-- The trees of a path that leads to a name through others. -/
def pathTrees (through : List String) (name : String) : List Tree :=
  through.flatMap (fun w => [.leaf (.word w), .leaf (.sign ':' true), .leaf (.sign ':' false)]) ++
    [.leaf (.word name)]

namespace Grammar

open Reader

section
variable {g g' : Grammar} {s s' : Reading} {content rest : List Tree} {c : Char} {isJoint : Bool}
  {inner : Reading} {path : Path} {form : AttributeForm} {a : Attribute} {name : String}
  {through : List String} {arguments? : Option (Delimiter × List Tree)}

/-- An attribute is a sign and a group in brackets. -/
theorem run_singleAttribute_of_ok
    (hs : s.rest = .leaf (.sign c isJoint) :: .group .bracket content :: rest)
    (h : (attributeContent g).run { rest := content } = .ok ((path, form), inner)) :
    (singleAttribute g 1).run s =
      .ok (⟨path, form, [.leaf (.sign c isJoint), .group .bracket inner.written.reverse]⟩,
        s.on rest [.group .bracket inner.written.reverse, .leaf (.sign c isJoint)]
          (inner.hasSurplus || !inner.rest.isEmpty)) := by
  have hpast : (Reading.past { s with written := [] } 1).rest = .group .bracket content :: rest :=
    Reading.rest_past_one hs
  have hcaptured : (captured (do skip 1; group .bracket (attributeContent g))).run s =
      .ok (((path, form), [.leaf (.sign c isJoint), .group .bracket inner.written.reverse]),
        s.on rest [] (inner.hasSurplus || !inner.rest.isEmpty)) := by
    rw [Within.run_captured, run_bind_of_ok (run_skip 1 _), run_group_of_ok hpast h]
    simp [Reading.past, Reading.leave, Reading.on, hs, Except.map, Bool.or_assoc]
  rw [singleAttribute, run_bind_of_ok hcaptured]
  rfl

/-- An attribute takes something. -/
theorem length_of_run_singleAttribute (h : (singleAttribute g 1).run s = .ok (a, s')) :
    s'.rest.length < s.rest.length := by
  obtain ⟨⟨⟨path, form⟩, trees⟩, s₁, hcaptured, h⟩ := run_bind_eq_ok.1 h
  cases h
  rw [Within.run_captured] at hcaptured
  cases hrun : (do skip 1; group .bracket (attributeContent g) : Reader _).run
      { s with written := [] } with
  | error e => rw [hrun] at hcaptured; cases hcaptured
  | ok x =>
    obtain ⟨⟨path', form'⟩, s₂⟩ := x
    rw [hrun] at hcaptured
    cases hcaptured
    rw [run_bind_of_ok (run_skip 1 _)] at hrun
    obtain ⟨content, rest, inner, hrest, -, rfl⟩ := of_run_group_eq_ok hrun
    have hlength := congrArg List.length hrest
    simp only [Reading.past, List.length_drop, List.length_cons] at hlength
    change rest.length < s.rest.length
    omega

/-- An attribute in front of others is read before them. -/
theorem run_attributes_of_ok {as : List Attribute} {s'' : Reading}
    (hs : s.rest = .leaf (.sign '#' isJoint) :: .group .bracket content :: rest)
    (ha : (singleAttribute g 1).run s = .ok (a, s')) (hs' : s'.rest = rest)
    (has : (attributes g).run s' = .ok (as, s'')) :
    (attributes g).run s = .ok (a :: as, s'') := by
  have hlook : Look.sign "#" s.rest = true := (Look.sign_iff rfl).2 ⟨isJoint, _, hs⟩
  have hlength : s.rest.length = rest.length + 1 + 1 := by rw [hs]; rfl
  rw [attributes, manyWhile, run_bind_of_ok (run_remaining _), hs'] at has
  rw [attributes, manyWhile, run_bind_of_ok (run_remaining _), hlength, manyWhile.go,
    run_bind_of_ok (run_sees _ _), if_pos hlook, run_bind_of_ok ha]
  have hmore : (manyWhile.go (.sign "#") (singleAttribute g 1) (rest.length + 1)).run s' =
      .ok (as, s'') :=
    (run_manyWhileGo_eq rfl length_of_run_singleAttribute
      (Nat.le_of_eq (congrArg List.length hs')) (Nat.le_succ rest.length)).trans has
  rw [run_bind_of_ok hmore]
  rfl

/-! ## The path of an attribute -/

/-- A name is read as a part of a path. -/
theorem run_pathWord_of_isName (hname : isName name = true)
    (hs : s.rest = .leaf (.word name) :: rest) :
    modulePath.pathWord.run s = .ok (name, s.on rest [.leaf (.word name)] false) := by
  have hlook : Look.any [.name, .words pathWords] s.rest = true := by
    simp [Look.any, Look.name, hs, hname]
  have hword : s.rest = .leaf (.word name) :: (s.past 1).rest := by
    rw [hs, Reading.rest_past_one hs]
  rw [modulePath.pathWord, run_bind_of_ok (run_sees _ _), if_pos hlook,
    run_anyWord_eq_ok.2 ⟨hword, rfl⟩, Reading.past_eq_on, hs]
  rfl

/-- Two colons are read as one sign. -/
theorem run_sign_colons
    (hs : s.rest = .leaf (.sign ':' true) :: .leaf (.sign ':' isJoint) :: rest) :
    (sign "::").run s =
      .ok ((), s.on rest [.leaf (.sign ':' isJoint), .leaf (.sign ':' true)] false) := by
  have hlook : Look.sign "::" s.rest = true := by rw [hs]; rfl
  have hlength : "::".length = 2 := rfl
  rw [sign, run_expect, if_pos hlook, hlength, Reading.past_eq_on, hs]
  rfl

/-- A path has three trees for each part that it leads through, and one for its name. -/
theorem length_pathTrees (through : List String) (name : String) :
    (pathTrees through name).length = 3 * through.length + 1 := by
  simp [pathTrees, List.length_flatMap, List.map_const', Nat.mul_comm]

/-- After the first word of a path the others are read up to its end. -/
theorem exists_run_pathWord (hthrough : ∀ w ∈ through, isName w = true)
    (hname : isName name = true) (hs : s.rest = pathTrees through name ++ rest)
    (hrest : Look.sign "::" rest = false) :
    ∃ first more s₁, through ++ [name] = first :: more ∧
      modulePath.pathWord.run s = .ok (first, s₁) ∧ s₁.rest.length + 1 = s.rest.length ∧
      ∀ n, through.length ≤ n →
        (manyWhile.go (.sign "::") (do sign "::"; modulePath.pathWord) n).run s₁ =
          .ok (more, s.on rest (pathTrees through name).reverse false) := by
  induction through generalizing s with
  | nil =>
    refine ⟨name, [], _, rfl, run_pathWord_of_isName hname hs, by rw [hs]; rfl, fun n _ => ?_⟩
    exact run_manyWhile_of_not n hrest
  | cons w ws ih =>
    have hs' : s.rest = .leaf (.word w) :: .leaf (.sign ':' true) :: .leaf (.sign ':' false) ::
        (pathTrees ws name ++ rest) := by
      rw [hs, pathTrees, pathTrees]; simp
    have hfirst := run_pathWord_of_isName (hthrough w (.head ws)) hs'
    set s₁ := s.on (.leaf (.sign ':' true) :: .leaf (.sign ':' false) ::
      (pathTrees ws name ++ rest)) [.leaf (.word w)] false with hs₁
    have hcolons := run_sign_colons (s := s₁) rfl
    obtain ⟨first, more, s₃, hwords, hrun, -, hmore⟩ :=
      ih (s := s₁.on _ _ false) (fun w' hw' => hthrough w' (.tail w hw')) rfl
    refine ⟨w, first :: more, s₁, by rw [List.cons_append, hwords], hfirst, by rw [hs']; rfl,
      fun n hn => ?_⟩
    obtain ⟨n, rfl⟩ := Nat.exists_eq_add_of_lt hn
    have hlook : Look.sign "::" s₁.rest = true := rfl
    rw [manyWhile.go, run_bind_of_ok (run_sees _ _), if_pos hlook,
      run_bind_of_ok ((run_bind_of_ok hcolons).trans hrun), run_bind_of_ok (hmore _ (by omega))]
    rw [hs₁, Reading.on_on, Reading.on_on]
    simp [pathTrees]
    rfl

/-- A path is read from its trees. -/
theorem run_modulePath_pathTrees (hthrough : ∀ w ∈ through, isName w = true)
    (hname : isName name = true) (hs : s.rest = pathTrees through name ++ rest)
    (hrest : Look.sign "::" rest = false) :
    modulePath.run s = .ok ({ root := .plain, names := through ++ [name] },
      s.on rest (pathTrees through name).reverse false) := by
  obtain ⟨first, more, s₁, hwords, hrun, hlength, hmore⟩ :=
    exists_run_pathWord hthrough hname hs hrest
  have hplain : Look.sign "::" s.rest = false := by
    cases through <;> rw [hs] <;> rfl
  have hfuel : through.length ≤ s₁.rest.length := by
    rw [hs, List.length_append, length_pathTrees] at hlength
    omega
  have haccept : (acceptSign "::").run s = .ok (false, s) := by
    rw [acceptSign, run_accept, hplain]
    rfl
  rw [modulePath, run_bind_of_ok haccept, run_bind_of_ok hrun, manyWhile, bind_assoc,
    run_bind_of_ok (run_remaining _), run_bind_of_ok (hmore _ hfuel), hwords]
  rfl

/-- The content of an attribute in a text is read to its end. -/
theorem run_attributeContent (hthrough : ∀ w ∈ through, isName w = true)
    (hname : isName name = true) (arguments? : Option (Delimiter × List Tree)) :
    ∃ inner,
      (attributeContent g).run { rest := pathTrees through name ++ argumentTrees arguments? } =
        .ok (({ root := .plain, names := through ++ [name] }, argumentForm arguments?), inner) ∧
      inner.rest = [] ∧ inner.hasSurplus = false := by
  set s : Reading := { rest := pathTrees through name ++ argumentTrees arguments? } with hs
  have hplain : Look.word "unsafe" s.rest = false := by
    have hne (w : String) (hw : isName w = true) : (w == "unsafe") = false := by
      rw [beq_eq_false_iff_ne]
      rintro rfl
      exact absurd hw (by decide)
    cases through with
    | nil => exact hne name hname
    | cons w ws => exact hne w (hthrough w (.head ws))
  have haccept : (acceptWord "unsafe").run s = .ok (false, s) := by
    rw [acceptWord, run_accept, hplain]
    rfl
  have hpath := run_modulePath_pathTrees (s := s) hthrough hname rfl (by cases arguments? <;> rfl)
  rw [attributeContent, run_bind_of_ok haccept]
  simp only [Bool.false_eq_true, if_false]
  rw [run_bind_of_ok hpath]
  cases arguments? with
  | none | some x => exact ⟨_, rfl, rfl, rfl⟩

/-- An attribute in a text is read as one that is known by the name its path leads to. -/
theorem exists_run_singleAttribute (hthrough : ∀ w ∈ through, isName w = true)
    (hname : isName name = true) (hs : s.rest = .leaf (.sign c isJoint) ::
      .group .bracket (pathTrees through name ++ argumentTrees arguments?) :: rest) :
    ∃ a s₁, (singleAttribute g 1).run s = .ok (a, s₁) ∧ a.name = name ∧
      a.form = argumentForm arguments? ∧ s₁.rest = rest ∧ s₁.hasSurplus = s.hasSurplus := by
  obtain ⟨inner, hinner, hrest, hsurplus⟩ := run_attributeContent hthrough hname arguments?
  refine ⟨_, _, run_singleAttribute_of_ok hs hinner, ?_, rfl, rfl, ?_⟩
  · simp [Attribute.name, Path.last]
  · simp [Reading.on, hrest, hsurplus]

end

end Grammar

/-! ## Declarations -/

namespace Item

/-- A declaration with other attributes, if it is one that keeps them. -/
def withAttributes (as : List Attribute) : Item → Item
  | struct _ name isGeneric => struct as name isGeneric
  | item => item

/-- A declaration with one more attribute in front, if it is one that keeps them. -/
def marked (a : Attribute) : Item → Item
  | struct as name isGeneric => struct (a :: as) name isGeneric
  | item => item

/-- An item that has some attributes has one more if it is marked. -/
theorem withAttributes_cons {a : Attribute} {as : List Attribute} {item : Item}
    (h : item = item.withAttributes as) : item.withAttributes (a :: as) = item.marked a := by
  cases item with
  | struct as' name isGeneric =>
    cases h
    rfl
  | _ => rfl

end Item

namespace Grammar

open Reader

section
variable {g g' : Grammar} {as bs : List Attribute} {b : Bool}

/-- A trait is read the same with more attributes, and has them. -/
theorem traitDeclaration_related :
    Related (fun item item' => item' = item.withAttributes bs)
      (traitDeclaration g) (traitDeclaration g) := by
  unfold traitDeclaration
  repeat' first
    | refine .after fun _ => ?_
    | refine .ite ?_ ?_
    | exact .pure rfl

/-- A module is read the same with more attributes, and has them. -/
theorem moduleItem_related :
    Related (fun item item' => item' = item.withAttributes bs) (moduleItem g) (moduleItem g) := by
  unfold moduleItem
  repeat' first
    | refine .after fun _ => ?_
    | refine .ite ?_ ?_
    | exact .pure rfl

/-- An implementation is read the same with more attributes, and has them. -/
theorem implDeclaration_related :
    Related (fun x y => y = Prod.map (·.withAttributes bs) id x)
      (implDeclaration g b) (implDeclaration g b) := by
  unfold implDeclaration
  dsimp only
  repeat' first
    | refine .after fun _ => ?_
    | refine .ite ?_ ?_
    | split
    | exact .pure rfl

/-- The attributes of a declaration are kept as they are given. -/
theorem itemRest_related :
    Related (fun x y => y = Prod.map (·.withAttributes bs) id x)
      (itemRest g as b) (itemRest g bs b) := by
  unfold itemRest
  dsimp only
  -- one kind of declaration after the other
  repeat' first
    | refine .after fun _ => .ite ?_ ?_
    | with_reducible exact .pair traitDeclaration_related
    | with_reducible exact .pair moduleItem_related
    | with_reducible exact implDeclaration_related
    | with_reducible exact .malformed
    | refine .ite ?_ ?_
    | refine .after fun _ => ?_
    | exact .pure rfl

end

/-- Reads what follows the attributes of a declaration, and says whether it is written as it
stands. -/
def afterAttributes (g : Grammar) (outer : List Attribute) : Reader (Item × Bool) := do
  let isVisible ← visibility
  itemRest g outer isVisible

/-- An item is read after its attributes. -/
theorem itemStep_eq (g : Grammar) :
    itemStep g = verbatimIf (attributes g >>= afterAttributes g) := rfl

section
variable {g g' : Grammar} {s s' t : Reading} {x : Item × Bool} {item : Item} {a : Attribute}
  {as : List Attribute} {isJoint : Bool} {name : String} {through : List String}
  {arguments? : Option (Delimiter × List Tree)}

/-- What a larger grammar reads after attributes is what a smaller one does. -/
theorem afterAttributes_within [g.Within g'] :
    (afterAttributes g as).Within (afterAttributes g' as) := by
  unfold afterAttributes
  infer_instance

/-- With one more attribute the same item is read, and is marked. -/
theorem run_afterAttributes_cons (h : (afterAttributes g as).run s = .ok (x, s')) :
    (afterAttributes g (a :: as)).run s = .ok ((x.1.marked a, x.2), s') := by
  have hrelated (bs : List Attribute) :
      (afterAttributes g bs).run s = .ok (x.map (·.withAttributes bs) id, s') := by
    obtain ⟨_, rfl, hrun⟩ := Related.after (fun _ => itemRest_related) s x s' h
    exact hrun
  have hsame := Except.ok.inj (h.symm.trans (hrelated as))
  rw [hrelated, Prod.map, Item.withAttributes_cons (congrArg (·.1.1) hsame), id]

/-- With an attribute in front, the same is read as without it, and a type with fields has the
attribute. -/
theorem exists_run_marked (g' : Grammar) [g.Within g']
    (hrun : (attributes g >>= afterAttributes g).run s = .ok (x, s'))
    (hsurplus : s'.hasSurplus = false) (hthrough : ∀ w ∈ through, isName w = true)
    (hname : isName name = true) (ht : t.rest = .leaf (.sign '#' isJoint) ::
      .group .bracket (pathTrees through name ++ argumentTrees arguments?) :: s.rest)
    (htsurplus : t.hasSurplus = false) :
    ∃ a t', (attributes g' >>= afterAttributes g').run t = .ok ((x.1.marked a, x.2), t') ∧
      a.name = name ∧ a.form = argumentForm arguments? ∧ t'.rest = s'.rest ∧
      t'.hasSurplus = false := by
  obtain ⟨a, t₁, hattribute, haname, hform, hrest, hsurplus₁⟩ :=
    exists_run_singleAttribute (g := g') hthrough hname ht
  obtain ⟨as, s₁, has, hrun⟩ := run_bind_eq_ok.1 hrun
  have hmany : (attributes g).Within (attributes g') := inferInstance
  have hafter : (afterAttributes g (a :: as)).Within (afterAttributes g' (a :: as)) :=
    afterAttributes_within
  obtain ⟨rest₁, out₁, surplus₁, rfl, hsame₁⟩ := hmany.run has
  obtain ⟨rest₂, out₂, surplus₂, rfl, hsame₂⟩ := hafter.run (run_afterAttributes_cons hrun)
  refine ⟨a, (t₁.on rest₁ out₁ surplus₁).on rest₂ out₂ surplus₂, ?_, haname, hform, rfl, ?_⟩
  · have hthere := hsame₂ (t₁.on rest₁ out₁ surplus₁) rfl
    rw [run_bind_of_ok (run_attributes_of_ok ht hattribute hrest (hsame₁ t₁ hrest)), hthere]
  · simp only [Reading.on, Bool.or_eq_false_iff] at hsurplus ⊢
    exact ⟨⟨hsurplus₁.trans htsurplus, hsurplus.1.2⟩, hsurplus.2⟩

/-- A declaration with an attribute in front is read like the declaration. -/
theorem exists_run_itemStep (g' : Grammar) [g.Within g']
    (hrun : (itemStep g).run s = .ok (item, s'))
    (hsurplus : s'.hasSurplus = false) (hthrough : ∀ w ∈ through, isName w = true)
    (hname : isName name = true) (ht : t.rest = .leaf (.sign '#' isJoint) ::
      .group .bracket (pathTrees through name ++ argumentTrees arguments?) :: s.rest)
    (htsurplus : t.hasSurplus = false) :
    ∃ a t', (itemStep g').run t = .ok (item.marked a, t') ∧ a.name = name ∧
      a.form = argumentForm arguments? ∧ t'.rest = s'.rest ∧ t'.hasSurplus = false := by
  rw [itemStep_eq, Within.run_verbatimIf] at hrun
  cases hparts : (attributes g >>= afterAttributes g).run s with
  | error e => rw [hparts] at hrun; cases hrun
  | ok y =>
    obtain ⟨⟨item', isVerbatim⟩, s₁⟩ := y
    rw [hparts] at hrun
    cases hrun
    have hsurplus₁ : s₁.hasSurplus = false := by
      cases isVerbatim <;> exact hsurplus
    obtain ⟨a, t', hrun', haname, hform, hrest, htsurplus'⟩ :=
      exists_run_marked g' hparts hsurplus₁ hthrough hname ht htsurplus
    refine ⟨a, _, by rw [itemStep_eq, Within.run_verbatimIf, hrun']; rfl, haname, hform, ?_, ?_⟩
    · cases isVerbatim <;> exact hrest
    · cases isVerbatim <;> exact htsurplus'

/-- A file may have one declaration alone. -/
theorem run_file_of_ok {tree : Tree} {trees : List Tree}
    (hinner : Look.sign "!" trees = false)
    (hrun : g.item.run { rest := tree :: trees } = .ok (item, s')) (hrest : s'.rest = []) :
    (file g).run { rest := tree :: trees } = .ok ([item], s') := by
  have hnoInner : (innerAttributes g).run { rest := tree :: trees } =
      .ok ([], { rest := tree :: trees }) := by
    rw [innerAttributes, manyWhile, run_bind_of_ok (run_remaining _)]
    refine run_manyWhile_of_not _ ?_
    rw [Look.both, Look.after, List.drop_succ_cons, List.drop_zero, hinner, Bool.and_false]
  have hlook : Look.no .nothing (tree :: trees) = true := rfl
  have hnone : (manyWhile.go (.no .nothing) g.item trees.length).run s' = .ok ([], s') :=
    run_manyWhile_of_not _ (by rw [hrest]; rfl)
  rw [file, run_bind_of_ok hnoInner, manyWhile, run_bind_of_ok (run_remaining _), List.length_cons,
    manyWhile.go, run_bind_of_ok (run_sees _ _), if_pos hlook, run_bind_of_ok hrun,
    run_bind_of_ok hnone]
  rfl

end

end Grammar

section

open Reader

variable {text name : String} {through : List String} {isJoint : Bool}
  {arguments? : Option (Delimiter × List Tree)} {item out : List Tree} {declared : Item}

/-- A file that is a declaration with an attribute in front has this declaration alone, and the
attribute comes before those that the declaration has already. -/
theorem readFile_marked (hitem : readItem item = .ok (declared, out))
    (hthrough : ∀ w ∈ through, isName w = true) (hname : isName name = true)
    (htext : Lexer.fileTrees? text = some (.leaf (.sign '#' isJoint) ::
      .group .bracket (pathTrees through name ++ argumentTrees arguments?) :: item)) :
    ∃ a, a.name = name ∧ a.form = argumentForm arguments? ∧
      readFile text = .ok [declared.marked a] := by
  set trees : List Tree := .leaf (.sign '#' isJoint) ::
    .group .bracket (pathTrees through name ++ argumentTrees arguments?) :: item with htrees
  obtain ⟨s', hrun, hrest, hsurplus, -⟩ := Reader.wholeWritten_eq_ok.1 hitem
  have hsize : 4 * Tree.sizeOfAll item + 7 ≤ 4 * Tree.sizeOfAll trees + 7 := by
    rw [htrees, Tree.sizeOfAll, Tree.sizeOfAll]
    omega
  have hwithin := Grammar.upTo_within hsize
  obtain ⟨a, t', hrun', haname, hform, hrest', hsurplus'⟩ :=
    Grammar.exists_run_itemStep (Grammar.upTo (4 * Tree.sizeOfAll trees + 7))
      (t := { rest := trees }) hrun hsurplus hthrough hname rfl rfl
  refine ⟨a, haname, hform, ?_⟩
  have hfile := Grammar.run_file_of_ok (g := Grammar.ofTrees trees) rfl hrun' (hrest'.trans hrest)
  rw [readFile, htext]
  exact Reader.whole_eq_ok.2 ⟨t', hfile, hrest'.trans hrest, hsurplus'⟩

end

end Wiring.Source
