import Mathlib.Algebra.Ring.Nat
import Wiring.Discovery.Project
import Wiring.Marker.Route
import Wiring.Proofs.Decimal.Reader
import Wiring.Proofs.Source.Marked

/-!
# Marked types are discovered

A mark for types checks its arguments and what it is put on, and discovery reads both again. The
marks accept types with fields and types with alternatives, while only the former are declared in an
index. So in a file that is an item with a mark in front, a type with fields is discovered with the
annotation that the mark stands for, provided that its other attributes are read, and a type with
alternatives is not discovered (`Marker.indexText_of_mark`).

What a mark checks and drops is kept here to be compared: the number that a priority gives
(`Marker.priority`) is the one that discovery finds (`Marker.priority_related`).
-/

namespace Wiring.Marker

open Source Source.Reader Discovery

/-! ## Priorities -/

/-- The number that the options of a middleware mark give. They are checked as the mark checks them,
and the last of them counts. -/
def priority (g : Grammar) : Reader Int :=
  options (fun _ path =>
    if path.isWord "priority" then do
      sign "="
      match integer? (← g.expr true) with
      | some n => if !Decimal.isInt32 n then complain "priority out of range" else return n
      | none => complain "priority must be an integer"
    else complain "unknown middleware option, expected \x60priority\x60") 0

/-- A whole number that the mark takes is the literal that discovery takes. No number is as large as
the least one with 64 bits, so that signs can be changed freely. -/
theorem literal?_of_integer? {e : Expr} {n : Int} (h : integer? e = some n) :
    n.natAbs < 2 ^ 63 ∧ e.literal? = some (.int (Int64.ofInt n)) := by
  fun_induction integer? e generalizing n with
  | case1 m hm =>
    cases h
    have hlt := (Decimal.fits_iff.1 hm).2
    refine ⟨by omega, ?_⟩
    rw [Expr.literal?, if_pos hm, Int64.ofInt_eq_ofNat]
  | case2 => cases h
  | case3 e ih =>
    obtain ⟨m, hm, rfl⟩ := Option.map_eq_some_iff.1 h
    obtain ⟨hbound, hliteral⟩ := ih hm
    refine ⟨by omega, ?_⟩
    rw [Expr.literal?, hliteral, Int64.ofInt_neg]
  | case4 e ih => exact ih h
  | case5 => cases h

section
variable {g : Grammar}

/-- Where the mark accepts the options, they give a number of 32 bits. -/
theorem middlewareOptions_related :
    Related (fun _ n => ∃ p : Int32, n = p.toInt) (Marker.middlewareOptions g) (priority g) := by
  refine .options (fun _ _ path _ => ?_) ⟨0, rfl⟩
  refine .ite (.after fun _ => .after fun e => ?_) .complain
  cases integer? e with
  | none => exact .complain
  | some n =>
    dsimp only
    split
    · exact .complain
    · next hn =>
      rw [Bool.not_eq_true', Bool.not_eq_false] at hn
      exact .pure ⟨Int32.ofInt n, (Decimal.toInt_ofInt_of_isInt32 hn).symm⟩

/-- Discovery gives the number that the options give. It takes more than the mark does, such as a
number with a call behind it. -/
theorem priority_related :
    Related (fun n p => p = Int32.ofInt n) (priority g) (Discovery.middlewareOptions g) := by
  refine .options (fun _ _ path _ => ?_) rfl
  refine .ite (.after fun _ => .after fun e => ?_) .complain
  cases hinteger : integer? e with
  | none => exact .complain
  | some n =>
    obtain ⟨hbound, hliteral⟩ := literal?_of_integer? hinteger
    have hsame : (Int64.ofInt n).toInt = n :=
      Int64.toInt_ofInt_of_le (by omega) (by omega)
    dsimp only
    split
    · exact .complain
    · next hn =>
      rw [Bool.not_eq_true', Bool.not_eq_false] at hn
      have hpriority : priorityOf e = pure (Int32.ofInt n) := by
        rw [priorityOf, hliteral]
        simp only [hsame, hn, if_true]
      rw [hpriority]
      exact .pure rfl

end

/-! ## Services -/

section
variable {σ : Type} {step : σ → Path → Reader σ} {s s' : Reading} {x y : σ} {k : Nat}

/-- After an option the text ends, perhaps behind a comma, or more options follow. -/
theorem of_run_optionsGo (h : (options.go step (k + 1) x).run s = .ok (y, s')) :
    ∃ path s₁ x₁ s₂, optionPath.run s = .ok (path, s₁) ∧ (step x path).run s₁ = .ok (x₁, s₂) ∧
      (y = x₁ ∧ (s₂.rest = [] ∨ ∃ isJoint, s₂.rest = [.leaf (.sign ',' isJoint)]) ∨
        (options.go step k x₁).run (s₂.past 1) = .ok (y, s')) := by
  obtain ⟨path, s₁, hpath, h⟩ := run_bind_eq_ok.1 h
  obtain ⟨x₁, s₂, hstep, h⟩ := run_bind_eq_ok.1 h
  refine ⟨path, s₁, x₁, s₂, hpath, hstep, ?_⟩
  rw [run_bind_of_ok (run_sees _ _)] at h
  split at h
  · next hend =>
    cases h
    exact .inl ⟨rfl, .inl (Look.nothing_iff.1 hend)⟩
  · obtain ⟨_, s₃, hcomma, h⟩ := run_bind_eq_ok.1 h
    obtain ⟨⟨isJoint, hrest⟩, rfl⟩ := (run_sign_eq_ok rfl).1 hcomma
    rw [run_bind_of_ok (run_sees _ _)] at h
    split at h
    · next hend =>
      cases h
      rw [Look.nothing_iff.1 hend] at hrest
      exact .inl ⟨rfl, .inr ⟨isJoint, hrest⟩⟩
    · exact .inr h

end

section
variable {s s' : Reading} {path : Path} {w : String} {ts : List Tree} {k m n : Nat}

/-- The path of an option that is one word takes this word alone. -/
theorem of_run_optionPath (h : optionPath.run s = .ok (path, s')) (hpath : path.isWord w = true) :
    s.rest = .leaf (.word w) :: s'.rest := by
  obtain ⟨isRooted, s₁, haccept, h⟩ := run_bind_eq_ok.1 h
  obtain ⟨first, s₂, hfirst, h⟩ := run_bind_eq_ok.1 h
  obtain ⟨more, s₃, hmore, h⟩ := run_bind_eq_ok.1 h
  cases h
  simp only [Path.isWord, Bool.and_eq_true, beq_iff_eq, List.cons.injEq] at hpath
  obtain ⟨⟨hroot, rfl, rfl⟩, -⟩ := hpath
  rw [acceptSign, run_accept] at haccept
  cases hlook : Look.sign "::" s.rest <;> rw [hlook] at haccept <;> cases haccept
  · rw [of_run_manyWhile_eq_nil hmore]
    exact (run_anyWord_eq_ok.1 hfirst).1
  · cases hroot

/-- Counts an option of a service. -/
def countOption (n : Nat) (path : Path) : Reader Nat :=
  if path.isWord "singleton" || path.isWord "transient" then pure (n + 1)
  else complain "expected \x60singleton\x60 or \x60transient\x60"

/-- An option is counted if it is one of the two. -/
theorem of_run_countOption (h : (countOption m path).run s = .ok (n, s')) :
    n = m + 1 ∧ s' = s ∧ ∃ w, (w = "singleton" ∨ w = "transient") ∧ path.isWord w = true := by
  rw [countOption] at h
  split at h
  · next hword =>
    cases h
    exact ⟨rfl, rfl, (Bool.or_eq_true_iff.1 hword).elim (fun h => ⟨_, .inl rfl, h⟩)
      fun h => ⟨_, .inr rfl, h⟩⟩
  · cases h

/-- Where more options are read, at least one more is counted. -/
theorem lt_of_run_countOptions (h : (options.go countOption k m).run s = .ok (n, s')) : m < n := by
  induction k generalizing m s with
  | zero => cases h
  | succ k ih =>
    obtain ⟨path, s₁, m₁, s₂, -, hstep, ⟨rfl, -⟩ | hmore⟩ := of_run_optionsGo h
    · have := (of_run_countOption hstep).1
      omega
    · have := (of_run_countOption hstep).1
      have := ih hmore
      omega

/-- If at most one option of a service is given, there is no other text besides a comma. -/
theorem serviceOptions_cases (h : whole Marker.serviceOptions ts = .ok n) (hn : n ≤ 1) :
    ts = [] ∨ ∃ w, (w = "singleton" ∨ w = "transient") ∧ (ts = [.leaf (.word w)] ∨
      ∃ isJoint, ts = [.leaf (.word w), .leaf (.sign ',' isJoint)]) := by
  obtain ⟨s', hrun, -, -⟩ := whole_eq_ok.1 h
  cases ts with
  | nil => exact .inl rfl
  | cons t ts =>
    refine .inr ?_
    have hgo : (options.go countOption (ts.length + 1) 0).run { rest := t :: ts } = .ok (n, s') :=
      hrun
    obtain ⟨path, s₁, n₁, s₂, hpath, hstep, ⟨rfl, hend⟩ | hmore⟩ := of_run_optionsGo hgo
    · obtain ⟨-, rfl, w, hw, hword⟩ := of_run_countOption hstep
      have hts : t :: ts = .leaf (.word w) :: s₂.rest := of_run_optionPath hpath hword
      refine ⟨w, hw, ?_⟩
      rw [hts]
      exact hend.imp (fun hend => by rw [hend]) fun ⟨isJoint, hend⟩ => ⟨isJoint, by rw [hend]⟩
    · have := (of_run_countOption hstep).1
      have := lt_of_run_countOptions hmore
      omega

/-- With at most one option the mark of a service and discovery read the same. -/
theorem serviceOptions_eq_ok (h : whole Marker.serviceOptions ts = .ok n) (hn : n ≤ 1) :
    readTrees (fun _ => Discovery.serviceOptions) ts = .ok (!Look.word "transient" ts) := by
  rcases serviceOptions_cases h hn with rfl | ⟨w, rfl | rfl, rfl | ⟨isJoint, rfl⟩⟩ <;> rfl

end

/-! ## Annotations -/

/-- The marks for types by their names. -/
def typeMarks : List (String × Mark) :=
  [("route_prefix", routePrefix), ("middleware", middleware), ("service", service)]

/-- The arguments of a mark; without brackets there are none. -/
def givenArguments : Option (Delimiter × List Tree) → List Tree
  | none => []
  | some (_, content) => content

/-- A mark for types says with some arguments what an annotation says. -/
def StandsFor (name : String) (arguments : List Tree) : Annotation → Prop
  | .routePrefix path =>
    name = "route_prefix" ∧ ∃ spelling, arguments = [.leaf (.literal spelling (.text path))]
  | .middleware p => name = "middleware" ∧ readTrees priority arguments = .ok p.toInt
  | .service isSingleton => name = "service" ∧ isSingleton = !Look.word "transient" arguments
  | _ => False

section
variable {name : String} {mark : Mark} {arguments item out : List Tree}
  {arguments? : Option (Delimiter × List Tree)} {a : Attribute}

/-- A mark for types is accepted on a type with fields or with alternatives. -/
theorem of_typeItem_eq_ok (h : typeItem name item = .ok out) :
    (∃ attributes typeName isGeneric,
      readItem item = .ok (.struct attributes typeName isGeneric, out)) ∨
      readItem item = .ok (.enum, out) := by
  obtain ⟨⟨declared, trees⟩, hitem, h⟩ := Result.bind_eq_ok.1 h
  cases declared with
  | struct attributes typeName isGeneric =>
    cases h
    exact .inl ⟨attributes, typeName, isGeneric, hitem⟩
  | enum =>
    cases h
    exact .inr hitem
  | _ => cases h

/-- A mark with a prefix is accepted with one text. -/
theorem routePrefix_eq_ok (h : routePrefix arguments item = .ok out) :
    ∃ spelling path, arguments = [.leaf (.literal spelling (.text path))] ∧
      typeItem "route_prefix" item = .ok out := by
  obtain ⟨path, hpath, h⟩ := Result.bind_eq_ok.1 h
  obtain ⟨s', hrun, hrest, -⟩ := whole_eq_ok.1 hpath
  obtain ⟨⟨spelling, harguments⟩, -⟩ := run_text_eq_ok.1 hrun
  rw [hrest] at harguments
  refine ⟨spelling, path, harguments, ?_⟩
  simp only at h
  split at h
  · cases h
  · exact h

/-- The mark of a middleware is accepted with a priority of 32 bits. -/
theorem middleware_eq_ok (h : middleware arguments item = .ok out) :
    ∃ p : Int32, readTrees priority arguments = .ok p.toInt ∧
      typeItem "middleware" item = .ok out := by
  obtain ⟨_, hread, h⟩ := Result.bind_eq_ok.1 h
  obtain ⟨n, ⟨p, rfl⟩, hpriority⟩ := middlewareOptions_related.whole hread
  exact ⟨p, hpriority, h⟩

/-- The mark of a service is accepted with what discovery reads as its options. -/
theorem service_eq_ok (h : service arguments item = .ok out) :
    readTrees (fun _ => Discovery.serviceOptions) arguments =
        .ok (!Look.word "transient" arguments) ∧
      typeItem "service" item = .ok out := by
  obtain ⟨n, hread, h⟩ := Result.bind_eq_ok.1 h
  simp only at h
  split at h
  · cases h
  · next hn => exact ⟨serviceOptions_eq_ok hread (Nat.le_of_not_lt hn), h⟩

/-- An attribute without brackets is read as if there were nothing between them. -/
theorem ite_isBare_eq_ok {α : Type} {r : Grammar → Reader α} {d v : α}
    (hform : a.form = argumentForm arguments?) (hbare : readTrees r [] = .ok d)
    (h : readTrees r (givenArguments arguments?) = .ok v) :
    (if a.isBare then pure d else a.read r) = .ok v := by
  cases arguments? with
  | none =>
    rw [Attribute.isBare, hform]
    exact hbare.symm.trans h
  | some x =>
    rw [Attribute.isBare, Attribute.read, hform]
    exact h

/-- Discovery reads the text of a prefix. -/
theorem annotationOfType_routePrefix (hname : a.name = "route_prefix") : annotationOfType a =
    (fun path => some (.routePrefix path)) <$> a.read fun _ => text := by
  rw [annotationOfType, hname]
  rfl

/-- Discovery reads the options of a middleware, or takes zero without any. -/
theorem annotationOfType_middleware (hname : a.name = "middleware") : annotationOfType a =
    (fun p => some (.middleware p)) <$>
      if a.isBare then pure 0 else a.read Discovery.middlewareOptions := by
  rw [annotationOfType, hname]
  cases a.isBare <;> rfl

/-- Discovery reads the options of a service, or takes it for a singleton without any. -/
theorem annotationOfType_service (hname : a.name = "service") : annotationOfType a =
    (fun isSingleton => some (.service isSingleton)) <$>
      if a.isBare then pure true else a.read fun _ => Discovery.serviceOptions := by
  rw [annotationOfType, hname]
  cases a.isBare <;> rfl

/-- There are three marks for types. -/
theorem mem_typeMarks : (name, mark) ∈ typeMarks ↔
    name = "route_prefix" ∧ mark = routePrefix ∨ name = "middleware" ∧ mark = middleware ∨
      name = "service" ∧ mark = service := by
  simp [typeMarks]

/-- A mark for types gives back what it is put on if that is a type. -/
theorem typeItem_of_mark (hmark : (name, mark) ∈ typeMarks) (hok : mark arguments item = .ok out) :
    typeItem name item = .ok out := by
  rcases mem_typeMarks.1 hmark with ⟨rfl, rfl⟩ | ⟨rfl, rfl⟩ | ⟨rfl, rfl⟩
  · obtain ⟨_, _, -, hitem⟩ := routePrefix_eq_ok hok
    exact hitem
  · obtain ⟨_, -, hitem⟩ := middleware_eq_ok hok
    exact hitem
  · exact (service_eq_ok hok).2

/-- Arguments that a mark accepts are those of an annotation. -/
theorem exists_annotationOfType (hmark : (name, mark) ∈ typeMarks)
    (hok : mark (givenArguments arguments?) item = .ok out) (hname : a.name = name)
    (hform : a.form = argumentForm arguments?) :
    ∃ given, StandsFor name (givenArguments arguments?) given ∧
      annotationOfType a = .ok (some given) := by
  rcases mem_typeMarks.1 hmark with ⟨rfl, rfl⟩ | ⟨rfl, rfl⟩ | ⟨rfl, rfl⟩
  · obtain ⟨spelling, path, harguments, -⟩ := routePrefix_eq_ok hok
    refine ⟨.routePrefix path, ⟨rfl, spelling, harguments⟩, ?_⟩
    have hread : a.read (fun _ => text) = .ok path := by
      cases arguments? with
      | none => cases harguments
      | some x =>
        rw [Attribute.read, hform, argumentForm, show x.2 = _ from harguments]
        rfl
    rw [annotationOfType_routePrefix hname, hread]
    rfl
  · obtain ⟨p, hp, -⟩ := middleware_eq_ok hok
    obtain ⟨_, rfl, hread⟩ := priority_related.whole hp
    rw [Int32.ofInt_toInt] at hread
    refine ⟨.middleware p, ⟨rfl, hp⟩, ?_⟩
    rw [annotationOfType_middleware hname, ite_isBare_eq_ok hform rfl hread]
    rfl
  · refine ⟨.service _, ⟨rfl, rfl⟩, ?_⟩
    rw [annotationOfType_service hname, ite_isBare_eq_ok hform rfl (service_eq_ok hok).1]
    rfl

end

/-! ## Discovery -/

section
variable {a : Attribute} {as : List Attribute} {given : Annotation}
  {all : List Annotation} {flaw : Flaw} {file : Disk.Path} {text name : String}
  {isGeneric : Bool}

/-- The annotations of a type are read one by one. -/
theorem annotationsOfType_cons (ha : annotationOfType a = .ok (some given)) :
    annotationsOfType (a :: as) = (given :: ·) <$> annotationsOfType as := by
  rw [annotationsOfType, annotationsOfType, List.mapM_cons, ha, Result.ok_bind]
  cases as.mapM annotationOfType <;> rfl

/-- A type alone in a file is described with its annotations. -/
theorem indexText_of_struct (hfile : readFile text = .ok [.struct as name isGeneric])
    (has : annotationsOfType as = .ok all) :
    ∃ c, (indexText file text {}).map Index.descriptors = .ok [c] ∧ c.name = name ∧
      c.annotations = all := by
  let d : Declaration :=
    { name, file, declared := .struct isGeneric (derivesError as) all }
  refine ⟨(Index.declare {} d).describe d, ?_, rfl, rfl⟩
  rw [indexText, hfile, Result.ok_bind, Index.addItems, Index.addItem, has]
  rfl

/-- A type whose annotations are refused is refused with its file. -/
theorem indexText_of_struct_of_error (hfile : readFile text = .ok [.struct as name isGeneric])
    (has : annotationsOfType as = .error flaw) :
    indexText file text {} = .error (flawed file flaw) := by
  rw [indexText, hfile, Result.ok_bind, Index.addItems, Index.addItem, has]
  rfl

/-- A type with alternatives is not described. -/
theorem indexText_of_enum (hfile : readFile text = .ok [.enum]) :
    (indexText file text {}).map Index.descriptors = .ok [] := by
  rw [indexText, hfile]
  rfl

end

section
variable {name text : String} {mark : Mark} {item out : List Tree} {through : List String}
  {isJoint : Bool} {arguments? : Option (Delimiter × List Tree)}

/-- An item on which a mark is accepted is a type. One with fields is discovered in the file that
has the mark in front of it, and has the annotation that the mark stands for before those of its
other attributes; if one of these is refused, so is the file. One with alternatives is not
discovered. -/
theorem indexText_of_mark (hmark : (name, mark) ∈ typeMarks)
    (hok : mark (givenArguments arguments?) item = .ok out)
    (hthrough : ∀ w ∈ through, isName w = true)
    (htext : Lexer.fileTrees? text = some (.leaf (.sign '#' isJoint) ::
      .group .bracket (pathTrees through name ++ argumentTrees arguments?) :: item))
    (file : Disk.Path) :
    (∃ attributes typeName isGeneric given,
      readItem item = .ok (.struct attributes typeName isGeneric, out) ∧
      StandsFor name (givenArguments arguments?) given ∧
      (∀ others, annotationsOfType attributes = .ok others →
        ∃ c, (indexText file text {}).map Index.descriptors = .ok [c] ∧ c.name = typeName ∧
          c.annotations = given :: others) ∧
      ∀ flaw, annotationsOfType attributes = .error flaw →
        indexText file text {} = .error (flawed file flaw)) ∨
    readItem item = .ok (.enum, out) ∧
      (indexText file text {}).map Index.descriptors = .ok [] := by
  have hname : isName name = true := by
    rcases mem_typeMarks.1 hmark with ⟨rfl, -⟩ | ⟨rfl, -⟩ | ⟨rfl, -⟩ <;> decide
  rcases of_typeItem_eq_ok (typeItem_of_mark hmark hok) with
    ⟨attributes, typeName, isGeneric, hitem⟩ | hitem
  · obtain ⟨a, haname, hform, hfile⟩ := readFile_marked hitem hthrough hname htext
    obtain ⟨given, hstands, ha⟩ := exists_annotationOfType hmark hok haname hform
    refine .inl ⟨attributes, typeName, isGeneric, given, hitem, hstands,
      fun others has => ?_, fun flaw has => ?_⟩
    · exact indexText_of_struct hfile (by rw [annotationsOfType_cons ha, has]; rfl)
    · exact indexText_of_struct_of_error hfile (by rw [annotationsOfType_cons ha, has]; rfl)
  · obtain ⟨_, -, -, hfile⟩ := readFile_marked hitem hthrough hname htext
    exact .inr ⟨hitem, indexText_of_enum hfile⟩

/-- The arguments of a middleware mark with a priority. -/
def priorityArguments : List Tree :=
  [.leaf (.word "priority"), .leaf (.sign '=' false), .leaf (.literal "10" (.natural 10))]

/-- A type without fields. -/
def unitItem : List Tree :=
  [.leaf (.word "pub"), .leaf (.word "struct"), .leaf (.word "Auth"), .leaf (.sign ';' false)]

/-- The mark of a type without fields is accepted, and the type is described with its priority. -/
theorem indexText_of_mark_unitItem : middleware priorityArguments unitItem = .ok unitItem ∧
    ∃ c, (indexText "src/lib.rs" "#[middleware(priority = 10)]\npub struct Auth;" {}).map
      Index.descriptors = .ok [c] ∧ c.name = "Auth" ∧ c.annotations = [.middleware 10] := by
  have hmark : ("middleware", Marker.middleware) ∈ typeMarks := .tail _ (.head _)
  have hok : middleware (givenArguments (some (.parenthesis, priorityArguments))) unitItem =
      .ok unitItem := rfl
  have hthrough : ∀ w ∈ ([] : List String), isName w = true := nofun
  have hitem : readItem unitItem = .ok (.struct [] "Auth" false, unitItem) := rfl
  have hpriority : readTrees priority priorityArguments = .ok 10 := rfl
  have htext : Lexer.fileTrees? "#[middleware(priority = 10)]\npub struct Auth;" =
      some (.leaf (.sign '#' false) :: .group .bracket (pathTrees [] "middleware" ++
        argumentTrees (some (.parenthesis, priorityArguments))) :: unitItem) := rfl
  rcases indexText_of_mark hmark hok hthrough htext "src/lib.rs" with
    ⟨attributes, typeName, isGeneric, given, hitem', hstands, hfound, -⟩ | ⟨henum, -⟩
  · cases hitem.symm.trans hitem'
    cases given with
    | middleware p =>
      have hten : p.toInt = (10 : Int32).toInt := Except.ok.inj (hstands.2.symm.trans hpriority)
      rw [Int32.toInt_inj.1 hten] at hfound
      exact ⟨hok, hfound [] rfl⟩
    | routePrefix _ | service _ => exact absurd hstands.1 (by decide)
    | _ => exact hstands.elim
  · cases hitem.symm.trans henum

/-- A type with alternatives. -/
def choiceItem : List Tree :=
  [.leaf (.word "pub"), .leaf (.word "enum"), .leaf (.word "Auth"),
    .group .brace [.leaf (.word "Basic")]]

/-- A mark is accepted on a type with alternatives, and discovery finds no class in its file. -/
theorem exists_mark_not_discovered : ∃ (name text : String) (mark : Mark)
    (arguments item : List Tree), (name, mark) ∈ typeMarks ∧ mark arguments item = .ok item ∧
      Lexer.fileTrees? text = some (.leaf (.sign '#' false) ::
        .group .bracket [.leaf (.word name), .group .parenthesis arguments] :: item) ∧
      (indexText "src/lib.rs" text {}).map Index.descriptors = .ok [] := by
  have htext : Lexer.fileTrees? "#[middleware(priority = 10)]\npub enum Auth { Basic }" =
      some (.leaf (.sign '#' false) :: .group .bracket (pathTrees [] "middleware" ++
        argumentTrees (some (.parenthesis, priorityArguments))) :: choiceItem) := rfl
  have hitem : readItem choiceItem = .ok (.enum, choiceItem) := rfl
  have hthrough : ∀ w ∈ ([] : List String), isName w = true := nofun
  obtain ⟨_, -, -, hfile⟩ := readFile_marked hitem hthrough (by decide) htext
  exact ⟨_, _, middleware, priorityArguments, choiceItem, .tail _ (.head _), rfl, htext,
    indexText_of_enum hfile⟩

end

end Wiring.Marker
