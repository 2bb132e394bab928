import Wiring.Marker.Route
import Wiring.Proofs.Source.Reader

/-!
# Routes that the mark accepts are discovered

The mark of a route and the discovery of annotations read the same arguments in step. They differ
in one place: the mark reads requirements with or without commas between them
(`Marker.Route.requirements`), discovery wants the commas. So arguments that the mark reads are
discovered with the same method, path, requirements and name if every group has its commas, and are
refused otherwise (`Marker.Route.read_routeArguments`).
-/

namespace Wiring

open Source Source.Reader

namespace Source

/-- A text that a word follows at once, with no comma between them. -/
def Touching (ts : List Tree) : Prop :=
  ∃ spelling s w, [.leaf (.literal spelling (.text s)), .leaf (.word w)] <:+: ts

/-- A group lacks a comma. -/
def LacksComma (ts : List Tree) : Prop :=
  ∃ d content, Tree.group d content ∈ ts ∧ Touching content

/-- Where nothing stands nothing touches. -/
theorem not_touching_nil : ¬ Touching [] := by
  rintro ⟨spelling, s, w, h⟩
  cases List.infix_nil.1 h

/-- Behind a word the rest decides whether something touches. -/
theorem touching_word_cons {w : String} {ts : List Tree} :
    Touching (.leaf (.word w) :: ts) ↔ Touching ts := by
  simp [Touching, List.infix_cons_iff]

/-- Behind a sign the rest decides whether something touches. -/
theorem touching_sign_cons {c : Char} {isJoint : Bool} {ts : List Tree} :
    Touching (.leaf (.sign c isJoint) :: ts) ↔ Touching ts := by
  simp [Touching, List.infix_cons_iff]

/-- A text is touched by a word that follows at once, or the rest decides. -/
theorem touching_text_cons {spelling s : String} {ts : List Tree} :
    Touching (.leaf (.literal spelling (.text s)) :: ts) ↔
      (∃ w rest, ts = .leaf (.word w) :: rest) ∨ Touching ts := by
  constructor
  · rintro ⟨spelling', s', w, h⟩
    rcases List.infix_cons_iff.1 h with hstart | h
    · obtain ⟨-, rest, hrest⟩ := List.cons_prefix_cons.1 hstart
      exact .inl ⟨w, rest, hrest.symm⟩
    · exact .inr ⟨spelling', s', w, h⟩
  · rintro (⟨w, rest, rfl⟩ | ⟨spelling', s', w, h⟩)
    · exact ⟨spelling, s, w, List.infix_iff_prefix_suffix.2 ⟨_, ⟨rest, rfl⟩, List.suffix_rfl⟩⟩
    · exact ⟨spelling', s', w, h.trans (List.suffix_cons _ _).isInfix⟩

/-- Where nothing stands no comma is missing. -/
theorem not_lacksComma_nil : ¬ LacksComma [] := by
  rintro ⟨d, content, hmem, -⟩
  cases hmem

/-- Behind a token the rest decides whether a comma is missing. -/
theorem lacksComma_leaf_cons {t : Token} {ts : List Tree} :
    LacksComma (.leaf t :: ts) ↔ LacksComma ts := by
  simp [LacksComma]

/-- A comma is missing in a group, or behind it. -/
theorem lacksComma_group_cons {d : Delimiter} {content ts : List Tree} :
    LacksComma (.group d content :: ts) ↔ Touching content ∨ LacksComma ts := by
  constructor
  · rintro ⟨d', content', hmem, h⟩
    rcases List.mem_cons.1 hmem with heq | hmem
    · cases heq
      exact .inl h
    · exact .inr ⟨d', content', hmem, h⟩
  · rintro (h | ⟨d', content', hmem, h⟩)
    · exact ⟨d, content, .head _, h⟩
    · exact ⟨d', content', .tail _ hmem, h⟩

end Source

namespace Discovery

section
variable {s s' : Reading} {x : String × String}

/-- A requirement is read from a word, an equals sign and a text. -/
theorem rest_of_run_routeRequirement (h : routeRequirement.run s = .ok (x, s')) :
    ∃ isJoint spelling, s.rest = .leaf (.word x.1) :: .leaf (.sign '=' isJoint) ::
      .leaf (.literal spelling (.text x.2)) :: s'.rest := by
  obtain ⟨param, s₁, hname, h⟩ := run_bind_eq_ok.1 h
  obtain ⟨_, s₂, hsign, h⟩ := run_bind_eq_ok.1 h
  obtain ⟨t, s₃, htext, h⟩ := run_bind_eq_ok.1 h
  cases h
  obtain ⟨hrest₁, -⟩ := run_name_eq_ok.1 hname
  obtain ⟨⟨isJoint, hrest₂⟩, -⟩ := (run_sign_eq_ok (c := '=') rfl).1 hsign
  obtain ⟨⟨spelling, hrest₃⟩, -⟩ := run_text_eq_ok.1 htext
  exact ⟨isJoint, spelling, by rw [hrest₁, hrest₂, hrest₃]⟩

/-- The method of a route is no group. -/
theorem lacksComma_of_run_routeMethod {m : String} (h : routeMethod.run s = .ok (m, s')) :
    LacksComma s'.rest ↔ LacksComma s.rest := by
  rw [routeMethod, run_bind_of_ok (run_sees .text s)] at h
  split at h
  · obtain ⟨⟨spelling, hrest⟩, -⟩ := run_text_eq_ok.1 h
    rw [hrest, lacksComma_leaf_cons]
  · obtain ⟨hrest, -⟩ := run_name_eq_ok.1 h
    rw [hrest, lacksComma_leaf_cons]

end

end Discovery

namespace Marker.Route

open Discovery

/-- A reader comes to a result unless a comma is missing: then it refuses. -/
structure ReadsUnless {α : Type} (lacks : Prop) (run : Except Flaw (α × Reading))
    (result : α × Reading) : Prop where
  same : ¬ lacks → run = .ok result
  refused : lacks → run = .error .malformed

namespace ReadsUnless

section
variable {α β : Type} {lacks lacks' : Prop} {r : Reader α} {f : α → Reader β} {s s' : Reading}
  {a : α} {result : β × Reading}

/-- Where no comma is missing a result is all there is. -/
theorem of_not (h : ¬ lacks) : ReadsUnless lacks (.ok result) result :=
  ⟨fun _ => rfl, fun hlacks => absurd hlacks h⟩

/-- What was read before a reader does not matter to what it refuses. -/
theorem bind (h : r.run s = .ok (a, s')) (hf : ReadsUnless lacks ((f a).run s') result) :
    ReadsUnless lacks ((r >>= f).run s) result := by
  rwa [run_bind_of_ok h]

/-- One reader after the other refuses where either does. -/
theorem bind_or (h : ReadsUnless lacks (r.run s) (a, s'))
    (hf : ReadsUnless lacks' ((f a).run s') result) :
    ReadsUnless (lacks ∨ lacks') ((r >>= f).run s) result := by
  constructor
  · intro hno
    rw [not_or] at hno
    rw [run_bind_of_ok (h.same hno.1)]
    exact hf.same hno.2
  · intro hor
    by_cases hlacks : lacks
    · exact run_bind_of_error (h.refused hlacks)
    · rw [run_bind_of_ok (h.same hlacks)]
      exact hf.refused (hor.resolve_left hlacks)

/-- A group is read unless a comma is missing in it or in what follows. -/
theorem group {d : Delimiter} {content rest : List Tree} {inner : Reading}
    (h : ReadsUnless lacks (r.run { rest := content }) (a, inner))
    (hrest : s.rest = .group d content :: rest) :
    ReadsUnless lacks ((Reader.group d r).run s) (a, s.leave d rest inner) :=
  ⟨fun hno => run_group_of_ok hrest (h.same hno),
    fun hlacks => run_group_of_error hrest (h.refused hlacks)⟩

end

end ReadsUnless

section
variable {s s' : Reading} {n : Nat}

/-- One requirement with the comma after it, if there is one. -/
abbrev requirement : Reader (String × String) := do
  let r ← routeRequirement
  let _ ← acceptSign ","
  return r

/-- Where something is left, a requirement is read, and then the others past the comma if there is
one. -/
theorem of_run_requirements {rs : List (String × String)} (hrest : s.rest ≠ [])
    (h : (manyWhile.go (.no .nothing) requirement (n + 1)).run s = .ok (rs, s')) :
    ∃ r s₁ rs₁, routeRequirement.run s = .ok (r, s₁) ∧ rs = r :: rs₁ ∧
      (manyWhile.go (.no .nothing) requirement n).run
        (if Look.sign "," s₁.rest then s₁.past 1 else s₁) = .ok (rs₁, s') := by
  have hmore : Look.no .nothing s.rest = true := by simpa [Look.no, Look.nothing] using hrest
  rw [manyWhile.go, run_bind_of_ok (run_sees _ s), if_pos hmore] at h
  obtain ⟨r, s₂, hrequirement, h⟩ := run_bind_eq_ok.1 h
  obtain ⟨rs₁, s₃, hgo, h⟩ := run_bind_eq_ok.1 h
  cases h
  obtain ⟨r', s₁, hr, hcomma⟩ := run_bind_eq_ok.1 hrequirement
  rw [run_bind_of_ok (run_acceptSign (c := ',') rfl s₁)] at hcomma
  cases hcomma
  exact ⟨r, s₁, rs₁, hr, rfl, hgo⟩

/-- Requirements that are read with or without commas are the same with commas between them, and are
refused if a comma is missing. -/
theorem run_requirements {rs : List (String × String)} (hn : s.rest.length ≤ n)
    (h : (manyWhile.go (.no .nothing) requirement n).run s = .ok (rs, s')) :
    ReadsUnless (Touching s.rest) ((separatedUntil.go .nothing "," routeRequirement n).run s)
      (rs, s') := by
  induction n generalizing s rs with
  | zero =>
    have hrest : s.rest = [] := List.length_eq_zero_iff.1 (Nat.le_zero.1 hn)
    rw [separatedUntil.go, run_bind_of_ok (run_sees _ s), hrest]
    cases h
    exact .of_not not_touching_nil
  | succ n ih =>
    rw [separatedUntil.go, run_bind_of_ok (run_sees _ s)]
    by_cases hrest : s.rest = []
    · rw [run_manyWhile_of_not _ (by rw [hrest]; rfl)] at h
      rw [hrest]
      cases h
      exact .of_not not_touching_nil
    obtain ⟨r, s₁, rs₁, hr, rfl, hgo⟩ := of_run_requirements hrest h
    obtain ⟨isJoint, spelling, hs⟩ := rest_of_run_routeRequirement hr
    have hlength : s₁.rest.length + 3 ≤ n + 1 := by rwa [hs] at hn
    rw [if_neg (by simpa [Look.nothing] using hrest), run_bind_of_ok hr,
      run_bind_of_ok (run_sees _ s₁), hs, touching_word_cons, touching_sign_cons,
      touching_text_cons]
    by_cases hend : s₁.rest = []
    · rw [hend, if_neg (by decide), run_manyWhile_of_not _ (by rw [hend]; rfl)] at hgo
      cases hgo
      rw [hend]
      refine .of_not ?_
      rintro (⟨w, rest, hrest⟩ | htouching)
      · cases hrest
      · exact not_touching_nil htouching
    rw [if_neg (by simpa [Look.nothing] using hend)]
    by_cases hcomma : Look.sign "," s₁.rest = true
    · -- past the comma both go on in step
      obtain ⟨isJoint, rest, hrest⟩ := (Look.sign_iff (c := ',') rfl).1 hcomma
      have hpast : (s₁.past 1).rest = rest := Reading.rest_past_one hrest
      have hn' : (s₁.past 1).rest.length ≤ n := by
        rw [hrest, List.length_cons] at hlength
        rw [hpast]
        omega
      rw [if_pos hcomma] at hgo
      have hreads := ih hn' hgo
      have hsign : (sign ",").run s₁ = .ok ((), s₁.past 1) := by
        rw [run_sign (c := ',') rfl, if_pos hcomma]
      have hword : ¬ ∃ w rest', s₁.rest = .leaf (.word w) :: rest' := by
        rintro ⟨w, rest', heq⟩
        rw [hrest] at heq
        cases heq
      rw [hpast] at hreads
      rw [or_iff_right hword, hrest, touching_sign_cons]
      exact .bind hsign ⟨fun hno => run_bind_of_ok (hreads.same hno),
        fun htouching => run_bind_of_error (hreads.refused htouching)⟩
    · -- without a comma the next requirement starts with a word right after the text
      rw [if_neg hcomma] at hgo
      obtain ⟨m, rfl⟩ : ∃ m, n = m + 1 := Nat.exists_eq_succ_of_ne_zero (by omega)
      obtain ⟨r', s₂, rs₂, hr', -, -⟩ := of_run_requirements hend hgo
      obtain ⟨isJoint', spelling', hs₁⟩ := rest_of_run_routeRequirement hr'
      have hsign : (sign ",").run s₁ = .error .malformed := by
        rw [run_sign (c := ',') rfl, if_neg hcomma]
      rw [run_bind_of_error hsign]
      exact ⟨fun hno => absurd (.inl ⟨_, _, hs₁⟩) hno, fun _ => rfl⟩

/-- The content of a group of requirements is discovered as it is, or refused. -/
theorem run_content {content : List Tree} {rs : List (String × String)} {inner : Reading}
    (h : requirements.run { rest := content } = .ok (rs, inner)) :
    ReadsUnless (Touching content) ((commaSeparated routeRequirement).run { rest := content })
      (rs, inner) :=
  run_requirements (Nat.le_refl content.length) h

/-- The options of a route as discovery reads them. -/
def Arguments.toOptions (a : Arguments) : RouteOptions where
  requirements := a.requirements
  name? := a.name?

/-- Where nothing is left, both end. -/
theorem readsUnless_of_nil {a a' : Arguments} (hrest : s.rest = [])
    (h : (pure a : Reader Arguments).run s = .ok (a', s')) :
    a'.method = a.method ∧ a'.path = a.path ∧ ReadsUnless (LacksComma s.rest)
      ((pure a.toOptions : Reader RouteOptions).run s) (a'.toOptions, s') := by
  cases h
  exact ⟨rfl, rfl, .of_not (hrest ▸ not_lacksComma_nil)⟩

/-- Options that the mark reads are discovered as they are, and are refused if a group lacks a
comma. Both read them in step. -/
theorem run_options {a a' : Arguments} (h : (options n a).run s = .ok (a', s')) :
    a'.method = a.method ∧ a'.path = a.path ∧ ReadsUnless (LacksComma s.rest)
      ((routeOptions n a.toOptions).run s) (a'.toOptions, s') := by
  induction n generalizing s a with
  | zero =>
    rw [options, run_bind_of_ok (run_sees _ s)] at h
    rw [routeOptions, run_bind_of_ok (run_sees _ s)]
    split at h
    · next hend =>
      rw [if_pos hend]
      exact readsUnless_of_nil (Look.nothing_iff.1 hend) h
    · cases h
  | succ n ih =>
    rw [options, run_bind_of_ok (run_sees _ s)] at h
    rw [routeOptions, run_bind_of_ok (run_sees _ s)]
    split at h
    · next hend =>
      rw [if_pos hend]
      exact readsUnless_of_nil (Look.nothing_iff.1 hend) h
    next hmore =>
    obtain ⟨_, s₁, hsign, h⟩ := run_bind_eq_ok.1 h
    obtain ⟨⟨isJoint, hs⟩, -⟩ := (run_sign_eq_ok (c := ',') rfl).1 hsign
    rw [if_neg hmore, run_bind_of_ok hsign, run_bind_of_ok (run_sees _ s₁), hs,
      lacksComma_leaf_cons]
    rw [run_bind_of_ok (run_sees _ s₁)] at h
    split at h
    · next hend =>
      rw [if_pos hend]
      exact readsUnless_of_nil (Look.nothing_iff.1 hend) h
    next hmore =>
    obtain ⟨key, s₂, hname, h⟩ := run_bind_eq_ok.1 h
    obtain ⟨hs₁, -⟩ := run_name_eq_ok.1 hname
    rw [if_neg hmore, run_bind_of_ok hname, hs₁, lacksComma_leaf_cons]
    split at h
    · obtain ⟨more, s₃, hgroup, h⟩ := run_bind_eq_ok.1 h
      obtain ⟨content, rest, inner, hs₂, hinner, rfl⟩ := of_run_group_eq_ok hgroup
      obtain ⟨hmethod, hpath, hreads⟩ := ih h
      rw [hs₂, lacksComma_group_cons]
      exact ⟨hmethod, hpath, ((run_content hinner).group hs₂).bind_or hreads⟩
    · obtain ⟨_, s₃, hequals, h⟩ := run_bind_eq_ok.1 h
      obtain ⟨text, s₄, htext, h⟩ := run_bind_eq_ok.1 h
      obtain ⟨⟨isJoint', hs₂⟩, -⟩ := (run_sign_eq_ok (c := '=') rfl).1 hequals
      obtain ⟨⟨spelling, hs₃⟩, -⟩ := run_text_eq_ok.1 htext
      obtain ⟨hmethod, hpath, hreads⟩ := ih h
      rw [hs₂, lacksComma_leaf_cons, hs₃, lacksComma_leaf_cons]
      exact ⟨hmethod, hpath, .bind hequals (.bind htext hreads)⟩
    · cases h

/-- The verb of a method that the mark reads is discovered. -/
theorem run_method {m : String} (h : method.run s = .ok (m, s')) :
    ∃ written verb, routeMethod.run s = .ok (written, s') ∧ Verb.ofName? written = some verb ∧
      verb.name = m := by
  obtain ⟨written, s₁, hwritten, h⟩ := run_bind_eq_ok.1 h
  simp only at h
  split at h
  · next hany =>
    cases h
    obtain ⟨verb, hverb⟩ : ∃ verb, Verb.ofName? written = some verb :=
      Option.isSome_iff_exists.1 (by simpa [Verb.ofName?, Verb.ofToken?] using hany)
    exact ⟨written, verb, hwritten, hverb, (Verb.eq_name_of_ofToken? hverb).symm⟩
  · cases h

/-- Arguments that the mark reads are discovered as they are, and are refused if a group lacks a
comma. -/
theorem run_arguments {a : Arguments} (h : arguments.run s = .ok (a, s')) :
    ∃ verb, verb.name = a.method ∧ ReadsUnless (LacksComma s.rest) (routeArguments.run s)
      (.route verb a.path a.requirements a.name?, s') := by
  obtain ⟨m, s₁, hm, h⟩ := run_bind_eq_ok.1 h
  obtain ⟨_, s₂, hsign, h⟩ := run_bind_eq_ok.1 h
  obtain ⟨path, s₃, hpath, h⟩ := run_bind_eq_ok.1 h
  obtain ⟨written, verb, hwritten, hverb, rfl⟩ := run_method hm
  obtain ⟨hmethod, hsamePath, hreads⟩ := run_options h
  have hstart : ({ method := verb.name, path } : Arguments).toOptions = {} := rfl
  rw [hstart] at hreads
  obtain ⟨⟨isJoint, hs₁⟩, -⟩ := (run_sign_eq_ok (c := ',') rfl).1 hsign
  obtain ⟨⟨spelling, hs₂⟩, -⟩ := run_text_eq_ok.1 hpath
  have hs : LacksComma s.rest ↔ LacksComma s₃.rest := by
    rw [← lacksComma_of_run_routeMethod hwritten, hs₁, lacksComma_leaf_cons, hs₂,
      lacksComma_leaf_cons]
  refine ⟨verb, hmethod.symm, ?_⟩
  rw [routeArguments, run_bind_of_ok hwritten, hverb, hs]
  refine .bind hsign (.bind hpath ?_)
  rw [run_bind_of_ok (run_remaining s₃)]
  constructor
  · intro hno
    rw [run_bind_of_ok (hreads.same hno), hsamePath]
    rfl
  · intro hlacks
    rw [run_bind_of_error (hreads.refused hlacks)]

/-- Arguments that the mark of a route reads are discovered with the same method, path, requirements
and name, unless a group lacks a comma: those are refused. The mark reads its arguments before it
checks anything, so this holds of whatever it accepts. -/
theorem read_routeArguments {route : Attribute} {trees : List Tree} {a : Arguments}
    (hform : route.form = .list trees) (h : whole arguments trees = .ok a) :
    ∃ verb, verb.name = a.method ∧
      (¬ LacksComma trees → route.read (fun _ => routeArguments) =
        .ok (.route verb a.path a.requirements a.name?)) ∧
      (LacksComma trees → route.read (fun _ => routeArguments) = .error .malformed) := by
  obtain ⟨s', hrun, hrest, hsurplus⟩ := whole_eq_ok.1 h
  obtain ⟨verb, hverb, hsame, hrefused⟩ := run_arguments hrun
  have hread : route.read (fun _ => routeArguments) = whole routeArguments trees := by
    rw [Attribute.read, hform]
    rfl
  refine ⟨verb, hverb, ?_⟩
  rw [hread]
  exact ⟨fun hno => whole_eq_ok.2 ⟨s', hsame hno, hrest, hsurplus⟩,
    fun hlacks => whole_of_error (hrefused hlacks)⟩

/-- The arguments `get, "/{a}/{b}", requirements(a = "x", b = "y")`, or what stands between the two
requirements instead of the comma. -/
def pairArguments (between : List Tree) : List Tree :=
  [.leaf (.word "get"), signTree ',',
    .leaf (.literal "\"/{a}/{b}\"" (.text "/{a}/{b}")), signTree ',',
    .leaf (.word "requirements"),
    .group .parenthesis <|
      [.leaf (.word "a"), signTree '=', .leaf (.literal "\"x\"" (.text "x"))] ++ between ++
      [.leaf (.word "b"), signTree '=', .leaf (.literal "\"y\"" (.text "y"))]]

/-- The attribute with these arguments. -/
def pairAttribute (between : List Tree) : Attribute where
  path := { root := .plain, names := ["route"] }
  form := .list (pairArguments between)
  trees := [.leaf (.word "route"), .group .parenthesis (pairArguments between)]

/-- Two requirements with a comma between them are read as the mark reads them. -/
theorem read_routeArguments_pair : ∃ verb : Verb, verb.name = "GET" ∧
    (pairAttribute [signTree ',']).read (fun _ => routeArguments) =
      .ok (.route verb "/{a}/{b}" [("a", "x"), ("b", "y")] none) := by
  have harguments : whole arguments (pairArguments [signTree ',']) =
      .ok ⟨"GET", "/{a}/{b}", [("a", "x"), ("b", "y")], none⟩ :=
    Result.toOption_eq_some.1 (by decide +kernel)
  have hform : (pairAttribute [signTree ',']).form = .list (pairArguments [signTree ',']) := rfl
  obtain ⟨verb, hverb, hsame, -⟩ := read_routeArguments hform harguments
  refine ⟨verb, hverb, hsame ?_⟩
  simp [pairArguments, signTree, lacksComma_leaf_cons, lacksComma_group_cons, not_lacksComma_nil,
    touching_word_cons, touching_sign_cons, touching_text_cons, not_touching_nil]

/-- The mark of a route accepts requirements with no comma between them, and discovery refuses
them. -/
theorem exists_read_routeArguments_eq_error : ∃ (route : Attribute) (trees item : List Tree),
    route.form = .list trees ∧ (mark trees item).toOption.isSome ∧
      route.read (fun _ => routeArguments) = .error .malformed := by
  have harguments : whole arguments (pairArguments []) =
      .ok ⟨"GET", "/{a}/{b}", [("a", "x"), ("b", "y")], none⟩ :=
    Result.toOption_eq_some.1 (by decide +kernel)
  have hlacks : LacksComma (pairArguments []) := by
    simp [pairArguments, signTree, lacksComma_leaf_cons, lacksComma_group_cons,
      touching_word_cons, touching_sign_cons, touching_text_cons]
  obtain ⟨s', hrun, -, -⟩ := whole_eq_ok.1 harguments
  obtain ⟨-, -, -, hrefused⟩ := run_arguments hrun
  exact ⟨pairAttribute [], pairArguments [],
    [.leaf (.word "fn"), .leaf (.word "show"), .group .parenthesis [], .group .brace []], rfl,
    by decide +kernel, whole_of_error (hrefused hlacks)⟩

end

end Marker.Route

end Wiring
