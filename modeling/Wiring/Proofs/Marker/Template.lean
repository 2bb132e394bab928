import Wiring.Marker.Route
import Wiring.Proofs.Route.Reject

/-!
# Templates that the mark of a route accepts

The mark of a route looks for captures in a path with rules of its own: it refuses names that are
empty or have braces, and braces anywhere else. The template of a route is read without any of this,
and behind a prefix. On what the mark accepts both agree (`Marker.Route.of_captures_eq_ok`), so a
route without a prefix keeps its captures, each with a name of its own, and its requirements belong
to them: only a requirement that is no pattern can still be rejected
(`Marker.Route.template_of_mark`).
-/

namespace Wiring.Marker.Route

open Source Source.Reader
open Wiring.Route (Segment)

section
variable {names names' : List String} {path segment : String} {a : Arguments}

/-- A segment has no brace if neither of them is in it. -/
theorem hasBrace_eq_false : hasBrace segment = false ↔
    '{' ∉ segment.toList ∧ '}' ∉ segment.toList := by
  simp [hasBrace, not_or, forall_and, ← List.forall_mem_ne']

/-- What is enclosed stands between a brace at the start and one at the end. -/
theorem enclosed?_eq_some_iff {name : String} :
    enclosed? segment = some name ↔ segment.toList = '{' :: (name.toList ++ ['}']) := by
  rw [enclosed?]
  constructor
  · intro h
    split at h
    · next rest hsegment =>
      split at h
      · next inner hrest =>
        cases h
        rw [hsegment, ← List.reverse_reverse rest, hrest]
        simp
      · cases h
    · cases h
  · intro h
    simp [h]

/-- A name is captured between two braces, and is not empty. -/
theorem captured?_eq_some_iff {name : String} : Segment.captured? segment = some name ↔
    segment.toList = '{' :: (name.toList ++ ['}']) ∧ name ≠ "" := by
  rw [Segment.captured?]
  constructor
  · intro h
    split at h
    · next rest hsegment =>
      split at h
      · next inner hrest =>
        split at h
        · cases h
        · next hinner =>
          cases h
          rw [hsegment, ← List.reverse_reverse rest, hrest]
          simpa using hinner
      · cases h
    · cases h
  · rintro ⟨h, hname⟩
    simp [h, hname]

/-- Where nothing stands between the braces of a segment, the template has a literal. -/
theorem captured?_eq_filter (segment : String) :
    Segment.captured? segment = (enclosed? segment).filter (!·.isEmpty) := by
  ext name
  rw [captured?_eq_some_iff, Option.filter_eq_some_iff, enclosed?_eq_some_iff]
  simp

/-- A segment that the mark accepts is a capture with a new name, or a literal without braces. -/
theorem of_addCapture_eq_ok (h : addCapture names segment = .ok names') :
    (∃ name, Segment.ofText segment = .capture name ∧ name ∉ names ∧ names' = names ++ [name]) ∨
      Segment.ofText segment = .literal segment ∧ hasBrace segment = false ∧ names' = names := by
  rw [addCapture] at h
  rw [Segment.ofText, captured?_eq_filter]
  split at h
  · next name hname =>
    split at h
    · cases h
    · next hok =>
      cases h
      simp only [Bool.or_eq_true, not_or, Bool.not_eq_true, List.contains_eq_mem,
        decide_eq_false_iff_not] at hok
      obtain ⟨⟨hempty, -⟩, hnew⟩ := hok
      rw [hname, Option.filter_some, hempty]
      exact .inl ⟨name, rfl, hnew, rfl⟩
  · next hnone =>
    split at h
    · cases h
    · next hbrace =>
      cases h
      exact .inr ⟨by rw [hnone]; rfl, Bool.eq_false_iff.2 hbrace, rfl⟩

/-- The names that the mark finds in some segments are what their template captures. Each is new,
and no literal has a brace. -/
theorem of_foldlM_addCapture_eq_ok {segments : List String}
    (h : segments.foldlM addCapture [] = .ok names) :
    (segments.map Segment.ofText).filterMap Segment.name? = names ∧ names.Nodup ∧
      ∀ s, Segment.literal s ∈ segments.map Segment.ofText → hasBrace s = false := by
  refine Result.foldlM_induction (fun done names =>
    (done.map Segment.ofText).filterMap Segment.name? = names ∧ names.Nodup ∧
      ∀ s, Segment.literal s ∈ done.map Segment.ofText → hasBrace s = false)
    ⟨rfl, .nil, nofun⟩ ?_ h
  rintro done names names' segment - ⟨hnames, hnodup, hliterals⟩ hadd
  rcases of_addCapture_eq_ok hadd with ⟨name, hsegment, hnew, rfl⟩ | ⟨hsegment, hbrace, rfl⟩
  · refine ⟨by simp [hnames, hsegment, Segment.name?], ?_, fun s hs => ?_⟩
    · refine List.nodup_append.2 ⟨hnodup, List.pairwise_singleton _ name, ?_⟩
      rintro x hx _ hy rfl
      exact hnew (List.mem_singleton.1 hy ▸ hx)
    · rw [List.map_append, List.map_singleton, hsegment] at hs
      exact hliterals s (by simpa using hs)
  · refine ⟨by simp [hnames, hsegment, Segment.name?], hnodup, fun s hs => ?_⟩
    rw [List.map_append, List.map_singleton, hsegment] at hs
    rcases List.mem_append.1 hs with hs | hs
    · exact hliterals s hs
    · cases List.mem_singleton.1 hs
      exact hbrace

/-- A path that the mark accepts starts with a slash, and has the same captures as a template. -/
theorem of_captures_eq_ok (h : captures path = .ok names) :
    path.toList.head? = some '/' ∧ Wiring.Route.captures path = names ∧ names.Nodup ∧
      ∀ s, Segment.literal s ∈ Wiring.Route.template path → hasBrace s = false := by
  rw [captures] at h
  split at h
  · cases h
  · next hslash =>
    refine ⟨?_, of_foldlM_addCapture_eq_ok h⟩
    simpa [startsWithSlash] using hslash

/-- Arguments that the mark accepts have a path whose captures are found, and requirements for
these. -/
theorem of_check_eq_ok (h : check a = .ok ()) :
    ∃ names, captures a.path = .ok names ∧ ∀ x ∈ a.requirements, x.1 ∈ names := by
  obtain ⟨names, hnames, h⟩ := Result.bind_eq_ok.1 h
  refine ⟨names, hnames, ?_⟩
  obtain ⟨_, hloop, -⟩ := Result.bind_eq_ok.1 h
  intro x hx
  have hstep := Result.of_forIn_eq_ok (fun y step hy => ?_) hloop x hx
  · simp only at hstep
    split at hstep
    · cases hstep
    · next hcontains => simpa using hcontains
  · simp only at hy
    split at hy
    · cases hy
    · exact (Except.ok.inj hy).symm

/-- Without a prefix, a path that starts with a slash is defined as it is, but for the slashes
between its segments. -/
theorem ofAnnotation_of_noPrefix {c : ClassDescriptor} {verb : Verb} {path : String}
    {requirements : List (String × String)} {name? : Option String} (m : Method)
    (hpath : path.toList.head? = some '/') (hc : c.routePrefix? = none) :
    ∃ r : RouteDefinition,
      RouteDefinition.ofAnnotation c m (.route verb path requirements name?) = .ok (some r) ∧
        Wiring.Route.template r.path = Wiring.Route.template path ∧
          r.requirements ⊆ requirements := by
  refine ⟨⟨verb, Wiring.Route.join "" path, RouteDefinition.sortRequirements requirements, name?,
    c.name, m.name⟩, ?_, ?_, RouteDefinition.sortRequirements_subset requirements⟩
  · rw [RouteDefinition.ofAnnotation, RouteDefinition.checkedPath, if_pos hpath, hc]
    rfl
  · rw [Wiring.Route.template, Wiring.Route.segments_join]
    rfl

/-- The template of a path that the mark of a route accepts captures the names that the mark found,
in their order, and has no brace in a literal. In a class without a prefix the route keeps this
template and can be rejected only for a requirement that is no pattern: what is reported about
captures or requirements of some template is about another route. -/
theorem template_of_mark {trees item out : List Tree} (h : mark trees item = .ok out) :
    ∃ a names, whole arguments trees = .ok a ∧ captures a.path = .ok names ∧
      Wiring.Route.captures a.path = names ∧ names.Nodup ∧
      (∀ s, Segment.literal s ∈ Wiring.Route.template a.path →
        '{' ∉ s.toList ∧ '}' ∉ s.toList) ∧
      ∀ (c : ClassDescriptor) (m : Method) (verb : Verb), c.routePrefix? = none →
        ∃ r, RouteDefinition.ofAnnotation c m (.route verb a.path a.requirements a.name?) =
            .ok (some r) ∧
          Wiring.Route.template r.path = Wiring.Route.template a.path ∧
          (RouteDefinition.check r = .ok () ∨ ∃ capture pattern,
            (capture, pattern) ∈ a.requirements ∧
              Pattern.ofText? (Wiring.Route.anchored pattern) = none ∧
                RouteDefinition.check r = .error (.invalidRequirement r.path capture)) ∧
          ∀ config classes services subject fault, fault.OfTemplate →
            RouteTable.compile config classes services = .error (.declaration subject fault) →
              ∃ r', r' ≠ r ∧ RouteDefinition.Given config classes r' ∧
                RouteDefinition.check r' = .error (.declaration subject fault) := by
  obtain ⟨a, ha, h⟩ := Result.bind_eq_ok.1 h
  obtain ⟨_, hcheck, -⟩ := Result.bind_eq_ok.1 h
  obtain ⟨names, hnames, hrequirements⟩ := of_check_eq_ok hcheck
  obtain ⟨hslash, hcaptures, hnodup, hliterals⟩ := of_captures_eq_ok hnames
  refine ⟨a, names, ha, hnames, hcaptures, hnodup,
    fun s hs => hasBrace_eq_false.1 (hliterals s hs), fun c m verb hc => ?_⟩
  obtain ⟨r, hr, htemplate, hsubset⟩ := ofAnnotation_of_noPrefix m hslash hc
  have hsame : Wiring.Route.captures r.path = names := by
    rw [Wiring.Route.captures, htemplate]
    exact hcaptures
  have hfits := RouteDefinition.check_of_fitting (hsame ▸ hnodup)
    fun x hx => hsame ▸ hrequirements x (hsubset hx)
  refine ⟨r, hr, htemplate, ?_, fun config classes services subject fault hfault hcompile => ?_⟩
  · refine hfits.imp_right ?_
    rintro ⟨capture, pattern, hmem, hpattern, hrejected⟩
    exact ⟨capture, pattern, hsubset hmem, hpattern, hrejected⟩
  · obtain ⟨r', hgiven, hrejected⟩ := RouteTable.exists_check_eq_error hfault hcompile
    refine ⟨r', ?_, hgiven, hrejected⟩
    rintro rfl
    rcases hfits with hok | ⟨_, _, -, -, hpattern⟩
    · rw [hok] at hrejected
      cases hrejected
    · rw [hpattern] at hrejected
      cases hrejected

/-- The arguments `get, "//users//{id}", requirements(id = "[0-9]+")`. -/
def userArguments : List Tree :=
  [.leaf (.word "get"), signTree ',',
    .leaf (.literal "\"//users//{id}\"" (.text "//users//{id}")), signTree ',',
    .leaf (.word "requirements"),
    .group .parenthesis
      [.leaf (.word "id"), signTree '=', .leaf (.literal "\"[0-9]+\"" (.text "[0-9]+"))]]

/-- The mark for a user's page is accepted, and its template has what the path says. -/
theorem template_of_mark_user : ∃ out r,
    mark userArguments
      [.leaf (.word "fn"), .leaf (.word "show"), .group .parenthesis [], .group .brace []] =
        .ok out ∧
    RouteDefinition.ofAnnotation { name := "Users", kind := .concrete } { name := "show" }
      (.route .get "//users//{id}" [("id", "[0-9]+")] none) = .ok (some r) ∧
    Wiring.Route.captures r.path = ["id"] ∧ RouteDefinition.check r = .ok () := by
  have harguments : whole arguments userArguments =
      .ok ⟨"GET", "//users//{id}", [("id", "[0-9]+")], none⟩ :=
    Result.toOption_eq_some.1 (by decide +kernel)
  obtain ⟨out, hmark⟩ := Option.isSome_iff_exists.1 (show (mark userArguments [.leaf (.word "fn"),
    .leaf (.word "show"), .group .parenthesis [], .group .brace []]).toOption.isSome by
      decide +kernel)
  have hmark := Result.toOption_eq_some.1 hmark
  obtain ⟨a, names, ha, -, hcaptures, -, -, hroute⟩ := template_of_mark hmark
  cases harguments.symm.trans ha
  obtain ⟨r, hr, htemplate, hfits, -⟩ :=
    hroute { name := "Users", kind := .concrete } { name := "show" } .get rfl
  refine ⟨out, r, hmark, hr, ?_, ?_⟩
  · rw [Wiring.Route.captures, htemplate]
    decide +kernel
  · refine hfits.resolve_right ?_
    rintro ⟨capture, pattern, hmem, hpattern, -⟩
    cases List.mem_singleton.1 hmem
    exact absurd hpattern (by decide +kernel)

end

end Wiring.Marker.Route
