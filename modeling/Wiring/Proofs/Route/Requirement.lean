import Wiring.Proofs.Pattern.Anchored
import Wiring.Proofs.Route.Compile

/-!
# Requirements of captures

The requirement of a capture is pasted between anchors, and it is the anchored text that has to be a
pattern. If the requirement is read to its end on its own, its capture takes exactly the segments
that it matches from start to end. A requirement with a bracket that closes no group of its own
closes the group of the anchors instead: it is no pattern on its own, but the anchored text may
still be one (`exists_requirement_closing_group`).
-/

namespace Wiring

/-- A requirement that matches a segment as a whole, if it is read to its end. -/
theorem Pattern.of_isSome_anchored {text : String}
    (h : (ofText? (Route.anchored text)).isSome = true) :
    (ofText? text = none ∧ ∃ q tail, read? text = some (q, ')' :: tail)) ∨
      ∃ q, read? text = some (q, []) ∧
        ofText? text = (if q.pattern.fits = true then some q.pattern else none) ∧
        ofText? (Route.anchored text) = some (between q.pattern) := by
  obtain ⟨p, hp⟩ := Option.isSome_iff_exists.1 h
  obtain ⟨q, rest, hread, ⟨rfl, hdepth, rfl⟩ | ⟨tail, rfl⟩⟩ := of_anchored hp
  · refine .inr ⟨q, hread, ?_, hp⟩
    simp only [ofText?_of_read? hread, hdepth, true_and]
  · exact .inl ⟨ofText?_eq_none_of_read? hread, q, tail, hread⟩

/-- A capture with a requirement takes the segments that the anchored requirement matches. -/
theorem Routes.Knows.takes_of_anchored {patterns : List (String × Pattern)} {rs : Routes}
    {p : Pattern}
    {text : String} {route : List RouteKey × RouteCall} (h : Knows patterns (captured rs))
    (hroute : route ∈ rs) (htext : HasPattern text route.1)
    (hp : Pattern.ofText? (Route.anchored text) = some (Pattern.between p)) (segment : String) :
    RouteMatcher.takes patterns (some text) segment = true ↔
      p.Spans segment.toList.toArray 0 segment.toList.toArray.size := by
  have hcaptured : route ∈ captured rs := by
    obtain ⟨name, hname⟩ := htext
    refine List.mem_filter.2 ⟨hroute, ?_⟩
    rw [Bool.not_eq_true', List.all_eq_false]
    exact ⟨_, hname, Bool.false_ne_true⟩
  obtain ⟨p', hlookup, hp'⟩ := h route hcaptured text htext
  cases hp.symm.trans hp'
  rw [RouteMatcher.takes, hlookup]
  exact Pattern.isMatch_between p segment

namespace RouteTable

section
variable {config : Config} {classes : List ClassDescriptor} {services : ContainerPlan}
  {plan : RouterPlan} {diagnostics : List Diagnostic}

/-- The requirements of compiled routes: one that is read to its end lets exactly the segments
through that it matches from the first to the last character, and one that is not is no pattern on
its own, for it has a bracket that closes the group of the anchors. -/
theorem compile_requirements (h : compile config classes services = .ok (plan, diagnostics)) :
    ∃ definitions m, RouteDefinition.all config classes = .ok definitions ∧
      RouteMatcher.ofPlan? plan = some m ∧
      ∀ r ∈ definitions, ∀ capture text, (capture, text) ∈ r.requirements →
        (Pattern.ofText? text = none ∧ ∃ q tail, Pattern.read? text = some (q, ')' :: tail)) ∨
        ∃ q, Pattern.read? text = some (q, []) ∧
          Pattern.ofText? text = (if q.pattern.fits = true then some q.pattern else none) ∧
          ∀ verb, ∀ route ∈ routes config classes services definitions verb,
            Routes.HasPattern text route.1 → ∀ segment : String,
              RouteMatcher.takes m.patterns (some text) segment = true ↔
                q.pattern.Spans segment.toList.toArray 0 segment.toList.toArray.size := by
  obtain ⟨definitions, hall, hentered, -⟩ := compile_entered h
  obtain ⟨patterns, hplan, hknows⟩ := hentered.matcher
  refine ⟨definitions, ⟨plan, patterns⟩, hall, hplan, fun r hr capture text hmem => ?_⟩
  have hsome := RouteDefinition.isSome_pattern_of_all hall hr hmem
  refine (Pattern.of_isSome_anchored hsome).imp_right ?_
  rintro ⟨q, hread, halone, hanchored⟩
  exact ⟨q, hread, halone, fun verb route hroute htext =>
    (hknows verb).takes_of_anchored hroute htext hanchored⟩

end

/-- Users are numbered by what is a number from its first character to its last: `17` is one and
`17b` is none. -/
theorem compile_requirements_users : ∃ plan diagnostics definitions m q,
    compile {} [users] {} = .ok (plan, diagnostics) ∧
      RouteDefinition.all {} [users] = .ok definitions ∧ RouteMatcher.ofPlan? plan = some m ∧
      Pattern.read? "[0-9]+" = some (q, []) ∧ Pattern.ofText? "[0-9]+" = some q.pattern ∧
      (∀ segment : String, RouteMatcher.takes m.patterns (some "[0-9]+") segment = true ↔
        q.pattern.Spans segment.toList.toArray 0 segment.toList.toArray.size) ∧
      RouteMatcher.takes m.patterns (some "[0-9]+") "17" = true ∧
      RouteMatcher.takes m.patterns (some "[0-9]+") "17b" = false := by
  have hcheck : ((compile {} [users] {}).toOption.any fun compiled =>
      (RouteMatcher.ofPlan? compiled.1).any fun m =>
        RouteMatcher.takes m.patterns (some "[0-9]+") "17" &&
        !RouteMatcher.takes m.patterns (some "[0-9]+") "17b") = true := by decide +kernel
  have hroute : ((RouteDefinition.all {} [users]).toOption.any fun definitions =>
      (definitions.any fun r => ("id", "[0-9]+") ∈ r.requirements) &&
        (routes {} [users] {} definitions .get).any fun route =>
          .capture "id" (some "[0-9]+") ∈ route.1) = true := by decide +kernel
  have halone : (Pattern.ofText? "[0-9]+").isSome = true := by decide +kernel
  obtain ⟨⟨plan, diagnostics⟩, hcompiled, hcheck⟩ := (Option.any_eq_true ..).1 hcheck
  obtain ⟨m, hm, htakes⟩ := (Option.any_eq_true ..).1 hcheck
  obtain ⟨definitions, hall, hroute⟩ := (Option.any_eq_true ..).1 hroute
  simp only [Bool.and_eq_true, Bool.not_eq_true', List.any_eq_true,
    decide_eq_true_eq] at htakes hroute
  obtain ⟨⟨r, hr, hrequirement⟩, route, hmem, hcapture⟩ := hroute
  have hcompiled := Result.toOption_eq_some.1 hcompiled
  obtain ⟨definitions', m', hall', hm', hrequirements⟩ := compile_requirements hcompiled
  obtain rfl : m' = m := Option.some.inj (hm'.symm.trans hm)
  obtain rfl : definitions' = definitions :=
    Except.ok.inj (hall'.symm.trans (Result.toOption_eq_some.1 hall))
  rcases hrequirements r hr "id" "[0-9]+" hrequirement with ⟨hnone, -⟩ | ⟨q, hread, hown, hspans⟩
  · rw [hnone] at halone
    cases halone
  · have hfits : q.pattern.fits = true := by
      by_contra hfits
      rw [hown, if_neg hfits] at halone
      cases halone
    rw [if_pos hfits] at hown
    exact ⟨plan, diagnostics, definitions', m', q, hcompiled, hall', hm, hread, hown,
      hspans .get route hmem ⟨"id", hcapture⟩, htakes.1, htakes.2⟩

/-- A page whose requirement closes the group that it is put into. -/
def pages : ClassDescriptor where
  name := "app::Pages"
  kind := .concrete
  methods := [
    { name := "show", isStatic := true
      annotations := [.route .get "/{id}" [("id", "a)|(?:b")] none] }]

/-- A requirement that is no pattern is accepted, and its capture takes what only begins with `a`.
-/
theorem exists_requirement_closing_group :
    ∃ plan diagnostics m, compile {} [pages] {} = .ok (plan, diagnostics) ∧
      RouteMatcher.ofPlan? plan = some m ∧ Pattern.ofText? "a)|(?:b" = none ∧
      RouteMatcher.takes m.patterns (some "a)|(?:b") "axx" = true := by
  have hmatcher : ((compile {} [pages] {}).toOption >>= fun compiled =>
      RouteMatcher.ofPlan? compiled.1).any
        (fun m => RouteMatcher.takes m.patterns (some "a)|(?:b") "axx") = true := by decide +kernel
  have hnone : Pattern.ofText? "a)|(?:b" = none := by decide +kernel
  obtain ⟨m, hm, htakes⟩ := (Option.any_eq_true ..).1 hmatcher
  obtain ⟨⟨plan, diagnostics⟩, hcompiled, hplan⟩ := Option.bind_eq_some_iff.1 hm
  cases h : compile {} [pages] {} with
  | error e =>
    rw [h] at hcompiled
    cases hcompiled
  | ok compiled =>
    rw [h] at hcompiled
    cases hcompiled
    exact ⟨plan, diagnostics, m, rfl, hplan, hnone, htakes⟩

end RouteTable

end Wiring
