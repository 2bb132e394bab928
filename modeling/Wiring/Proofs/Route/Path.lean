import Wiring.Proofs.Text.Fields
import Wiring.Route.Search

/-!
# Normalized paths

Normalizing a path keeps its segments (`segments_normalize`), so two paths have the same segments
exactly if they have the same normalized path (`normalize_eq_iff`). Joining puts the segments of two
paths one after the other (`segments_join`). The segments are all of a path but its slashes
(`flatMap_segments`): however many of these stand where, the path is normalized to the same text and
leads to the same route (`told_by_segments`).
-/

namespace Wiring

namespace Route

/-- What a segment of a path is: not empty, and without slashes. -/
theorem of_mem_segments {path s : String} (h : s ∈ segments path) : s ≠ "" ∧ '/' ∉ s.toList := by
  obtain ⟨hs, hne⟩ := List.mem_filter.1 h
  obtain ⟨piece, hpiece, rfl⟩ := List.mem_map.1 hs
  refine ⟨of_decide_eq_true hne, ?_⟩
  rw [String.toList_ofList]
  exact Text.not_mem_of_mem_pieces hpiece

/-- Segments with a slash in front of each are the segments of that path. -/
theorem segments_of_segments {ss : List String} (h : ∀ s ∈ ss, s ≠ "" ∧ '/' ∉ s.toList) :
    segments ("/" ++ "/".intercalate ss) = ss := by
  have htoList : ("/" ++ "/".intercalate ss).toList =
      [] ++ '/' :: Text.join '/' (ss.map String.toList) := by
    rw [String.toList_append, String.toList_intercalate, ← Text.intercalate_eq_join]
    rfl
  rw [segments, Text.fields, htoList, Text.pieces_append, Text.pieces, List.singleton_append]
  cases ss with
  | nil => decide
  | cons s rest =>
    have hpieces : Text.pieces '/' (Text.join '/' ((s :: rest).map String.toList)) =
        (s :: rest).map String.toList := by
      refine Text.pieces_join (by simp) fun p hp => ?_
      obtain ⟨s', hs', rfl⟩ := List.mem_map.1 hp
      exact (h s' hs').2
    have hofList : ((s :: rest).map String.toList).map String.ofList = s :: rest := by
      rw [List.map_map]
      exact List.map_id'' (fun s => String.ofList_toList) _
    rw [hpieces, List.map_cons, hofList, List.filter_cons_of_neg (by simp), List.filter_eq_self]
    exact fun s' hs' => decide_eq_true (h s' hs').1

/-- A path has the segments of its normalized path. -/
theorem segments_normalize (path : String) : segments (normalize path) = segments path :=
  segments_of_segments fun _ hs => of_mem_segments hs

/-- A path behind a prefix has the segments of the prefix and its own. -/
theorem segments_join (start path : String) :
    segments (join start path) = segments start ++ segments path := by
  have htoList : (start ++ "/" ++ path).toList = start.toList ++ '/' :: path.toList := by
    simp [String.toList_append]
  rw [join, segments_normalize, segments, Text.fields, htoList, Text.pieces_append, List.map_append,
    List.filter_append]
  rfl

/-- A path is normalized if it is what some path is normalized to. -/
def Normalized (path : String) : Prop :=
  normalize path = path

/-- A path is normalized by normalizing it. -/
theorem normalized_normalize (path : String) : Normalized (normalize path) := by
  rw [Normalized, normalize, segments_normalize, normalize]

/-- A normalized path is told apart from others by its segments. -/
theorem normalize_eq_iff {path path' : String} (h : Normalized path') :
    normalize path = path' ↔ segments path = segments path' := by
  constructor
  · rintro rfl
    rw [segments_normalize]
  · intro hs
    rw [normalize, hs]
    exact h

/-- The segments of a path are its characters, without the slashes. -/
theorem flatMap_segments (path : String) :
    (segments path).flatMap String.toList = path.toList.filter (· ≠ '/') := by
  have hempty (pieces : List (List Char)) :
      ((pieces.map String.ofList).filter (· ≠ "")).flatMap String.toList = pieces.flatten := by
    induction pieces with
    | nil => rfl
    | cons piece rest ih =>
      by_cases hpiece : String.ofList piece = ""
      · have hnil : piece = [] := by simpa using hpiece
        rw [List.map_cons, List.filter_cons_of_neg (by simp [hpiece]), ih, hnil, List.flatten_cons,
          List.nil_append]
      · rw [List.map_cons, List.filter_cons_of_pos (by simp [hpiece]), List.flatMap_cons, ih,
          String.toList_ofList, List.flatten_cons]
  rw [segments, Text.fields, hempty, Text.flatten_pieces]

/-- Two paths have one normalized form exactly if they have the same segments. -/
theorem normalize_eq_normalize_iff (p q : String) :
    normalize p = normalize q ↔ segments p = segments q := by
  rw [normalize_eq_iff (normalized_normalize q), segments_normalize]

/-- A template behind a prefix is that of the prefix and then its own. -/
theorem template_join (start path : String) :
    template (join start path) = template start ++ template path := by
  rw [template, segments_join, List.map_append, template, template]

/-- Routes without captures are looked up by the normalized path, and all others by the segments:
one gives the other. -/
theorem find?_normalize (m : RouteMatcher) (verb : Verb) (path : String) :
    m.find? verb (normalize path) = m.find? verb path := by
  rw [RouteMatcher.find?, normalized_normalize path, segments_normalize, RouteMatcher.find?]

/-- A path is told by its segments. They are what stands between its slashes, and paths that have
the same segments have one normalized form and lead to one route. -/
theorem told_by_segments :
    (∀ p, (∀ s ∈ segments p, s ≠ "" ∧ '/' ∉ s.toList) ∧
      (segments p).flatMap String.toList = p.toList.filter (· ≠ '/')) ∧
    (∀ p q, normalize p = normalize q ↔ segments p = segments q) ∧
    (∀ p, normalize (normalize p) = normalize p ∧ segments (normalize p) = segments p) ∧
    (∀ a b, segments (join a b) = segments a ++ segments b ∧
      template (join a b) = template a ++ template b) ∧
    ∀ (m : RouteMatcher) (verb : Verb) (p q : String), segments p = segments q →
      m.find? verb p = m.find? verb q := by
  refine ⟨fun p => ⟨fun _ hs => of_mem_segments hs, flatMap_segments p⟩, normalize_eq_normalize_iff,
    fun p => ⟨normalized_normalize p, segments_normalize p⟩,
    fun a b => ⟨segments_join a b, template_join a b⟩, fun m verb p q h => ?_⟩
  rw [← find?_normalize m verb p, (normalize_eq_normalize_iff p q).2 h, find?_normalize]

/-- Users that are numbered. -/
def userMatcher : RouteMatcher where
  plan := {
    tries := [(.get, (RouteNode.root.insert []
      { className := "app::Users", method := "show", path := "/users/{id}" }
      (template "/users/{id}")).1)] }
  patterns := []

/-- A user is found whether or not slashes are repeated or left out. -/
theorem told_by_segments_user : segments "users//7/" = segments "/users/7" ∧
    userMatcher.find? .get "users//7/" = userMatcher.find? .get "/users/7" ∧
    ((userMatcher.find? .get "users//7/").map (·.params)) = some [("id", "7")] := by
  obtain ⟨-, -, -, -, hfind⟩ := told_by_segments
  have hsegments : segments "users//7/" = segments "/users/7" := by decide
  exact ⟨hsegments, hfind userMatcher .get _ _ hsegments, by decide⟩

end Route

end Wiring
