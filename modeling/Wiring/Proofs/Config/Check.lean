import Wiring.Config.Check
import Wiring.Proofs.Result

/-!
# What a checked configuration satisfies

The declared services of a configuration that passes its check have identifiers of their own
(`Config.nodup_ids_of_check`).
-/

namespace Wiring.Config

/-- Checking a configuration checks its services. -/
theorem checkServices_of_check {c : Config} (h : c.check = .ok ()) :
    checkServices [] c.services = .ok () := by
  obtain ⟨_, -, h⟩ := Result.bind_eq_ok.1 h
  simp only at h
  split at h
  · cases h
  · obtain ⟨_, hservices, -⟩ := Result.bind_eq_ok.1 h
    exact hservices

/-- A service that passes the check has an identifier of its own. -/
theorem not_mem_of_checkService {seen : List String} {s : ServiceDeclaration}
    (h : checkService seen s = .ok ()) : s.id ∉ seen := by
  intro hmem
  simp only [checkService, if_pos hmem] at h
  split at h <;> cases h

/-- No service is declared under an identifier seen before, and no two under the same one. -/
theorem nodup_of_checkServices {seen : List String} {services : List ServiceDeclaration}
    (h : checkServices seen services = .ok ()) :
    (services.map (·.id)).Nodup ∧ ∀ s ∈ services, s.id ∉ seen := by
  induction services generalizing seen with
  | nil => exact ⟨.nil, nofun⟩
  | cons s rest ih =>
    obtain ⟨_, hs, hrest⟩ := Result.bind_eq_ok.1 h
    obtain ⟨hnodup, hnew⟩ := ih hrest
    refine ⟨List.nodup_cons.2 ⟨fun hmem => ?_, hnodup⟩, fun s' hs' => ?_⟩
    · obtain ⟨s', hs', hid⟩ := List.mem_map.1 hmem
      exact hnew s' hs' (hid ▸ .head _)
    · rcases List.mem_cons.1 hs' with rfl | hs'
      · exact not_mem_of_checkService hs
      · exact fun hseen => hnew s' hs' (.tail _ hseen)

/-- No two services are declared under one identifier. -/
theorem nodup_ids_of_check {c : Config} (h : c.check = .ok ()) : (c.services.map (·.id)).Nodup :=
  (nodup_of_checkServices (checkServices_of_check h)).1

end Wiring.Config
