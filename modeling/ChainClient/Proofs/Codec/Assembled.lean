import Mathlib.Data.List.Flatten
import Mathlib.Data.List.Perm.Subperm
import ChainClient.Client.Facade
import ChainClient.Proofs.Codec.Lookup

/-!
# Every choice of modules can be assembled

Assembling a client registers the types of its modules one after the other and the types that all clients share at the end. No two of all the types there are share their name or are the same, so this succeeds for every list of different modules, in any order. The codec then finds what each of the modules registers.
-/

namespace ChainClient

namespace Registration

instance : DecidableRel Apart := fun r s => inferInstanceAs (Decidable (r.name ≠ s.name ∧ r.type ≠ s.type))

end Registration

namespace Codec

theorem registerAll_append_eq_none_iff {codec larger : Codec} {front back : List Registration} :
    codec.registerAll (front ++ back) = (larger, none) ↔
      ∃ middle, codec.registerAll front = (middle, none) ∧ middle.registerAll back = (larger, none) := by
  induction front generalizing codec with
  | nil => simp [registerAll]
  | cons r front ih =>
    rw [List.cons_append, registerAll, registerAll]
    cases codec.register r with
    | ok next => exact ih
    | error e => simp

end Codec

namespace Module

theorem mem_all (m : Module) : m ∈ all := by
  cases m <;> decide

/-- All registrations that a client may make. -/
theorem pairwise_apart : (all.flatMap registrations ++ Codec.basicRegistrations).Pairwise Registration.Apart := by
  decide +kernel

theorem pairwise_apart_of_nodup {modules : List Module} (h : modules.Nodup) :
    (modules.flatMap registrations ++ Codec.basicRegistrations).Pairwise Registration.Apart := by
  obtain ⟨sorted, hperm, hsublist⟩ := h.subperm (fun m _ => mem_all m)
  have hsorted : (sorted.flatMap registrations ++ Codec.basicRegistrations).Pairwise Registration.Apart :=
    pairwise_apart.sublist ((hsublist.flatMap _).append_right _)
  exact (Registration.pairwise_apart_of_perm ((hperm.flatMap_right _).append_right _)).1 hsorted

end Module

namespace Facade

/-- Modules are taken one by one if none comes twice, and their registrations as one sequence. -/
theorem collect_eq_ok_iff {seen modules : List Module} {codec larger : Codec} :
    collect seen codec modules = .ok larger ↔ (modules.Nodup ∧ ∀ m ∈ modules, m ∉ seen) ∧
      codec.registerAll (modules.flatMap Module.registrations) = (larger, none) := by
  induction modules generalizing seen codec with
  | nil => simp [collect, Codec.registerAll]
  | cons m modules ih =>
    rw [collect, guard_eq_ok, List.flatMap_cons, Codec.registerAll_append_eq_none_iff, List.nodup_cons,
      List.forall_mem_cons]
    rcases hregister : codec.registerAll m.registrations with ⟨next, _ | e⟩
    · have hseen : (∀ n ∈ modules, n ∉ m :: seen) ↔ m ∉ modules ∧ ∀ n ∈ modules, n ∉ seen := by
        simp only [List.mem_cons, not_or, forall₂_and]
        exact and_congr_left fun _ => ⟨fun h hm => h m hm rfl, fun h n hn hnm => h (hnm ▸ hn)⟩
      have hnext : (∃ middle, (next, (none : Option RegistrationError)) = (middle, none) ∧
          middle.registerAll (modules.flatMap Module.registrations) = (larger, none)) ↔
          next.registerAll (modules.flatMap Module.registrations) = (larger, none) := by
        simp
      rw [hnext, ih, hseen]
      tauto
    · simp

theorem assemble_eq_ok_iff {sealed : Option Codec} {modules : List Module} {facade : Facade} :
    assemble sealed modules = .ok facade ↔ modules.Nodup ∧ sealed = none ∧ facade.modules = modules ∧
      Codec.empty.registerAll (modules.flatMap Module.registrations ++ Codec.basicRegistrations) =
        (facade.codec, none) := by
  rw [Codec.registerAll_append_eq_none_iff, assemble, bind_eq_ok]
  constructor
  · rintro ⟨collected, hcollect, hrest⟩
    obtain ⟨⟨hnodup, -⟩, hmodules⟩ := collect_eq_ok_iff.1 hcollect
    rcases hbasic : collected.registerAll Codec.basicRegistrations with ⟨codec, _ | e⟩
    · rw [hbasic] at hrest
      obtain ⟨hsealed, hfacade⟩ := guard_eq_ok.1 hrest
      cases hfacade
      exact ⟨hnodup, Option.not_isSome_iff_eq_none.1 hsealed, rfl, collected, hmodules, hbasic⟩
    · rw [hbasic] at hrest
      cases hrest
  · obtain ⟨modules', codec⟩ := facade
    rintro ⟨hnodup, rfl, rfl, collected, hmodules, hbasic⟩
    refine ⟨collected, collect_eq_ok_iff.2 ⟨⟨hnodup, fun _ _ => List.not_mem_nil⟩, hmodules⟩, ?_⟩
    rw [hbasic]
    rfl

/-- The codec of an assembled client finds what its modules and all clients register. -/
theorem find?_of_assemble {sealed : Option Codec} {modules : List Module} {facade : Facade}
    (h : assemble sealed modules = .ok facade) {r : Registration}
    (hr : r ∈ modules.flatMap Module.registrations ++ Codec.basicRegistrations) : facade.codec.find? r.type = some r := by
  obtain ⟨-, -, -, htaken⟩ := assemble_eq_ok_iff.1 h
  exact (Codec.find?_of_registerAll htaken).2 ⟨hr, rfl⟩

theorem exists_assemble {modules : List Module} (h : modules.Nodup) :
    ∃ facade, assemble none modules = .ok facade ∧ facade.modules = modules := by
  have htaken := Codec.registerAll_empty_eq_none_iff.2 ⟨Module.pairwise_apart_of_nodup h, rfl⟩
  exact ⟨⟨modules, _⟩, assemble_eq_ok_iff.2 ⟨h, rfl, rfl, htaken⟩, rfl⟩

end Facade

end ChainClient
