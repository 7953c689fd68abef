import PageLayers.Proofs.Outcome

/-!
Outcomes together with their journals. Journals are put together in order and nothing in them is
lost, so that outcomes obey the laws of a monad, and what follows a result adds its journal to that
of what came before.
-/

namespace PageLayers
namespace Journal

@[simp] theorem empty_append (j : Journal) : ({} : Journal) ++ j = j := by
  change Journal.mk (0 + j.fetches) ([] ++ j.warnings) = j
  rw [Nat.zero_add, List.nil_append]

@[simp] theorem append_empty (j : Journal) : j ++ ({} : Journal) = j := by
  change Journal.mk (j.fetches + 0) (j.warnings ++ []) = j
  rw [Nat.add_zero, List.append_nil]

theorem append_assoc (i j k : Journal) : i ++ j ++ k = i ++ (j ++ k) := by
  change Journal.mk (i.fetches + j.fetches + k.fetches) (i.warnings ++ j.warnings ++ k.warnings) =
    Journal.mk (i.fetches + (j.fetches + k.fetches)) (i.warnings ++ (j.warnings ++ k.warnings))
  rw [Nat.add_assoc, List.append_assoc]

end Journal

namespace Outcome
variable {α β γ : Type}

theorem bind_of_ok {o : Outcome α} {a : α} (done : o.result = .ok a) (next : α → Outcome β) :
    o >>= next = ⟨(next a).result, o.journal ++ (next a).journal⟩ := by
  change andThen o next = _
  simp only [andThen, done]

theorem bind_of_error {o : Outcome α} {cause : Failure} (failed : o.result = .error cause)
    (next : α → Outcome β) : o >>= next = ⟨.error cause, o.journal⟩ := by
  change andThen o next = _
  simp only [andThen, failed]

theorem bind_congr_ok {o : Outcome α} {f g : α → Outcome β}
    (same : ∀ a, o.result = .ok a → f a = g a) : o >>= f = o >>= g := by
  cases done : o.result with
  | error cause => rw [bind_of_error done, bind_of_error done]
  | ok a => rw [bind_of_ok done, bind_of_ok done, same a done]

theorem pure_andThen (a : α) (next : α → Outcome β) : pure a >>= next = next a := by
  rw [bind_of_ok (result_pure a)]
  change Outcome.mk _ ({} ++ (next a).journal) = _
  rw [Journal.empty_append]

theorem andThen_pure (o : Outcome α) : (o >>= fun a => pure a) = o := by
  cases done : o.result with
  | error cause =>
    rw [bind_of_error done, ← done]
  | ok a =>
    rw [bind_of_ok done, result_pure, ← done]
    change Outcome.mk _ (o.journal ++ {}) = _
    rw [Journal.append_empty]

theorem andThen_assoc (o : Outcome α) (f : α → Outcome β) (g : β → Outcome γ) :
    o >>= f >>= g = o >>= fun a => f a >>= g := by
  cases done : o.result with
  | error cause =>
    rw [bind_of_error done, bind_of_error done, bind_of_error rfl]
  | ok a =>
    rw [bind_of_ok done, bind_of_ok done]
    cases next : (f a).result with
    | error cause => rw [bind_of_error rfl, bind_of_error next]
    | ok b => rw [bind_of_ok rfl, bind_of_ok next, Journal.append_assoc]

instance : LawfulMonad Outcome := LawfulMonad.mk' Outcome andThen_pure pure_andThen andThen_assoc

end Outcome
end PageLayers
